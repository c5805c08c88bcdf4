/-
GlobalExceptionFilter: the response to what a request has thrown. Of anything but an AppError
or an HttpException the client learns nothing.
-/

import BackendFoundation.Sessions.SessionStore
import BackendFoundation.Users.User

namespace BackendFoundation.Exceptions

open Sessions (Json)

/-- The subclasses of AppError. -/
inductive AppErrorClass
  | business
  | validation
  | notFound
  | conflict
  | authentication
  | invalidAuthRequest
  | serviceUnavailable
deriving DecidableEq, Repr

structure ThrownAppError where
  errorClass : AppErrorClass
  code : String
  message : String
  details : List (String × Json)

/-- What getResponse of an HttpException returns. -/
inductive HttpBody
  | text (response : String)
  | object (fields : List (String × Json))

inductive Exception (Thrown : Type)
  | app (error : ThrownAppError)
  | http (status : Nat) (message : String) (response : HttpBody)
  | other (thrown : Thrown)

inductive Message
  | text (message : String)
  | texts (messages : List String)
deriving DecidableEq, Repr

structure ErrorPayload where
  code : String
  message : Message
  details : List (String × Json)

structure Response where
  status : Nat
  success : Bool
  error : ErrorPayload

def AppErrorClass.status : AppErrorClass → Nat
  | authentication => 401
  | invalidAuthRequest => 400
  | validation => 400
  | notFound => 404
  | conflict => 409
  | business => 422
  | serviceUnavailable => 503

variable {Thrown : Type}

def status : Exception Thrown → Nat
  | .app error => error.errorClass.status
  | .http status _ _ => status
  | .other _ => 500

def stringOf : Json → Option String
  | .string value => some value
  | _ => none

def underscored (text : String) : String :=
  text.map fun character => if character = ' ' then '_' else character

/-- The message of a body, or that of the exception. -/
def bodyMessage (fallback : String) (fields : List (String × Json)) : Message :=
  match fields.lookup "message" with
  | some (.array items) => .texts (items.filterMap stringOf)
  | some (.string message) => .text message
  | _ => .text fallback

def bodyCode (toUpperCase : String → String) (fields : List (String × Json)) : String :=
  match fields.lookup "error" with
  | some (.string error) => underscored (toUpperCase error)
  | _ => "HTTP_ERROR"

/-- A field that is undefined is left out of the JSON. -/
def bodyDetails (fields : List (String × Json)) : List (String × Json) :=
  fields.filter fun field => !(["message", "error", "statusCode"].contains field.1)

def error (toUpperCase : String → String) : Exception Thrown → ErrorPayload
  | .app error =>
      { code := error.code
        message := .text error.message
        details := error.details }
  | .http _ _ (.text response) =>
      { code := "HTTP_ERROR"
        message := .text response
        details := [] }
  | .http _ message (.object fields) =>
      { code := bodyCode toUpperCase fields
        message := bodyMessage message fields
        details := bodyDetails fields }
  | .other _ =>
      { code := "INTERNAL_SERVER_ERROR"
        message := .text "Internal server error"
        details := [] }

/-- GlobalExceptionFilter.catch -/
def respond (toUpperCase : String → String) (exception : Exception Thrown) : Response :=
  { status := status exception
    success := false
    error := error toUpperCase exception }

def errorClass : Users.ErrorKind → AppErrorClass
  | .validation => .validation
  | .notFound => .notFound
  | .conflict => .conflict
  | .authentication => .authentication
  | .invalidAuthRequest => .invalidAuthRequest

/-- An error of a use case. -/
def ofAppError (error : Users.AppError) : Exception Thrown :=
  .app
    { errorClass := errorClass error.kind
      code := error.code
      message := error.message
      details := error.details.map fun detail => (detail.1, Json.string detail.2) }

end BackendFoundation.Exceptions
