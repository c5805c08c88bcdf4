/-
ForgotPasswordUseCase, over whatever its collaborators answer.

The use case and the save of the token store are written for any monad that the
collaborators' replies live in.
-/

import BackendFoundation.PasswordReset.TokenStore
import BackendFoundation.Users.Normalization
import BackendFoundation.Users.Repository

namespace BackendFoundation.PasswordReset

open Redis
open Users (AppError Email Normalizes User UserRow UserTable isEmail toDomain trim)

/-- The keys password-reset:token: and password-reset:user:. -/
inductive Key
  | token (tokenHash : String)
  | user (userId : String)
deriving DecidableEq, Repr

/-- The commands of RedisService that a save issues. -/
structure Commands (Effect : Type → Type) where
  get : Key → Effect (Option String)
  del : Key → Effect Unit
  set : Key → (value : String) → (ttlSeconds : Nat) → Effect Unit

structure PasswordResetData where
  email : String
  token : String
  resetUrl : Option String
  expiresInMinutes : Nat
deriving DecidableEq, Repr

/-- TemplatedEmailJob<'password-reset'>, addressed to the recipient. -/
structure PasswordResetEmailJob where
  recipient : String
  subject : String
  idempotencyKey : String
  template : String
  data : PasswordResetData
deriving DecidableEq, Repr

/-- What a promise rejects with. -/
inductive Rejection
  | app (error : AppError)
  | failure (message : String)
deriving DecidableEq, Repr

def Rejection.message : Rejection → String
  | app error => error.message
  | failure message => message

structure Collaborators (Effect : Type → Type) where
  findByEmail : (email : String) → Effect (Option User)
  tokenStore : Commands Effect
  add : (queueName jobName : String) → PasswordResetEmailJob → (jobId : String) →
    Effect String
  info : (message userId : String) → Effect Unit
  warn : (message userId error : String) → Effect Unit

structure ForgotPasswordOptions where
  tokenTtlSeconds : Nat
  resetUrlBase : String
deriving DecidableEq, Repr

structure Success where
  success : Bool
deriving DecidableEq, Repr

structure ForgotPassword where
  options : ForgotPasswordOptions
  sha256 : String → String
  toLowerCase : String → String
  normalizes : Normalizes toLowerCase

section Execution

variable {Effect : Type → Type} [Monad Effect]

def deletePrevious (commands : Commands Effect) (previousTokenHash : Option String) :
    Effect Unit :=
  match truthy previousTokenHash with
  | some previousTokenHash => commands.del (.token previousTokenHash)
  | none => pure ()

/-- RedisPasswordResetTokenStore.save -/
def save (commands : Commands Effect) (input : SaveInput) : Effect Unit := do
  let previousTokenHash ← commands.get (.user input.userId)
  deletePrevious commands previousTokenHash
  commands.set (.token input.tokenHash) input.userId input.ttlSeconds
  commands.set (.user input.userId) input.tokenHash input.ttlSeconds

namespace ForgotPassword

variable (forgot : ForgotPassword)

def saveInput (userId rawToken : String) : SaveInput :=
  { userId := userId
    tokenHash := forgot.sha256 rawToken
    ttlSeconds := forgot.options.tokenTtlSeconds }

def resetUrl (rawToken : String) : Option String :=
  if forgot.options.resetUrlBase = "" then none
  else some (forgot.options.resetUrlBase ++ "?token=" ++ rawToken)

/-- The minutes are rounded half up. -/
def emailJob (normalizedEmail userId rawToken : String) : PasswordResetEmailJob :=
  { recipient := normalizedEmail
    subject := "Password reset"
    idempotencyKey := "password-reset:" ++ userId ++ ":" ++ forgot.sha256 rawToken
    template := "password-reset"
    data :=
      { email := normalizedEmail
        token := rawToken
        resetUrl := forgot.resetUrl rawToken
        expiresInMinutes := (forgot.options.tokenTtlSeconds + 30) / 60 } }

variable [MonadExceptOf Rejection Effect]

/-- A failure of the queue is logged and goes no further. -/
def enqueue (collaborators : Collaborators Effect) (normalizedEmail userId rawToken : String) :
    Effect Unit :=
  try
    let _ ← collaborators.add "email" "send-password-reset-email"
      (forgot.emailJob normalizedEmail userId rawToken)
      ("password-reset-email:" ++ forgot.sha256 rawToken)
    collaborators.info "Password reset email enqueued" userId
  catch error =>
    collaborators.warn "Failed to enqueue password reset email" userId error.message

/-- The raw token is the one that randomBytes draws, should the user exist. -/
def execute (collaborators : Collaborators Effect) (rawToken email : String) :
    Effect Success :=
  match Email.create forgot.toLowerCase email with
  | .error error => throw (.app error)
  | .ok normalizedEmail => do
      let user ← collaborators.findByEmail normalizedEmail.value
      match user with
      | none => pure { success := true }
      | some user =>
          save collaborators.tokenStore (forgot.saveInput user.id rawToken)
          forgot.enqueue collaborators normalizedEmail.value user.id rawToken
          pure { success := true }

end ForgotPassword

end Execution

end BackendFoundation.PasswordReset
