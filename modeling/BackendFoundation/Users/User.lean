/-
The User entity and its domain transitions, the Email value object, and the errors
of the use cases. The e-mail rules depend on toLowerCase, of which nothing is assumed.
-/

namespace BackendFoundation.Users

/-- The characters of \s and of trim: ECMAScript's WhiteSpace and LineTerminator. -/
def isSpace (character : Char) : Bool :=
  let code := character.toNat
  (9 ≤ code && code ≤ 13) || code == 32 || code == 0xA0 || code == 0x1680 ||
    (0x2000 ≤ code && code ≤ 0x200A) || code == 0x2028 || code == 0x2029 ||
    code == 0x202F || code == 0x205F || code == 0x3000 || code == 0xFEFF

def trim (value : String) : String :=
  String.ofList ((value.toList.dropWhile isSpace).reverse.dropWhile isSpace).reverse

/-- /^[^@\s]+@[^@\s]+\.[^@\s]+$/ -/
def isEmail (value : String) : Bool :=
  value.toList.all (fun character => !isSpace character) &&
    match value.toList.splitOn '@' with
    | [name, domain] => !name.isEmpty && (domain.drop 1).dropLast.contains '.'
    | _ => false

structure Email where
  value : String
  wellFormed : isEmail value = true
deriving DecidableEq

inductive ErrorKind
  | validation
  | notFound
  | conflict
  | authentication
  | invalidAuthRequest
deriving DecidableEq, Repr

/-- The details that the use cases give are texts. -/
structure AppError where
  kind : ErrorKind
  code : String
  message : String
  details : List (String × String) := []
deriving DecidableEq, Repr

def invalidEmail (value : String) : AppError :=
  { kind := .validation
    code := "INVALID_EMAIL"
    message := "Invalid email"
    details := [("value", value)] }

def Email.create (toLowerCase : String → String) (value : String) : Except AppError Email :=
  let normalized := toLowerCase (trim value)
  if wellFormed : isEmail normalized = true then
    .ok
      { value := normalized
        wellFormed := wellFormed }
  else .error (invalidEmail value)

/-- A null passwordHash marks an account without a local password. -/
structure User where
  id : String
  email : Email
  passwordHash : Option String
  googleSub : Option String
  roles : List String
  authVersion : Nat
deriving DecidableEq

namespace User

/-- The id is a random UUID. -/
def create (id : String) (email : Email) (passwordHash : String) (roles : List String) : User :=
  { id := id
    email := email
    passwordHash := some passwordHash
    googleSub := none
    roles := roles
    authVersion := 0 }

def createFromGoogle (id : String) (email : Email) (googleSub : String) (roles : List String) :
    User :=
  { id := id
    email := email
    passwordHash := none
    googleSub := some googleSub
    roles := roles
    authVersion := 0 }

def changePassword (user : User) (passwordHash : String) : User :=
  { user with
    passwordHash := some passwordHash
    authVersion := user.authVersion + 1 }

def linkGoogleSubject (user : User) (googleSub : String) : User :=
  { user with googleSub := some googleSub }

end User

end BackendFoundation.Users
