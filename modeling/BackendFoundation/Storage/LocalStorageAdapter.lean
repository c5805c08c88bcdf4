/-
The local storage: every key is a path below the configured root.

A disk answers each call by what was called before, in any way. A call it refuses is the
last one of its operation.
-/

import BackendFoundation.Posix.Path
import BackendFoundation.Users.User

namespace BackendFoundation.Storage

open Posix

/-- The connection data of the s3 driver is not read here. -/
inductive StorageModuleOptions
  | localStorage (localPath : String)
  | s3

/-- The root is what resolve has returned. -/
structure LocalStorageAdapter where
  storageRoot : String
  rooted : ∃ root : AbsolutePath, root.text = storageRoot

def replaceAll (value : String) (pattern replacement : Char) : String :=
  value.map fun character => if character = pattern then replacement else character

abbrev Bytes := List UInt8

/-- A readable stream has no bytes at hand. -/
inductive Body
  | buffer (bytes : Bytes)
  | stream

structure PutObjectInput where
  key : String
  body : Body

structure PutObjectResult where
  key : String
  url : Option String

/-- mkdir is recursive, rm is forced. -/
inductive FileCall
  | mkdir (path : String)
  | writeFile (path : String) (body : Bytes)
  | readFile (path : String)
  | rm (path : String)
deriving DecidableEq

def FileCall.path : FileCall → String
  | mkdir path => path
  | writeFile path _ => path
  | readFile path => path
  | rm path => path

abbrev Disk := List FileCall → FileCall → Except String Bytes

/-- How an operation ends, and the calls it has made by then. -/
structure Outcome (Result : Type) where
  result : Except String Result
  calls : List FileCall

namespace Outcome

variable {Result : Type}

def throws (message : String) : Outcome Result :=
  { result := .error message
    calls := [] }

def returns (result : Result) (calls : List FileCall) : Outcome Result :=
  { result := .ok result
    calls := calls }

/-- await call, and then the rest. -/
def await (disk : Disk) (earlier : List FileCall) (call : FileCall)
    (rest : List FileCall → Bytes → Outcome Result) : Outcome Result :=
  let calls := earlier ++ [call]
  match disk earlier call with
  | .error message =>
      { result := .error message
        calls := calls }
  | .ok reply => rest calls reply

end Outcome

namespace LocalStorageAdapter

def create (cwd : WorkingDirectory) (options : StorageModuleOptions) :
    Except String LocalStorageAdapter :=
  match options with
  | .s3 => .error "LocalStorageAdapter requires local storage options"
  | .localStorage localPath =>
      .ok
        { storageRoot := resolve cwd [localPath]
          rooted := ⟨_, rfl⟩ }

def path (adapter : LocalStorageAdapter) (cwd : WorkingDirectory) (key : String) :
    Except String String :=
  if key = "" ∨ Users.trim key = "" then .error "Invalid storage key"
  else if '\x00' ∈ key.toList then .error "Invalid storage key"
  else if isAbsolute key then .error "Invalid storage key"
  else
    let normalizedKey := replaceAll key '\\' '/'
    let candidate := resolve cwd [adapter.storageRoot, normalizedKey]
    let rel := relative cwd adapter.storageRoot candidate
    if rel = "" ∨ rel = ".." ∨ rel.startsWith "../" = true ∨ isAbsolute rel = true then
      .error "Storage key escapes configured root"
    else .ok candidate

variable (adapter : LocalStorageAdapter) (cwd : WorkingDirectory) (disk : Disk)

def putObject (input : PutObjectInput) : Outcome PutObjectResult :=
  match input.body with
  | .stream => Outcome.throws "LocalStorageAdapter supports Buffer in this starter"
  | .buffer body =>
      match adapter.path cwd input.key with
      | .error message => Outcome.throws message
      | .ok filePath =>
          Outcome.await disk [] (.mkdir (dirname filePath)) fun made _ =>
            Outcome.await disk made (.writeFile filePath body) fun written _ =>
              Outcome.returns
                { key := input.key
                  url := none }
                written

def getObject (key : String) : Outcome Bytes :=
  match adapter.path cwd key with
  | .error message => Outcome.throws message
  | .ok filePath =>
      Outcome.await disk [] (.readFile filePath) fun calls content => Outcome.returns content calls

def deleteObject (key : String) : Outcome Unit :=
  match adapter.path cwd key with
  | .error message => Outcome.throws message
  | .ok filePath =>
      Outcome.await disk [] (.rm filePath) fun calls _ => Outcome.returns () calls

/-- There is nothing to sign and nothing expires: the key itself is returned. -/
def getSignedUrl (key : String) : Outcome String :=
  match adapter.path cwd key with
  | .error message => Outcome.throws message
  | .ok _ => Outcome.returns key []

end LocalStorageAdapter

end BackendFoundation.Storage
