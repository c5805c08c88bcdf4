/-
What a release archive may hold: the names that are refused or required, and the texts that
look like secrets.
-/

import Mathlib.Data.List.Infix
import BackendFoundation.Storage.LocalStorageAdapter

namespace BackendFoundation.Release

open Posix

section Strings

variable (text part : String)

def includes : Bool :=
  text.toList.tails.any fun rest => part.toList.isPrefixOf rest

def startsWith : Bool :=
  part.toList.isPrefixOf text.toList

def endsWith : Bool :=
  part.toList.isSuffixOf text.toList

theorem includes_iff : includes text part = true ↔ part.toList <:+: text.toList := by
  unfold includes
  rw [List.any_eq_true, List.infix_iff_prefix_suffix]
  constructor
  · intro found
    obtain ⟨rest, member, front⟩ := found
    exact ⟨rest, List.isPrefixOf_iff_prefix.mp front, (List.mem_tails rest _).mp member⟩
  · intro found
    obtain ⟨rest, front, back⟩ := found
    exact ⟨rest, (List.mem_tails rest _).mpr back, List.isPrefixOf_iff_prefix.mpr front⟩

/-- /…$/i on ASCII: letters are compared in lower case. -/
def endsWithIgnoringCase : Bool :=
  part.toList.isSuffixOf (text.toList.map Char.toLower)

/-- Two units for a character outside the BMP. -/
def utf16Length : Nat :=
  text.toList.length + text.toList.countP fun character => 0x10000 ≤ character.toNat

end Strings

def forbiddenDirectoryPrefixes : List String :=
  ["node_modules/", "dist/", "coverage/", "storage/"]

def forbiddenExactPaths : List String :=
  [".env", ".env.local"]

def forbiddenExtensions : List String :=
  [".pem", ".key", ".p12", ".pfx", ".dump", ".sql.gz"]

def requiredArchiveEntries : List String :=
  [".env.example", "package.json", "Dockerfile", ".dockerignore"]

def placeholderSecretValues : List String :=
  ["", "dev-secret", "dev-refresh-secret", "CHANGE_ME", "changeme", "your-secret-here",
    "replace-me"]

def placeholderSecretPrefixes : List String :=
  ["CHANGE_ME_", "YOUR_", "REPLACE_"]

def contentScanMaxBytes : Nat :=
  256 * 1024

def normalizeArchivePath (entryPath : String) : String :=
  String.ofList ((Storage.replaceAll entryPath '\\' '/').toList.dropWhile (· == '/'))

def hasForbiddenTraversal (entryPath : String) : Bool :=
  let normalized := normalizeArchivePath entryPath
  includes normalized "../" || startsWith normalized ".." || includes normalized "/.." ||
    endsWith normalized "/.."

/-- normalized.split('/').pop() -/
def fileName (normalized : String) : String :=
  String.ofList ((segments normalized).getLastD normalized.toList)

def isForbiddenArchivePath (entryPath : String) : Bool :=
  let normalized := normalizeArchivePath entryPath
  if hasForbiddenTraversal normalized then true
  else if forbiddenExactPaths.contains normalized then true
  else if endsWith normalized "/.env" || normalized == ".env" then true
  else if startsWith (fileName normalized) ".env." && fileName normalized != ".env.example" then
    true
  else if normalized == ".git" || startsWith normalized ".git/" then true
  else if forbiddenDirectoryPrefixes.any fun front =>
      normalized == String.ofList front.toList.dropLast || startsWith normalized front then true
  else forbiddenExtensions.any fun extension => endsWith normalized extension

def findMissingRequiredFiles (entries : List String) : List String :=
  requiredArchiveEntries.filter fun required => !(entries.map normalizeArchivePath).contains required

/-- /\.(spec|int-spec|test)\.ts$/i -/
def shouldScanEntryForSecrets (entryPath : String) : Bool :=
  !([".spec.ts", ".int-spec.ts", ".test.ts"].any
    (endsWithIgnoringCase (fileName (normalizeArchivePath entryPath))))

def isLikelyPlaceholderSecret (value : String) : Bool :=
  let trimmed := Users.trim value
  placeholderSecretValues.contains trimmed || placeholderSecretPrefixes.any (startsWith trimmed)

structure SecretFinding where
  id : String
  message : String
  line : Nat
deriving DecidableEq, Repr

section Patterns

def isUpperOrDigit (character : Char) : Bool :=
  character.isUpper || character.isDigit

/-- \w -/
def isWord (character : Char) : Bool :=
  character.isAlphanum || character == '_'

/-- \bAKIA[0-9A-Z]{16}\b behind the given character. -/
def accessKeyAt (previous : Option Char) (rest : List Char) : Bool :=
  !previous.any isWord && "AKIA".toList.isPrefixOf rest &&
    ((rest.drop 4).take 16).length == 16 && ((rest.drop 4).take 16).all isUpperOrDigit &&
    !(rest.drop 20).head?.any isWord

def hasAccessKey (previous : Option Char) : List Char → Bool
  | [] => false
  | character :: rest =>
      accessKeyAt previous (character :: rest) || hasAccessKey (some character) rest

/-- What -----BEGIN (?:RSA |EC |OPENSSH )?PRIVATE KEY----- matches. -/
def hasPrivateKeyBlock (content : String) : Bool :=
  ["", "RSA ", "EC ", "OPENSSH "].any fun kind =>
    includes content ("-----BEGIN " ++ kind ++ "PRIVATE KEY-----")

/-- What . does not match. -/
def isLineTerminator (character : Char) : Bool :=
  character == '\n' || character == '\r' || character == '\u2028' || character == '\u2029'

def isKeyCharacter (character : Char) : Bool :=
  isUpperOrDigit character || character == '_'

/-- /^([A-Z0-9_]+)\s*=\s*(.+)$/. Blanks are taken greedily, and the last one is given back
where nothing else is left for the value. -/
def assignment (line : List Char) : Option (String × String) :=
  let key := line.takeWhile isKeyCharacter
  match (line.dropWhile isKeyCharacter).dropWhile Users.isSpace with
  | [] => none
  | sign :: rest =>
      let value := rest.dropWhile Users.isSpace
      let value := if value = [] then rest.getLast?.toList else value
      if sign ≠ '=' ∨ key = [] ∨ value = [] ∨ value.any isLineTerminator = true then none
      else some (String.ofList key, String.ofList value)

def isQuote (character : Char) : Bool :=
  character == '\'' || character == '"'

def dropOpening : List Char → List Char
  | [] => []
  | character :: rest => if isQuote character then rest else character :: rest

def dropClosing (characters : List Char) : List Char :=
  if characters.getLast?.any isQuote then characters.dropLast else characters

/-- replace(/^['"]|['"]$/g, '') -/
def unquote (value : String) : String :=
  String.ofList (dropClosing (dropOpening value.toList))

def isEntropyCharacter (character : Char) : Bool :=
  character.isAlphanum || character == '+' || character == '/' || character == '=' ||
    character == '_' || character == '-'

/-- /[A-Za-z0-9+/=_-]{32,}/, by the length of the run that ends here. -/
def hasEntropyRun : Nat → List Char → Bool
  | run, [] => 32 ≤ run
  | run, character :: rest =>
      32 ≤ run || hasEntropyRun (if isEntropyCharacter character then run + 1 else 0) rest

def chopReturn (line : List Char) : List Char :=
  if line.getLast? = some '\r' then line.dropLast else line

/-- split(/\r?\n/) -/
def splitLines (content : String) : List (List Char) :=
  let pieces := content.toList.splitOn '\n'
  pieces.dropLast.map chopReturn ++ pieces.getLast?.toList

end Patterns

/-- The body of the loop over the lines. -/
def scanLine (normalizedPath : String) (index : Nat) (line : List Char) : List SecretFinding :=
  match assignment line with
  | none => []
  | some (key, rawValue) =>
      let value := unquote (Users.trim rawValue)
      if !includes key "SECRET" && !includes key "PASSWORD" && !includes key "TOKEN" then []
      else if isLikelyPlaceholderSecret value then []
      else if endsWith normalizedPath ".env.example" && utf16Length value ≤ 64 then []
      else if 32 ≤ utf16Length value && hasEntropyRun 0 value.toList then
        [{ id := "high-entropy-assignment"
           message := "High-entropy " ++ key ++ " assignment in " ++ normalizedPath
           line := index + 1 }]
      else []

def scanLines (normalizedPath : String) : Nat → List (List Char) → List SecretFinding
  | _, [] => []
  | index, line :: lines =>
      scanLine normalizedPath index line ++ scanLines normalizedPath (index + 1) lines

def scanTextForSecrets (content entryPath : String) : List SecretFinding :=
  let normalizedPath := normalizeArchivePath entryPath
  let accessKey :=
    if hasAccessKey none content.toList then
      [{ id := "aws-access-key"
         message := "Possible AWS access key id in " ++ normalizedPath
         line := 0 : SecretFinding }]
    else []
  let privateKey :=
    if hasPrivateKeyBlock content then
      [{ id := "private-key-block"
         message := "Private key block in " ++ normalizedPath
         line := 0 : SecretFinding }]
    else []
  accessKey ++ privateKey ++ scanLines normalizedPath 0 (splitLines content)

end BackendFoundation.Release
