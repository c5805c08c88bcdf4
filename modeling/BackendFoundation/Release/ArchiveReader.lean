/-
The ZIP reader of the release check: the end record is searched from the back, the central
directory is read entry by entry, and the data of an entry is found through its local header.
-/

import BackendFoundation.Bytes.Utf8Decoder

namespace BackendFoundation.Release

open Bytes

structure ZipEntry where
  path : String
  compressionMethod : Nat
  compressedSize : Nat
  uncompressedSize : Nat
  localHeaderOffset : Nat
deriving DecidableEq, Repr

/-- The reads of a Buffer throw when they would leave it, inflateRawSync when the data is
not what DEFLATE writes. -/
inductive ArchiveError
  | noEndOfCentralDirectory (zipPath : String)
  | invalidCentralDirectoryEntry (offset : Nat)
  | invalidLocalHeader (path : String)
  | unsupportedCompressionMethod (compressionMethod : Nat) (path : String)
  | outOfRange (width length offset : Nat)
  | inflate (message : String)
deriving DecidableEq, Repr

/-- Digits in groups of three, as node:buffer writes numbers above 2^32. -/
def groupDigits : List Char → List Char
  | first :: second :: third :: fourth :: digits =>
      first :: second :: third :: '_' :: groupDigits (fourth :: digits)
  | digits => digits

def received (number : Nat) : String :=
  if 2 ^ 32 < number then
    String.ofList (groupDigits (toString number).toList.reverse).reverse
  else toString number

def ArchiveError.message : ArchiveError → String
  | noEndOfCentralDirectory zipPath =>
      "Invalid ZIP archive: end of central directory not found (" ++ zipPath ++ ")"
  | invalidCentralDirectoryEntry offset =>
      "Invalid ZIP central directory entry at offset " ++ toString offset
  | invalidLocalHeader path => "Invalid ZIP local header for " ++ path
  | unsupportedCompressionMethod compressionMethod path =>
      "Unsupported ZIP compression method " ++ toString compressionMethod ++ " for " ++ path
  | outOfRange width length offset =>
      if length < width then "Attempt to access memory outside buffer bounds"
      else
        "The value of \"offset\" is out of range. It must be >= 0 and <= " ++
          toString (length - width) ++ ". Received " ++ received offset
  | inflate message => message

abbrev Reading (Result : Type) := Except ArchiveError Result

def readUIntLE (width : Nat) (buffer : Buffer) (offset : Nat) : Reading Nat :=
  match readAt width buffer offset with
  | some number => .ok number
  | none => .error (.outOfRange width buffer.length offset)

def readUInt32LE (buffer : Buffer) (offset : Nat) : Reading Nat :=
  readUIntLE 4 buffer offset

def readUInt16LE (buffer : Buffer) (offset : Nat) : Reading Nat :=
  readUIntLE 2 buffer offset

def endSignature : Nat :=
  0x06054b50

def centralSignature : Nat :=
  0x02014b50

def localSignature : Nat :=
  0x04034b50

/-- The loop of findEndOfCentralDirectoryOffset. The argument is one more than the offset that
the loop has come down to. -/
def searchEnd (buffer : Buffer) (minimumOffset : Nat) : Nat → Reading (Option Nat)
  | 0 => .ok none
  | offset + 1 =>
      if minimumOffset ≤ offset then
        match readUInt32LE buffer offset with
        | .error error => .error error
        | .ok signature =>
            if signature = endSignature then .ok (some offset)
            else searchEnd buffer minimumOffset offset
      else .ok none

/-- The source returns -1 where nothing is found. -/
def findEndOfCentralDirectoryOffset (buffer : Buffer) : Reading (Option Nat) :=
  searchEnd buffer (buffer.length - 65557) (buffer.length - 21)

/-- An entry of the central directory with the lengths of what stands behind its 46 bytes. -/
structure CentralRecord where
  entry : ZipEntry
  fileNameLength : Nat
  extraFieldLength : Nat
  commentLength : Nat

def CentralRecord.size (central : CentralRecord) : Nat :=
  46 + central.fileNameLength + central.extraFieldLength + central.commentLength

/-- The body of the while loop. A name that would leave the buffer is cut off. -/
def readCentralRecord (buffer : Buffer) (offset : Nat) : Reading CentralRecord := do
  let signature ← readUInt32LE buffer offset
  if signature ≠ centralSignature then throw (.invalidCentralDirectoryEntry offset)
  let compressionMethod ← readUInt16LE buffer (offset + 10)
  let compressedSize ← readUInt32LE buffer (offset + 20)
  let uncompressedSize ← readUInt32LE buffer (offset + 24)
  let fileNameLength ← readUInt16LE buffer (offset + 28)
  let extraFieldLength ← readUInt16LE buffer (offset + 30)
  let commentLength ← readUInt16LE buffer (offset + 32)
  let localHeaderOffset ← readUInt32LE buffer (offset + 42)
  let fileName := decodeUtf8 (slice buffer (offset + 46) fileNameLength)
  return {
    entry :=
      { path := fileName
        compressionMethod := compressionMethod
        compressedSize := compressedSize
        uncompressedSize := uncompressedSize
        localHeaderOffset := localHeaderOffset }
    fileNameLength := fileNameLength
    extraFieldLength := extraFieldLength
    commentLength := commentLength }

/-- The while loop. An entry may reach beyond the end that the end record gives. -/
def readCentralDirectory (buffer : Buffer) (finish offset : Nat) : Reading (List ZipEntry) :=
  if offset < finish then
    match readCentralRecord buffer offset with
    | .error error => .error error
    | .ok central =>
        match readCentralDirectory buffer finish (offset + central.size) with
        | .error error => .error error
        | .ok entries => .ok (central.entry :: entries)
  else .ok []
termination_by finish - offset
decreasing_by
  unfold CentralRecord.size
  omega

def readZipEntries (zipPath : String) (buffer : Buffer) : Reading (List ZipEntry) := do
  match ← findEndOfCentralDirectoryOffset buffer with
  | none => throw (.noEndOfCentralDirectory zipPath)
  | some eocdOffset =>
      let centralDirectorySize ← readUInt32LE buffer (eocdOffset + 12)
      let centralDirectoryOffset ← readUInt32LE buffer (eocdOffset + 16)
      readCentralDirectory buffer (centralDirectoryOffset + centralDirectorySize)
        centralDirectoryOffset

/-- The lengths of the local header count here, those of the directory do not. -/
def extractEntryBuffer (inflateRawSync : Buffer → Reading Buffer) (buffer : Buffer)
    (entry : ZipEntry) : Reading Buffer := do
  let localOffset := entry.localHeaderOffset
  let signature ← readUInt32LE buffer localOffset
  if signature ≠ localSignature then throw (.invalidLocalHeader entry.path)
  let fileNameLength ← readUInt16LE buffer (localOffset + 26)
  let extraFieldLength ← readUInt16LE buffer (localOffset + 28)
  let dataOffset := localOffset + 30 + fileNameLength + extraFieldLength
  let compressedData := slice buffer dataOffset entry.compressedSize
  if entry.compressionMethod = 0 then return compressedData
  if entry.compressionMethod = 8 then
    inflateRawSync compressedData
  else throw (.unsupportedCompressionMethod entry.compressionMethod entry.path)

end BackendFoundation.Release
