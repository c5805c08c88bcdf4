/-
A ZIP archive as its format lays it out, and that the reader of the release check finds in
it what was put there.

The numbers that the reader does not look at are free. The end record is found when its
signature does not stand a second time behind it, which a comment can bring about.
-/

import BackendFoundation.Release.ArchiveReader

namespace BackendFoundation.Release

open Bytes

/-- The data is stored or deflated, and a data descriptor may stand behind it. -/
structure Member where
  name : String
  compressionMethod : UInt16
  uncompressedSize : UInt32
  data : Buffer
  descriptor : Buffer
  localStamp : Nat
  localExtra : Buffer
  versions : Nat
  stamp : Nat
  attributes : Nat
  centralExtra : Buffer
  comment : Buffer
  nameFits : (Redis.utf8 name).length < 256 ^ 2
  dataFits : data.length < 256 ^ 4
  localExtraFits : localExtra.length < 256 ^ 2
  centralExtraFits : centralExtra.length < 256 ^ 2
  commentFits : comment.length < 256 ^ 2

namespace Member

variable (member : Member)

def localHeader : List Field :=
  [⟨4, localSignature⟩, ⟨22, member.localStamp⟩, ⟨2, (Redis.utf8 member.name).length⟩,
    ⟨2, member.localExtra.length⟩]

def localRecord : Buffer :=
  encode member.localHeader ++
    (Redis.utf8 member.name ++ (member.localExtra ++ (member.data ++ member.descriptor)))

def centralHeader (offset : Nat) : List Field :=
  [⟨4, centralSignature⟩, ⟨6, member.versions⟩, ⟨2, member.compressionMethod.toNat⟩,
    ⟨8, member.stamp⟩, ⟨4, member.data.length⟩, ⟨4, member.uncompressedSize.toNat⟩,
    ⟨2, (Redis.utf8 member.name).length⟩, ⟨2, member.centralExtra.length⟩,
    ⟨2, member.comment.length⟩, ⟨8, member.attributes⟩, ⟨4, offset⟩]

def centralRecord (offset : Nat) : Buffer :=
  encode (member.centralHeader offset) ++
    (Redis.utf8 member.name ++ (member.centralExtra ++ member.comment))

def entry (offset : Nat) : ZipEntry :=
  { path := member.name
    compressionMethod := member.compressionMethod.toNat
    compressedSize := member.data.length
    uncompressedSize := member.uncompressedSize.toNat
    localHeaderOffset := offset }

/-- The data of the member, as far as its method is one that the check knows. -/
def content (inflateRawSync : Buffer → Reading Buffer) : Reading Buffer :=
  if member.compressionMethod = 0 then .ok member.data
  else if member.compressionMethod = 8 then inflateRawSync member.data
  else .error (.unsupportedCompressionMethod member.compressionMethod.toNat member.name)

end Member

/-- The members with the offsets at which their local records begin. -/
def located : Nat → List Member → List (Nat × Member)
  | _, [] => []
  | offset, member :: members =>
      (offset, member) :: located (offset + member.localRecord.length) members

def localRecords (members : List Member) : Buffer :=
  members.flatMap Member.localRecord

def directory (placed : List (Nat × Member)) : Buffer :=
  placed.flatMap fun place => place.2.centralRecord place.1

structure Archive where
  preamble : Buffer
  members : List Member
  endStamp : Nat
  comment : Buffer
  commentFits : comment.length < 256 ^ 2
  offsetFits : preamble.length + (localRecords members).length < 256 ^ 4
  directoryFits : (directory (located preamble.length members)).length < 256 ^ 4

namespace Archive

variable (archive : Archive)

def placed : List (Nat × Member) :=
  located archive.preamble.length archive.members

def directoryOffset : Nat :=
  archive.preamble.length + (localRecords archive.members).length

def endRecord : List Field :=
  [⟨4, endSignature⟩, ⟨8, archive.endStamp⟩, ⟨4, (directory archive.placed).length⟩,
    ⟨4, archive.directoryOffset⟩, ⟨2, archive.comment.length⟩]

def endOffset : Nat :=
  archive.directoryOffset + (directory archive.placed).length

def bytes : Buffer :=
  archive.preamble ++ (localRecords archive.members ++ (directory archive.placed ++
    (encode archive.endRecord ++ archive.comment)))

def entries : List ZipEntry :=
  archive.placed.map fun place => place.2.entry place.1

/-- The signature of the end record does not stand behind its beginning again. -/
def Clear : Prop :=
  ∀ shift, 0 < shift → shift ≤ archive.comment.length →
    readAt 4 (encode archive.endRecord ++ archive.comment) shift ≠ some endSignature

end Archive

section Standing

theorem readUIntLE_eq {width number offset : Nat} {buffer : Buffer}
    (found : readAt width buffer offset = some number) :
    readUIntLE width buffer offset = .ok number := by
  unfold readUIntLE
  rw [found]

theorem Member.offset_of_mem {place : Nat × Member} {members : List Member} {start : Nat}
    (member : place ∈ located start members) :
    StandsAt (localRecords members) (place.1 - start) place.2.localRecord ∧
      start ≤ place.1 ∧ place.1 ≤ start + (localRecords members).length := by
  induction members generalizing start with
  | nil => exact absurd member List.not_mem_nil
  | cons first members ih =>
      have whole : localRecords (first :: members) = first.localRecord ++ localRecords members :=
        List.flatMap_cons
      rw [located, List.mem_cons] at member
      rw [whole, List.length_append]
      cases member with
      | inl here =>
          subst here
          refine ⟨⟨[], localRecords members, ?_, rfl⟩, Nat.le_refl _, Nat.le_add_right _ _⟩
          exact (Nat.sub_self _).symm
      | inr later =>
          obtain ⟨⟨front, back, length, split⟩, lower, upper⟩ := ih later
          refine ⟨⟨first.localRecord ++ front, back, ?_, ?_⟩, by omega, by omega⟩
          · rw [List.length_append, length]
            omega
          · rw [split, List.append_assoc]

end Standing

end BackendFoundation.Release
