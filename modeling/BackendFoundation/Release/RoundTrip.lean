/-
What the reader returns for an archive that is laid out as the format says: its members in
their order, and the data of each.
-/

import BackendFoundation.Release.ZipLayout

namespace BackendFoundation.Release

open Bytes

/-- The signature of an end record stands at the offset. -/
def Marked (buffer : Buffer) (offset : Nat) : Prop :=
  readAt 4 buffer offset = some endSignature

/-- The search comes down from the start, so it returns the last mark. -/
theorem searchEnd_eq_some_iff {buffer : Buffer} {minimumOffset start : Nat}
    (within : start + 3 ≤ buffer.length) (offset : Nat) :
    searchEnd buffer minimumOffset start = .ok (some offset) ↔
      minimumOffset ≤ offset ∧ offset < start ∧ Marked buffer offset ∧
        ∀ later, offset < later → later < start → ¬ Marked buffer later := by
  induction start with
  | zero =>
      constructor
      · intro found
        cases found
      · intro found
        exact absurd found.2.1 (Nat.not_lt_zero offset)
  | succ start ih =>
      have readable : readAt 4 buffer start = some (value (slice buffer start 4)) :=
        if_pos (by omega)
      have mark : Marked buffer start ↔ value (slice buffer start 4) = endSignature := by
        unfold Marked
        rw [readable, Option.some.injEq]
      have step : searchEnd buffer minimumOffset (start + 1) =
          if minimumOffset ≤ start then
            if value (slice buffer start 4) = endSignature then .ok (some start)
            else searchEnd buffer minimumOffset start
          else .ok none := by
        rw [searchEnd, readUInt32LE, readUIntLE_eq readable]
      rw [step]
      by_cases inRange : minimumOffset ≤ start
      · rw [if_pos inRange]
        by_cases signed : value (slice buffer start 4) = endSignature
        · have marked := mark.mpr signed
          rw [if_pos signed]
          constructor
          · intro found
            cases found
            exact ⟨inRange, Nat.lt_succ_self _, marked, fun later above below => by omega⟩
          · intro found
            obtain ⟨_, below, _, last⟩ := found
            by_cases same : offset = start
            · rw [same]
            · exact absurd marked (last start (by omega) (Nat.lt_succ_self start))
        · have marked : ¬ Marked buffer start := fun marked => signed (mark.mp marked)
          rw [if_neg signed, ih (by omega)]
          constructor
          · intro found
            obtain ⟨lower, below, here, last⟩ := found
            refine ⟨lower, by omega, here, ?_⟩
            intro later above upper
            by_cases same : later = start
            · rw [same]
              exact marked
            · exact last later above (by omega)
          · intro found
            obtain ⟨lower, below, here, last⟩ := found
            have other : offset ≠ start := by
              intro same
              exact marked (same ▸ here)
            exact ⟨lower, by omega, here, fun later above upper => last later above (by omega)⟩
      · rw [if_neg inRange]
        constructor
        · intro found
          cases found
        · intro found
          omega

namespace Archive

variable (archive : Archive)

theorem length_bytes :
    archive.bytes.length = archive.endOffset + (22 + archive.comment.length) := by
  have record : (encode archive.endRecord).length = 22 := length_encode _
  unfold bytes endOffset directoryOffset
  simp only [List.length_append, record]
  omega

theorem standsAt_directory :
    StandsAt archive.bytes archive.directoryOffset (directory archive.placed) := by
  refine ⟨archive.preamble ++ localRecords archive.members,
    encode archive.endRecord ++ archive.comment, ?_, ?_⟩
  · rw [List.length_append]
    rfl
  · unfold bytes
    simp only [List.append_assoc]

theorem standsAt_end :
    StandsAt archive.bytes archive.endOffset (encode archive.endRecord ++ archive.comment) := by
  refine ⟨archive.preamble ++ (localRecords archive.members ++ directory archive.placed), [],
    ?_, ?_⟩
  · unfold endOffset directoryOffset
    simp only [List.length_append]
    omega
  · unfold bytes
    simp only [List.append_assoc, List.append_nil]

theorem standsAt_local {place : Nat × Member} (member : place ∈ archive.placed) :
    StandsAt archive.bytes place.1 place.2.localRecord := by
  obtain ⟨within, lower, _⟩ := Member.offset_of_mem member
  have locals : StandsAt archive.bytes archive.preamble.length (localRecords archive.members) :=
    ⟨archive.preamble, _, rfl, rfl⟩
  have inside := locals.inside within
  rwa [Nat.add_sub_cancel' lower] at inside

theorem offset_fits {place : Nat × Member} (member : place ∈ archive.placed) :
    place.1 < 256 ^ 4 :=
  Nat.lt_of_le_of_lt (Member.offset_of_mem member).2.2 archive.offsetFits

/-- A mark behind the end record is one in the record and its comment. -/
theorem marked_shift (shift : Nat) :
    Marked archive.bytes (archive.endOffset + shift) ↔
      readAt 4 (encode archive.endRecord ++ archive.comment) shift = some endSignature := by
  obtain ⟨front, back, length, split⟩ := archive.standsAt_end
  have ends : back = [] := by
    have total := archive.length_bytes
    have record : (encode archive.endRecord).length = 22 := length_encode _
    rw [split, List.length_append, List.length_append, List.length_append, record] at total
    exact List.length_eq_zero_iff.mp (by omega)
  unfold Marked
  rw [split, ends, List.append_nil, ← length, readAt_append]

/-- The true end record is found if and only if its signature does not stand behind it again. -/
theorem findEnd_iff :
    findEndOfCentralDirectoryOffset archive.bytes = .ok (some archive.endOffset) ↔
      archive.Clear := by
  have length := archive.length_bytes
  have commentFits := archive.commentFits
  have here : Marked archive.bytes archive.endOffset :=
    (archive.standsAt_end.left.left : StandsAt _ _ (littleEndian 4 endSignature)).readAt (by decide)
  unfold findEndOfCentralDirectoryOffset
  rw [searchEnd_eq_some_iff (by omega)]
  constructor
  · intro found shift positive within
    obtain ⟨_, _, _, last⟩ := found
    have unmarked := last (archive.endOffset + shift) (by omega) (by omega)
    rwa [marked_shift] at unmarked
  · intro clear
    refine ⟨by omega, by omega, here, ?_⟩
    intro later above below
    obtain ⟨shift, rfl⟩ := Nat.exists_eq_add_of_lt above
    rw [Nat.add_assoc, marked_shift]
    exact clear (shift + 1) (Nat.succ_pos shift) (by omega)

end Archive

section Entries

variable {buffer : Buffer} {member : Member} {offset start : Nat}

/-- The eight reads of an entry, each behind the fields before it. -/
theorem readCentralRecord_eq (stands : StandsAt buffer start (member.centralRecord offset))
    (fits : offset < 256 ^ 4) :
    readCentralRecord buffer start = .ok
      { entry := member.entry offset
        fileNameLength := (Redis.utf8 member.name).length
        extraFieldLength := member.centralExtra.length
        commentLength := member.comment.length } := by
  have signature : readUInt32LE buffer start = .ok centralSignature :=
    readUIntLE_eq (readAt_field 0 0 ⟨4, _⟩ stands rfl rfl (by decide))
  have method : readUInt16LE buffer (start + 10) = .ok member.compressionMethod.toNat :=
    readUIntLE_eq (readAt_field 2 10 ⟨2, _⟩ stands rfl rfl member.compressionMethod.toNat_lt)
  have compressed : readUInt32LE buffer (start + 20) = .ok member.data.length :=
    readUIntLE_eq (readAt_field 4 20 ⟨4, _⟩ stands rfl rfl member.dataFits)
  have uncompressed : readUInt32LE buffer (start + 24) = .ok member.uncompressedSize.toNat :=
    readUIntLE_eq (readAt_field 5 24 ⟨4, _⟩ stands rfl rfl member.uncompressedSize.toNat_lt)
  have nameLength : readUInt16LE buffer (start + 28) = .ok (Redis.utf8 member.name).length :=
    readUIntLE_eq (readAt_field 6 28 ⟨2, _⟩ stands rfl rfl member.nameFits)
  have extraLength : readUInt16LE buffer (start + 30) = .ok member.centralExtra.length :=
    readUIntLE_eq (readAt_field 7 30 ⟨2, _⟩ stands rfl rfl member.centralExtraFits)
  have commentLength : readUInt16LE buffer (start + 32) = .ok member.comment.length :=
    readUIntLE_eq (readAt_field 8 32 ⟨2, _⟩ stands rfl rfl member.commentFits)
  have localOffset : readUInt32LE buffer (start + 42) = .ok offset :=
    readUIntLE_eq (readAt_field 10 42 ⟨4, _⟩ stands rfl rfl fits)
  have name : slice buffer (start + 46) (Redis.utf8 member.name).length =
      Redis.utf8 member.name := by
    have behind := stands.right.left
    rw [length_encode] at behind
    exact behind.slice
  unfold readCentralRecord
  rw [signature, method, compressed, uncompressed, nameLength, extraLength, commentLength,
    localOffset]
  simp only [bind, Except.bind, pure, Except.pure, ne_eq, not_true_eq_false, if_false, name,
    decodeUtf8_utf8, Member.entry]

theorem length_centralRecord (member : Member) (offset : Nat) :
    (member.centralRecord offset).length = 46 + (Redis.utf8 member.name).length +
      member.centralExtra.length + member.comment.length := by
  have header : (encode (member.centralHeader offset)).length = 46 := length_encode _
  unfold Member.centralRecord
  simp only [List.length_append, header]
  omega

/-- The directory is read to its end, and nothing behind it. -/
theorem readCentralDirectory_eq {placed : List (Nat × Member)}
    (stands : StandsAt buffer start (directory placed))
    (fits : ∀ place ∈ placed, place.1 < 256 ^ 4) :
    readCentralDirectory buffer (start + (directory placed).length) start =
      .ok (placed.map fun place => place.2.entry place.1) := by
  induction placed generalizing start with
  | nil =>
      unfold readCentralDirectory
      rw [if_neg (by simp [directory])]
      rfl
  | cons place placed ih =>
      have split : directory (place :: placed) = place.2.centralRecord place.1 ++ directory placed :=
        List.flatMap_cons
      have size := length_centralRecord place.2 place.1
      rw [split] at stands ⊢
      rw [List.length_append]
      have behind := ih stands.right fun later member => fits later (List.mem_cons_of_mem _ member)
      rw [Nat.add_assoc] at behind
      unfold readCentralDirectory
      rw [if_pos (by omega), readCentralRecord_eq stands.left (fits place List.mem_cons_self)]
      simp only [CentralRecord.size, ← size, behind, List.map_cons]

end Entries

namespace Archive

variable (archive : Archive)

theorem readZipEntries_eq (zipPath : String) (clear : archive.Clear) :
    readZipEntries zipPath archive.bytes = .ok archive.entries := by
  have stands := archive.standsAt_end
  have size : readUInt32LE archive.bytes (archive.endOffset + 12) =
      .ok (directory archive.placed).length :=
    readUIntLE_eq (readAt_field 2 12 ⟨4, _⟩ stands rfl rfl archive.directoryFits)
  have offset : readUInt32LE archive.bytes (archive.endOffset + 16) =
      .ok archive.directoryOffset :=
    readUIntLE_eq (readAt_field 3 16 ⟨4, _⟩ stands rfl rfl archive.offsetFits)
  unfold readZipEntries
  rw [archive.findEnd_iff.mpr clear]
  simp only [bind, Except.bind, size, offset]
  exact readCentralDirectory_eq archive.standsAt_directory fun _ => archive.offset_fits

/-- The data of a member, as the method of its entry gives it back. -/
theorem extractEntryBuffer_eq (inflateRawSync : Buffer → Reading Buffer) {place : Nat × Member}
    (member : place ∈ archive.placed) :
    extractEntryBuffer inflateRawSync archive.bytes (place.2.entry place.1) =
      place.2.content inflateRawSync := by
  have stands := archive.standsAt_local member
  have signature : readUInt32LE archive.bytes place.1 = .ok localSignature :=
    readUIntLE_eq (readAt_field 0 0 ⟨4, _⟩ stands rfl rfl (by decide))
  have nameLength : readUInt16LE archive.bytes (place.1 + 26) =
      .ok (Redis.utf8 place.2.name).length :=
    readUIntLE_eq (readAt_field 2 26 ⟨2, _⟩ stands rfl rfl place.2.nameFits)
  have extraLength : readUInt16LE archive.bytes (place.1 + 28) =
      .ok place.2.localExtra.length :=
    readUIntLE_eq (readAt_field 3 28 ⟨2, _⟩ stands rfl rfl place.2.localExtraFits)
  have data : slice archive.bytes (place.1 + 30 + (Redis.utf8 place.2.name).length +
      place.2.localExtra.length) place.2.data.length = place.2.data := by
    have behind := stands.right.right.right.left
    rw [length_encode] at behind
    exact behind.slice
  have stored : place.2.compressionMethod.toNat = 0 ↔ place.2.compressionMethod = 0 := by
    rw [← UInt16.toNat_inj]
    rfl
  have deflated : place.2.compressionMethod.toNat = 8 ↔ place.2.compressionMethod = 8 := by
    rw [← UInt16.toNat_inj]
    rfl
  unfold extractEntryBuffer Member.content
  simp only [Member.entry, signature, nameLength, extraLength, bind, Except.bind, ne_eq,
    not_true_eq_false, if_false, data, stored, deflated, pure, Except.pure]
  split
  · rfl
  · split <;> rfl

end Archive

/-- An archive is read back as it was laid out: the end record where it is, unless its
signature comes again, and then every member with its data. -/
theorem archive_read_back (inflateRawSync : Buffer → Reading Buffer) (zipPath : String)
    (archive : Archive) :
    (findEndOfCentralDirectoryOffset archive.bytes = .ok (some archive.endOffset) ↔
      archive.Clear) ∧
      (archive.Clear → readZipEntries zipPath archive.bytes = .ok archive.entries ∧
        ∀ place ∈ archive.placed,
          extractEntryBuffer inflateRawSync archive.bytes (place.2.entry place.1) =
            place.2.content inflateRawSync) := by
  refine ⟨archive.findEnd_iff, fun clear => ⟨archive.readZipEntries_eq zipPath clear, ?_⟩⟩
  intro place member
  exact archive.extractEntryBuffer_eq inflateRawSync member

section Sample

theorem empty_fits (width : Nat) : ([] : Buffer).length < 256 ^ width :=
  Nat.pow_pos (Nat.zero_lt_succ 255)

/-- A stored member without extra fields. -/
def Member.stored (name : String) (nameFits : (Redis.utf8 name).length < 256 ^ 2)
    (data : Buffer) (dataFits : data.length < 256 ^ 4) : Member :=
  { name := name
    compressionMethod := 0
    uncompressedSize := UInt32.ofNat data.length
    data := data
    descriptor := []
    localStamp := 0
    localExtra := []
    versions := 0
    stamp := 0
    attributes := 0
    centralExtra := []
    comment := []
    nameFits := nameFits
    dataFits := dataFits
    localExtraFits := empty_fits 2
    centralExtraFits := empty_fits 2
    commentFits := empty_fits 2 }

def noteText : String :=
  "first line\r\nAPI_TOKEN = 'abcdefghijklmnopqrstuvwxyz0123456789'\n"

theorem note_fits : (Redis.utf8 noteText).length < 256 ^ 4 := by
  decide

theorem names_fit : (Redis.utf8 "package.json").length < 256 ^ 2 ∧
    (Redis.utf8 "Dockerfile").length < 256 ^ 2 ∧ (Redis.utf8 ".env.example").length < 256 ^ 2 ∧
      (Redis.utf8 ".dockerignore").length < 256 ^ 2 ∧ (Redis.utf8 "notes.txt").length < 256 ^ 2 := by
  decide

def requiredMembers : List Member :=
  [Member.stored "package.json" names_fit.1 [] (empty_fits 4),
    Member.stored "Dockerfile" names_fit.2.1 [] (empty_fits 4),
    Member.stored ".env.example" names_fit.2.2.1 [] (empty_fits 4),
    Member.stored ".dockerignore" names_fit.2.2.2.1 [] (empty_fits 4)]

def noteMember : Member :=
  Member.stored "notes.txt" names_fit.2.2.2.2 (Redis.utf8 noteText) note_fits

/-- The comment of the archive, as git writes a commit id there. -/
def commit : Buffer :=
  Redis.utf8 "0d4c"

theorem commit_fits : commit.length < 256 ^ 2 := by
  decide

theorem required_fits :
    ([] : Buffer).length + (localRecords requiredMembers).length < 256 ^ 4 ∧
      (directory (located ([] : Buffer).length requiredMembers)).length < 256 ^ 4 := by
  decide +kernel

def requiredArchive : Archive :=
  { preamble := []
    members := requiredMembers
    endStamp := 0
    comment := commit
    commentFits := commit_fits
    offsetFits := required_fits.1
    directoryFits := required_fits.2 }

theorem requiredArchive_clear : requiredArchive.Clear := by
  have checked : ∀ shift < 5, 0 < shift →
      readAt 4 (encode requiredArchive.endRecord ++ requiredArchive.comment) shift ≠
        some endSignature := by
    decide
  intro shift positive within
  exact checked shift (Nat.lt_succ_of_le within) positive

theorem leaking_fits :
    ([] : Buffer).length + (localRecords [noteMember]).length < 256 ^ 4 ∧
      (directory (located ([] : Buffer).length [noteMember])).length < 256 ^ 4 := by
  decide

def leakingArchive : Archive :=
  { preamble := []
    members := [noteMember]
    endStamp := 0
    comment := []
    commentFits := empty_fits 2
    offsetFits := leaking_fits.1
    directoryFits := leaking_fits.2 }

theorem leakingArchive_clear : leakingArchive.Clear := by
  intro shift positive within
  exact absurd positive (Nat.not_lt.mpr within)

theorem requiredArchive_read_back :
    readZipEntries "release.zip" requiredArchive.bytes = .ok requiredArchive.entries :=
  ((archive_read_back (fun data => .ok data) "release.zip" requiredArchive).2
    requiredArchive_clear).1

end Sample

end BackendFoundation.Release
