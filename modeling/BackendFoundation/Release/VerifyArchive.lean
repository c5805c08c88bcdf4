/-
The release check: an archive passes when no member has a refused name, none of the required
files is missing, and no text among the members looks like a secret.

The check works on the bytes of the archive. For an archive that is laid out as the format
says, it decides this question about the members.
-/

import BackendFoundation.Release.ArchivePaths
import BackendFoundation.Release.RoundTrip

namespace BackendFoundation.Release

open Bytes Posix

def textExtensions : List String :=
  [".env", ".example", ".md", ".txt", ".json", ".yaml", ".yml", ".toml", ".js", ".mjs", ".cjs",
    ".ts", ".tsx", ".sh", ".properties"]

/-- What is written, in its order, and the code the process exits with. -/
structure Report where
  stdout : List String
  stderr : List String
  exitCode : Nat
deriving DecidableEq, Repr

section Verify

variable (inflateRawSync : Buffer → Reading Buffer) (zipPath : String) (buffer : Buffer)

/-- One round of the loop over the entries. The size is the one the directory gives. -/
def scanEntry (entry : ZipEntry) : Reading (List SecretFinding) :=
  let normalizedPath := normalizeArchivePath entry.path
  if entry.uncompressedSize = 0 ∨ entry.uncompressedSize > contentScanMaxBytes then .ok []
  else if ¬ textExtensions.any (endsWithIgnoringCase normalizedPath) = true then .ok []
  else if ¬ shouldScanEntryForSecrets normalizedPath = true then .ok []
  else
    match extractEntryBuffer inflateRawSync buffer entry with
    | .error error => .error error
    | .ok contentBuffer => .ok (scanTextForSecrets (decodeUtf8 contentBuffer) normalizedPath)

def scanEntries : List ZipEntry → Reading (List SecretFinding)
  | [] => .ok []
  | entry :: entries =>
      match scanEntry inflateRawSync buffer entry with
      | .error error => .error error
      | .ok findings =>
          match scanEntries entries with
          | .error error => .error error
          | .ok later => .ok (findings ++ later)

def printed (title : String) (lines : List String) : List String :=
  if lines = [] then [] else title :: lines.map fun line => "  - " ++ line ++ "\n"

/-- What is reported of the entries and the findings in their texts. -/
def reportOn (zipPath : String) (entries : List ZipEntry) (secretFindings : List SecretFinding) :
    Report :=
  let normalizedPaths := entries.map fun entry => normalizeArchivePath entry.path
  let forbidden := normalizedPaths.filter isForbiddenArchivePath
  let missingRequired := findMissingRequiredFiles normalizedPaths
  let stdout :=
    ["Archive: " ++ zipPath ++ "\n",
      "Entries: " ++ toString entries.length ++ "\n",
      "Required files present: " ++ (if missingRequired = [] then "yes" else "no") ++ "\n"]
  let stderr :=
    printed "Forbidden paths detected:\n" forbidden ++
      printed "Missing required files:\n" missingRequired ++
        printed "Potential secret patterns detected:\n"
          (secretFindings.map fun finding => "[" ++ finding.id ++ "] " ++ finding.message)
  if forbidden ≠ [] ∨ missingRequired ≠ [] ∨ secretFindings ≠ [] then
    { stdout := stdout
      stderr := stderr
      exitCode := 1 }
  else
    { stdout := stdout ++ ["Release archive verification passed.\n"]
      stderr := stderr
      exitCode := 0 }

def verifyArchive : Reading Report :=
  match readZipEntries zipPath buffer with
  | .error error => .error error
  | .ok entries =>
      match scanEntries inflateRawSync buffer entries with
      | .error error => .error error
      | .ok secretFindings => .ok (reportOn zipPath entries secretFindings)

/-- The process: an error that is thrown is written, and the code is 1. -/
def verifyProcess : Report :=
  match verifyArchive inflateRawSync zipPath buffer with
  | .ok report => report
  | .error error =>
      { stdout := []
        stderr := [error.message ++ "\n"]
        exitCode := 1 }

end Verify

section Outcome

variable {inflateRawSync : Buffer → Reading Buffer} {zipPath : String} {buffer : Buffer}

theorem scanEntries_eq_nil_iff {entries : List ZipEntry} :
    scanEntries inflateRawSync buffer entries = .ok [] ↔
      ∀ entry ∈ entries, scanEntry inflateRawSync buffer entry = .ok [] := by
  induction entries with
  | nil => exact ⟨fun _ entry member => absurd member List.not_mem_nil, fun _ => rfl⟩
  | cons entry entries ih =>
      rw [List.forall_mem_cons, ← ih, scanEntries]
      cases scanEntry inflateRawSync buffer entry with
      | error error => simp
      | ok findings =>
          cases scanEntries inflateRawSync buffer entries with
          | error error => simp
          | ok later => simp [List.append_eq_nil_iff]

theorem forbidden_eq_nil_iff {entries : List ZipEntry} :
    ((entries.map fun entry => normalizeArchivePath entry.path).filter isForbiddenArchivePath) = [] ↔
      ∀ entry ∈ entries, isForbiddenArchivePath entry.path = false := by
  have same (path : String) :
      isForbiddenArchivePath (normalizeArchivePath path) = isForbiddenArchivePath path := by
    unfold isForbiddenArchivePath
    rw [normalizeArchivePath_idem]
  rw [List.filter_eq_nil_iff, List.forall_mem_map]
  exact forall₂_congr fun entry _ => by rw [same, Bool.not_eq_true]

theorem missing_eq_nil_iff {entries : List ZipEntry} :
    findMissingRequiredFiles (entries.map fun entry => normalizeArchivePath entry.path) = [] ↔
      ∀ required ∈ requiredArchiveEntries,
        ∃ entry ∈ entries, normalizeArchivePath entry.path = required := by
  unfold findMissingRequiredFiles
  rw [List.filter_eq_nil_iff, List.map_map]
  apply forall₂_congr
  intro required _
  rw [Bool.not_eq_true, Bool.not_eq_false', List.contains_iff_mem, List.mem_map]
  exact exists_congr fun entry => and_congr_right fun _ => by
    rw [Function.comp_apply, normalizeArchivePath_idem]

theorem reportOn_passes_iff {entries : List ZipEntry} {findings : List SecretFinding} :
    (reportOn zipPath entries findings).exitCode = 0 ↔
      (∀ entry ∈ entries, isForbiddenArchivePath entry.path = false) ∧
        (∀ required ∈ requiredArchiveEntries,
          ∃ entry ∈ entries, normalizeArchivePath entry.path = required) ∧ findings = [] := by
  rw [← forbidden_eq_nil_iff, ← missing_eq_nil_iff]
  unfold reportOn
  dsimp only
  split
  · rename_i found
    rw [ne_eq, ne_eq, ne_eq, ← not_and_or, ← not_and_or] at found
    refine ⟨?_, fun clean => absurd clean found⟩
    intro passes
    cases passes
  · rename_i clean
    rw [ne_eq, ne_eq, ne_eq, ← not_and_or, ← not_and_or, not_not] at clean
    exact ⟨fun _ => clean, fun _ => rfl⟩

/-- The process passes an archive whose directory it can read and in which it finds nothing. -/
theorem exitCode_eq_zero_iff :
    (verifyProcess inflateRawSync zipPath buffer).exitCode = 0 ↔
      ∃ entries, readZipEntries zipPath buffer = .ok entries ∧
        (∀ entry ∈ entries, isForbiddenArchivePath entry.path = false) ∧
        (∀ required ∈ requiredArchiveEntries,
          ∃ entry ∈ entries, normalizeArchivePath entry.path = required) ∧
        ∀ entry ∈ entries, scanEntry inflateRawSync buffer entry = .ok [] := by
  unfold verifyProcess verifyArchive
  cases readable : readZipEntries zipPath buffer with
  | error error =>
      constructor
      · intro passes
        cases passes
      · intro found
        obtain ⟨_, other, _⟩ := found
        cases other
  | ok entries =>
      dsimp only
      have scanned := @scanEntries_eq_nil_iff inflateRawSync buffer entries
      constructor
      · intro passes
        refine ⟨entries, rfl, ?_⟩
        cases findings : scanEntries inflateRawSync buffer entries with
        | error error =>
            rw [findings] at passes
            cases passes
        | ok findings' =>
            rw [findings] at passes scanned
            obtain ⟨allowed, complete, clean⟩ := reportOn_passes_iff.mp passes
            exact ⟨allowed, complete, scanned.mp (congrArg Except.ok clean)⟩
      · intro found
        obtain ⟨others, same, allowed, complete, clean⟩ := found
        cases same
        rw [scanned.mpr clean]
        exact reportOn_passes_iff.mpr ⟨allowed, complete, rfl⟩

end Outcome

section Members

variable (inflateRawSync : Buffer → Reading Buffer)

/-- A member whose text is looked at. -/
structure Member.Scanned (member : Member) : Prop where
  nonempty : 0 < member.uncompressedSize.toNat
  small : member.uncompressedSize.toNat ≤ contentScanMaxBytes
  text : textExtensions.any (endsWithIgnoringCase (normalizeArchivePath member.name)) = true
  noTest : shouldScanEntryForSecrets (normalizeArchivePath member.name) = true

/-- What the check is for: the archive may be published. -/
structure Releasable (members : List Member) : Prop where
  allowed : ∀ member ∈ members, Allowed (segments (normalizeArchivePath member.name))
  complete : ∀ required ∈ requiredArchiveEntries,
    ∃ member ∈ members, normalizeArchivePath member.name = required
  clean : ∀ member ∈ members, member.Scanned → ∃ bytes, member.content inflateRawSync = .ok bytes ∧
    scanTextForSecrets (decodeUtf8 bytes) (normalizeArchivePath member.name) = []

theorem exitCode_cases (zipPath : String) (buffer : Buffer) :
    (verifyProcess inflateRawSync zipPath buffer).exitCode = 0 ∨
      (verifyProcess inflateRawSync zipPath buffer).exitCode = 1 := by
  unfold verifyProcess verifyArchive
  cases readZipEntries zipPath buffer with
  | error error => exact Or.inr rfl
  | ok entries =>
      dsimp only
      cases scanEntries inflateRawSync buffer entries with
      | error error => exact Or.inr rfl
      | ok findings =>
          dsimp only
          unfold reportOn
          dsimp only
          split
          · exact Or.inr rfl
          · exact Or.inl rfl

theorem members_located (start : Nat) (members : List Member) :
    (located start members).map Prod.snd = members := by
  induction members generalizing start with
  | nil => rfl
  | cons member members ih => rw [located, List.map_cons, ih]

theorem Archive.forall_entries (archive : Archive) {property : ZipEntry → Prop} :
    (∀ entry ∈ archive.entries, property entry) ↔
      ∀ place ∈ archive.placed, property (place.2.entry place.1) :=
  List.forall_mem_map

theorem Archive.scanEntry_eq (archive : Archive) {place : Nat × Member}
    (member : place ∈ archive.placed) :
    scanEntry inflateRawSync archive.bytes (place.2.entry place.1) = .ok [] ↔
      (place.2.Scanned → ∃ bytes, place.2.content inflateRawSync = .ok bytes ∧
        scanTextForSecrets (decodeUtf8 bytes) (normalizeArchivePath place.2.name) = []) := by
  have content : extractEntryBuffer inflateRawSync archive.bytes (place.2.entry place.1) =
      place.2.content inflateRawSync :=
    archive.extractEntryBuffer_eq inflateRawSync member
  unfold scanEntry
  rw [content]
  dsimp only
  have size : (place.2.entry place.1).uncompressedSize = place.2.uncompressedSize.toNat := rfl
  have path : (place.2.entry place.1).path = place.2.name := rfl
  rw [path]
  by_cases scanned : place.2.Scanned
  · have kept : ¬ ((place.2.entry place.1).uncompressedSize = 0 ∨
        (place.2.entry place.1).uncompressedSize > contentScanMaxBytes) := by
      have nonempty := scanned.nonempty
      have small := scanned.small
      omega
    rw [if_neg kept, if_neg (not_not.mpr scanned.text), if_neg (not_not.mpr scanned.noTest),
      forall_prop_of_true scanned]
    cases place.2.content inflateRawSync with
    | error error => simp
    | ok bytes => simp
  · refine ⟨fun _ read => absurd read scanned, fun _ => ?_⟩
    split
    · rfl
    · rename_i kept
      split
      · rfl
      · rename_i text
        split
        · rfl
        · rename_i noTest
          rw [not_not] at text noTest
          exact absurd
            { nonempty := by omega
              small := by omega
              text := text
              noTest := noTest } scanned

theorem exitCode_bytes_iff (zipPath : String) (archive : Archive) (clear : archive.Clear) :
    (verifyProcess inflateRawSync zipPath archive.bytes).exitCode = 0 ↔
      Releasable inflateRawSync archive.members := by
  have members := members_located archive.preamble.length archive.members
  have placed {property : Member → Prop} : (∀ place ∈ archive.placed, property place.2) ↔
      ∀ member ∈ archive.members, property member := by
    rw [← members, List.forall_mem_map]
    rfl
  rw [exitCode_eq_zero_iff]
  constructor
  · intro passes
    obtain ⟨entries, readable, allowed, complete, clean⟩ := passes
    rw [archive.readZipEntries_eq zipPath clear] at readable
    cases readable
    exact
      { allowed := by
          rw [← placed]
          intro place member
          rw [← isForbidden_eq_false_iff]
          exact archive.forall_entries.mp allowed place member
        complete := by
          intro required needed
          obtain ⟨entry, member, same⟩ := complete required needed
          obtain ⟨place, inside, rfl⟩ := List.mem_map.mp member
          exact ⟨place.2, members ▸ List.mem_map_of_mem inside, same⟩
        clean := by
          rw [← placed]
          intro place member
          rw [← archive.scanEntry_eq inflateRawSync member]
          exact archive.forall_entries.mp clean place member }
  · intro releasable
    refine ⟨archive.entries, archive.readZipEntries_eq zipPath clear, ?_, ?_, ?_⟩
    · rw [archive.forall_entries]
      intro place member
      rw [isForbidden_eq_false_iff]
      exact placed.mpr releasable.allowed place member
    · intro required needed
      obtain ⟨found, member, same⟩ := releasable.complete required needed
      rw [← members] at member
      obtain ⟨place, inside, rfl⟩ := List.mem_map.mp member
      exact ⟨place.2.entry place.1, List.mem_map_of_mem inside, same⟩
    · rw [archive.forall_entries]
      intro place member
      rw [archive.scanEntry_eq inflateRawSync member]
      exact placed.mpr releasable.clean place member

end Members

section Results

variable (inflateRawSync : Buffer → Reading Buffer) (zipPath : String)

/-- The bytes pass if and only if the archive may be published, and fail otherwise. -/
theorem check_decides_release (archive : Archive) (clear : archive.Clear) :
    ((verifyProcess inflateRawSync zipPath archive.bytes).exitCode = 0 ↔
      Releasable inflateRawSync archive.members) ∧
      ((verifyProcess inflateRawSync zipPath archive.bytes).exitCode = 1 ↔
        ¬ Releasable inflateRawSync archive.members) := by
  have passes := exitCode_bytes_iff inflateRawSync zipPath archive clear
  refine ⟨passes, ?_⟩
  rw [← passes]
  rcases exitCode_cases inflateRawSync zipPath archive.bytes with zero | one
  · rw [zero]
    decide
  · rw [one]
    decide

/-- Whatever the bytes are: when they pass, every path of the directory is allowed, and what is
unpacked from it stays in the directory chosen for it. -/
theorem passed_stays_inside {buffer : Buffer}
    (passes : (verifyProcess inflateRawSync zipPath buffer).exitCode = 0) :
    ∃ entries, readZipEntries zipPath buffer = .ok entries ∧ ∀ entry ∈ entries,
      Allowed (segments (normalizeArchivePath entry.path)) ∧
        ∀ (cwd : WorkingDirectory) (root : AbsolutePath), ∃ file : AbsolutePath,
          resolve cwd [root.text, normalizeArchivePath entry.path] = file.text ∧
            root.names <+: file.names := by
  obtain ⟨entries, readable, allowed, _⟩ := exitCode_eq_zero_iff.mp passes
  refine ⟨entries, readable, fun entry member => ⟨?_, fun cwd root => ?_⟩⟩
  · exact (isForbidden_eq_false_iff entry.path).mp (allowed entry member)
  · exact unpacked_below cwd root (allowed entry member)

theorem requiredMembers_releasable : Releasable inflateRawSync requiredMembers := by
  have names : (∀ member ∈ requiredMembers, isForbiddenArchivePath member.name = false) ∧
      ∀ required ∈ requiredArchiveEntries,
        required ∈ requiredMembers.map fun member => normalizeArchivePath member.name := by
    decide +kernel
  have empty : ∀ member ∈ requiredMembers, member.uncompressedSize.toNat = 0 := by
    decide
  exact
    { allowed := fun member inside => (isForbidden_eq_false_iff member.name).mp (names.1 member inside)
      complete := fun required needed => List.mem_map.mp (names.2 required needed)
      clean := fun member inside scanned =>
        absurd scanned.nonempty (Nat.not_lt.mpr (Nat.le_of_eq (empty member inside))) }

theorem requiredArchive_decided :
    (verifyProcess (fun data => .ok data) "release.zip" requiredArchive.bytes).exitCode = 0 :=
  (check_decides_release (fun data => .ok data) "release.zip" requiredArchive
    requiredArchive_clear).1.mpr (requiredMembers_releasable _)

theorem requiredArchive_stays_inside :
    ∃ entries, readZipEntries "release.zip" requiredArchive.bytes = .ok entries ∧
      ∀ entry ∈ entries, Allowed (segments (normalizeArchivePath entry.path)) := by
  have passes : (verifyProcess (fun data => .ok data) "release.zip"
      requiredArchive.bytes).exitCode = 0 :=
    (exitCode_bytes_iff _ _ requiredArchive requiredArchive_clear).mpr (requiredMembers_releasable _)
  obtain ⟨entries, readable, inside⟩ := passed_stays_inside _ _ passes
  exact ⟨entries, readable, fun entry member => (inside entry member).1⟩

end Results

end BackendFoundation.Release
