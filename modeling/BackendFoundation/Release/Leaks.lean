/-
Secrets in a text of the archive: a line that assigns one is reported, wherever it stands.
-/

import BackendFoundation.Release.VerifyArchive

namespace BackendFoundation.Release

open Bytes

/-- A line KEY=value with blanks around the sign and the value in quotes or not. -/
structure Assignment where
  key : List Char
  beforeSign : List Char
  behindSign : List Char
  opening : List Char
  value : List Char
  closing : List Char
  keyed : key ≠ []
  keyPlain : ∀ character ∈ key, isKeyCharacter character = true
  blankBefore : ∀ character ∈ beforeSign, character = ' '
  blankBehind : ∀ character ∈ behindSign, character = ' '
  opened : opening = [] ∨ ∃ quote, isQuote quote = true ∧ opening = [quote]
  closed : closing = [] ∨ ∃ quote, isQuote quote = true ∧ closing = [quote]
  long : 32 ≤ value.length
  random : ∀ character ∈ value, isEntropyCharacter character = true

namespace Assignment

variable (assigned : Assignment)

def line : List Char :=
  assigned.key ++ (assigned.beforeSign ++ '=' :: (assigned.behindSign ++
    (assigned.opening ++ (assigned.value ++ assigned.closing))))

/-- The key names a secret, the value is no placeholder, and it is too long for the example
file if it stands there. -/
structure Exposes (path : String) : Prop where
  secret : includes (String.ofList assigned.key) "SECRET" = true ∨
    includes (String.ofList assigned.key) "PASSWORD" = true ∨
      includes (String.ofList assigned.key) "TOKEN" = true
  genuine : ∀ front ∈ placeholderSecretPrefixes,
    startsWith (String.ofList assigned.value) front = false
  excessive : endsWith path ".env.example" = true → 64 < assigned.value.length

end Assignment

section Characters

variable {character : Char}

theorem entropy_of_key (inKey : isKeyCharacter character = true) :
    isEntropyCharacter character = true := by
  unfold isKeyCharacter isUpperOrDigit at inKey
  unfold isEntropyCharacter Char.isAlphanum Char.isAlpha
  simp only [Bool.or_eq_true] at inKey ⊢
  tauto

theorem code_of_entropy (random : isEntropyCharacter character = true) :
    43 ≤ character.toNat ∧ character.toNat ≤ 122 := by
  have code : character.toNat = character.val.toNat := rfl
  unfold isEntropyCharacter Char.isAlphanum Char.isAlpha Char.isUpper Char.isLower Char.isDigit
    at random
  simp only [Bool.or_eq_true, Bool.and_eq_true, decide_eq_true_eq, beq_iff_eq, ge_iff_le,
    UInt32.le_iff_toNat_le] at random
  have bounds : 'A'.val.toNat = 65 ∧ 'Z'.val.toNat = 90 ∧ 'a'.val.toNat = 97 ∧
      'z'.val.toNat = 122 ∧ '0'.val.toNat = 48 ∧ '9'.val.toNat = 57 :=
    ⟨rfl, rfl, rfl, rfl, rfl, rfl⟩
  rcases random with ((((alphanumeric | rfl) | rfl) | rfl) | rfl) | rfl
  · omega
  all_goals decide

theorem isSpace_eq_false (lower : 33 ≤ character.toNat) (upper : character.toNat ≤ 126) :
    Users.isSpace character = false := by
  rw [Bool.eq_false_iff]
  intro space
  unfold Users.isSpace at space
  simp only [Bool.or_eq_true, Bool.and_eq_true, decide_eq_true_eq, beq_iff_eq] at space
  omega

theorem isQuote_eq_false (lower : 43 ≤ character.toNat) : isQuote character = false := by
  rw [Bool.eq_false_iff]
  intro quote
  unfold isQuote at quote
  simp only [Bool.or_eq_true, beq_iff_eq] at quote
  rcases quote with rfl | rfl
  · exact absurd lower (by decide)
  · exact absurd lower (by decide)

theorem code_of_quote (quote : isQuote character = true) :
    33 ≤ character.toNat ∧ character.toNat ≤ 126 := by
  unfold isQuote at quote
  simp only [Bool.or_eq_true, beq_iff_eq] at quote
  rcases quote with rfl | rfl
  · decide
  · decide

theorem isLineTerminator_eq_false (lower : 33 ≤ character.toNat) (upper : character.toNat ≤ 126) :
    isLineTerminator character = false := by
  rw [Bool.eq_false_iff]
  intro terminator
  unfold isLineTerminator at terminator
  simp only [Bool.or_eq_true, beq_iff_eq] at terminator
  rcases terminator with ((rfl | rfl) | rfl) | rfl
  · exact absurd lower (by decide)
  · exact absurd lower (by decide)
  · exact absurd upper (by decide)
  · exact absurd upper (by decide)

theorem dropWhile_eq_self {Item : Type} {drop : Item → Bool} {items : List Item}
    (kept : ∀ item ∈ items, drop item = false) : items.dropWhile drop = items := by
  cases items with
  | nil => rfl
  | cons item items =>
      rw [List.dropWhile_cons_of_neg]
      rw [kept item List.mem_cons_self]
      exact Bool.false_ne_true

theorem trim_eq_self {characters : List Char}
    (plain : ∀ character ∈ characters, Users.isSpace character = false) :
    Users.trim (String.ofList characters) = String.ofList characters := by
  unfold Users.trim
  rw [String.toList_ofList, dropWhile_eq_self plain,
    dropWhile_eq_self fun character member => plain character (List.mem_reverse.mp member),
    List.reverse_reverse]

/-- A run that is long enough is found, whatever has been counted before. -/
theorem hasEntropyRun_of_long {run : Nat} {characters : List Char}
    (random : ∀ character ∈ characters, isEntropyCharacter character = true)
    (long : 32 ≤ run + characters.length) : hasEntropyRun run characters = true := by
  induction characters generalizing run with
  | nil => exact decide_eq_true long
  | cons character characters ih =>
      have later := @ih (run + 1) (fun other member =>
        random other (List.mem_cons_of_mem character member))
        (by rw [List.length_cons] at long; omega)
      rw [hasEntropyRun, if_pos (random character List.mem_cons_self), later, Bool.or_true]

theorem utf16Length_eq {characters : List Char}
    (small : ∀ character ∈ characters, character.toNat < 0x10000) :
    utf16Length (String.ofList characters) = characters.length := by
  have noPairs : characters.countP (fun character => decide (0x10000 ≤ character.toNat)) = 0 := by
    rw [List.countP_eq_zero]
    intro character member
    have below := small character member
    simp only [decide_eq_true_eq]
    omega
  rw [utf16Length, String.toList_ofList, noPairs, Nat.add_zero]

end Characters

namespace Assignment

variable (assigned : Assignment)

def rawValue : List Char :=
  assigned.opening ++ (assigned.value ++ assigned.closing)

theorem value_ne_nil : assigned.value ≠ [] := by
  intro empty
  have long := assigned.long
  rw [empty] at long
  exact absurd long (by decide)

theorem code_of_mem {character : Char} (member : character ∈ assigned.rawValue) :
    33 ≤ character.toNat ∧ character.toNat ≤ 126 := by
  have quoted : ∀ quotes : List Char,
      (quotes = [] ∨ ∃ quote, isQuote quote = true ∧ quotes = [quote]) → character ∈ quotes →
        33 ≤ character.toNat ∧ character.toNat ≤ 126 := by
    intro quotes shape inside
    rcases shape with rfl | ⟨quote, isQuote, rfl⟩
    · exact absurd inside List.not_mem_nil
    · rw [List.mem_singleton.mp inside]
      exact code_of_quote isQuote
  unfold rawValue at member
  rw [List.mem_append, List.mem_append] at member
  rcases member with opening | inside | closing
  · exact quoted _ assigned.opened opening
  · have code := code_of_entropy (assigned.random character inside)
    omega
  · exact quoted _ assigned.closed closing

theorem dropWhile_blanks {blanks rest : List Char} (blank : ∀ character ∈ blanks, character = ' ') :
    (blanks ++ rest).dropWhile Users.isSpace = rest.dropWhile Users.isSpace := by
  rw [List.dropWhile_append_of_pos]
  intro character member
  rw [blank character member]
  rfl

/-- The pattern takes the line apart where the assignment does. -/
theorem assignment_line : Release.assignment assigned.line =
    some (String.ofList assigned.key, String.ofList assigned.rawValue) := by
  have stops : ∃ mark rest, isKeyCharacter mark = false ∧
      assigned.beforeSign ++ '=' :: (assigned.behindSign ++ assigned.rawValue) = mark :: rest := by
    cases before : assigned.beforeSign with
    | nil => exact ⟨'=', _, rfl, rfl⟩
    | cons mark rest =>
        have blank := assigned.blankBefore mark (before ▸ List.mem_cons_self)
        exact ⟨mark, _, by rw [blank]; rfl, rfl⟩
  obtain ⟨mark, rest, other, behind⟩ := stops
  have line : assigned.line = assigned.key ++ mark :: rest := by
    rw [← behind]
    rfl
  have stop : ¬ isKeyCharacter mark = true := by
    rw [other]
    exact Bool.false_ne_true
  have key : assigned.line.takeWhile isKeyCharacter = assigned.key := by
    rw [line, List.takeWhile_append_of_pos assigned.keyPlain, List.takeWhile_cons_of_neg stop,
      List.append_nil]
  have remaining : assigned.line.dropWhile isKeyCharacter = mark :: rest := by
    rw [line, List.dropWhile_append_of_pos assigned.keyPlain, List.dropWhile_cons_of_neg stop]
  have sign : (mark :: rest).dropWhile Users.isSpace =
      '=' :: (assigned.behindSign ++ assigned.rawValue) := by
    rw [← behind, dropWhile_blanks assigned.blankBefore, List.dropWhile_cons_of_neg (by decide)]
  have value : (assigned.behindSign ++ assigned.rawValue).dropWhile Users.isSpace =
      assigned.rawValue := by
    rw [dropWhile_blanks assigned.blankBehind]
    apply dropWhile_eq_self
    intro character member
    obtain ⟨lower, upper⟩ := assigned.code_of_mem member
    exact isSpace_eq_false lower upper
  have nonempty : assigned.rawValue ≠ [] := by
    intro empty
    have parts := List.append_eq_nil_iff.mp (List.append_eq_nil_iff.mp empty).2
    exact assigned.value_ne_nil parts.1
  have terminated : ¬ assigned.rawValue.any isLineTerminator = true := by
    rw [List.any_eq_true]
    intro found
    obtain ⟨character, member, terminator⟩ := found
    obtain ⟨lower, upper⟩ := assigned.code_of_mem member
    rw [isLineTerminator_eq_false lower upper] at terminator
    exact Bool.false_ne_true terminator
  unfold Release.assignment
  rw [key, remaining, sign]
  dsimp only
  rw [value, if_neg nonempty, if_neg]
  intro refused
  rcases refused with noSign | noKey | noValue | terminator
  · exact noSign rfl
  · exact assigned.keyed noKey
  · exact nonempty noValue
  · exact terminated terminator

theorem dropOpening_rawValue :
    dropOpening assigned.rawValue = assigned.value ++ assigned.closing := by
  unfold rawValue
  rcases assigned.opened with opening | ⟨quote, quoted, opening⟩
  · obtain ⟨first, rest, value⟩ := List.exists_cons_of_ne_nil assigned.value_ne_nil
    have plain : isQuote first = false :=
      isQuote_eq_false (code_of_entropy (assigned.random first (value ▸ List.mem_cons_self))).1
    rw [opening, value]
    exact if_neg (by rw [plain]; exact Bool.false_ne_true)
  · rw [opening]
    exact if_pos quoted

theorem dropClosing_value :
    dropClosing (assigned.value ++ assigned.closing) = assigned.value := by
  unfold dropClosing
  rcases assigned.closed with closing | ⟨quote, quoted, closing⟩
  · have plain : assigned.value.getLast?.any isQuote = false := by
      rw [List.getLast?_eq_some_getLast assigned.value_ne_nil, Option.any_some]
      exact isQuote_eq_false (code_of_entropy
        (assigned.random _ (List.getLast_mem assigned.value_ne_nil))).1
    rw [closing, List.append_nil, plain, if_neg Bool.false_ne_true]
  · rw [closing, List.getLast?_concat, Option.any_some, if_pos quoted, List.dropLast_concat]

theorem unquote_rawValue :
    unquote (String.ofList assigned.rawValue) = String.ofList assigned.value := by
  unfold unquote
  rw [String.toList_ofList, assigned.dropOpening_rawValue, assigned.dropClosing_value]

/-- The value that is looked at is the value of the assignment. -/
theorem value_read : unquote (Users.trim (String.ofList assigned.rawValue)) =
    String.ofList assigned.value := by
  rw [trim_eq_self, assigned.unquote_rawValue]
  intro character member
  obtain ⟨lower, upper⟩ := assigned.code_of_mem member
  exact isSpace_eq_false lower upper

theorem not_placeholder {path : String} (exposed : assigned.Exposes path) :
    isLikelyPlaceholderSecret (String.ofList assigned.value) = false := by
  have trimmed : Users.trim (String.ofList assigned.value) = String.ofList assigned.value := by
    apply trim_eq_self
    intro character member
    have code := code_of_entropy (assigned.random character member)
    exact isSpace_eq_false (by omega) (by omega)
  have short : ∀ value ∈ placeholderSecretValues, value.toList.length < 32 := by decide
  unfold isLikelyPlaceholderSecret
  rw [trimmed, Bool.or_eq_false_iff]
  constructor
  · rw [Bool.eq_false_iff]
    intro found
    have bound := short _ (List.contains_iff_mem.mp found)
    rw [String.toList_ofList] at bound
    exact absurd assigned.long (Nat.not_le.mpr bound)
  · rw [List.any_eq_false]
    intro front member
    rw [exposed.genuine front member]
    exact Bool.false_ne_true

/-- The line is reported, under the number it has in the text. -/
theorem scanLine_line {path : String} (exposed : assigned.Exposes path) (index : Nat) :
    scanLine path index assigned.line =
      [{ id := "high-entropy-assignment"
         message := "High-entropy " ++ String.ofList assigned.key ++ " assignment in " ++ path
         line := index + 1 }] := by
  have length : utf16Length (String.ofList assigned.value) = assigned.value.length := by
    apply utf16Length_eq
    intro character member
    have code := code_of_entropy (assigned.random character member)
    omega
  have run : hasEntropyRun 0 assigned.value = true :=
    hasEntropyRun_of_long assigned.random (by rw [Nat.zero_add]; exact assigned.long)
  have secret : ¬ (!includes (String.ofList assigned.key) "SECRET" &&
      !includes (String.ofList assigned.key) "PASSWORD" &&
        !includes (String.ofList assigned.key) "TOKEN") = true := by
    rcases exposed.secret with named | named | named <;> simp [named]
  have excessive : ¬ (endsWith path ".env.example" && decide (assigned.value.length ≤ 64)) = true := by
    rw [Bool.and_eq_true, decide_eq_true_eq]
    intro example_file
    exact absurd (exposed.excessive example_file.1) (Nat.not_lt.mpr example_file.2)
  unfold scanLine
  rw [assigned.assignment_line]
  dsimp only
  rw [assigned.value_read, assigned.not_placeholder exposed, length, if_neg secret,
    if_neg Bool.false_ne_true, if_neg excessive, String.toList_ofList, run, Bool.and_true,
    if_pos (decide_eq_true assigned.long)]

end Assignment

section Lines

/-- The line stands between line ends, or at an end of the text. -/
def LineOf (content : String) (line : List Char) : Prop :=
  ∃ before behind, content.toList = before ++ (line ++ behind) ∧
    (before = [] ∨ ∃ earlier, before = earlier ++ ['\n']) ∧
    (behind = [] ∨ ∃ later, behind = '\n' :: later ∨ behind = '\r' :: '\n' :: later)

theorem mem_scanLines {path : String} {line : List Char} {lines : List (List Char)}
    (member : line ∈ lines) (start : Nat) {finding : SecretFinding}
    (reported : ∀ index, ∃ found ∈ scanLine path index line, found.id = finding.id) :
    ∃ found ∈ scanLines path start lines, found.id = finding.id := by
  induction lines generalizing start with
  | nil => exact absurd member List.not_mem_nil
  | cons first lines ih =>
      rw [scanLines]
      rcases List.mem_cons.mp member with rfl | later
      · obtain ⟨found, inside, same⟩ := reported start
        exact ⟨found, List.mem_append_left _ inside, same⟩
      · obtain ⟨found, inside, same⟩ := ih later (start + 1)
        exact ⟨found, List.mem_append_right _ inside, same⟩

theorem mem_splitLines {content : String} {line piece : List Char} {front back : List (List Char)}
    (pieces : content.toList.splitOn '\n' = front ++ piece :: back)
    (same : back = [] ∧ piece = line ∨ back ≠ [] ∧ chopReturn piece = line) :
    line ∈ splitLines content := by
  unfold splitLines
  rw [pieces]
  rcases same with ⟨rfl, rfl⟩ | ⟨nonempty, rfl⟩
  · apply List.mem_append_right
    rw [List.getLast?_concat]
    exact List.mem_cons_self
  · apply List.mem_append_left
    apply List.mem_map_of_mem
    rw [List.dropLast_append_of_ne_nil (List.cons_ne_nil piece back),
      List.dropLast_cons_of_ne_nil nonempty]
    exact List.mem_append_right front List.mem_cons_self

theorem mem_splitLines_of_line {content : String} {line : List Char}
    (stands : LineOf content line) (oneLine : '\n' ∉ line) (noReturn : '\r' ∉ line) :
    line ∈ splitLines content := by
  obtain ⟨before, behind, whole, starts, ends⟩ := stands
  have single : line.splitOn '\n' = [line] := List.splitOn_eq_singleton oneLine
  have kept : chopReturn line = line :=
    if_neg fun last => noReturn (List.mem_of_getLast? last)
  have chopped : chopReturn (line ++ ['\r']) = line := by
    unfold chopReturn
    rw [List.getLast?_concat, if_pos rfl, List.dropLast_concat]
  have pieces : ∃ piece back, (line ++ behind).splitOn '\n' = piece :: back ∧
      (back = [] ∧ piece = line ∨ back ≠ [] ∧ chopReturn piece = line) := by
    rcases ends with rfl | ⟨later, rfl | rfl⟩
    · exact ⟨line, [], by rw [List.append_nil, single], Or.inl ⟨rfl, rfl⟩⟩
    · refine ⟨line, later.splitOn '\n', ?_, Or.inr ⟨List.splitOn_ne_nil '\n' later, kept⟩⟩
      rw [List.splitOn_append_cons_self, single]
      rfl
    · refine ⟨line ++ ['\r'], later.splitOn '\n', ?_,
        Or.inr ⟨List.splitOn_ne_nil '\n' later, chopped⟩⟩
      have split : line ++ '\r' :: '\n' :: later = (line ++ ['\r']) ++ '\n' :: later := by
        rw [List.append_assoc]
        rfl
      have plain : '\n' ∉ line ++ ['\r'] := by
        intro member
        rcases List.mem_append.mp member with inside | last
        · exact oneLine inside
        · exact absurd (List.mem_singleton.mp last) (by decide)
      rw [split, List.splitOn_append_cons_self, List.splitOn_eq_singleton plain]
      rfl
  obtain ⟨piece, back, pieces, same⟩ := pieces
  rcases starts with rfl | ⟨earlier, rfl⟩
  · exact @mem_splitLines content line piece [] back (by rw [whole]; exact pieces) same
  · refine @mem_splitLines content line piece (earlier.splitOn '\n') back ?_ same
    rw [whole, List.append_assoc, List.singleton_append, List.splitOn_append_cons_self, pieces]

end Lines

theorem Assignment.code_line (assigned : Assignment) {character : Char}
    (member : character ∈ assigned.line) : 32 ≤ character.toNat := by
  have blank : ∀ blanks : List Char, (∀ other ∈ blanks, other = ' ') → character ∈ blanks →
      32 ≤ character.toNat := by
    intro blanks all inside
    rw [all character inside]
    decide
  unfold Assignment.line at member
  rw [List.mem_append, List.mem_append, List.mem_cons, List.mem_append] at member
  rcases member with key | before | sign | behind | raw
  · have code := code_of_entropy (entropy_of_key (assigned.keyPlain character key))
    omega
  · exact blank _ assigned.blankBefore before
  · rw [sign]
    decide
  · exact blank _ assigned.blankBehind behind
  · have code := assigned.code_of_mem raw
    omega

/-- An assignment of a secret on any line of a text is found. -/
theorem Assignment.reported (assigned : Assignment) {content path : String}
    (exposed : assigned.Exposes (normalizeArchivePath path)) (stands : LineOf content assigned.line) :
    ∃ finding ∈ scanTextForSecrets content path, finding.id = "high-entropy-assignment" := by
  have inside : assigned.line ∈ splitLines content := by
    apply mem_splitLines_of_line stands
    · intro member
      exact absurd (assigned.code_line member) (by decide)
    · intro member
      exact absurd (assigned.code_line member) (by decide)
  obtain ⟨finding, found, same⟩ := @mem_scanLines (normalizeArchivePath path) assigned.line
    (splitLines content) inside 0
    { id := "high-entropy-assignment"
      message := ""
      line := 0 }
    (fun index => by
      rw [assigned.scanLine_line exposed index]
      exact ⟨_, List.mem_cons_self, rfl⟩)
  exact ⟨finding, List.mem_append_right _ found, same⟩

section Results

variable (inflateRawSync : Buffer → Reading Buffer) (zipPath : String)

/-- An archive with a member whose text assigns a secret on one of its lines never passes. -/
theorem leak_never_passes (archive : Archive) (clear : archive.Clear) {member : Member}
    (inside : member ∈ archive.members) (scanned : member.Scanned) {bytes : Buffer}
    (content : member.content inflateRawSync = .ok bytes) (assigned : Assignment)
    (stands : LineOf (decodeUtf8 bytes) assigned.line)
    (exposed : assigned.Exposes (normalizeArchivePath member.name)) :
    (verifyProcess inflateRawSync zipPath archive.bytes).exitCode = 1 := by
  rcases exitCode_cases inflateRawSync zipPath archive.bytes with zero | one
  · have releasable := (exitCode_bytes_iff inflateRawSync zipPath archive clear).mp zero
    obtain ⟨bytes', same, clean⟩ := releasable.clean member inside scanned
    rw [content] at same
    cases same
    rw [← normalizeArchivePath_idem] at exposed
    obtain ⟨finding, found, _⟩ := assigned.reported exposed stands
    rw [clean] at found
    exact absurd found List.not_mem_nil
  · exact one

theorem token_key :
    ∀ character ∈ "API_TOKEN".toList, isKeyCharacter character = true :=
  List.all_eq_true.mp rfl

theorem token_blank : ∀ character ∈ [' '], character = ' ' :=
  fun _ member => List.mem_singleton.mp member

theorem token_random : ∀ character ∈ "abcdefghijklmnopqrstuvwxyz0123456789".toList,
    isEntropyCharacter character = true :=
  List.all_eq_true.mp rfl

theorem token_long : 32 ≤ "abcdefghijklmnopqrstuvwxyz0123456789".toList.length := by
  decide

def tokenAssignment : Assignment :=
  { key := "API_TOKEN".toList
    beforeSign := [' ']
    behindSign := [' ']
    opening := ['\'']
    value := "abcdefghijklmnopqrstuvwxyz0123456789".toList
    closing := ['\'']
    keyed := List.cons_ne_nil _ _
    keyPlain := token_key
    blankBefore := token_blank
    blankBehind := token_blank
    opened := Or.inr ⟨'\'', rfl, rfl⟩
    closed := Or.inr ⟨'\'', rfl, rfl⟩
    long := token_long
    random := token_random }

theorem note_text :
    textExtensions.any (endsWithIgnoringCase (normalizeArchivePath noteMember.name)) = true ∧
      shouldScanEntryForSecrets (normalizeArchivePath noteMember.name) = true ∧
        endsWith (normalizeArchivePath noteMember.name) ".env.example" = false := by
  decide +kernel

theorem leakingArchive_fails :
    (verifyProcess (fun data => .ok data) "release.zip" leakingArchive.bytes).exitCode = 1 := by
  have scanned : noteMember.Scanned :=
    { nonempty := by decide
      small := by decide
      text := note_text.1
      noTest := note_text.2.1 }
  have content : noteMember.content (fun data => .ok data) = .ok (Redis.utf8 noteText) := rfl
  have stands : LineOf (decodeUtf8 (Redis.utf8 noteText)) tokenAssignment.line := by
    rw [decodeUtf8_utf8]
    refine ⟨"first line\r\n".toList, ['\n'], by decide, ?_, Or.inr ⟨[], Or.inl rfl⟩⟩
    exact Or.inr ⟨"first line\r".toList, by decide⟩
  have exposed : tokenAssignment.Exposes (normalizeArchivePath noteMember.name) :=
    { secret := Or.inr (Or.inr (by decide))
      genuine := by decide
      excessive := fun example_file =>
        absurd (note_text.2.2.symm.trans example_file) Bool.false_ne_true }
  exact leak_never_passes _ _ leakingArchive leakingArchive_clear List.mem_cons_self scanned content
    tokenAssignment stands exposed

end Results

end BackendFoundation.Release
