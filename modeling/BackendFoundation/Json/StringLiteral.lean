/-
String literals of JSON: what JSON.stringify writes for a text and how JSON.parse reads
it back. A text is a list of Unicode scalar values, so no surrogate stands alone.
-/

import Mathlib.Data.List.Basic
import Mathlib.Data.Option.Basic

namespace BackendFoundation.Json

def quotation : Char := '"'

def backslash : Char := Char.ofNat 0x5C

/-- The characters that are escaped by a letter: backspace, tab, line feed, form feed,
carriage return, and the two that delimit. -/
def letters : List (Char × Char) :=
  [(Char.ofNat 8, 'b'), (Char.ofNat 9, 't'), (Char.ofNat 10, 'n'), (Char.ofNat 12, 'f'),
    (Char.ofNat 13, 'r'), (quotation, quotation), (backslash, backslash)]

def hexDigit (value : Nat) : Char :=
  if value < 10 then Char.ofNat (0x30 + value) else Char.ofNat (0x57 + value)

def hexValue (digit : Char) : Option Nat :=
  let code := digit.toNat
  if 0x30 ≤ code ∧ code ≤ 0x39 then some (code - 0x30)
  else if 0x61 ≤ code ∧ code ≤ 0x66 then some (code - 0x57)
  else if 0x41 ≤ code ∧ code ≤ 0x46 then some (code - 0x37)
  else none

def escape (character : Char) : List Char :=
  match letters.lookup character with
  | some letter => [backslash, letter]
  | none =>
      if character.toNat < 0x20 then
        [backslash, 'u', '0', '0', hexDigit (character.toNat / 16),
          hexDigit (character.toNat % 16)]
      else [character]

/-- A literal and its closing quotation mark. -/
def quote (text : List Char) : List Char :=
  quotation :: (text.flatMap escape ++ [quotation])

/-- The letter after a backslash. -/
def unescape (letter : Char) : Option Char :=
  if letter = '/' then some letter else (letters.find? fun pair => pair.2 = letter).map Prod.fst

/-- Where the reader of a literal stands: at a character of its own, behind a backslash, or
in an escape of four hexadecimal digits, of which so many are missing after the next. -/
inductive Position
  | plain
  | escaped
  | code (missing value : Nat)

def prepend (character : Char) (read : List Char × List Char) : List Char × List Char :=
  (character :: read.1, read.2)

/-- The text up to the closing quotation mark, and what follows. Surrogates are refused. -/
def readString : Position → List Char → Option (List Char × List Char)
  | _, [] => none
  | .plain, character :: rest =>
      if character = quotation then some ([], rest)
      else if character = backslash then readString .escaped rest
      else if character.toNat < 0x20 then none
      else (readString .plain rest).map (prepend character)
  | .escaped, letter :: rest =>
      if letter = 'u' then readString (.code 3 0) rest
      else (unescape letter).bind fun character =>
        (readString .plain rest).map (prepend character)
  | .code missing value, digit :: rest =>
      (hexValue digit).bind fun digit =>
        let value := value * 16 + digit
        match missing with
        | missing + 1 => readString (.code missing value) rest
        | 0 =>
            if value.isValidChar then (readString .plain rest).map (prepend (Char.ofNat value))
            else none

theorem unescape_letters : ∀ pair ∈ letters,
    pair.2 ≠ 'u' ∧ unescape pair.2 = some pair.1 := by
  decide

theorem hexValue_hexDigit : ∀ value < 16, hexValue (hexDigit value) = some value := by
  decide

/-- The two characters that are not read as themselves have letters. -/
theorem plain_of_unlettered {character : Char} (unlettered : letters.lookup character = none) :
    character ≠ quotation ∧ character ≠ backslash := by
  constructor
  · intro same
    subst same
    exact absurd unlettered (by decide)
  · intro same
    subst same
    exact absurd unlettered (by decide)

theorem readString_letter {character letter : Char}
    (lettered : letters.lookup character = some letter) (rest : List Char) :
    readString .plain (backslash :: letter :: rest) =
      (readString .plain rest).map (prepend character) := by
  obtain ⟨before, after, split, _⟩ := List.lookup_eq_some_iff.mp lettered
  have listed : (character, letter) ∈ letters := by
    rw [split]
    exact List.mem_append_right _ List.mem_cons_self
  obtain ⟨notCode, unescaped⟩ := unescape_letters _ listed
  rw [readString, if_neg (by decide), if_pos rfl, readString, if_neg notCode, unescaped,
    Option.bind_some]

theorem readString_control {character : Char} (control : character.toNat < 0x20)
    (rest : List Char) :
    readString .plain (backslash :: 'u' :: '0' :: '0' :: hexDigit (character.toNat / 16) ::
        hexDigit (character.toNat % 16) :: rest) =
      (readString .plain rest).map (prepend character) := by
  have zero : hexValue '0' = some 0 := by decide
  have third := hexValue_hexDigit (character.toNat / 16) (by omega)
  have fourth := hexValue_hexDigit (character.toNat % 16) (by omega)
  have code : ((0 * 16 + 0) * 16 + character.toNat / 16) * 16 + character.toNat % 16 =
      character.toNat := by omega
  have valid : character.toNat.isValidChar := character.valid
  rw [readString, if_neg (by decide), if_pos rfl, readString, if_pos rfl]
  simp only [readString, zero, third, fourth, Option.bind_some]
  rw [code, if_pos valid, Char.ofNat_toNat]

/-- One escaped character is read back. -/
theorem readString_escape (character : Char) (rest : List Char) :
    readString .plain (escape character ++ rest) =
      (readString .plain rest).map (prepend character) := by
  unfold escape
  cases lettered : letters.lookup character with
  | some letter => exact readString_letter lettered rest
  | none =>
      by_cases control : character.toNat < 0x20
      · simp only [if_pos control]
        exact readString_control control rest
      · obtain ⟨opening, escaping⟩ := plain_of_unlettered lettered
        simp only [if_neg control]
        change readString .plain (character :: rest) = _
        rw [readString, if_neg opening, if_neg escaping, if_neg control]

theorem readString_quoted (text rest : List Char) :
    readString .plain (text.flatMap escape ++ quotation :: rest) = some (text, rest) := by
  induction text with
  | nil => rw [List.flatMap_nil, List.nil_append, readString, if_pos rfl]
  | cons character text ih =>
      rw [List.flatMap_cons, List.append_assoc, readString_escape, ih]
      rfl

/-- A literal ends where it says, so a text after it does not blur what it stands for. -/
theorem quote_append_inj {text other rest rest' : List Char}
    (same : quote text ++ rest = quote other ++ rest') : text = other ∧ rest = rest' := by
  have bodies : text.flatMap escape ++ quotation :: rest =
      other.flatMap escape ++ quotation :: rest' := by
    simpa only [quote, List.cons_append, List.append_assoc, List.nil_append,
      List.cons.injEq, true_and] using same
  have read := readString_quoted text rest
  rw [bodies, readString_quoted other rest'] at read
  cases read
  exact ⟨rfl, rfl⟩

end BackendFoundation.Json
