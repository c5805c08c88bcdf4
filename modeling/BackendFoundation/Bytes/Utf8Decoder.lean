/-
The UTF-8 decoder that puts U+FFFD where bytes are no text.

It takes one byte after the other. Between two bytes it knows which character has begun and
in which range the next byte has to be. What was encoded comes back unchanged.
-/

import BackendFoundation.Bytes.LittleEndian
import BackendFoundation.Redis.Utf8

namespace BackendFoundation.Bytes

/-- A character that has begun. -/
structure Pending where
  code : Nat
  needed : Nat
  lower : Nat
  upper : Nat

def replacement : Char :=
  '\uFFFD'

/-- The first byte of a character. -/
def start (byte : Nat) : List Char × Option Pending :=
  if byte < 0x80 then ([Char.ofNat byte], none)
  else if 0xC2 ≤ byte ∧ byte ≤ 0xDF then
    ([], some
      { code := byte % 0x20
        needed := 1
        lower := 0x80
        upper := 0xBF })
  else if 0xE0 ≤ byte ∧ byte ≤ 0xEF then
    ([], some
      { code := byte % 0x10
        needed := 2
        lower := if byte = 0xE0 then 0xA0 else 0x80
        upper := if byte = 0xED then 0x9F else 0xBF })
  else if 0xF0 ≤ byte ∧ byte ≤ 0xF4 then
    ([], some
      { code := byte % 0x08
        needed := 3
        lower := if byte = 0xF0 then 0x90 else 0x80
        upper := if byte = 0xF4 then 0x8F else 0xBF })
  else ([replacement], none)

/-- A byte out of range ends the character before it and is looked at again. -/
def feed : Option Pending → Nat → List Char × Option Pending
  | none, byte => start byte
  | some pending, byte =>
      if pending.lower ≤ byte ∧ byte ≤ pending.upper then
        let code := pending.code * 64 + byte % 64
        if pending.needed = 1 then ([Char.ofNat code], none)
        else
          ([], some
            { code := code
              needed := pending.needed - 1
              lower := 0x80
              upper := 0xBF })
      else (replacement :: (start byte).1, (start byte).2)

def decodeFrom : Option Pending → Buffer → List Char
  | none, [] => []
  | some _, [] => [replacement]
  | state, byte :: bytes =>
      (feed state byte.toNat).1 ++ decodeFrom (feed state byte.toNat).2 bytes

def decodeUtf8 (bytes : Buffer) : String :=
  String.ofList (decodeFrom none bytes)

theorem decodeFrom_cons {state following : Option Pending} {byte : UInt8} {code : Nat}
    {written : List Char} (bytes : Buffer) (same : byte.toNat = code)
    (fed : feed state code = (written, following)) :
    decodeFrom state (byte :: bytes) = written ++ decodeFrom following bytes := by
  subst same
  cases state <;> rw [decodeFrom, fed]

/-- A byte in the middle of a character. -/
theorem feed_middle {pending : Pending} {byte : Nat} (more : pending.needed ≠ 1)
    (lower : pending.lower ≤ byte) (upper : byte ≤ pending.upper) :
    feed (some pending) byte = ([], some
      { code := pending.code * 64 + byte % 64
        needed := pending.needed - 1
        lower := 0x80
        upper := 0xBF }) := by
  simp only [feed, if_pos (And.intro lower upper), if_neg more]

theorem feed_last {pending : Pending} {byte : Nat} (last : pending.needed = 1)
    (lower : pending.lower ≤ byte) (upper : byte ≤ pending.upper) :
    feed (some pending) byte = ([Char.ofNat (pending.code * 64 + byte % 64)], none) := by
  simp only [feed, if_pos (And.intro lower upper), if_pos last]

section Start

variable {byte : Nat}

theorem start_two (lower : 0xC2 ≤ byte) (upper : byte ≤ 0xDF) :
    feed none byte = ([], some
      { code := byte % 0x20
        needed := 1
        lower := 0x80
        upper := 0xBF }) := by
  simp only [feed, start, if_neg (show ¬ byte < 0x80 by omega), if_pos (And.intro lower upper)]

theorem start_three (lower : 0xE0 ≤ byte) (upper : byte ≤ 0xEF) :
    feed none byte = ([], some
      { code := byte % 0x10
        needed := 2
        lower := if byte = 0xE0 then 0xA0 else 0x80
        upper := if byte = 0xED then 0x9F else 0xBF }) := by
  simp only [feed, start, if_neg (show ¬ byte < 0x80 by omega),
    if_neg (show ¬ (0xC2 ≤ byte ∧ byte ≤ 0xDF) by omega), if_pos (And.intro lower upper)]

theorem start_four (lower : 0xF0 ≤ byte) (upper : byte ≤ 0xF4) :
    feed none byte = ([], some
      { code := byte % 0x08
        needed := 3
        lower := if byte = 0xF0 then 0x90 else 0x80
        upper := if byte = 0xF4 then 0x8F else 0xBF }) := by
  simp only [feed, start, if_neg (show ¬ byte < 0x80 by omega),
    if_neg (show ¬ (0xC2 ≤ byte ∧ byte ≤ 0xDF) by omega),
    if_neg (show ¬ (0xE0 ≤ byte ∧ byte ≤ 0xEF) by omega), if_pos (And.intro lower upper)]

end Start

theorem toNat_ofNat_small {number : Nat} (small : number < 256) :
    (UInt8.ofNat number).toNat = number := by
  rw [UInt8.toNat_ofNat']
  exact Nat.mod_eq_of_lt small

/-- By the length of the encoding. Each byte but the last leaves the next in range. -/
theorem decodeFrom_utf8EncodeChar (character : Char) (bytes : Buffer) :
    decodeFrom none (String.utf8EncodeChar character ++ bytes) =
      character :: decodeFrom none bytes := by
  have back : Char.ofNat character.toNat = character := Char.ofNat_toNat character
  have code : character.toNat = character.val.toNat := rfl
  have range : character.toNat < 0xD800 ∨ 0xDFFF < character.toNat ∧ character.toNat < 0x110000 :=
    character.valid
  rw [code] at back range
  unfold String.utf8EncodeChar
  dsimp only
  generalize character.val.toNat = number at back range
  split
  · rename_i small
    have fed : feed none number = ([character], none) := by
      simp only [feed, start, back, if_pos (show number < 0x80 by omega)]
    exact decodeFrom_cons bytes (toNat_ofNat_small (by omega)) fed
  · split
    · have second : (number / 64 % 32 + 192) % 32 * 64 + (number % 64 + 128) % 64 = number := by
        omega
      rw [List.cons_append, List.cons_append, List.nil_append,
        decodeFrom_cons _ (toNat_ofNat_small (by omega)) (start_two (by omega) (by omega)),
        decodeFrom_cons _ (toNat_ofNat_small (by omega))
          (feed_last rfl (by dsimp only; omega) (by dsimp only; omega)),
        second, back]
      rfl
    · split
      · have third : ((number / 4096 % 16 + 224) % 16 * 64 + (number / 64 % 64 + 128) % 64) * 64 +
            (number % 64 + 128) % 64 = number := by
          omega
        rw [List.cons_append, List.cons_append, List.cons_append, List.nil_append,
          decodeFrom_cons _ (toNat_ofNat_small (by omega)) (start_three (by omega) (by omega)),
          decodeFrom_cons _ (toNat_ofNat_small (by omega))
            (feed_middle (by dsimp only; omega) (by dsimp only; split <;> omega)
              (by dsimp only; split <;> omega)),
          decodeFrom_cons _ (toNat_ofNat_small (by omega))
            (feed_last rfl (by dsimp only; omega) (by dsimp only; omega)),
          third, back]
        rfl
      · have fourth : (((number / 262144 % 8 + 240) % 8 * 64 + (number / 4096 % 64 + 128) % 64) *
            64 + (number / 64 % 64 + 128) % 64) * 64 + (number % 64 + 128) % 64 = number := by
          omega
        rw [List.cons_append, List.cons_append, List.cons_append, List.cons_append,
          List.nil_append,
          decodeFrom_cons _ (toNat_ofNat_small (by omega)) (start_four (by omega) (by omega)),
          decodeFrom_cons _ (toNat_ofNat_small (by omega))
            (feed_middle (by dsimp only; omega) (by dsimp only; split <;> omega)
              (by dsimp only; split <;> omega)),
          decodeFrom_cons _ (toNat_ofNat_small (by omega))
            (feed_middle (by dsimp only; omega) (by dsimp only; omega) (by dsimp only; omega)),
          decodeFrom_cons _ (toNat_ofNat_small (by omega))
            (feed_last rfl (by dsimp only; omega) (by dsimp only; omega)),
          fourth, back]
        rfl

theorem decodeUtf8_utf8 (text : String) : decodeUtf8 (Redis.utf8 text) = text := by
  have characters : ∀ characters : List Char,
      decodeFrom none (characters.flatMap String.utf8EncodeChar) = characters := by
    intro characters
    induction characters with
    | nil => rfl
    | cons character characters ih =>
        rw [List.flatMap_cons, decodeFrom_utf8EncodeChar, ih]
  unfold decodeUtf8 Redis.utf8
  rw [characters, String.ofList_toList]

end BackendFoundation.Bytes
