/-
Texts as the byte strings that Redis sees of them.

An ASCII character is one byte, and no other character has that byte in its encoding. So a
search for ASCII characters in the bytes finds what it would find in the text.
-/

import Mathlib.Data.List.Basic

namespace BackendFoundation.Redis

def utf8 (text : String) : List UInt8 :=
  text.toList.flatMap String.utf8EncodeChar

@[simp] theorem utf8_append (first second : String) :
    utf8 (first ++ second) = utf8 first ++ utf8 second := by
  unfold utf8
  rw [String.toList_append, List.flatMap_append]

theorem toByteArray_utf8 (text : String) : (utf8 text).toByteArray = text.toByteArray := by
  rw [← String.utf8Encode_toList]
  rfl

theorem utf8_injective {first second : String} (same : utf8 first = utf8 second) :
    first = second := by
  rw [← String.toByteArray_inj, ← toByteArray_utf8, ← toByteArray_utf8, same]

/-- The bytes of other characters have the highest bit. -/
theorem utf8EncodeChar_ascii {character : Char} {byte : UInt8}
    (member : byte ∈ String.utf8EncodeChar character) (ascii : byte.toNat < 128) :
    byte.toNat = character.toNat := by
  unfold String.utf8EncodeChar at member
  dsimp only at member
  have code : character.toNat = character.val.toNat := rfl
  split at member
  · rw [List.mem_singleton] at member
    rw [member, UInt8.toNat_ofNat', code]
    omega
  · split at member
    · simp only [List.mem_cons, List.not_mem_nil, or_false] at member
      rcases member with rfl | rfl <;> rw [UInt8.toNat_ofNat'] at ascii <;> omega
    · split at member
      · simp only [List.mem_cons, List.not_mem_nil, or_false] at member
        rcases member with rfl | rfl | rfl <;> rw [UInt8.toNat_ofNat'] at ascii <;> omega
      · simp only [List.mem_cons, List.not_mem_nil, or_false] at member
        rcases member with rfl | rfl | rfl | rfl <;> rw [UInt8.toNat_ofNat'] at ascii <;> omega

theorem mem_of_mem_utf8 {text : String} {byte : UInt8} (member : byte ∈ utf8 text)
    (ascii : byte.toNat < 128) : Char.ofNat byte.toNat ∈ text.toList := by
  obtain ⟨character, inside, encoded⟩ := List.mem_flatMap.mp member
  rw [utf8EncodeChar_ascii encoded ascii, Char.ofNat_toNat]
  exact inside

theorem utf8EncodeChar_append {first second : Char} {front back : List UInt8}
    (same : String.utf8EncodeChar first ++ front = String.utf8EncodeChar second ++ back) :
    first = second ∧ front = back := by
  have decoded (character : Char) (bytes : List UInt8) :
      (String.utf8EncodeChar character ++ bytes).toByteArray.utf8DecodeChar? 0 =
        some character := by
    rw [List.toByteArray_append]
    exact ByteArray.utf8DecodeChar?_utf8EncodeChar_append
  have equal : first = second :=
    Option.some.inj ((decoded first front).symm.trans (same ▸ decoded second back))
  subst equal
  exact ⟨rfl, List.append_cancel_left same⟩

/-- A text whose bytes go on where another ends is that text and more. -/
theorem append_of_utf8 {front text : String} {rest : List UInt8}
    (same : utf8 text = utf8 front ++ rest) : ∃ back, text = front ++ back ∧ rest = utf8 back := by
  have onLists : ∀ front text : List Char,
      text.flatMap String.utf8EncodeChar = front.flatMap String.utf8EncodeChar ++ rest →
      ∃ back, text = front ++ back ∧ rest = back.flatMap String.utf8EncodeChar := by
    intro front
    induction front with
    | nil =>
        intro text same
        exact ⟨text, rfl, same.symm⟩
    | cons first front ih =>
        intro text same
        rw [List.flatMap_cons, List.append_assoc] at same
        cases text with
        | nil =>
            have empty := (List.append_eq_nil_iff.mp same.symm).1
            exact absurd empty String.utf8EncodeChar_ne_nil
        | cons character text =>
            rw [List.flatMap_cons] at same
            obtain ⟨rfl, behind⟩ := utf8EncodeChar_append same
            obtain ⟨back, rfl, bytes⟩ := ih text behind
            exact ⟨back, rfl, bytes⟩
  obtain ⟨back, whole, bytes⟩ := onLists front.toList text.toList same
  refine ⟨String.ofList back, ?_, ?_⟩
  · apply String.toList_injective
    rw [whole, String.toList_append, String.toList_ofList]
  · unfold utf8
    rw [bytes, String.toList_ofList]
theorem length_utf8EncodeChar_ascii {character : Char} (ascii : character.toNat < 128) :
    (String.utf8EncodeChar character).length = 1 := by
  rw [String.length_utf8EncodeChar, Char.utf8Size_eq_one_iff, UInt32.le_iff_toNat_le]
  exact Nat.le_of_lt_succ ascii

theorem infix_of_flatMap_utf8 {pattern : String} {first : UInt8} {bytes : List UInt8}
    (starts : utf8 pattern = first :: bytes) (ascii : first.toNat < 128) {characters : List Char}
    {front back : List UInt8}
    (occurs : characters.flatMap String.utf8EncodeChar = front ++ (utf8 pattern ++ back)) :
    pattern.toList <:+: characters := by
  induction characters generalizing front with
  | nil =>
      rw [starts] at occurs
      have length := congrArg List.length occurs
      simp only [List.flatMap_nil, List.length_nil, List.length_append, List.length_cons] at length
      omega
  | cons character characters ih =>
      have whole := occurs
      rw [List.flatMap_cons] at whole
      rcases List.append_eq_append_iff.mp whole with ⟨between, _, rest⟩ | ⟨between, split, rest⟩
      · exact List.infix_cons (ih rest)
      · cases between with
        | nil => exact List.infix_cons (@ih [] rest.symm)
        | cons byte between =>
            have same : byte = first := by
              rw [starts] at rest
              exact (List.cons.inj rest).1.symm
            subst same
            have member : byte ∈ String.utf8EncodeChar character := by
              rw [split]
              exact List.mem_append_right _ List.mem_cons_self
            have code := utf8EncodeChar_ascii member ascii
            have one := length_utf8EncodeChar_ascii (code ▸ ascii)
            rw [split, List.length_append, List.length_cons] at one
            have empty : front = [] := List.length_eq_zero_iff.mp (by omega)
            rw [empty, List.nil_append] at occurs
            have text : utf8 (String.ofList (character :: characters)) = utf8 pattern ++ back := by
              unfold utf8 at occurs ⊢
              rw [String.toList_ofList]
              exact occurs
            obtain ⟨behind, spelled, _⟩ := append_of_utf8 text
            have spelling := congrArg String.toList spelled
            rw [String.toList_ofList, String.toList_append] at spelling
            rw [spelling]
            exact (List.prefix_append _ _).isInfix

/-- A find among the bytes is a find in the text, if the pattern begins with an ASCII character:
that byte is inside of no other character. -/
theorem infix_of_utf8 {pattern text : String} {first : UInt8} {bytes : List UInt8}
    (starts : utf8 pattern = first :: bytes) (ascii : first.toNat < 128)
    (occurs : utf8 pattern <:+: utf8 text) : pattern.toList <:+: text.toList := by
  obtain ⟨front, back, whole⟩ := occurs
  rw [List.append_assoc] at whole
  exact infix_of_flatMap_utf8 starts ascii whole.symm

end BackendFoundation.Redis
