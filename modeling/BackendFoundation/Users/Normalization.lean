/-
The normal form of an e-mail: lower-cased after trimming.

An e-mail is normalised when it comes in, and again whenever its row is read. Both
give the same value if a normal form is its own normal form, which the language's
toLowerCase and trim have together; it is shown here for a toLowerCase that works
character by character, as on ASCII.
-/

import Mathlib.Data.List.DropRight
import BackendFoundation.Users.User

namespace BackendFoundation.Users

/-- A normal form is its own normal form. -/
def Normalizes (toLowerCase : String → String) : Prop :=
  ∀ value, toLowerCase (trim (toLowerCase (trim value))) = toLowerCase (trim value)

theorem Email.value_of_create {toLowerCase : String → String} {value : String} {email : Email}
    (created : Email.create toLowerCase value = .ok email) :
    email.value = toLowerCase (trim value) := by
  unfold Email.create at created
  dsimp only at created
  split at created
  · cases created
    rfl
  · cases created

theorem Email.not_isEmail_of_create {toLowerCase : String → String} {value : String}
    {error : AppError} (invalid : Email.create toLowerCase value = .error error) :
    isEmail (toLowerCase (trim value)) = false := by
  unfold Email.create at invalid
  dsimp only at invalid
  split at invalid
  · cases invalid
  · rename_i malformed
    exact Bool.eq_false_iff.mpr malformed

/-- An e-mail that was normalised before is created from its value again. -/
theorem Email.create_value {toLowerCase : String → String} (normalizes : Normalizes toLowerCase)
    {value : String} {email : Email} (created : Email.create toLowerCase value = .ok email) :
    Email.create toLowerCase email.value = .ok email := by
  have normal : toLowerCase (trim email.value) = email.value := by
    rw [value_of_create created]
    exact normalizes value
  unfold Email.create
  simp only [normal, email.wellFormed, ↓reduceDIte]

section Trim

variable {Item : Type} (drop : Item → Bool)

/-- Both ends of a list without the items that are dropped. -/
def strip (items : List Item) : List Item :=
  (items.dropWhile drop).rdropWhile drop

theorem dropWhile_strip (items : List Item) :
    (strip drop items).dropWhile drop = strip drop items := by
  rw [List.dropWhile_eq_self_iff]
  intro nonempty dropped
  have initial : strip drop items <+: items.dropWhile drop := List.rdropWhile_prefix drop _
  rw [initial.getElem nonempty] at dropped
  exact List.dropWhile_get_zero_not drop items (nonempty.trans_le initial.length_le) dropped

theorem strip_strip (items : List Item) : strip drop (strip drop items) = strip drop items := by
  have left := dropWhile_strip drop items
  unfold strip at left ⊢
  rw [left]
  exact List.rdropWhile_idempotent drop _

theorem strip_map {change : Item → Item} (same : ∀ item, drop (change item) = drop item)
    (items : List Item) : strip drop (items.map change) = (strip drop items).map change := by
  have condition : drop ∘ change = drop := funext same
  unfold strip List.rdropWhile
  rw [List.dropWhile_map, condition, ← List.map_reverse, List.dropWhile_map, condition,
    ← List.map_reverse]

end Trim

theorem toList_trim (value : String) : (trim value).toList = strip isSpace value.toList := by
  unfold trim strip List.rdropWhile
  exact String.toList_ofList

/-- A lower-casing of single characters that takes no character to a space or from one. -/
theorem normalizes_map {lower : Char → Char}
    (once : ∀ character, lower (lower character) = lower character)
    (spaces : ∀ character, isSpace (lower character) = isSpace character) :
    Normalizes fun value => value.map lower := by
  intro value
  apply String.toList_injective
  rw [String.toList_map, toList_trim, String.toList_map, toList_trim, strip_map isSpace spaces,
    strip_strip, List.map_map]
  congr 1
  funext character
  exact once character

theorem toNat_toLower (character : Char) :
    character.toLower.toNat =
      if 65 ≤ character.toNat ∧ character.toNat ≤ 90 then character.toNat + 32
      else character.toNat := by
  unfold Char.toLower
  have bounds : (character.val ≥ 'A'.val ∧ character.val ≤ 'Z'.val) ↔
      65 ≤ character.toNat ∧ character.toNat ≤ 90 := by
    simp [UInt32.le_iff_toNat_le]
  split
  · rename_i upper
    have letter := bounds.mp upper
    rw [if_pos letter]
    change (character.val + ('a'.val - 'A'.val)).toNat = character.val.toNat + 32
    rw [UInt32.toNat_add]
    change (character.val.toNat + 32) % 2 ^ 32 = character.val.toNat + 32
    have small : character.val.toNat ≤ 90 := letter.2
    omega
  · rename_i other
    rw [if_neg fun letter => other (bounds.mpr letter)]

/-- The letters are far from every space. -/
theorem isSpace_toLower (character : Char) : isSpace character.toLower = isSpace character := by
  rw [Bool.eq_iff_iff]
  simp only [isSpace, toNat_toLower, Bool.or_eq_true, Bool.and_eq_true, decide_eq_true_eq,
    beq_iff_eq]
  split <;> omega

theorem normalizes_toLower : Normalizes String.toLower := by
  apply normalizes_map
  · intro character
    apply Char.toNat_inj.mp
    simp only [toNat_toLower]
    split_ifs <;> omega
  · exact isSpace_toLower

end BackendFoundation.Users
