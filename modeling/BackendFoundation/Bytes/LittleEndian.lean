/-
Byte strings with numbers at fixed places.

A record is written field by field, each least significant byte first. That a record stands
at an offset of a buffer splits into its fields, and a field that stands at an offset is what
a read at that offset returns.
-/

import Mathlib.Data.Nat.Digits.Lemmas

namespace BackendFoundation.Bytes

abbrev Buffer := List UInt8

/-- The number with these bytes, the least significant first. -/
def value (bytes : Buffer) : Nat :=
  Nat.ofDigits 256 (bytes.map UInt8.toNat)

def littleEndian : Nat → Nat → Buffer
  | 0, _ => []
  | width + 1, number => UInt8.ofNat number :: littleEndian width (number / 256)

@[simp] theorem length_littleEndian (width number : Nat) :
    (littleEndian width number).length = width := by
  induction width generalizing number with
  | zero => rfl
  | succ width ih => rw [littleEndian, List.length_cons, ih]

theorem value_cons (byte : UInt8) (bytes : Buffer) :
    value (byte :: bytes) = byte.toNat + 256 * value bytes := by
  unfold value
  rw [List.map_cons, Nat.ofDigits_cons]

/-- Nothing is lost of a number that fits. -/
theorem value_littleEndian {width number : Nat} (fits : number < 256 ^ width) :
    value (littleEndian width number) = number := by
  induction width generalizing number with
  | zero =>
      have zero : number = 0 := by omega
      rw [zero]
      rfl
  | succ width ih =>
      have quotient : number / 256 < 256 ^ width := by
        rw [Nat.pow_succ'] at fits
        exact Nat.div_lt_of_lt_mul fits
      rw [littleEndian, value_cons, ih quotient, UInt8.toNat_ofNat']
      omega

/-- A buffer is cut off where it ends. -/
def slice (buffer : Buffer) (offset length : Nat) : Buffer :=
  (buffer.drop offset).take length

/-- A read that would leave the buffer fails. -/
def readAt (width : Nat) (buffer : Buffer) (offset : Nat) : Option Nat :=
  if offset + width ≤ buffer.length then some (value (slice buffer offset width)) else none

theorem readAt_append (width : Nat) (front bytes : Buffer) (offset : Nat) :
    readAt width (front ++ bytes) (front.length + offset) = readAt width bytes offset := by
  have rest : slice (front ++ bytes) (front.length + offset) width = slice bytes offset width := by
    unfold slice
    rw [← List.drop_drop, List.drop_left]
  have lengths : front.length + offset + width ≤ (front ++ bytes).length ↔
      offset + width ≤ bytes.length := by
    rw [List.length_append]
    omega
  unfold readAt
  simp only [rest, lengths]

def StandsAt (buffer : Buffer) (offset : Nat) (bytes : Buffer) : Prop :=
  ∃ front back, front.length = offset ∧ buffer = front ++ (bytes ++ back)

section Standing

variable {buffer bytes : Buffer} {offset : Nat}

theorem StandsAt.slice (stands : StandsAt buffer offset bytes) :
    slice buffer offset bytes.length = bytes := by
  obtain ⟨front, back, rfl, rfl⟩ := stands
  unfold Bytes.slice
  rw [List.drop_left, List.take_left]

theorem StandsAt.within (stands : StandsAt buffer offset bytes) :
    offset + bytes.length ≤ buffer.length := by
  obtain ⟨front, back, rfl, rfl⟩ := stands
  rw [List.length_append, List.length_append]
  omega

theorem StandsAt.left {more : Buffer} (stands : StandsAt buffer offset (bytes ++ more)) :
    StandsAt buffer offset bytes := by
  obtain ⟨front, back, length, rfl⟩ := stands
  exact ⟨front, more ++ back, length, by rw [List.append_assoc]⟩

theorem StandsAt.right {more : Buffer} (stands : StandsAt buffer offset (bytes ++ more)) :
    StandsAt buffer (offset + bytes.length) more := by
  obtain ⟨front, back, rfl, rfl⟩ := stands
  exact ⟨front ++ bytes, back, List.length_append, by simp only [List.append_assoc]⟩

theorem StandsAt.inside {outer : Buffer} {start : Nat} (stands : StandsAt buffer offset outer)
    (within : StandsAt outer start bytes) : StandsAt buffer (offset + start) bytes := by
  obtain ⟨front, back, rfl, rfl⟩ := stands
  obtain ⟨before, after, rfl, rfl⟩ := within
  exact ⟨front ++ before, after ++ back, List.length_append, by simp only [List.append_assoc]⟩

theorem StandsAt.readAt {width number : Nat}
    (stands : StandsAt buffer offset (littleEndian width number)) (fits : number < 256 ^ width) :
    readAt width buffer offset = some number := by
  have within := stands.within
  have sliced := stands.slice
  rw [length_littleEndian] at within sliced
  unfold Bytes.readAt
  rw [if_pos within, sliced, value_littleEndian fits]

end Standing

/-- A number and the bytes it takes. -/
structure Field where
  width : Nat
  number : Nat

abbrev Field.Fits (field : Field) : Prop :=
  field.number < 256 ^ field.width

def encode (fields : List Field) : Buffer :=
  fields.flatMap fun field => littleEndian field.width field.number

def width (fields : List Field) : Nat :=
  (fields.map Field.width).sum

@[simp] theorem length_encode (fields : List Field) : (encode fields).length = width fields := by
  induction fields with
  | nil => rfl
  | cons field fields ih =>
      unfold encode width at ih ⊢
      rw [List.flatMap_cons, List.length_append, ih, length_littleEndian, List.map_cons,
        List.sum_cons]

/-- A field of a record is read behind the fields before it. -/
theorem readAt_field {buffer rest : Buffer} {offset : Nat} {fields : List Field}
    (index shift : Nat) (field : Field) (stands : StandsAt buffer offset (encode fields ++ rest))
    (found : fields[index]? = some field) (place : width (fields.take index) = shift)
    (fits : field.Fits) : readAt field.width buffer (offset + shift) = some field.number := by
  obtain ⟨within, rfl⟩ := List.getElem?_eq_some_iff.mp found
  have parts : fields = fields.take index ++ fields[index] :: fields.drop (index + 1) := by
    rw [← List.drop_eq_getElem_cons within, List.take_append_drop]
  have split : encode fields = encode (fields.take index) ++
      (littleEndian fields[index].width fields[index].number ++ encode (fields.drop (index + 1))) := by
    conv_lhs => rw [parts]
    unfold encode
    rw [List.flatMap_append, List.flatMap_cons]
  have standing := stands.left
  rw [split] at standing
  have behind := standing.right.left
  rw [length_encode, place] at behind
  exact behind.readAt fits

end BackendFoundation.Bytes
