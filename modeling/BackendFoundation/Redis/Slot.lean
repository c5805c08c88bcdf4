/-
One key of a Redis keyspace: a value and an optional expiry on a millisecond
clock. A key whose expiry lies in the past is treated as absent by every
command, whether or not it has been reclaimed yet.
-/

import Mathlib.Data.List.Basic
import Mathlib.Data.Option.Basic

namespace BackendFoundation.Redis

structure Cell (Value : Type) where
  value : Value
  expireAt : Option Nat
deriving DecidableEq, Repr

/-- A key is gone once the clock has passed its expiry, not when it reaches it. -/
def Cell.aliveAt {Value : Type} (cell : Cell Value) (now : Nat) : Bool :=
  match cell.expireAt with
  | none => true
  | some deadline => decide (now ≤ deadline)

abbrev Slot (Value : Type) := Option (Cell Value)

namespace Slot

variable {Value : Type}

/-- What a command sees of the key. -/
def live (now : Nat) (slot : Slot Value) : Option (Cell Value) :=
  slot.filter fun cell => cell.aliveAt now

/-- GET -/
def get (now : Nat) (slot : Slot Value) : Option Value :=
  (live now slot).map Cell.value

/-- EXISTS -/
def present (now : Nat) (slot : Slot Value) : Bool :=
  (live now slot).isSome

/-- SET without EX removes a previous expiry. -/
def set (value : Value) : Slot Value :=
  some { value := value, expireAt := none }

/-- SET EX -/
def setEx (now : Nat) (value : Value) (ttlSeconds : Nat) : Slot Value :=
  some { value := value, expireAt := some (now + ttlSeconds * 1000) }

/-- SET PX -/
def setPx (now : Nat) (value : Value) (ttlMs : Nat) : Slot Value :=
  some { value := value, expireAt := some (now + ttlMs) }

/-- DEL -/
def del : Slot Value := none

/-- SET EX NX -/
def setExNx (now : Nat) (slot : Slot Value) (value : Value) (ttlSeconds : Nat) :
    Slot Value × Bool :=
  match live now slot with
  | some _ => (slot, false)
  | none => (setEx now value ttlSeconds, true)

/-- SET PX NX -/
def setPxNx (now : Nat) (slot : Slot Value) (value : Value) (ttlMs : Nat) :
    Slot Value × Bool :=
  match live now slot with
  | some _ => (slot, false)
  | none => (setPx now value ttlMs, true)

/-- PEXPIRE with a positive TTL. -/
def pexpire (now : Nat) (slot : Slot Value) (ttlMs : Nat) : Slot Value × Bool :=
  match live now slot with
  | some cell => (some { cell with expireAt := some (now + ttlMs) }, true)
  | none => (slot, false)

/-- EXPIRE -/
def expire (now : Nat) (slot : Slot Value) (ttlSeconds : Nat) : Slot Value × Bool :=
  match live now slot with
  | some cell => (some { cell with expireAt := some (now + ttlSeconds * 1000) }, true)
  | none => (slot, false)

/-- TTL answers in whole seconds, rounded to the nearest: -2 for a missing key,
-1 for a key without expiry. -/
def ttl (now : Nat) (slot : Slot Value) : Int :=
  match live now slot with
  | none => -2
  | some cell =>
      match cell.expireAt with
      | none => -1
      | some deadline => ((deadline - now + 500) / 1000 : Nat)

theorem live_some_iff {now : Nat} {slot : Slot Value} {cell : Cell Value} :
    live now slot = some cell ↔ slot = some cell ∧ cell.aliveAt now = true := by
  unfold live
  exact Option.filter_eq_some_iff

theorem aliveAt_of_le {cell : Cell Value} {now deadline : Nat}
    (expiry : cell.expireAt = some deadline) (before : now ≤ deadline) :
    cell.aliveAt now = true := by
  simp only [Cell.aliveAt, expiry, decide_eq_true_eq]
  exact before

theorem aliveAt_earlier {cell : Cell Value} {now later : Nat} (order : now ≤ later)
    (alive : cell.aliveAt later = true) : cell.aliveAt now = true := by
  unfold Cell.aliveAt at *
  cases expiry : cell.expireAt with
  | none => rfl
  | some deadline =>
      rw [expiry] at alive
      simp only [decide_eq_true_eq] at alive ⊢
      omega

/-- Waiting can only lose keys. -/
theorem live_earlier {now later : Nat} {slot : Slot Value} {cell : Cell Value}
    (order : now ≤ later) (found : live later slot = some cell) :
    live now slot = some cell := by
  rw [live_some_iff] at *
  exact ⟨found.1, aliveAt_earlier order found.2⟩

theorem live_none_later {now later : Nat} {slot : Slot Value} (order : now ≤ later)
    (missing : live now slot = none) : live later slot = none := by
  cases found : live later slot with
  | none => rfl
  | some cell =>
      rw [live_earlier order found] at missing
      cases missing

theorem live_until {now later deadline : Nat} {slot : Slot Value} {cell : Cell Value}
    (found : live now slot = some cell) (expiry : cell.expireAt = some deadline)
    (before : later ≤ deadline) : live later slot = some cell := by
  rw [live_some_iff] at *
  exact ⟨found.1, aliveAt_of_le expiry before⟩

/-- Keys with the same expiry are alive at the same time. -/
theorem live_alike {Other : Type} {now later : Nat} {slot : Slot Value} {other : Slot Other}
    {cell : Cell Value} {cell' : Cell Other} (found : live now slot = some cell)
    (same : cell.expireAt = cell'.expireAt) (alive : live later other = some cell') :
    live later slot = some cell := by
  rw [live_some_iff] at *
  refine ⟨found.1, ?_⟩
  have still := alive.2
  unfold Cell.aliveAt at still ⊢
  rw [same]
  exact still

@[simp] theorem live_set (now : Nat) (value : Value) :
    live now (set value) = some { value := value, expireAt := none } := by
  rw [live_some_iff]
  exact ⟨rfl, rfl⟩

theorem live_setEx (now written : Nat) (value : Value) (ttlSeconds : Nat)
    (before : now ≤ written + ttlSeconds * 1000) :
    live now (setEx written value ttlSeconds) =
      some { value := value, expireAt := some (written + ttlSeconds * 1000) } := by
  rw [live_some_iff]
  exact ⟨rfl, aliveAt_of_le rfl before⟩

@[simp] theorem live_setEx_now (now : Nat) (value : Value) (ttlSeconds : Nat) :
    live now (setEx now value ttlSeconds) =
      some { value := value, expireAt := some (now + ttlSeconds * 1000) } :=
  live_setEx now now value ttlSeconds (Nat.le_add_right _ _)

theorem live_setEx_expired {now written : Nat} {value : Value} {ttlSeconds : Nat}
    (passed : written + ttlSeconds * 1000 < now) :
    live now (setEx written value ttlSeconds) = none := by
  cases found : live now (setEx written value ttlSeconds) with
  | none => rfl
  | some cell =>
      obtain ⟨stored, alive⟩ := live_some_iff.mp found
      cases stored
      simp only [Cell.aliveAt, decide_eq_true_eq] at alive
      omega

@[simp] theorem live_setPx_now (now : Nat) (value : Value) (ttlMs : Nat) :
    live now (setPx now value ttlMs) =
      some { value := value, expireAt := some (now + ttlMs) } := by
  rw [live_some_iff]
  exact ⟨rfl, aliveAt_of_le rfl (Nat.le_add_right _ _)⟩

theorem get_eq_some_iff {now : Nat} {slot : Slot Value} {value : Value} :
    get now slot = some value ↔ ∃ cell, live now slot = some cell ∧ cell.value = value := by
  unfold get
  exact Option.map_eq_some_iff

theorem get_eq_none_iff {now : Nat} {slot : Slot Value} :
    get now slot = none ↔ live now slot = none := by
  unfold get
  exact Option.map_eq_none_iff

theorem get_earlier {now later : Nat} {slot : Slot Value} {value : Value} (order : now ≤ later)
    (found : get later slot = some value) : get now slot = some value := by
  rw [get_eq_some_iff] at *
  obtain ⟨cell, alive, same⟩ := found
  exact ⟨cell, live_earlier order alive, same⟩

theorem get_setEx {now written : Nat} {value : Value} {ttlSeconds : Nat}
    (before : now ≤ written + ttlSeconds * 1000) :
    get now (setEx written value ttlSeconds) = some value := by
  rw [get_eq_some_iff]
  exact ⟨_, live_setEx now written value ttlSeconds before, rfl⟩

@[simp] theorem get_setEx_now (now : Nat) (value : Value) (ttlSeconds : Nat) :
    get now (setEx now value ttlSeconds) = some value := by
  rw [get_eq_some_iff]
  exact ⟨_, live_setEx_now now value ttlSeconds, rfl⟩

/-- A new expiry leaves the value as it is. -/
theorem get_expire (now : Nat) (slot : Slot Value) (ttlSeconds : Nat) :
    get now (expire now slot ttlSeconds).1 = get now slot := by
  unfold expire
  cases alive : live now slot with
  | none => rfl
  | some cell =>
      have extended := get_setEx_now now cell.value ttlSeconds
      have before : get now slot = some cell.value := get_eq_some_iff.mpr ⟨cell, alive, rfl⟩
      exact extended.trans before.symm

theorem present_eq_false_iff {now : Nat} {slot : Slot Value} :
    present now slot = false ↔ live now slot = none := by
  unfold present
  exact Option.isSome_eq_false_iff.trans Option.isNone_iff_eq_none

end Slot

end BackendFoundation.Redis
