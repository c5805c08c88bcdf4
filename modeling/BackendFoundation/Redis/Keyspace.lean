/-
A keyspace of strings and sets under flat names. A command of the other type fails
on a key and changes nothing, while DEL, EXPIRE and TTL take keys of any type.
-/

import BackendFoundation.Redis.SetSlot
import Mathlib.Logic.Function.Basic

namespace BackendFoundation.Redis

inductive Stored (Text : Type)
  | text (value : Text)
  | set (members : List String)

structure WrongType where
deriving DecidableEq, Repr

abbrev Keyspace (Text : Type) := String → Slot (Stored Text)

/-- A key seen as a set. -/
def Slot.asSet {Text : Type} (slot : Slot (Stored Text)) : Slot (List String) :=
  slot.bind fun cell =>
    match cell.value with
    | .text _ => none
    | .set members => some { value := members, expireAt := cell.expireAt }

def Slot.ofSet {Text : Type} (slot : Slot (List String)) : Slot (Stored Text) :=
  slot.map fun cell => { value := .set cell.value, expireAt := cell.expireAt }

namespace Keyspace

open Slot

variable {Text : Type}

def empty : Keyspace Text := fun _ => none

def get (now : Nat) (keys : Keyspace Text) (key : String) : Except WrongType (Option Text) :=
  match Slot.get now (keys key) with
  | none => .ok none
  | some (.text value) => .ok (some value)
  | some (.set _) => .error {}

def setEx (now : Nat) (keys : Keyspace Text) (key : String) (value : Text)
    (ttlSeconds : Nat) : Keyspace Text :=
  Function.update keys key (Slot.setEx now (.text value) ttlSeconds)

def del (keys : Keyspace Text) (key : String) : Keyspace Text :=
  Function.update keys key Slot.del

def expire (now : Nat) (keys : Keyspace Text) (key : String) (ttlSeconds : Nat) :
    Keyspace Text :=
  Function.update keys key (Slot.expire now (keys key) ttlSeconds).1

def ttl (now : Nat) (keys : Keyspace Text) (key : String) : Int :=
  Slot.ttl now (keys key)

/-- The key as a set, unless it is in use for a string. -/
def setAt (now : Nat) (keys : Keyspace Text) (key : String) :
    Except WrongType (Slot (List String)) :=
  match Slot.get now (keys key) with
  | some (.text _) => .error {}
  | _ => .ok (asSet (keys key))

def smembers (now : Nat) (keys : Keyspace Text) (key : String) :
    Except WrongType (List String) :=
  (setAt now keys key).map (Slot.smembers now)

def sadd (now : Nat) (keys : Keyspace Text) (key member : String) :
    Except WrongType (Keyspace Text) :=
  (setAt now keys key).map fun slot =>
    Function.update keys key (ofSet (Slot.sadd now slot member))

def srem (now : Nat) (keys : Keyspace Text) (key member : String) :
    Except WrongType (Keyspace Text) :=
  (setAt now keys key).map fun slot =>
    Function.update keys key (ofSet (Slot.srem now slot member))

@[simp] theorem asSet_ofSet (slot : Slot (List String)) :
    asSet (ofSet slot : Slot (Stored Text)) = slot := by
  cases slot <;> rfl

@[simp] theorem asSet_none : asSet (none : Slot (Stored Text)) = none := rfl

theorem live_asSet_iff {now : Nat} {slot : Slot (Stored Text)} {cell : Cell (List String)} :
    live now (asSet slot) = some cell ↔
      live now slot = some { value := .set cell.value, expireAt := cell.expireAt } := by
  rw [live_some_iff, live_some_iff]
  cases slot with
  | none => simp
  | some stored =>
      obtain ⟨value, expireAt⟩ := stored
      obtain ⟨members, expireAt'⟩ := cell
      cases value with
      | text value => simp [asSet]
      | set members' =>
          simp only [asSet, Option.bind_some, Option.some.injEq, Cell.mk.injEq,
            Stored.set.injEq, Cell.aliveAt]

theorem asSet_expire (now : Nat) (slot : Slot (Stored Text)) (ttlSeconds : Nat) :
    asSet (Slot.expire now slot ttlSeconds).1 =
      (Slot.expire now (asSet slot) ttlSeconds).1 := by
  unfold Slot.expire
  cases found : live now (asSet slot) with
  | some cell =>
      rw [live_asSet_iff.mp found]
      rfl
  | none =>
      cases stored : live now slot with
      | none => rfl
      | some cell =>
          obtain ⟨value, expireAt⟩ := cell
          have same := (live_some_iff.mp stored).1
          cases value with
          | text value =>
              rw [same]
              rfl
          | set members =>
              have alive : live now (asSet slot) =
                  some { value := members, expireAt := expireAt } := live_asSet_iff.mpr stored
              rw [alive] at found
              cases found

variable {now : Nat} {keys : Keyspace Text} {key : String}

theorem get_error_iff :
    get now keys key = .error {} ↔ ∃ members, Slot.get now (keys key) = some (.set members) := by
  unfold get
  split <;> rename_i found
  · simp [found]
  · simp [found]
  · rename_i members
    simp [found]

theorem get_ok_iff {found : Option Text} :
    get now keys key = .ok found ↔ Slot.get now (keys key) = found.map .text := by
  unfold get
  split <;> rename_i stored
  · rw [stored]
    cases found <;> simp
  · rw [stored]
    cases found <;> simp
  · rw [stored]
    cases found <;> simp

/-- A key that is missing or a set is open to the commands on sets. -/
theorem setAt_ok_iff {slot : Slot (List String)} :
    setAt now keys key = .ok slot ↔
      (∀ value, Slot.get now (keys key) ≠ some (.text value)) ∧ asSet (keys key) = slot := by
  unfold setAt
  split <;> rename_i found
  · simp [found]
  · constructor
    · intro same
      exact ⟨fun value text => found value text, Except.ok.inj same⟩
    · intro same
      rw [same.2]

theorem eq_of_sadd {member : String} {after : Keyspace Text}
    (added : sadd now keys key member = .ok after) :
    (∀ value, Slot.get now (keys key) ≠ some (.text value)) ∧
      after = Function.update keys key (ofSet (Slot.sadd now (asSet (keys key)) member)) := by
  unfold sadd at added
  cases open_ : setAt now keys key with
  | error =>
      rw [open_] at added
      cases added
  | ok slot =>
      rw [open_] at added
      cases added
      obtain ⟨fits, rfl⟩ := setAt_ok_iff.mp open_
      exact ⟨fits, rfl⟩

theorem eq_of_srem {member : String} {after : Keyspace Text}
    (removed : srem now keys key member = .ok after) :
    after = Function.update keys key (ofSet (Slot.srem now (asSet (keys key)) member)) := by
  unfold srem at removed
  cases open_ : setAt now keys key with
  | error =>
      rw [open_] at removed
      cases removed
  | ok slot =>
      rw [open_] at removed
      cases removed
      obtain ⟨_, rfl⟩ := setAt_ok_iff.mp open_
      rfl

end Keyspace

end BackendFoundation.Redis
