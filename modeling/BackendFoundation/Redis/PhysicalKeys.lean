/-
A keyspace under the keys that Redis sees, which are strings of bytes.
-/

import BackendFoundation.Redis.Keyspace

namespace BackendFoundation.Redis

open Slot

abbrev PhysicalKeys := List UInt8 → Slot (Stored String)

namespace PhysicalKeys

section Commands

variable (now : Nat) (keys : PhysicalKeys) (key : List UInt8)

def get : Except WrongType (Option String) :=
  match Slot.get now (keys key) with
  | none => .ok none
  | some (.text value) => .ok (some value)
  | some (.set _) => .error {}

def setEx (value : String) (ttlSeconds : Nat) : PhysicalKeys :=
  Function.update keys key (Slot.setEx now (.text value) ttlSeconds)

def del : PhysicalKeys :=
  Function.update keys key Slot.del

/-- A change of a set, unless the key is in use for a string. -/
def changeSet (change : Slot (List String) → Slot (List String)) : Except WrongType PhysicalKeys :=
  match Slot.get now (keys key) with
  | some (.text _) => .error {}
  | _ => .ok (Function.update keys key (ofSet (change (asSet (keys key)))))

def sadd (member : String) : Except WrongType PhysicalKeys :=
  changeSet now keys key fun slot => Slot.sadd now slot member

def srem (member : String) : Except WrongType PhysicalKeys :=
  changeSet now keys key fun slot => Slot.srem now slot member

def smembers : Except WrongType (List String) :=
  match Slot.get now (keys key) with
  | none => .ok []
  | some (.set members) => .ok members
  | some (.text _) => .error {}

end Commands

end PhysicalKeys

namespace Slot

variable {Value : Type} {now : Nat}

/-- A key of one kind of values, as a key of the keyspace. -/
def storedAs (put : Value → Stored String) (slot : Slot Value) : Slot (Stored String) :=
  slot.map fun cell => { value := put cell.value, expireAt := cell.expireAt }

theorem live_storedAs (put : Value → Stored String) (slot : Slot Value) :
    live now (storedAs put slot) = storedAs put (live now slot) := by
  unfold live storedAs
  rw [Option.filter_map]
  rfl

theorem get_storedAs (put : Value → Stored String) (slot : Slot Value) :
    get now (storedAs put slot) = (get now slot).map put := by
  unfold get
  rw [live_storedAs]
  cases live now slot with
  | none => rfl
  | some cell => rfl

theorem ttl_storedAs (put : Value → Stored String) (slot : Slot Value) :
    ttl now (storedAs put slot) = ttl now slot := by
  unfold ttl
  rw [live_storedAs]
  cases live now slot with
  | none => rfl
  | some cell => rfl

theorem expire_storedAs (put : Value → Stored String) (slot : Slot Value) (ttlSeconds : Nat) :
    (expire now (storedAs put slot) ttlSeconds).1 =
      storedAs put (expire now slot ttlSeconds).1 := by
  unfold expire
  rw [live_storedAs]
  cases live now slot with
  | none => rfl
  | some cell => rfl

end Slot

namespace PhysicalKeys

variable {Value : Type} {now : Nat} {keys : PhysicalKeys}

/-- The keys with such names hold a map of slots, written as one kind of values. -/
def Holds (keys : PhysicalKeys) (name : String → List UInt8) (put : Value → Stored String)
    (view : String → Slot Value) : Prop :=
  ∀ id, keys (name id) = storedAs put (view id)

variable {name : String → List UInt8} {put : Value → Stored String} {view : String → Slot Value}

theorem Holds.update (holds : Holds keys name put view)
    (injective : ∀ first second, name first = name second → first = second) (id : String)
    (slot : Slot Value) :
    Holds (Function.update keys (name id) (storedAs put slot)) name put
      (Function.update view id slot) := by
  intro other
  by_cases same : other = id
  · subst same
    rw [Function.update_self, Function.update_self]
  · rw [Function.update_of_ne fun equal => same (injective other id equal),
      Function.update_of_ne same]
    exact holds other

/-- A key of another name does not matter. -/
theorem Holds.update_other (holds : Holds keys name put view) {key : List UInt8}
    (apart : ∀ id, name id ≠ key) (slot : Slot (Stored String)) :
    Holds (Function.update keys key slot) name put view := by
  intro id
  rw [Function.update_of_ne (apart id)]
  exact holds id

/-- GET of a key that is only ever written as a string. -/
theorem Holds.get {text : Value → String}
    (holds : Holds keys name (fun value => .text (text value)) view) (id : String) :
    keys.get now (name id) = .ok ((Slot.get now (view id)).map text) := by
  unfold PhysicalKeys.get
  rw [holds id, get_storedAs]
  cases Slot.get now (view id) with
  | none => rfl
  | some value => rfl

theorem Holds.changeSet {view : String → Slot (List String)} (holds : Holds keys name .set view)
    (id : String) (change : Slot (List String) → Slot (List String)) :
    keys.changeSet now (name id) change =
      .ok (Function.update keys (name id) (storedAs .set (change (view id)))) := by
  have content : asSet (storedAs .set (view id) : Slot (Stored String)) = view id :=
    Keyspace.asSet_ofSet (view id)
  unfold PhysicalKeys.changeSet
  rw [holds id, get_storedAs, content]
  cases Slot.get now (view id) with
  | none => rfl
  | some members => rfl

theorem Holds.smembers {view : String → Slot (List String)} (holds : Holds keys name .set view)
    (id : String) :
    keys.smembers now (name id) = .ok (Slot.smembers now (view id)) := by
  unfold PhysicalKeys.smembers Slot.smembers
  rw [holds id, get_storedAs]
  cases Slot.get now (view id) with
  | none => rfl
  | some members => rfl

section Frames

/-- A change of keys of one kind only. -/
def Within (owned : List UInt8 → Prop) (keys following : PhysicalKeys) : Prop :=
  ∀ key, ¬owned key → following key = keys key

variable {owned : List UInt8 → Prop} {middle following : PhysicalKeys} {key : List UInt8}

theorem Within.refl (keys : PhysicalKeys) : Within owned keys keys :=
  fun _ _ => rfl

theorem Within.trans (first : Within owned keys middle) (second : Within owned middle following) :
    Within owned keys following :=
  fun key foreign => (second key foreign).trans (first key foreign)

theorem Within.update (owns : owned key) (slot : Slot (Stored String)) :
    Within owned keys (Function.update keys key slot) := by
  intro other foreign
  apply Function.update_of_ne
  intro same
  exact foreign (same ▸ owns)

theorem Within.changeSet {change : Slot (List String) → Slot (List String)} (owns : owned key)
    (changed : keys.changeSet now key change = .ok following) : Within owned keys following := by
  unfold PhysicalKeys.changeSet at changed
  split at changed
  · cases changed
  · cases changed
    exact .update owns _

end Frames

end PhysicalKeys

end BackendFoundation.Redis
