/-
A key that holds a Redis set. SADD creates a missing set without expiry, and a set
that loses its last member is gone together with its expiry.
-/

import BackendFoundation.Redis.Slot

namespace BackendFoundation.Redis

namespace Slot

variable {Member : Type}

/-- SMEMBERS, which is empty for a missing key. -/
def smembers (now : Nat) (slot : Slot (List Member)) : List Member :=
  (get now slot).getD []

/-- The stored set has the member, whether or not its key has expired. -/
def Holds (slot : Slot (List Member)) (member : Member) : Prop :=
  ∃ cell, slot = some cell ∧ member ∈ cell.value

theorem smembers_of_live {now : Nat} {slot : Slot (List Member)} {cell : Cell (List Member)}
    (found : live now slot = some cell) : smembers now slot = cell.value := by
  unfold smembers get
  rw [found]
  rfl

theorem mem_smembers_iff {now : Nat} {slot : Slot (List Member)} {member : Member} :
    member ∈ smembers now slot ↔ ∃ cell, live now slot = some cell ∧ member ∈ cell.value := by
  constructor
  · intro listed
    cases found : live now slot with
    | none =>
        have missing : get now slot = none := get_eq_none_iff.mpr found
        simp [smembers, missing] at listed
    | some cell =>
        rw [smembers_of_live found] at listed
        exact ⟨cell, rfl, listed⟩
  · intro given
    obtain ⟨cell, found, member'⟩ := given
    rwa [smembers_of_live found]

theorem holds_of_smembers {now : Nat} {slot : Slot (List Member)} {member : Member}
    (listed : member ∈ smembers now slot) : slot.Holds member := by
  obtain ⟨cell, found, inside⟩ := mem_smembers_iff.mp listed
  exact ⟨cell, (live_some_iff.mp found).1, inside⟩

theorem holds_expire {now : Nat} {slot : Slot (List Member)} {ttlSeconds : Nat}
    {member : Member} (held : (expire now slot ttlSeconds).1.Holds member) :
    slot.Holds member := by
  unfold expire at held
  split at held
  · rename_i cell found
    obtain ⟨stored, same, inside⟩ := held
    cases same
    exact ⟨cell, (live_some_iff.mp found).1, inside⟩
  · exact held

variable [DecidableEq Member]

/-- SADD -/
def sadd (now : Nat) (slot : Slot (List Member)) (member : Member) : Slot (List Member) :=
  match live now slot with
  | none => set [member]
  | some cell => some { cell with value := cell.value.insert member }

/-- SREM -/
def srem (now : Nat) (slot : Slot (List Member)) (member : Member) : Slot (List Member) :=
  match live now slot with
  | none => slot
  | some cell =>
      let remaining := cell.value.filter fun other => other != member
      if remaining.isEmpty then del
      else some { cell with value := remaining }

theorem holds_sadd {now : Nat} {slot : Slot (List Member)} {added member : Member}
    (held : (sadd now slot added).Holds member) : slot.Holds member ∨ member = added := by
  unfold sadd at held
  split at held
  · obtain ⟨stored, same, inside⟩ := held
    cases same
    exact .inr (List.mem_singleton.mp inside)
  · rename_i cell found
    obtain ⟨stored, same, inside⟩ := held
    cases same
    rcases List.mem_insert_iff.mp inside with same | before
    · exact .inr same
    · exact .inl ⟨cell, (live_some_iff.mp found).1, before⟩

theorem holds_srem {now : Nat} {slot : Slot (List Member)} {removed member : Member}
    (held : (srem now slot removed).Holds member) : slot.Holds member := by
  unfold srem at held
  split at held
  · exact held
  · rename_i cell found
    simp only at held
    split at held
    · obtain ⟨_, impossible, _⟩ := held
      cases impossible
    · obtain ⟨stored, same, inside⟩ := held
      cases same
      exact ⟨cell, (live_some_iff.mp found).1, (List.mem_filter.mp inside).1⟩

/-- The new member joins those of the live set, under its expiry. -/
theorem live_sadd (now : Nat) (slot : Slot (List Member)) (member : Member) :
    ∃ cell, live now (sadd now slot member) = some cell ∧ member ∈ cell.value ∧
      cell.expireAt = (live now slot).bind Cell.expireAt ∧
      ∀ before, live now slot = some before → ∀ other ∈ before.value, other ∈ cell.value := by
  unfold sadd
  cases found : live now slot with
  | none =>
      refine ⟨_, live_set now _, List.mem_singleton.mpr rfl, rfl, ?_⟩
      intro before impossible
      cases impossible
  | some cell =>
      refine ⟨_, live_some_iff.mpr ⟨rfl, (live_some_iff.mp found).2⟩,
        List.mem_insert_self, rfl, ?_⟩
      intro before same other inside
      cases same
      exact List.mem_insert_of_mem inside

/-- The other members stay, under the same expiry. -/
theorem live_srem {now : Nat} {slot : Slot (List Member)} {removed other : Member}
    {before : Cell (List Member)} (found : live now slot = some before)
    (inside : other ∈ before.value) (different : other ≠ removed) :
    ∃ cell, live now (srem now slot removed) = some cell ∧ other ∈ cell.value ∧
      cell.expireAt = before.expireAt := by
  have kept : other ∈ before.value.filter fun member => member != removed :=
    List.mem_filter.mpr ⟨inside, bne_iff_ne.mpr different⟩
  have nonempty : (before.value.filter fun member => member != removed).isEmpty = false :=
    List.isEmpty_eq_false_iff_exists_mem.mpr ⟨other, kept⟩
  unfold srem
  rw [found]
  simp only [nonempty, Bool.false_eq_true, if_false]
  exact ⟨_, live_some_iff.mpr ⟨rfl, (live_some_iff.mp found).2⟩, kept, rfl⟩

end Slot

end BackendFoundation.Redis
