/-
A ledger of items and of notices about them that grow together, one of each at a time.

Items carry a key, and a notice can be about items of one key only. What follows is a
one-to-one correspondence between the new items and the notices of the kind that tells
of them, whatever else the two lists hold.
-/

import Mathlib.Data.List.Basic

namespace BackendFoundation.Registration

structure Ledger (Item Notice : Type) where
  items : List Item
  notices : List Notice

namespace Ledger

variable {Item Notice Key : Type}

def create (ledger : Ledger Item Notice) (item : Item) (notice : Notice) : Ledger Item Notice :=
  { items := item :: ledger.items
    notices := notice :: ledger.notices }

/-- Since a start with these keys, and no notice of the kind. -/
structure Paired (key : Item → Key) (kind : Notice → Prop) (tells : Notice → Item → Prop)
    (start : List Key) (ledger : Ledger Item Notice) : Prop where
  kept : ∀ old ∈ start, old ∈ ledger.items.map key
  told : ∀ item ∈ ledger.items, key item ∉ start →
    ∃ notice ∈ ledger.notices, kind notice ∧ tells notice item
  founded : ∀ notice ∈ ledger.notices, kind notice →
    ∃ item ∈ ledger.items, key item ∉ start ∧ tells notice item
  once : ∀ notice ∈ ledger.notices, ∀ other ∈ ledger.notices, kind notice → kind other →
    ∀ item, tells notice item → tells other item → notice = other

variable {key : Item → Key} {kind : Notice → Prop} {tells : Notice → Item → Prop}
  {start : List Key} {ledger : Ledger Item Notice}

theorem paired_start (unkind : ∀ notice ∈ ledger.notices, ¬kind notice) :
    Paired key kind tells (ledger.items.map key) ledger :=
  { kept := fun _ old => old
    told := fun _ member new => absurd (List.mem_map_of_mem member) new
    founded := fun notice member relevant => absurd relevant (unkind notice member)
    once := fun notice member _ _ relevant => absurd relevant (unkind notice member) }

/-- The new notice is the first about its key: another one would be about an item that
has the key already. -/
theorem Paired.create (paired : Paired key kind tells start ledger)
    (functional : ∀ notice item other, tells notice item → tells notice other →
      key item = key other)
    {item : Item} {notice : Notice} (fresh : key item ∉ ledger.items.map key)
    (relevant : kind notice) (telling : tells notice item) :
    Paired key kind tells start (ledger.create item notice) := by
  have first : ∀ other ∈ ledger.notices, kind other → ∀ about, tells notice about →
      ¬tells other about := by
    intro other member relevant' about tellsNew tellsOld
    obtain ⟨old, present, _, telling'⟩ := paired.founded other member relevant'
    apply fresh
    rw [functional notice item about telling tellsNew,
      functional other about old tellsOld telling']
    exact List.mem_map_of_mem present
  constructor
  · intro old earlier
    exact List.mem_cons_of_mem _ (paired.kept old earlier)
  · intro other member new
    rcases List.mem_cons.mp member with rfl | earlier
    · exact ⟨notice, List.mem_cons_self, relevant, telling⟩
    · obtain ⟨notice', member', facts⟩ := paired.told other earlier new
      exact ⟨notice', List.mem_cons_of_mem _ member', facts⟩
  · intro other member relevant'
    rcases List.mem_cons.mp member with rfl | earlier
    · exact ⟨item, List.mem_cons_self, fun old => fresh (paired.kept _ old), telling⟩
    · obtain ⟨item', member', facts⟩ := paired.founded other earlier relevant'
      exact ⟨item', List.mem_cons_of_mem _ member', facts⟩
  · intro one member other member' relevantOne relevantOther about tellsOne tellsOther
    rcases List.mem_cons.mp member with rfl | earlier
    · rcases List.mem_cons.mp member' with rfl | earlier'
      · rfl
      · exact absurd tellsOther (first other earlier' relevantOther about tellsOne)
    · rcases List.mem_cons.mp member' with rfl | earlier'
      · exact absurd tellsOne (first one earlier relevantOne about tellsOther)
      · exact paired.once one earlier other earlier' relevantOne relevantOther about tellsOne
          tellsOther

end Ledger

end BackendFoundation.Registration
