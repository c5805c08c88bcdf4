/-
Rows that transactions hold until they store them.

A row that is held clashes with no stored row and with no row that another transaction
holds. This is kept when a transaction takes a row only after it has waited for those
that hold a clashing one, and it is why storing a row that is held cannot fail.
-/

import Mathlib.Logic.Function.Basic
import Mathlib.Data.List.Basic

namespace BackendFoundation.Database

variable {Owner Row : Type}

structure Reserved (clash : Row → Row → Prop) (stored : List Row) (held : Owner → Option Row) :
    Prop where
  free : ∀ owner row, held owner = some row → ∀ other ∈ stored, ¬clash row other
  apart : ∀ owner row, held owner = some row → ∀ other pending, other ≠ owner →
    held other = some pending → ¬clash row pending

namespace Reserved

variable {clash : Row → Row → Prop} {stored : List Row} {held : Owner → Option Row}
  {owner : Owner} {row : Row}

theorem nothing (idle : ∀ owner, held owner = none) : Reserved clash stored held where
  free owner row holds := by
    rw [idle] at holds
    cases holds
  apart owner row holds := by
    rw [idle] at holds
    cases holds

theorem rewrite (reserved : Reserved clash stored held) {rewritten : List Row}
    (free : ∀ owner row, held owner = some row → ∀ other ∈ rewritten, ¬clash row other) :
    Reserved clash rewritten held :=
  { free := free
    apart := reserved.apart }

variable [DecidableEq Owner]

theorem release (reserved : Reserved clash stored held) (owner : Owner) :
    Reserved clash stored (Function.update held owner none) := by
  have kept : ∀ other pending, Function.update held owner none other = some pending →
      held other = some pending := by
    intro other pending holds
    by_cases same : other = owner
    · rw [same, Function.update_self] at holds
      cases holds
    · rwa [Function.update_of_ne same] at holds
  constructor
  · intro other pending holds
    exact reserved.free other pending (kept other pending holds)
  · intro one row holds other pending different holds'
    exact reserved.apart one row (kept one row holds) other pending different
      (kept other pending holds')

theorem hold (reserved : Reserved clash stored held) (symmetric : ∀ a b, clash a b → clash b a)
    (free : ∀ other ∈ stored, ¬clash row other)
    (waits : ∀ other pending, other ≠ owner → held other = some pending → ¬clash row pending) :
    Reserved clash stored (Function.update held owner (some row)) := by
  constructor
  · intro one pending holds
    by_cases same : one = owner
    · rw [same, Function.update_self] at holds
      cases holds
      exact free
    · rw [Function.update_of_ne same] at holds
      exact reserved.free one pending holds
  · intro one mine holds other pending different holds'
    by_cases same : one = owner
    · subst same
      rw [Function.update_self] at holds
      rw [Function.update_of_ne different] at holds'
      cases holds
      exact waits other pending different holds'
    · rw [Function.update_of_ne same] at holds
      by_cases same' : other = owner
      · subst same'
        rw [Function.update_self] at holds'
        cases holds'
        exact fun clashes => waits one mine same holds (symmetric _ _ clashes)
      · rw [Function.update_of_ne same'] at holds'
        exact reserved.apart one mine holds other pending different holds'

/-- The row that is stored clashes with none that the others hold. -/
theorem store (reserved : Reserved clash stored held) (holds : held owner = some row) :
    Reserved clash (row :: stored) (Function.update held owner none) := by
  refine (reserved.release owner).rewrite ?_
  intro other pending holds' listed member
  by_cases same : other = owner
  · rw [same, Function.update_self] at holds'
    cases holds'
  · rw [Function.update_of_ne same] at holds'
    rcases List.mem_cons.mp member with rfl | earlier
    · exact reserved.apart other pending holds' owner listed (Ne.symm same) holds
    · exact reserved.free other pending holds' listed earlier

end Reserved

end BackendFoundation.Database
