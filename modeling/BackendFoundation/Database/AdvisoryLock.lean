/-
A PostgreSQL advisory lock at session level. One session holds it at a time, as often as it
asked for it, until it has given it back as often or ends.
-/

import Mathlib.Logic.Basic

namespace BackendFoundation.Database

inductive AdvisoryLock (Session : Type)
  | free
  | held (holder : Session) (again : Nat)

namespace AdvisoryLock

variable {Session : Type}

def HeldBy (lock : AdvisoryLock Session) (session : Session) : Prop :=
  ∃ again, lock = .held session again

theorem HeldBy.unique {lock : AdvisoryLock Session} {session other : Session}
    (mine : lock.HeldBy session) (theirs : lock.HeldBy other) : session = other := by
  obtain ⟨again, rfl⟩ := mine
  obtain ⟨_, same⟩ := theirs
  exact (AdvisoryLock.held.inj same).1

theorem eq_free_of_not_heldBy {lock : AdvisoryLock Session}
    (nobody : ∀ session, ¬lock.HeldBy session) : lock = .free := by
  cases lock with
  | free => rfl
  | held holder again => exact absurd ⟨again, rfl⟩ (nobody holder)

def givenBack (holder : Session) : Nat → AdvisoryLock Session
  | 0 => .free
  | again + 1 => .held holder again

theorem givenBack_heldBy {holder other : Session} {again : Nat}
    (held : (givenBack holder again).HeldBy other) : other = holder := by
  cases again with
  | zero =>
      obtain ⟨_, impossible⟩ := held
      cases impossible
  | succ again => exact HeldBy.unique held ⟨again, rfl⟩

variable [DecidableEq Session]

/-- The call waits while another session holds the lock. -/
def acquire (session : Session) : AdvisoryLock Session → Option (AdvisoryLock Session)
  | .free => some (.held session 0)
  | .held holder again => if holder = session then some (.held session (again + 1)) else none

/-- Whether there was something to give back. -/
def release (session : Session) : AdvisoryLock Session → AdvisoryLock Session × Bool
  | .free => (.free, false)
  | .held holder again =>
      if holder = session then (givenBack session again, true)
      else (.held holder again, false)

def sessionEnds (session : Session) : AdvisoryLock Session → AdvisoryLock Session
  | .free => .free
  | .held holder again => if holder = session then .free else .held holder again

variable {session other : Session} {lock after : AdvisoryLock Session}

theorem acquire_heldBy (acquired : lock.acquire session = some after) : after.HeldBy session := by
  cases lock with
  | free =>
      cases acquired
      exact ⟨0, rfl⟩
  | held holder again =>
      rw [acquire] at acquired
      split at acquired
      · cases acquired
        exact ⟨again + 1, rfl⟩
      · cases acquired

/-- Nobody else holds a lock that can be had. -/
theorem acquire_alone (acquired : lock.acquire session = some after)
    (held : lock.HeldBy other) : other = session := by
  obtain ⟨again, rfl⟩ := held
  rw [acquire] at acquired
  split at acquired
  · rename_i same
    exact same
  · cases acquired

/-- What is given back by one session stays with every other. -/
theorem release_other (different : other ≠ session) :
    (lock.release session).1.HeldBy other ↔ lock.HeldBy other := by
  cases lock with
  | free => rfl
  | held holder again =>
      by_cases same : holder = session
      · subst same
        have mine : ¬(held holder again).HeldBy other := fun held =>
          different (HeldBy.unique held ⟨again, rfl⟩)
        refine iff_of_false ?_ mine
        rw [release, if_pos rfl]
        intro held
        exact different (givenBack_heldBy held)
      · rw [release, if_neg same]

theorem sessionEnds_heldBy :
    (lock.sessionEnds session).HeldBy other ↔ lock.HeldBy other ∧ other ≠ session := by
  cases lock with
  | free =>
      constructor
      · intro held
        obtain ⟨_, impossible⟩ := held
        cases impossible
      · intro held
        exact held.1
  | held holder again =>
      by_cases same : holder = session
      · subst same
        rw [sessionEnds, if_pos rfl]
        constructor
        · intro held
          obtain ⟨_, impossible⟩ := held
          cases impossible
        · intro held
          exact absurd (HeldBy.unique held.1 ⟨again, rfl⟩) held.2
      · rw [sessionEnds, if_neg same]
        constructor
        · intro held
          refine ⟨held, ?_⟩
          rw [HeldBy.unique held ⟨again, rfl⟩]
          exact same
        · intro held
          exact held.1

end AdvisoryLock

end BackendFoundation.Database
