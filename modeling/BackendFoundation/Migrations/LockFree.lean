/-
What becomes of the advisory lock while connections work: queries may fail, lock waits may time
out and sessions may be ended by the server, and a runner that has ended holds nothing.
-/

import BackendFoundation.Migrations.Serialized

namespace BackendFoundation.Migrations

open Database Transition

variable {Process Content Mark : Type} [DecidableEq Process]

section Ends

/-- The connection of the runner works until its session ends. -/
structure Runner.Whole (runner : Runner Mark) : Prop where
  tied : runner.link = false → runner.session = .closed
  apart : ∀ outcome, runner.stage = .ended outcome → runner.link = false

/-- Queries may fail, locks may time out and sessions may be ended by the server. -/
def Unbroken (_ : State Process Content Mark) (action : Action Process) : Prop :=
  ∀ process, action ≠ .breaks process ∧ action ≠ .killed process

variable {setup : Setup Process Content Mark}

theorem Setup.Turn.whole {server after : Server Process Content} {process : Process}
    {before runner : Runner Mark} {action : Action Process}
    (turn : setup.Turn server process before action after runner) (synced : before.Synced)
    (unbroken : action ≠ .breaks process ∧ action ≠ .killed process) (whole : before.Whole) :
    runner.Whole := by
  cases turn with
  | starts unconnected =>
      have unopened : before.stage.Unopened := by
        rcases unconnected with ready | connecting
        · exact ready ▸ .ready
        · exact connecting ▸ .connecting
      exact ⟨whole.tied, fun _ _ => (synced.unopened unopened).2⟩
  | connects =>
      constructor
      · intro unlinked
        cases unlinked
      · intro outcome ended
        cases ended
  | serves busy | fails busy =>
      constructor
      · intro unlinked
        have closed := whole.tied unlinked
        rw [busy] at closed
        cases closed
      · exact whole.apart
  | receives linked =>
      constructor
      · intro unlinked
        have link : before.link = false := unlinked
        rw [linked] at link
        cases link
      · intro outcome ended
        exact whole.apart outcome (Stage.answered_ended ended)
  | offline following cause =>
      constructor
      · intro _
        rcases cause with broken | killed | unlinked
        · exact absurd broken unbroken.1
        · exact absurd killed unbroken.2
        · exact whole.tied unlinked
      · intro _ _
        rfl
  | closes => exact ⟨fun _ => rfl, fun _ _ => rfl⟩

variable {start : Content} {state : State Process Content Mark}

theorem Setup.whole (reached : (setup.system start).Reachable Unbroken state) :
    ∀ process, (state.runners process).Whole := by
  have synced : ∀ state, (setup.system start).Reachable Unbroken state →
      ∀ process, (state.runners process).Synced := fun _ reached => Setup.synced reached
  apply reached.invariant_using synced
  · intro state initial process
    cases initial
    exact ⟨fun _ => rfl, fun _ _ => rfl⟩
  · intro state action following synced whole unbroken stepped
    obtain ⟨process, server, runner, rfl, turn⟩ := Setup.step_turn stepped
    exact @State.become_all _ _ _ _ (fun _ runner => runner.Whole) _ whole _ _ _
      (turn.whole (synced process) (unbroken process) (whole process))

/-- Whatever fails, a runner that has ended holds no advisory lock, and after the last one the
lock is free. -/
theorem lock_left_free (reached : (setup.system start).Reachable Unbroken state) :
    (∀ process outcome, (state.runners process).stage = .ended outcome →
      ∀ keys, ¬(state.server.locks keys).HeldBy process) ∧
      ((∀ process, (state.runners process).stage = .ready ∨
        ∃ outcome, (state.runners process).stage = .ended outcome) →
        ∀ keys, state.server.locks keys = .free) := by
  have ended : ∀ process outcome, (state.runners process).stage = .ended outcome →
      ∀ keys, ¬(state.server.locks keys).HeldBy process := by
    intro process outcome ended keys held
    have whole := Setup.whole reached process
    exact (Setup.guarded reached).backed process keys held
      (whole.tied (whole.apart outcome ended))
  refine ⟨ended, ?_⟩
  intro all keys
  apply AdvisoryLock.eq_free_of_not_heldBy
  intro process held
  rcases all process with ready | ⟨outcome, done⟩
  · exact (Setup.guarded reached).backed process keys held
      ((Setup.synced reached process).unopened (ready ▸ .ready)).1
  · exact ended process outcome done keys held

def Action.intact : Action Process → Bool
  | .breaks _ | .killed _ => false
  | _ => true

/-- The lock of one runner outlives the timeout of another, and both end. -/
theorem timedOut_lock_left_free : ∃ state : State Bool (List Nat) (Option Nat),
    (twoRunners.system []).Reachable Unbroken state ∧
      ∀ keys, state.server.locks keys = .free := by
  have executed :
      ((twoRunners.system []).execute
        (fun _ action => action.intact) (State.start [])
        (opening true ++ opening false ++ [.serves true, .receives true] ++ timedOut false ++
          (underLock true).drop 2)).map
          (fun state => ((state.runners true).stage, (state.runners false).stage)) =
        some (.ended .resolved, .ended (.rejected (.error
          ("Timed out waiting for migration advisory lock. " ++
            "Another migration process may be running.")))) := by
    rfl
  obtain ⟨state, run, facts⟩ := Option.map_eq_some_iff.mp executed
  obtain ⟨first, second⟩ := Prod.mk.inj facts
  have reached : (twoRunners.system []).Reachable Unbroken state := by
    apply Transition.System.Reachable.of_execute _ rfl run
    intro state action intact process
    constructor
    · intro broken
      subst broken
      cases intact
    · intro killed
      subst killed
      cases intact
  refine ⟨state, reached, (lock_left_free reached).2 ?_⟩
  intro process
  cases process with
  | true => exact .inr ⟨_, first⟩
  | false => exact .inr ⟨_, second⟩

end Ends

end BackendFoundation.Migrations
