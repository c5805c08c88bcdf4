/-
What one step can do to the server and to the runner it belongs to.
-/

import BackendFoundation.Migrations.RunMigrations

namespace BackendFoundation.Migrations

open Database

variable {Process Content Mark : Type}

/-- Stages that a runner reaches without its connection. -/
inductive Runner.Offline (before : Runner Mark) : Stage Mark → Prop
  | stays : Offline before before.stage
  | killed : Offline before .killed
  | notices : before.link = false → Offline before (before.stage.answered .failed)
  | ends {outcome : Outcome} : before.stage = .closing outcome → Offline before (.ended outcome)

variable [DecidableEq Process]

/-- The server and the runner that a step leaves behind. -/
inductive Setup.Turn (setup : Setup Process Content Mark) (server : Server Process Content)
    (process : Process) (before : Runner Mark) :
    Action Process → Server Process Content → Runner Mark → Prop
  | starts {action : Action Process} {stage : Stage Mark}
      (unconnected : before.stage = .ready ∨ before.stage = .connecting)
      (following : stage = .connecting ∨ ∃ error, stage = .ended (.rejected error)) :
      Turn setup server process before action server { before with stage := stage }
  | connects {action : Action Process} (connecting : before.stage = .connecting) :
      Turn setup server process before action server
        ({ before with link := true }.enter
          (.trying (.setStatementTimeout defaultStatementTimeoutMs)))
  | serves {action : Action Process} {query : Query Mark} {after : Server Process Content}
      {reply reply' : Reply Mark} (busy : before.session = .busy query)
      (served : setup.serve process server query = some (after, reply))
      (told : reply' = reply ∨ reply' = .failed) :
      Turn setup server process before action after { before with session := .replied reply' }
  | fails {action : Action Process} {query : Query Mark} (busy : before.session = .busy query) :
      Turn setup server process before action server { before with session := .replied .failed }
  | receives {action : Action Process} {reply : Reply Mark} (linked : before.link = true)
      (replied : before.session = .replied reply) :
      Turn setup server process before action server (before.enter (before.stage.answered reply))
  | offline {action : Action Process} {stage : Stage Mark} (following : before.Offline stage)
      (cause : action = .breaks process ∨ action = .killed process ∨ before.link = false) :
      Turn setup server process before action server
        { before with
          stage := stage
          link := false }
  | closes {action : Action Process} {stage : Stage Mark}
      (following : stage = before.stage ∨
        ∃ outcome, before.stage = .closing outcome ∧ stage = .ended outcome) :
      Turn setup server process before action (server.sessionEnds process)
        { stage := stage
          link := false
          session := .closed }

def State.become (state : State Process Content Mark) (server : Server Process Content)
    (process : Process) (runner : Runner Mark) : State Process Content Mark :=
  { server := server
    runners := Function.update state.runners process runner }

@[simp] theorem State.become_self (state : State Process Content Mark)
    (server : Server Process Content) (process : Process) (runner : Runner Mark) :
    (state.become server process runner).runners process = runner :=
  Function.update_self _ _ _

theorem State.become_other (state : State Process Content Mark)
    (server : Server Process Content) {process other : Process} (runner : Runner Mark)
    (different : other ≠ process) :
    (state.become server process runner).runners other = state.runners other :=
  Function.update_of_ne different _ _

/-- What holds of every runner is kept where the one that moves keeps it. -/
theorem State.become_all {property : Process → Runner Mark → Prop}
    {state : State Process Content Mark} (all : ∀ other, property other (state.runners other))
    {server : Server Process Content} {process : Process} {runner : Runner Mark}
    (moved : property process runner) (other : Process) :
    property other ((state.become server process runner).runners other) := by
  by_cases same : other = process
  · subst same
    rw [State.become_self]
    exact moved
  · rw [State.become_other _ _ _ same]
    exact all other

section Cases

variable {setup : Setup Process Content Mark} {server : Server Process Content}
  {process : Process} {before after : Runner Mark} {action : Action Process}

theorem Setup.start_turn (started : setup.start process before = some after) :
    setup.Turn server process before action server after := by
  unfold Setup.start at started
  split at started
  · rename_i ready
    split at started
    · cases started
      exact .starts (.inl ready) (.inr ⟨_, rfl⟩)
    · cases started
      exact .starts (.inl ready) (.inl rfl)
  · cases started

theorem connects_turn (connected : connects before = some after) :
    setup.Turn server process before action server after := by
  unfold connects at connected
  split at connected
  · rename_i connecting
    cases connected
    exact .connects connecting
  · cases connected

theorem connectFails_turn (failed : connectFails before = some after) :
    setup.Turn server process before action server after := by
  unfold connectFails at failed
  split at failed
  · rename_i connecting
    cases failed
    exact .starts (.inr connecting) (.inr ⟨_, rfl⟩)
  · cases failed

theorem receives_turn (received : receives before = some after) :
    setup.Turn server process before action server after := by
  unfold receives at received
  split at received
  · rename_i linked replied
    cases received
    exact .receives linked replied
  · cases received

theorem breaks_turn (broken : breaks before = some after) :
    setup.Turn server process before (.breaks process) server after := by
  unfold breaks at broken
  split at broken
  · cases broken
    exact .offline .stays (.inl rfl)
  · cases broken

theorem notices_turn (noticed : notices before = some after) :
    setup.Turn server process before action server after := by
  unfold notices at noticed
  split at noticed
  · rename_i unlinked _
    cases noticed
    have same : before.enter (before.stage.answered .failed) =
        { before with
          stage := before.stage.answered .failed
          link := false } := by
      simp only [Runner.enter, unlinked, Bool.false_eq_true, if_false]
    rw [same]
    exact .offline (.notices unlinked) (.inr (.inr unlinked))
  · cases noticed

end Cases

/-- Everything a step can do. -/
theorem Setup.step_turn {setup : Setup Process Content Mark}
    {state after : State Process Content Mark} {action : Action Process}
    (stepped : setup.step state action = some after) :
    ∃ process server runner, after = state.become server process runner ∧
      setup.Turn state.server process (state.runners process) action server runner := by
  cases action with
  | start process =>
      obtain ⟨runner, started, rfl⟩ := Option.map_eq_some_iff.mp stepped
      exact ⟨process, _, runner, rfl, Setup.start_turn started⟩
  | connects process =>
      obtain ⟨runner, connected, rfl⟩ := Option.map_eq_some_iff.mp stepped
      exact ⟨process, _, runner, rfl, connects_turn connected⟩
  | connectFails process =>
      obtain ⟨runner, failed, rfl⟩ := Option.map_eq_some_iff.mp stepped
      exact ⟨process, _, runner, rfl, connectFails_turn failed⟩
  | serves process =>
      simp only [Setup.step] at stepped
      split at stepped
      · rename_i query busy
        obtain ⟨result, served, rfl⟩ := Option.map_eq_some_iff.mp stepped
        exact ⟨process, _, _, rfl, .serves busy served (.inl rfl)⟩
      · cases stepped
  | fails process afterEffect =>
      simp only [Setup.step] at stepped
      split at stepped
      · rename_i query busy
        split at stepped
        · obtain ⟨result, served, rfl⟩ := Option.map_eq_some_iff.mp stepped
          exact ⟨process, _, _, rfl, .serves busy served (.inr rfl)⟩
        · cases stepped
          exact ⟨process, _, _, rfl, .fails busy⟩
      · cases stepped
  | receives process =>
      obtain ⟨runner, received, rfl⟩ := Option.map_eq_some_iff.mp stepped
      exact ⟨process, _, runner, rfl, receives_turn received⟩
  | breaks process =>
      obtain ⟨runner, broken, rfl⟩ := Option.map_eq_some_iff.mp stepped
      exact ⟨process, _, runner, rfl, breaks_turn broken⟩
  | notices process =>
      obtain ⟨runner, noticed, rfl⟩ := Option.map_eq_some_iff.mp stepped
      exact ⟨process, _, runner, rfl, notices_turn noticed⟩
  | sessionEnds process =>
      simp only [Setup.step] at stepped
      split at stepped
      · cases stepped
      · cases stepped
        exact ⟨process, _, _, rfl, .closes (.inl rfl)⟩
  | ends process =>
      simp only [Setup.step] at stepped
      split at stepped
      · rename_i outcome closing
        split at stepped
        · cases stepped
          exact ⟨process, _, _, rfl, .closes (.inr ⟨outcome, closing, rfl⟩)⟩
        · rename_i unlinked
          cases stepped
          have broken : (state.runners process).link = false := Bool.not_eq_true _ ▸ unlinked
          have same : { state.runners process with stage := Stage.ended outcome } =
              { state.runners process with
                stage := Stage.ended outcome
                link := false } := by
            rw [← broken]
          refine ⟨process, _, _, rfl, ?_⟩
          rw [same]
          exact .offline (.ends closing) (.inr (.inr broken))
      · cases stepped
  | killed process =>
      cases stepped
      exact ⟨process, _, _, rfl, .offline .killed (.inr (.inl rfl))⟩

end BackendFoundation.Migrations
