/-
Between the grant of the advisory lock and the end of the transaction, the session of a
runner holds the lock.
-/

import BackendFoundation.Migrations.Steps

namespace BackendFoundation.Migrations

open Database Transition

variable {Process Content Mark : Type}

inductive Stage.Unopened : Stage Mark → Prop
  | ready : Unopened .ready
  | connecting : Unopened .connecting

/-- Over a working connection the session is with the query the runner waits for. -/
structure Runner.Synced (runner : Runner Mark) : Prop where
  awaits : runner.link = true → ∀ query, runner.stage.query = some query →
    runner.session = .busy query ∨ ∃ reply, runner.session = .replied reply
  idle : runner.link = true → runner.stage.query = none → runner.session = .idle
  keyed : ∀ keys, runner.stage = .trying (.advisoryLock keys) → keys = migrationAdvisoryLockKeys
  unopened : runner.stage.Unopened → runner.session = .closed ∧ runner.link = false

/-- The lock was granted, and neither given back nor lost. -/
inductive Runner.Locking (runner : Runner Mark) : Prop
  | reading : runner.session = .busy .journal → Locking runner
  | applying {mark : Mark} : runner.session = .busy (.transaction mark) → Locking runner
  | granted {keys : Int × Int} : runner.link = true →
      runner.stage = .trying (.advisoryLock keys) → runner.session = .replied .done →
      Locking runner
  | read {reply : Reply Mark} : runner.link = true → runner.stage = .trying .journal →
      runner.session = .replied reply → Locking runner
  | applied {mark : Mark} {reply : Reply Mark} : runner.link = true →
      runner.stage = .trying (.transaction mark) → runner.session = .replied reply →
      Locking runner

theorem resume_keyed {query : Query Mark} {reply : Reply Mark} {keys : Int × Int}
    (next : resume query reply = .trying (.advisoryLock keys)) :
    keys = migrationAdvisoryLockKeys := by
  unfold resume at next
  split at next <;> cases next
  rfl

theorem Stage.answered_keyed {stage : Stage Mark} {reply : Reply Mark} {keys : Int × Int}
    (earlier : stage = .trying (.advisoryLock keys) → keys = migrationAdvisoryLockKeys)
    (next : stage.answered reply = .trying (.advisoryLock keys)) :
    keys = migrationAdvisoryLockKeys := by
  unfold Stage.answered at next
  split at next
  · exact resume_keyed next
  · cases next
  · exact earlier next

theorem Stage.answered_unopened {stage : Stage Mark} {reply : Reply Mark}
    (unopened : (stage.answered reply).Unopened) : stage.Unopened := by
  unfold Stage.answered at unopened
  split at unopened
  · rename_i query
    unfold resume at unopened
    split at unopened <;> cases unopened
  · cases unopened
  · exact unopened

theorem Runner.enter_synced {runner : Runner Mark} {stage : Stage Mark}
    (keyed : ∀ keys, stage = .trying (.advisoryLock keys) → keys = migrationAdvisoryLockKeys)
    (opened : ¬stage.Unopened) :
    (runner.enter stage).Synced := by
  constructor
  · intro linked query awaited
    have link : runner.link = true := linked
    left
    change (if runner.link then stage.query.elim Session.idle Session.busy else runner.session) = _
    rw [if_pos link, show stage.query = some query from awaited]
    rfl
  · intro linked nothing
    have link : runner.link = true := linked
    change (if runner.link then stage.query.elim Session.idle Session.busy else runner.session) = _
    rw [if_pos link, show stage.query = none from nothing]
    rfl
  · exact keyed
  · intro unopened
    exact absurd unopened opened

theorem Runner.synced_of_unlinked {runner : Runner Mark} (unlinked : runner.link = false)
    (keyed : ∀ keys, runner.stage = .trying (.advisoryLock keys) →
      keys = migrationAdvisoryLockKeys)
    (closed : runner.stage.Unopened → runner.session = .closed) : runner.Synced := by
  constructor
  · intro linked
    rw [unlinked] at linked
    cases linked
  · intro linked
    rw [unlinked] at linked
    cases linked
  · exact keyed
  · intro unopened
    exact ⟨closed unopened, unlinked⟩

theorem Runner.Offline.keyed {before : Runner Mark} {stage : Stage Mark}
    (synced : before.Synced) (following : before.Offline stage) :
    ∀ keys, stage = .trying (.advisoryLock keys) → keys = migrationAdvisoryLockKeys := by
  intro keys next
  cases following with
  | stays => exact synced.keyed keys next
  | killed => cases next
  | notices => exact Stage.answered_keyed (synced.keyed keys) next
  | ends => cases next

theorem Runner.Offline.unopened {before : Runner Mark} {stage : Stage Mark}
    (synced : before.Synced) (following : before.Offline stage) (unopened : stage.Unopened) :
    before.session = .closed := by
  cases following with
  | stays => exact (synced.unopened unopened).1
  | killed => cases unopened
  | notices => exact (synced.unopened (Stage.answered_unopened unopened)).1
  | ends => cases unopened

variable [DecidableEq Process]

section Turns

variable {setup : Setup Process Content Mark} {server after : Server Process Content}
  {process : Process} {before runner : Runner Mark} {action : Action Process}

theorem Setup.Turn.synced (turn : setup.Turn server process before action after runner)
    (synced : before.Synced) : runner.Synced := by
  cases turn with
  | @starts stage unconnected following =>
      have opened : before.stage.Unopened := by
        rcases unconnected with ready | connecting
        · rw [ready]
          exact .ready
        · rw [connecting]
          exact .connecting
      have unlinked := synced.unopened opened
      apply @Runner.synced_of_unlinked _ { before with stage := stage } unlinked.2
      · intro keys next
        rcases following with rfl | ⟨_, rfl⟩ <;> cases next
      · intro _
        exact unlinked.1
  | connects connecting =>
      apply Runner.enter_synced
      · intro keys next
        cases next
      · intro unopened
        cases unopened
  | serves busy | fails busy =>
      constructor
      · intro linked query awaited
        exact .inr ⟨_, rfl⟩
      · intro linked nothing
        have idle := synced.idle linked nothing
        rw [busy] at idle
        cases idle
      · exact synced.keyed
      · intro unopened
        have closed := (synced.unopened unopened).1
        rw [busy] at closed
        cases closed
  | receives linked replied =>
      apply Runner.enter_synced fun keys => Stage.answered_keyed (synced.keyed keys)
      intro unopened
      have closed := (synced.unopened (Stage.answered_unopened unopened)).1
      rw [replied] at closed
      cases closed
  | @offline stage following cause =>
      have closed : stage.Unopened → before.session = .closed := following.unopened synced
      exact Runner.synced_of_unlinked rfl (following.keyed synced) closed
  | closes following =>
      apply Runner.synced_of_unlinked rfl
      · intro keys next
        rcases following with rfl | ⟨_, _, rfl⟩
        · exact synced.keyed keys next
        · cases next
      · intro _
        rfl

/-- No step moves a lock between the sessions of others. -/
theorem Setup.Turn.others (turn : setup.Turn server process before action after runner)
    {other : Process} (different : other ≠ process) (keys : Int × Int) :
    (after.locks keys).HeldBy other ↔ (server.locks keys).HeldBy other := by
  have set : ∀ changed lock, ((lock : AdvisoryLock Process).HeldBy other ↔
      (server.locks changed).HeldBy other) →
      (((server.setLock changed lock).locks keys).HeldBy other ↔
        (server.locks keys).HeldBy other) := by
    intro changed lock same
    change (Function.update server.locks changed lock keys).HeldBy other ↔ _
    by_cases equal : keys = changed
    · subst equal
      rw [Function.update_self]
      exact same
    · rw [Function.update_of_ne equal]
  cases turn with
  | starts | connects | fails | receives | offline => rfl
  | closes =>
      change ((server.locks keys).sessionEnds process).HeldBy other ↔ _
      rw [AdvisoryLock.sessionEnds_heldBy]
      exact and_iff_left different
  | @serves query _ _ _ busy served told =>
      cases query with
      | setStatementTimeout | setLockTimeout | journal =>
          cases served
          rfl
      | advisoryLock changed =>
          obtain ⟨lock, acquired, same⟩ := Option.map_eq_some_iff.mp served
          cases same
          apply set
          constructor
          · intro held
            exact absurd (held.unique (AdvisoryLock.acquire_heldBy acquired)) different
          · intro held
            exact absurd (AdvisoryLock.acquire_alone acquired held) different
      | transaction mark =>
          rw [Setup.serve] at served
          split at served <;> cases served <;> rfl
      | advisoryUnlock changed =>
          cases served
          exact set _ _ (AdvisoryLock.release_other different)

/-- The reply that grants the lock comes with the lock. -/
theorem Setup.serve_granted {keys : Int × Int} {reply : Reply Mark}
    (served : setup.serve process server (.advisoryLock keys) = some (after, reply)) :
    (after.locks keys).HeldBy process := by
  obtain ⟨lock, acquired, same⟩ := Option.map_eq_some_iff.mp served
  cases same
  change (Function.update server.locks keys lock keys).HeldBy process
  rw [Function.update_self]
  exact AdvisoryLock.acquire_heldBy acquired

theorem Setup.serve_journal {reply : Reply Mark}
    (served : setup.serve process server .journal = some (after, reply)) :
    after = server ∧ reply = .last ((setup.migrator process).last server.content) := by
  cases served
  exact ⟨rfl, rfl⟩

theorem Setup.serve_transaction_locks {mark : Mark} {reply : Reply Mark}
    (served : setup.serve process server (.transaction mark) = some (after, reply)) :
    after.locks = server.locks := by
  rw [Setup.serve] at served
  split at served <;> cases served <;> rfl

theorem Runner.Synced.busy (synced : before.Synced) {query : Query Mark}
    (busy : before.session = .busy query) (linked : before.link = true) {awaited : Query Mark}
    (stage : before.stage.query = some awaited) : query = awaited := by
  rcases synced.awaits linked awaited stage with same | ⟨reply, replied⟩
  · rw [busy] at same
    exact Session.busy.inj same
  · rw [busy] at replied
    cases replied

theorem resume_journal {query : Query Mark} {reply : Reply Mark}
    (next : resume query reply = .trying .journal) :
    (∃ keys, query = .advisoryLock keys) ∧ reply = .done := by
  unfold resume at next
  split at next <;> cases next
  exact ⟨⟨_, rfl⟩, rfl⟩

theorem resume_transaction {query : Query Mark} {reply : Reply Mark} {mark : Mark}
    (next : resume query reply = .trying (.transaction mark)) :
    query = .journal ∧ reply = .last mark := by
  unfold resume at next
  split at next <;> cases next
  exact ⟨rfl, rfl⟩

theorem Stage.answered_trying {stage : Stage Mark} {reply : Reply Mark} {query : Query Mark}
    (next : stage.answered reply = .trying query) :
    (∃ earlier, stage = .trying earlier ∧ resume earlier reply = .trying query) := by
  cases stage with
  | trying earlier => exact ⟨earlier, rfl, next⟩
  | releasing => cases next
  | ready | connecting | closing | ended | killed => cases next

theorem Runner.enter_session {runner : Runner Mark} (linked : runner.link = true)
    (stage : Stage Mark) :
    (runner.enter stage).session = stage.query.elim .idle .busy := by
  change (if runner.link then stage.query.elim Session.idle Session.busy else runner.session) = _
  rw [if_pos linked]

theorem Stage.query_busy {stage : Stage Mark} {query : Query Mark}
    (busy : stage.query.elim Session.idle Session.busy = .busy query) :
    stage.query = some query := by
  cases awaited : stage.query with
  | none =>
      rw [awaited] at busy
      cases busy
  | some other =>
      rw [awaited] at busy
      rw [Session.busy.inj busy]

theorem Stage.query_not_replied {stage : Stage Mark} {reply : Reply Mark} :
    stage.query.elim Session.idle Session.busy ≠ .replied reply := by
  cases stage.query with
  | none =>
      intro same
      cases same
  | some query =>
      intro same
      cases same

theorem Stage.trying_of_query {stage : Stage Mark} {query : Query Mark}
    (awaited : stage.query = some query) (kept : ∀ keys, query ≠ .advisoryUnlock keys) :
    stage = .trying query := by
  cases stage with
  | trying earlier =>
      cases awaited
      rfl
  | releasing outcome =>
      cases awaited
      exact absurd rfl (kept _)
  | ready | connecting | closing | ended | killed => cases awaited

/-- What the runner sends next, it sends under the lock. -/
theorem Runner.locking_of_receives {reply : Reply Mark} (linked : before.link = true)
    (replied : before.session = .replied reply)
    (locking : (before.enter (before.stage.answered reply)).Locking) : before.Locking := by
  have session := Runner.enter_session linked (before.stage.answered reply)
  cases locking with
  | reading busy =>
      rw [session] at busy
      have stage := Stage.trying_of_query (Stage.query_busy busy) (fun _ same => by cases same)
      obtain ⟨earlier, trying, next⟩ := Stage.answered_trying stage
      obtain ⟨⟨keys, rfl⟩, rfl⟩ := resume_journal next
      exact .granted linked trying replied
  | applying busy =>
      rw [session] at busy
      have stage := Stage.trying_of_query (Stage.query_busy busy) (fun _ same => by cases same)
      obtain ⟨earlier, trying, next⟩ := Stage.answered_trying stage
      obtain ⟨rfl, rfl⟩ := resume_transaction next
      exact .read linked trying replied
  | granted _ _ replied' | read _ _ replied' | applied _ _ replied' =>
      rw [session] at replied'
      exact absurd replied' Stage.query_not_replied

theorem Setup.Turn.locking (turn : setup.Turn server process before action after runner)
    (synced : before.Synced)
    (held : before.Locking → (server.locks migrationAdvisoryLockKeys).HeldBy process)
    (locking : runner.Locking) :
    (after.locks migrationAdvisoryLockKeys).HeldBy process := by
  cases turn with
  | starts unconnected following =>
      cases locking with
      | reading busy => exact held (.reading busy)
      | applying busy => exact held (.applying busy)
      | granted _ stage | read _ stage | applied _ stage =>
          rcases following with rfl | ⟨_, rfl⟩ <;> cases stage
  | connects =>
      have session := @Runner.enter_session _ { before with link := true } rfl
        (.trying (.setStatementTimeout defaultStatementTimeoutMs))
      cases locking with
      | reading busy | applying busy | granted _ _ busy | read _ _ busy | applied _ _ busy =>
          rw [session] at busy
          cases busy
  | serves busy served told =>
      cases locking with
      | reading same | applying same => cases same
      | granted linked stage replied =>
          have query := synced.busy busy linked (congrArg Stage.query stage)
          subst query
          rcases told with rfl | rfl
          · cases replied
            rw [← synced.keyed _ stage]
            exact Setup.serve_granted served
          · cases replied
      | read linked stage replied =>
          have query := synced.busy busy linked (congrArg Stage.query stage)
          subst query
          rw [(Setup.serve_journal served).1]
          exact held (.reading busy)
      | applied linked stage replied =>
          have query := synced.busy busy linked (congrArg Stage.query stage)
          subst query
          rw [Setup.serve_transaction_locks served]
          exact held (.applying busy)
  | fails busy =>
      cases locking with
      | reading same | applying same => cases same
      | granted _ _ replied => cases replied
      | read linked stage replied =>
          have query := synced.busy busy linked (congrArg Stage.query stage)
          subst query
          exact held (.reading busy)
      | applied linked stage replied =>
          have query := synced.busy busy linked (congrArg Stage.query stage)
          subst query
          exact held (.applying busy)
  | receives linked replied => exact held (Runner.locking_of_receives linked replied locking)
  | offline =>
      cases locking with
      | reading busy => exact held (.reading busy)
      | applying busy => exact held (.applying busy)
      | granted linked | read linked | applied linked => cases linked
  | closes =>
      cases locking with
      | reading busy | applying busy => cases busy
      | granted linked | read linked | applied linked => cases linked

theorem Setup.Turn.backed (turn : setup.Turn server process before action after runner)
    {keys : Int × Int}
    (backed : (server.locks keys).HeldBy process → before.session ≠ .closed)
    (held : (after.locks keys).HeldBy process) : runner.session ≠ .closed := by
  cases turn with
  | starts | offline => exact backed held
  | serves | fails =>
      intro closed
      cases closed
  | connects =>
      rw [@Runner.enter_session _ { before with link := true } rfl]
      intro closed
      cases closed
  | receives linked replied =>
      rw [Runner.enter_session linked]
      cases (before.stage.answered _).query with
      | none =>
          intro closed
          cases closed
      | some query =>
          intro closed
          cases closed
  | closes => exact absurd rfl (AdvisoryLock.sessionEnds_heldBy.mp held).2

end Turns

section Reached

variable {setup : Setup Process Content Mark} {start : Content}
  {allowed : State Process Content Mark → Action Process → Prop}
  {state : State Process Content Mark}

theorem Setup.synced (reached : (setup.system start).Reachable allowed state) :
    ∀ process, (state.runners process).Synced := by
  apply reached.invariant
  · intro state initial process
    cases initial
    apply Runner.synced_of_unlinked rfl
    · intro keys next
      cases next
    · intro _
      rfl
  · intro state action following synced _ stepped
    obtain ⟨process, server, runner, rfl, turn⟩ := Setup.step_turn stepped
    exact @State.become_all _ _ _ _ (fun _ runner => runner.Synced) _ synced _ _ _
      (turn.synced (synced process))

/-- A runner between grant and commit holds the lock, and every holder has a session. -/
structure State.Guarded (state : State Process Content Mark) : Prop where
  sole : ∀ process, (state.runners process).Locking →
    (state.server.locks migrationAdvisoryLockKeys).HeldBy process
  backed : ∀ process keys, (state.server.locks keys).HeldBy process →
    (state.runners process).session ≠ .closed

theorem Setup.guarded (reached : (setup.system start).Reachable allowed state) :
    state.Guarded := by
  have synced : ∀ state, (setup.system start).Reachable allowed state →
      ∀ process, (state.runners process).Synced := fun _ reached => Setup.synced reached
  apply reached.invariant_using synced
  · intro state initial
    cases initial
    constructor
    · intro process locking
      cases locking with
      | reading same | applying same => cases same
      | granted linked | read linked | applied linked => cases linked
    · intro process keys held
      obtain ⟨_, impossible⟩ := held
      cases impossible
  · intro state action following synced guarded _ stepped
    obtain ⟨process, server, runner, rfl, turn⟩ := Setup.step_turn stepped
    constructor
    · intro other locking
      by_cases same : other = process
      · subst same
        rw [State.become_self] at locking
        exact turn.locking (synced other) (guarded.sole other) locking
      · rw [State.become_other _ _ _ same] at locking
        exact (turn.others same _).mpr (guarded.sole other locking)
    · intro other keys held
      by_cases same : other = process
      · subst same
        rw [State.become_self]
        exact turn.backed (guarded.backed other keys) held
      · rw [State.become_other _ _ _ same]
        exact guarded.backed other keys ((turn.others same keys).mp held)

end Reached

end BackendFoundation.Migrations
