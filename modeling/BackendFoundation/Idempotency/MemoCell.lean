/-
Without failures the idempotency keys are a memo cell that is filled at most once:
what the callers and their handlers see of any interleaving is a run of the cell.
-/

import BackendFoundation.Idempotency.Exclusive

namespace BackendFoundation.Idempotency

open Redis Redis.Slot Redis.RedisService Transition

variable {Call Response : Type}

/-- The cell that the keys stand for: vacant, taken by the call whose handler runs, or
filled for good by the call whose handler resolved. -/
inductive Memo (Call Response : Type)
  | vacant
  | executing (call : Call)
  | filled (owner : Call) (result : Response)

inductive Event (Call Response : Type)
  | starts (call : Call)
  | rejects (call : Call)
  | resolves (call : Call) (response : Response)
  | fulfils (call : Call) (response : Response)

open Classical in
/-- The abstract cell: one call at a time executes, a rejection vacates the cell, and
once it is filled it only answers. -/
noncomputable def Setup.memo (setup : Setup Call Response) :
    System (Memo Call Response) (Event Call Response) :=
  { initial := fun cell => cell = .vacant
    step := fun cell event =>
      match cell, event with
      | .vacant, .starts call => some (.executing call)
      | .executing call, .rejects other => if call = other then some .vacant else none
      | .executing call, .resolves other response =>
          if call = other then some (.filled call response) else none
      | .filled owner result, .fulfils call response =>
          if setup.Repeats owner result call response then some (.filled owner result) else none
      | _, _ => none }

/-- What the callers and their handlers see of a step. -/
def State.observe (state : State Call Response) (action : Action Call Response)
    (following : State Call Response) : List (Event Call Response) :=
  match action with
  | .proceed call =>
      match (state.calls call).phase with
      | .calling => [.starts call]
      | _ => []
  | .handlerResolves call response => [.resolves call response]
  | .handlerRejects call => [.rejects call]
  | .command call =>
      match (following.calls call).phase with
      | .settled (.fulfilled response) => [.fulfils call response]
      | _ => []
  | _ => []

/-- The cell that a state represents. -/
def State.Shows (state : State Call Response) : Memo Call Response → Prop
  | .vacant => (∀ call, (state.calls call).phase ≠ .running) ∧
      ∀ call result, ¬state.Resolved call result
  | .executing call => (state.calls call).phase = .running ∧
      ∀ other result, ¬state.Resolved other result
  | .filled owner result => state.Resolved owner result

theorem State.Shows.of_same {state following : State Call Response}
    {cell : Memo Call Response} (shown : state.Shows cell)
    (running : ∀ call, (following.calls call).phase = .running ↔
      (state.calls call).phase = .running)
    (resolved : ∀ call result, following.Resolved call result ↔ state.Resolved call result) :
    following.Shows cell := by
  cases cell with
  | vacant =>
      exact ⟨fun call => mt (running call).mp (shown.1 call),
        fun call result => mt (resolved call result).mp (shown.2 call result)⟩
  | executing call =>
      exact ⟨(running call).mpr shown.1,
        fun other result => mt (resolved other result).mp (shown.2 other result)⟩
  | filled owner result => exact (resolved owner result).mpr shown

theorem Phase.Waits.not_running {before after : Phase Response} (waits : before.Waits after) :
    before ≠ .running ∧ after ≠ .running := by
  constructor
  · intro same
    subst same
    cases waits.1
  · intro same
    subst same
    rcases waits.2 with waiting | ⟨error, impossible⟩
    · cases waiting
    · cases impossible

theorem Setup.Reads.not_running {setup : Setup Call Response} {call : Call} {now : Nat}
    {keys : IdempotencyKeys} {before after : Phase Response}
    (reads : setup.Reads call now keys before after) : before ≠ .running ∧ after ≠ .running := by
  cases reads with
  | awaits waiting => exact waiting.waits.not_running
  | replays looks stored =>
      refine ⟨?_, nofun⟩
      intro same
      subst same
      cases looks
  | checkReplays | checkPasses | sameResult | otherResult | otherHash => exact ⟨nofun, nofun⟩

/-- No Redis command is issued while the handler runs. -/
theorem Setup.Effect.not_running {setup : Setup Call Response} {call : Call} {now : Nat}
    {keys written : IdempotencyKeys} {before after : CallState Response}
    (effect : setup.Effect call now keys before written after) :
    before.phase ≠ .running ∧ after.phase ≠ .running := by
  cases effect with
  | reads read => exact read.not_running
  | acquires phase => exact ⟨by rw [phase]; exact nofun, nofun⟩
  | completes phase => exact ⟨by rw [phase]; exact nofun, nofun⟩
  | losesLock phase => exact ⟨by rw [phase]; exact nofun, nofun⟩
  | persists phase => exact ⟨by rw [phase]; exact nofun, nofun⟩
  | unfences phase => exact ⟨by rw [phase]; exact nofun, nofun⟩
  | @releases succeeded outcome phase =>
      refine ⟨by rw [phase]; exact nofun, ?_⟩
      cases succeeded <;> exact nofun

theorem Setup.memo_step {setup : Setup Call Response} {cell cell' : Memo Call Response}
    {event : Event Call Response}
    (stepped : setup.memo.step cell event = some cell') :
    setup.memo.Run anyAction cell [event] cell' :=
  .snoc .nil trivial stepped

/-- A call that fulfils finds the cell filled with a response it may return. -/
theorem Setup.Exclusive.filled {setup : Setup Call Response} {state : State Call Response}
    (exclusive : setup.Exclusive state) {call : Call} {response : Response}
    (accounts : setup.Accounts state call (.fulfilled response)) {cell : Memo Call Response}
    (shown : state.Shows cell) :
    ∃ owner result, cell = .filled owner result ∧ setup.Repeats owner result call response := by
  obtain ⟨owner, result, resolved, repeats⟩ := Setup.Accounts.repeats accounts
  cases cell with
  | vacant => exact absurd resolved (shown.2 owner result)
  | executing executor => exact absurd resolved (shown.2 owner result)
  | filled holder stored =>
      cases exclusive.unique owner holder result stored resolved shown
      cases resolved.eq shown
      exact ⟨owner, result, rfl, repeats⟩

/-- A call whose handler has rejected is cleaning up or has settled. -/
theorem CallState.Coherent.rejected_phase {now startedAt : Nat} {call : CallState Response}
    (coherent : call.Coherent now) (rejected : call.handler = .rejected startedAt)
    (faultless : call.phase.faulty = false) :
    (∃ outcome, call.phase = .releasing false outcome) ∨
      (∃ outcome, call.phase = .unfencing outcome) ∨ ¬call.phase.Busy := by
  have agrees := coherent.agrees
  rw [rejected] at agrees
  cases phase : call.phase with
  | entryResult | entryFence | acquiring | sleeping | pollResult | pollLock
  | pollFence | finalResult | settled =>
      refine Or.inr (Or.inr ?_)
      intro either
      rcases either with holds | ⟨outcome, impossible⟩
      · cases holds
      · cases impossible
  | doubleCheck | calling =>
      rw [phase] at agrees
      cases agrees.2
  | running =>
      rw [phase] at agrees
      obtain ⟨_, _, impossible⟩ := agrees
      cases impossible
  | completing result =>
      rw [phase] at agrees
      obtain ⟨_, _, _, impossible⟩ := agrees
      cases impossible
  | releasing succeeded outcome =>
      cases succeeded with
      | false => exact Or.inl ⟨outcome, rfl⟩
      | true =>
          rw [phase] at faultless
          cases faultless
  | unfencing outcome => exact Or.inr (Or.inl ⟨outcome, rfl⟩)
  | persisting | crashed =>
      rw [phase] at faultless
      cases faultless

variable [DecidableEq Call]

section Simulation

variable {setup : Setup Call Response} {state : State Call Response} {call : Call}
  {after : CallState Response} {keys : IdempotencyKeys} {acquirer : Option Call}

theorem State.Resolved.moved {other : Call} {result : Response}
    (resolved : state.Resolved other result)
    (handler : after.handler = (state.calls call).handler) :
    (state.moved call after keys acquirer).Resolved other result := by
  obtain ⟨startedAt, resolvedAt, history⟩ := resolved
  refine ⟨startedAt, resolvedAt, ?_⟩
  by_cases same : other = call
  · subst other
    rw [state.moved_calls_self, handler]
    exact history
  · rw [state.moved_calls_other _ _ _ same]
    exact history

theorem State.running_moved (still : (state.calls call).phase ≠ .running)
    (idle : after.phase ≠ .running) (other : Call) :
    ((state.moved call after keys acquirer).calls other).phase = .running ↔
      (state.calls other).phase = .running := by
  by_cases same : other = call
  · subst other
    rw [state.moved_calls_self]
    exact ⟨fun running => absurd running idle, fun running => absurd running still⟩
  · rw [state.moved_calls_other _ _ _ same]

/-- A step that neither starts nor ends a handler leaves the cell as it is. -/
theorem State.Shows.moved {cell : Memo Call Response} (shown : state.Shows cell)
    (still : (state.calls call).phase ≠ .running) (idle : after.phase ≠ .running)
    (handler : after.handler = (state.calls call).handler) :
    (state.moved call after keys acquirer).Shows cell :=
  shown.of_same (State.running_moved still idle) fun _ _ =>
    ⟨fun resolved => resolved.of_moved handler, fun resolved => resolved.moved handler⟩

theorem State.Shows.moved_same_phase {cell : Memo Call Response} (shown : state.Shows cell)
    (phase : after.phase = (state.calls call).phase)
    (handler : after.handler = (state.calls call).handler) :
    (state.moved call after keys acquirer).Shows cell := by
  refine shown.of_same ?_ fun _ _ =>
    ⟨fun resolved => resolved.of_moved handler, fun resolved => resolved.moved handler⟩
  intro other
  by_cases same : other = call
  · subst other
    rw [state.moved_calls_self, phase]
  · rw [state.moved_calls_other _ _ _ same]

/-- The handler that runs is the one the cell is taken by. -/
theorem Setup.Exclusive.executing (exclusive : setup.Exclusive state) (coherent : state.Coherent)
    (phase : (state.calls call).phase = .running) {cell : Memo Call Response}
    (shown : state.Shows cell) : cell = .executing call := by
  have executes : (state.calls call).phase.executes = true := by rw [phase]; rfl
  cases cell with
  | vacant => exact absurd phase (shown.1 call)
  | executing other =>
      have holds : (state.calls call).phase.holdsLock = true := by rw [phase]; rfl
      have also : (state.calls other).phase.holdsLock = true := by rw [shown.1]; rfl
      rw [exclusive.one_holder holds also]
  | filled owner result =>
      by_cases same : owner = call
      · subst owner
        have agrees := (coherent call).agrees
        rw [phase] at agrees
        obtain ⟨_, startedAt, started⟩ := agrees
        obtain ⟨_, _, resolved⟩ := shown
        cases started.symm.trans resolved
      · exact absurd shown (exclusive.clear call executes owner result same)

/-- A handler starts only when the cell is vacant. -/
theorem Setup.Exclusive.vacant (exclusive : setup.Exclusive state) (coherent : state.Coherent)
    (phase : (state.calls call).phase = .calling) {cell : Memo Call Response}
    (shown : state.Shows cell) : cell = .vacant := by
  have executes : (state.calls call).phase.executes = true := by rw [phase]; rfl
  cases cell with
  | vacant => rfl
  | executing other =>
      have holds : (state.calls call).phase.holdsLock = true := by rw [phase]; rfl
      have also : (state.calls other).phase.holdsLock = true := by rw [shown.1]; rfl
      have same := exclusive.one_holder holds also
      rw [same] at shown
      cases phase.symm.trans shown.1
  | filled owner result =>
      by_cases same : owner = call
      · subst owner
        have agrees := (coherent call).agrees
        rw [phase] at agrees
        obtain ⟨_, _, resolved⟩ := shown
        cases agrees.2.symm.trans resolved
      · exact absurd shown (exclusive.clear call executes owner result same)

theorem Setup.Effect.simulated
    (effect : setup.Effect call state.now state.keys (state.calls call) keys after)
    (exclusive : setup.Exclusive state) (coherent : state.Coherent)
    (provenance : setup.Provenance state) {cell : Memo Call Response}
    (shown : state.Shows cell) :
    ∃ cell', setup.memo.Run anyAction cell
      (state.observe (.command call) (state.moved call after keys acquirer)) cell' ∧
        (state.moved call after keys acquirer).Shows cell' := by
  have idle := effect.not_running
  have shown' : (state.moved call after keys acquirer).Shows cell :=
    shown.moved idle.1 idle.2 effect.handler_eq
  refine ⟨cell, ?_, shown'⟩
  by_cases fulfils : ∃ response, after.phase = .settled (.fulfilled response)
  · obtain ⟨response, phase⟩ := fulfils
    have accounts := effect.accounts coherent provenance (by rw [phase]; rfl)
    obtain ⟨owner, result, rfl, repeats⟩ := exclusive.filled accounts shown
    simp only [State.observe, State.moved_calls_self, phase]
    exact Setup.memo_step (if_pos repeats)
  · have silent : state.observe (.command call) (state.moved call after keys acquirer) = [] := by
      simp only [State.observe, State.moved_calls_self]
      split
      · rename_i response phase
        exact absurd ⟨response, phase⟩ fulfils
      · rfl
    rw [silent]
    exact .nil

/-- One step of the calls is a step of the cell, or none. -/
theorem Setup.Move.simulated {action : Action Call Response} {following : State Call Response}
    (move : setup.Move state action following) (allowed : setup.FailureFree state action)
    (exclusive : setup.Exclusive state) (coherent : state.Coherent)
    (provenance : setup.Provenance state) {cell : Memo Call Response}
    (shown : state.Shows cell) :
    ∃ cell', setup.memo.Run anyAction cell (state.observe action following) cell' ∧
      following.Shows cell' := by
  cases move with
  | advances milliseconds => exact ⟨cell, .nil, shown⟩
  | locksOut | errsApplied | errs | beatFails | crashes => exact allowed.elim
  | answers effect => exact effect.simulated exclusive coherent provenance shown
  | @idles call phase idling =>
      have idle := idling.waits.not_running
      have silent : state.observe (.proceed call)
          (state.moved call ((state.calls call).goto phase) state.keys state.acquirer) = [] := by
        simp only [State.observe]
        split
        · rename_i calling
          rw [calling] at idling
          cases idling
        · rfl
      rw [silent]
      exact ⟨cell, .nil, shown.moved idle.1 idle.2 rfl⟩
  | @starts call phase =>
      cases exclusive.vacant coherent phase shown
      refine ⟨.executing call, ?_, by rw [state.moved_calls_self], ?_⟩
      · simp only [State.observe, phase]
        exact Setup.memo_step rfl
      · intro other result resolved
        apply shown.2 other result
        by_cases same : other = call
        · subst other
          obtain ⟨_, _, handler⟩ := resolved
          rw [state.moved_calls_self] at handler
          cases handler
        · obtain ⟨startedAt, resolvedAt, handler⟩ := resolved
          rw [state.moved_calls_other _ _ _ same] at handler
          exact ⟨startedAt, resolvedAt, handler⟩
  | @resolves call startedAt response phase started =>
      cases exclusive.executing coherent phase shown
      refine ⟨.filled call response, Setup.memo_step (if_pos rfl), startedAt, state.now, ?_⟩
      rw [state.moved_calls_self]
  | @rejects call startedAt phase started =>
      cases exclusive.executing coherent phase shown
      refine ⟨.vacant, Setup.memo_step (if_pos rfl), ?_, ?_⟩
      · intro other running
        by_cases same : other = call
        · subst other
          rw [state.moved_calls_self] at running
          cases running
        · rw [state.moved_calls_other _ _ _ same] at running
          have holds : (state.calls call).phase.holdsLock = true := by rw [phase]; rfl
          exact same (exclusive.one_holder holds (by rw [running]; rfl))
      · intro other result resolved
        apply shown.2 other result
        obtain ⟨since, resolvedAt, handler⟩ := resolved
        by_cases same : other = call
        · subst other
          rw [state.moved_calls_self] at handler
          cases handler
        · rw [state.moved_calls_other _ _ _ same] at handler
          exact ⟨since, resolvedAt, handler⟩
  | ticks active => exact ⟨cell, .nil, shown.moved_same_phase rfl rfl⟩
  | beats pending => exact ⟨cell, .nil, shown.moved_same_phase rfl rfl⟩

end Simulation

/-! ### A vacant cell executes the next call -/

theorem State.moved_self (state : State Call Response) (call : Call) :
    state.moved call (state.calls call) state.keys state.acquirer = state := by
  simp only [State.moved, State.update, Function.update_eq_self]

/-- The reply to the pending command, as a run of one step. -/
theorem Setup.answers_run {setup : Setup Call Response} (state : State Call Response)
    (call : Call) {before after : CallState Response} {keys written : IdempotencyKeys}
    (acquirer : Option Call) (pending : before.phase.afterError.isSome = true)
    (answered : setup.answer call state.now keys before = (written, after)) :
    ∃ holder, setup.system.Run setup.FailureFree (state.moved call before keys acquirer)
      [.command call] (state.moved call after written holder) := by
  obtain ⟨failed, errs⟩ := Option.isSome_iff_exists.mp pending
  refine ⟨(state.moved call before keys acquirer).acquirerAfter call, .snoc .nil trivial ?_⟩
  rw [← state.moved_moved after written _ before keys acquirer]
  simp only [Setup.system, Setup.step, State.moved_calls_self, State.moved_now,
    State.moved_keys, errs, answered]
  rfl

/-- With no result, no fence and no lock, a call that begins comes to its handler. -/
theorem Setup.begins_handler (setup : Setup Call Response) (state : State Call Response)
    (call : Call) (fresh : (state.calls call).phase = .entryResult)
    (noResult : get state.now state.keys.result = none)
    (noFence : get state.now state.keys.fence = none)
    (noLock : live state.now state.keys.lock = none) :
    ∃ finish, setup.system.Run setup.FailureFree state
        [.command call, .command call, .command call, .command call, .proceed call] finish ∧
      (finish.calls call).handler = .started state.now := by
  let before := state.calls call
  let keys : IdempotencyKeys :=
    { state.keys with
      lock := setEx state.now (setup.lockToken call) lockTtlSeconds
      fence := setEx state.now (setup.input call).requestHash (setup.input call).ttlSeconds }
  let locked : CallState Response :=
    { before with
      phase := .doubleCheck
      fenceUntil := some (state.now + (setup.input call).ttlSeconds * 1000) }
  have looks : setup.answer call state.now state.keys before =
      (state.keys, before.goto .entryFence) := by
    simp only [Setup.answer, before, fresh, noResult, truthy, Option.filter_none]
  have passes : setup.answer call state.now state.keys (before.goto .entryFence) =
      (state.keys, before.goto .acquiring) := by
    simp only [Setup.answer, CallState.goto, noFence, truthy, Option.filter_none]
  have acquires : setup.answer call state.now state.keys (before.goto .acquiring) =
      (keys, locked) := by
    simp only [Setup.answer, CallState.goto, acquireIdempotencyLockWithFence, setExNx, noLock, keys,
      locked, before]
  have checks : setup.answer call state.now keys locked = (keys, locked.goto .calling) := by
    simp only [Setup.answer, locked, keys, noResult, truthy, Option.filter_none]
  obtain ⟨first, looked⟩ :=
    Setup.answers_run state call state.acquirer (by rw [fresh]; rfl) looks
  obtain ⟨second, passed⟩ := Setup.answers_run state call first rfl passes
  obtain ⟨third, acquired⟩ := Setup.answers_run state call second rfl acquires
  obtain ⟨fourth, checked⟩ := Setup.answers_run state call third rfl checks
  have starts : setup.system.Run setup.FailureFree
      (state.moved call (locked.goto .calling) keys fourth) [.proceed call]
      ((state.moved call (locked.goto .calling) keys fourth).update call
        { locked with
          phase := .running
          handler := .started state.now }) := by
    refine .snoc .nil trivial ?_
    simp only [Setup.system, Setup.step, State.moved_calls_self]
    rfl
  rw [state.moved_self] at looked
  refine ⟨_, (((looked.append passed).append acquired).append checked).append starts, ?_⟩
  simp only [State.update, Function.update_self]

section Reexecution

variable {setup : Setup Call Response} {state : State Call Response} {failed later : Call}

/-- Only the two calls take steps, and the later one comes to its handler. -/
def Setup.Reexecutes (setup : Setup Call Response) (state : State Call Response)
    (failed later : Call) : Prop :=
  ∃ actions finish, setup.system.Run setup.FailureFree state actions finish ∧
    (∀ action ∈ actions,
      action = .command failed ∨ action = .command later ∨ action = .proceed later) ∧
    (finish.calls later).handler = .started state.now

theorem Setup.reexecutes_of_idle (exclusive : setup.Exclusive state)
    (provenance : setup.Provenance state)
    (unresolved : ∀ owner result, ¬state.Resolved owner result)
    (idle : ∀ other, ¬(state.calls other).phase.Busy)
    (fresh : (state.calls later).phase = .entryResult) :
    setup.Reexecutes state failed later := by
  have noResult : get state.now state.keys.result = none := by
    cases found : get state.now state.keys.result with
    | none => rfl
    | some raw =>
        obtain ⟨owner, result, resolved, _⟩ := provenance.stored_get found
        exact absurd resolved (unresolved owner result)
  have noFence : live state.now state.keys.fence = none := by
    by_contra alive
    obtain ⟨other, busy⟩ := exclusive.fenced alive
    exact idle other busy
  have noLock : live state.now state.keys.lock = none := by
    by_contra taken
    obtain ⟨other, holds⟩ := exclusive.owned (mt get_eq_none_iff.mp taken)
    exact idle other (Or.inl holds)
  obtain ⟨finish, run, started⟩ := setup.begins_handler state later fresh noResult
    (get_eq_none_iff.mpr noFence) noLock
  refine ⟨_, finish, run, ?_, started⟩
  intro action member
  simp only [List.mem_cons, List.not_mem_nil, or_false] at member
  rcases member with rfl | rfl | rfl | rfl | rfl
  · exact Or.inr (Or.inl rfl)
  · exact Or.inr (Or.inl rfl)
  · exact Or.inr (Or.inl rfl)
  · exact Or.inr (Or.inl rfl)
  · exact Or.inr (Or.inr rfl)

/-- One more clean-up command of the failed call comes first. -/
theorem Setup.Reexecutes.cleanup {after : CallState Response} {keys : IdempotencyKeys}
    {acquirer : Option Call}
    (cleans : setup.system.Run setup.FailureFree state [.command failed]
      (state.moved failed after keys acquirer))
    (next : setup.Reexecutes (state.moved failed after keys acquirer) failed later) :
    setup.Reexecutes state failed later := by
  obtain ⟨actions, finish, run, only, started⟩ := next
  refine ⟨_, finish, cleans.append run, ?_, started⟩
  intro action member
  rcases List.mem_cons.mp member with rfl | rest
  · exact Or.inl rfl
  · exact only action rest

theorem State.idle_moved {after : CallState Response} {keys : IdempotencyKeys}
    {acquirer : Option Call} (idle : ∀ other, other ≠ failed → ¬(state.calls other).phase.Busy)
    (other : Call) (different : other ≠ failed) :
    ¬((state.moved failed after keys acquirer).calls other).phase.Busy := by
  rw [state.moved_calls_other _ _ _ different]
  exact idle other different

theorem Setup.reexecutes_of_unfencing (reached : setup.system.Reachable setup.FailureFree state)
    (unresolved : ∀ owner result, ¬state.Resolved owner result) {outcome : Outcome Response}
    (phase : (state.calls failed).phase = .unfencing outcome)
    (idle : ∀ other, other ≠ failed → ¬(state.calls other).phase.Busy)
    (fresh : (state.calls later).phase = .entryResult) :
    setup.Reexecutes state failed later := by
  have different : later ≠ failed := by
    intro equal
    subst equal
    cases fresh.symm.trans phase
  have answered : setup.answer failed state.now state.keys (state.calls failed) =
      ({ state.keys with fence := del },
        { state.calls failed with phase := .settled outcome, fenceUntil := none }) := by
    simp only [Setup.answer, phase]
    rfl
  obtain ⟨holder, cleans⟩ := Setup.answers_run state failed state.acquirer
    (by rw [phase]; rfl) answered
  rw [state.moved_self] at cleans
  have cleaned := reached.extend cleans
  refine .cleanup cleans (Setup.reexecutes_of_idle (setup.exclusive_of_reachable cleaned)
    (setup.provenance_of_reachable cleaned) ?_ ?_ ?_)
  · exact fun owner result resolved => unresolved owner result (resolved.of_moved rfl)
  · intro other
    by_cases same : other = failed
    · subst other
      rw [state.moved_calls_self]
      intro either
      rcases either with holds | ⟨_, impossible⟩
      · cases holds
      · cases impossible
    · exact State.idle_moved idle other same
  · rw [state.moved_calls_other _ _ _ different]
    exact fresh

/-- After a rejection the key can be executed again, once the call that failed has
cleaned up. -/
theorem Setup.reexecutes (reached : setup.system.Reachable setup.FailureFree state)
    (unresolved : ∀ owner result, ¬state.Resolved owner result) {startedAt : Nat}
    (rejected : (state.calls failed).handler = .rejected startedAt)
    (idle : ∀ other, other ≠ failed → ¬(state.calls other).phase.Busy)
    (fresh : (state.calls later).phase = .entryResult) :
    setup.Reexecutes state failed later := by
  have exclusive := setup.exclusive_of_reachable reached
  rcases (setup.coherent_of_reachable reached failed).rejected_phase rejected
    (exclusive.sound failed).faultless with ⟨outcome, phase⟩ | ⟨outcome, phase⟩ | settled
  · have different : later ≠ failed := by
      intro equal
      subst equal
      cases fresh.symm.trans phase
    have answered : setup.answer failed state.now state.keys (state.calls failed) =
        ({ state.keys with
            lock := (compareAndDelete state.now state.keys.lock (setup.lockToken failed)).1 },
          (state.calls failed).goto (.unfencing outcome)) := by
      simp only [Setup.answer, phase]
      rfl
    obtain ⟨holder, cleans⟩ := Setup.answers_run state failed state.acquirer
      (by rw [phase]; rfl) answered
    rw [state.moved_self] at cleans
    refine .cleanup cleans (Setup.reexecutes_of_unfencing (reached.extend cleans) ?_
      (by rw [state.moved_calls_self]; rfl) (State.idle_moved idle) ?_)
    · exact fun owner result resolved => unresolved owner result (resolved.of_moved rfl)
    · rw [state.moved_calls_other _ _ _ different]
      exact fresh
  · exact Setup.reexecutes_of_unfencing reached unresolved phase idle fresh
  · refine Setup.reexecutes_of_idle exclusive (setup.provenance_of_reachable reached) unresolved
      ?_ fresh
    intro other
    by_cases same : other = failed
    · rw [same]
      exact settled
    · exact idle other same

end Reexecution

theorem memoCell_of_failureFree (setup : Setup Call Response) {start state : State Call Response}
    {events : List (Event Call Response)} (initial : setup.system.initial start)
    (observed : setup.system.Observed setup.FailureFree State.observe start events state) :
    (∃ cell, setup.memo.Run anyAction .vacant events cell ∧ state.Shows cell) ∧
      (∀ call other result response, state.Resolved call result →
        state.Resolved other response → other = call) ∧
      (∀ call response, (state.calls call).phase = .settled (.fulfilled response) →
        ∃ owner result, state.Resolved owner result ∧
          setup.Repeats owner result call response) ∧
      (∀ owner result call response, state.Resolved owner result →
        (setup.input call).requestHash ≠ (setup.input owner).requestHash →
        (state.calls call).phase ≠ .settled (.fulfilled response)) ∧
      (∀ failed later startedAt, (∀ owner result, ¬state.Resolved owner result) →
        (state.calls failed).handler = .rejected startedAt →
        (∀ other, other ≠ failed → ¬(state.calls other).phase.Busy) →
        (state.calls later).phase = .entryResult → setup.Reexecutes state failed later) ∧
      ∀ call other, (state.calls call).phase = .running → (state.calls other).phase = .running →
        other = call := by
  obtain ⟨actions, run⟩ := observed.run
  have reached : setup.system.Reachable setup.FailureFree state := ⟨start, actions, initial, run⟩
  have exclusive := setup.exclusive_of_reachable reached
  have provenance := setup.provenance_of_reachable reached
  have fulfilled : ∀ call response, (state.calls call).phase = .settled (.fulfilled response) →
      ∃ owner result, state.Resolved owner result ∧
        setup.Repeats owner result call response := by
    intro call response phase
    exact Setup.Accounts.repeats
      (provenance.outcomes call (.fulfilled response) (by rw [phase]; rfl))
  refine ⟨?_, exclusive.unique, fulfilled, ?_, ?_, ?_⟩
  · have known : ∀ before, setup.system.Reachable setup.FailureFree before →
        before.Coherent ∧ setup.Provenance before ∧ setup.Exclusive before :=
      fun _ earlier => ⟨setup.coherent_of_reachable earlier,
        setup.provenance_of_reachable earlier, setup.exclusive_of_reachable earlier⟩
    refine observed.simulated known ?_ initial ?_
    · intro before action after cell known shown allowed stepped
      exact (setup.step_move stepped).simulated allowed known.2.2 known.1 known.2.1 shown
    · constructor
      · intro call
        rw [initial.2.1]
        exact nofun
      · intro call result found
        obtain ⟨startedAt, resolvedAt, handler⟩ := found
        rw [initial.2.1] at handler
        cases handler
  · intro owner result call response resolved different phase
    obtain ⟨holder, stored, also, repeats⟩ := fulfilled call response phase
    rw [exclusive.unique owner holder result stored resolved also] at repeats
    exact different repeats.1.symm
  · intro failed later startedAt unresolved rejected idle fresh
    exact Setup.reexecutes reached unresolved rejected idle fresh
  · intro call other running also
    exact exclusive.one_holder (by rw [running]; rfl) (by rw [also]; rfl)

/-- The second request replays what the first one's handler returned. -/
theorem memoCell_of_duplicateRequests :
    ∃ (events : List (Event Bool Bool)) (state : State Bool Bool) (cell : Memo Bool Bool),
      duplicateRequests.memo.Run anyAction .vacant events cell ∧ state.Shows cell ∧
        (state.calls true).phase = .settled (.fulfilled true) := by
  have executed :
      (duplicateRequests.system.execute
        (fun _ action => action.plain) State.empty
        [.command false, .command false, .command false, .command false, .proceed false,
          .handlerResolves false true, .command false, .command true]).map
        (fun state => (state.calls true).phase) =
      some (.settled (.fulfilled true)) := by decide +kernel
  obtain ⟨state, run, phase⟩ := Option.map_eq_some_iff.mp executed
  have permitted : duplicateRequests.system.Run duplicateRequests.FailureFree State.empty _ state :=
    .of_execute duplicateRequests.failureFree_of_plain run
  obtain ⟨events, observed⟩ := permitted.observed
  obtain ⟨⟨cell, simulated, shown⟩, _⟩ :=
    memoCell_of_failureFree duplicateRequests ⟨rfl, rfl, rfl⟩ observed
  exact ⟨events, state, cell, simulated, shown, phase⟩

end BackendFoundation.Idempotency
