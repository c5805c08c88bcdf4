/-
Mutual exclusion of handlers without failures. The lock is held from the acquire
script to the end of the call that holds it, and the one handler that resolves
leaves its response in the result key until its ttl is over.
-/

import BackendFoundation.Idempotency.History

namespace BackendFoundation.Idempotency

open Redis Redis.Slot Redis.RedisService Transition

variable {Call Response : Type}

/-- No command fails, no caller crashes, a lock that is held stays alive, and the time
after the first resolved handler is less than its ttl. -/
def Setup.FailureFree (setup : Setup Call Response) (state : State Call Response) :
    Action Call Response → Prop
  | .advance milliseconds =>
      live (state.now + milliseconds) state.keys.lock = live state.now state.keys.lock ∧
        ∀ owner startedAt resolvedAt result,
          (state.calls owner).handler = .resolved startedAt resolvedAt result →
          state.now + milliseconds < resolvedAt + (setup.input owner).ttlSeconds * 1000
  | .lockExpires | .commandFails _ _ | .heartbeatFails _ _ | .crash _ => False
  | .command _ | .proceed _ | .handlerResolves _ _ | .handlerRejects _ | .heartbeatTimer _
  | .heartbeat _ => True

theorem Setup.failureFree_of_plain (setup : Setup Call Response) (state : State Call Response)
    (action : Action Call Response) (plain : action.plain = true) :
    setup.FailureFree state action := by
  cases action with
  | command | proceed | handlerResolves => trivial
  | advance | lockExpires | commandFails | handlerRejects | heartbeatTimer | heartbeat
  | heartbeatFails | crash => cases plain

/-- From the acquire script to the script that completes the call or releases its lock. -/
def Phase.holdsLock : Phase Response → Bool
  | .doubleCheck | .calling | .running | .completing _ | .releasing _ _ => true
  | _ => false

/-- The call is between its acquire script and the end of its clean-up. -/
def Phase.Busy (phase : Phase Response) : Prop :=
  phase.holdsLock = true ∨ ∃ outcome, phase = .unfencing outcome

/-- The double check has passed and the result is not stored yet. -/
def Phase.executes : Phase Response → Bool
  | .calling | .running | .completing _ => true
  | _ => false

/-- Phases that only a failure leads to. -/
def Phase.faulty : Phase Response → Bool
  | .persisting _ | .releasing true _ | .crashed => true
  | _ => false

/-- The result key holds this call's result for as long as its ttl runs. -/
def Setup.Stores (setup : Setup Call Response) (state : State Call Response) (owner : Call)
    (result : Response) : Prop :=
  ∃ expiry, state.keys.result =
      some { value := setup.serialized owner result, expireAt := some expiry } ∧
    ∀ startedAt resolvedAt, (state.calls owner).handler = .resolved startedAt resolvedAt result →
      resolvedAt + (setup.input owner).ttlSeconds * 1000 ≤ expiry

/-- A call never learns that its lock is lost, and its ttl is not over. -/
structure Setup.CallSound (setup : Setup Call Response) (now : Nat) (call : Call)
    (history : CallState Response) : Prop where
  kept : history.phase.holdsLock = true → history.lockLost = false
  idle : history.phase.beforeLock = true →
    history.lockLost = false ∧ history.heartbeatInProgress = false
  faultless : history.phase.faulty = false
  within : ∀ startedAt resolvedAt result,
    history.handler = .resolved startedAt resolvedAt result →
    now < resolvedAt + (setup.input call).ttlSeconds * 1000

/-- The lock excludes, and only the call that fills the cell has resolved. -/
structure Setup.Exclusive (setup : Setup Call Response) (state : State Call Response) :
    Prop where
  sound : ∀ call, setup.CallSound state.now call (state.calls call)
  held : ∀ call, (state.calls call).phase.holdsLock = true →
    get state.now state.keys.lock = some (setup.lockToken call)
  owned : get state.now state.keys.lock ≠ none →
    ∃ call, (state.calls call).phase.holdsLock = true
  stored : ∀ call result, state.Resolved call result →
    (state.calls call).phase = .completing result ∨ setup.Stores state call result
  clear : ∀ call, (state.calls call).phase.executes = true →
    ∀ other result, other ≠ call → ¬state.Resolved other result
  unique : ∀ call other result response, state.Resolved call result →
    state.Resolved other response → other = call
  fenced : live state.now state.keys.fence ≠ none → ∃ call, (state.calls call).phase.Busy

namespace Setup.Exclusive

variable {setup : Setup Call Response} {state : State Call Response}

theorem one_holder (exclusive : setup.Exclusive state) {call other : Call}
    (holds : (state.calls call).phase.holdsLock = true)
    (also : (state.calls other).phase.holdsLock = true) : other = call :=
  setup.lockToken_injective
    (Option.some.inj ((exclusive.held other also).symm.trans (exclusive.held call holds)))

/-- A resolved handler whose call has completed is found in the result key. -/
theorem found (exclusive : setup.Exclusive state) {call : Call} {result : Response}
    (resolved : state.Resolved call result) (stores : setup.Stores state call result) :
    get state.now state.keys.result = some (setup.serialized call result) := by
  obtain ⟨startedAt, resolvedAt, handler⟩ := resolved
  obtain ⟨expiry, stored, outlives⟩ := stores
  have within := (exclusive.sound call).within startedAt resolvedAt result handler
  have outlives := outlives startedAt resolvedAt handler
  rw [stored, get_eq_some_iff]
  exact ⟨_, live_some_iff.mpr ⟨rfl, aliveAt_of_le rfl (by omega)⟩, rfl⟩

/-- While a call holds the lock and finds no result, nobody else has resolved. -/
theorem clear_of_missing (exclusive : setup.Exclusive state) {call : Call}
    (holds : (state.calls call).phase.holdsLock = true)
    (missing : get state.now state.keys.result = none) {other : Call} {result : Response}
    (different : other ≠ call) : ¬state.Resolved other result := by
  intro resolved
  rcases exclusive.stored other result resolved with phase | stores
  · exact different (exclusive.one_holder holds (by rw [phase]; rfl))
  · rw [exclusive.found resolved stores] at missing
    cases missing

end Setup.Exclusive

/-- What the invariant asks of the call that moves when no script writes. -/
structure Setup.CalmCall (state : State Call Response) (call : Call)
    (before after : CallState Response) : Prop where
  holdsLock : after.phase.holdsLock = before.phase.holdsLock
  kept : after.phase.holdsLock = true → before.lockLost = false → after.lockLost = false
  idle : after.phase.beforeLock = true → before.phase.beforeLock = true ∧
    after.lockLost = before.lockLost ∧ after.heartbeatInProgress = before.heartbeatInProgress
  faulty : after.phase.faulty = true → before.phase.faulty = true
  resolved : ∀ startedAt resolvedAt result,
    after.handler = .resolved startedAt resolvedAt result ↔
      before.handler = .resolved startedAt resolvedAt result
  completing : ∀ result, before.phase = .completing result → after.phase = .completing result
  executes : after.phase.executes = true → before.phase.executes = true ∨
    ∀ other result, other ≠ call → ¬state.Resolved other result

theorem Setup.CalmCall.refl (state : State Call Response) (call : Call)
    (before : CallState Response) : Setup.CalmCall state call before before :=
  { holdsLock := rfl
    kept := fun _ kept => kept
    idle := fun waiting => ⟨waiting, rfl, rfl⟩
    faulty := id
    resolved := fun _ _ _ => Iff.rfl
    completing := fun _ phase => phase
    executes := Or.inl }

/-- A step on which the lock keeps its holder and the result its value. -/
structure Setup.Calm (setup : Setup Call Response) (state following : State Call Response) :
    Prop where
  later : state.now ≤ following.now
  within : ∀ call startedAt resolvedAt result,
    (state.calls call).handler = .resolved startedAt resolvedAt result →
    following.now < resolvedAt + (setup.input call).ttlSeconds * 1000
  lock : get following.now following.keys.lock = get state.now state.keys.lock
  result : following.keys.result = state.keys.result
  each : ∀ call, Setup.CalmCall state call (state.calls call) (following.calls call)
  fenced : live following.now following.keys.fence ≠ none →
    live state.now state.keys.fence ≠ none ∧
      ∀ call outcome, (state.calls call).phase = .unfencing outcome →
        (following.calls call).phase = .unfencing outcome

namespace Setup.Calm

variable {setup : Setup Call Response} {state following : State Call Response}

theorem resolved (calm : setup.Calm state following) {call : Call} {result : Response} :
    following.Resolved call result ↔ state.Resolved call result :=
  exists_congr fun startedAt => exists_congr fun resolvedAt =>
    (calm.each call).resolved startedAt resolvedAt result

theorem exclusive (calm : setup.Calm state following) (exclusive : setup.Exclusive state) :
    setup.Exclusive following := by
  constructor
  · intro call
    have sound := exclusive.sound call
    have moves := calm.each call
    constructor
    · exact fun holds => moves.kept holds (sound.kept (moves.holdsLock ▸ holds))
    · intro waiting
      obtain ⟨before, lockLost, heartbeat⟩ := moves.idle waiting
      rw [lockLost, heartbeat]
      exact sound.idle before
    · rw [← Bool.not_eq_true]
      exact fun faulty => absurd (moves.faulty faulty) (Bool.not_eq_true _ ▸ sound.faultless)
    · intro startedAt resolvedAt result handler
      exact calm.within call startedAt resolvedAt result ((moves.resolved _ _ _).mp handler)
  · intro call holds
    rw [calm.lock]
    exact exclusive.held call ((calm.each call).holdsLock ▸ holds)
  · intro taken
    rw [calm.lock] at taken
    obtain ⟨call, holds⟩ := exclusive.owned taken
    exact ⟨call, (calm.each call).holdsLock ▸ holds⟩
  · intro call result resolved
    rcases exclusive.stored call result (calm.resolved.mp resolved) with phase | stores
    · exact Or.inl ((calm.each call).completing result phase)
    · obtain ⟨expiry, stored, outlives⟩ := stores
      refine Or.inr ⟨expiry, calm.result.trans stored, ?_⟩
      intro startedAt resolvedAt handler
      exact outlives startedAt resolvedAt
        (((calm.each call).resolved startedAt resolvedAt result).mp handler)
  · intro call executing other result different resolved
    rcases (calm.each call).executes executing with already | alone
    · exact exclusive.clear call already other result different (calm.resolved.mp resolved)
    · exact alone other result different (calm.resolved.mp resolved)
  · intro call other result response resolved also
    exact exclusive.unique call other result response (calm.resolved.mp resolved)
      (calm.resolved.mp also)
  · intro fence
    obtain ⟨alive, unfencing⟩ := calm.fenced fence
    obtain ⟨call, holds | ⟨outcome, phase⟩⟩ := exclusive.fenced alive
    · exact ⟨call, Or.inl ((calm.each call).holdsLock ▸ holds)⟩
    · exact ⟨call, Or.inr ⟨outcome, unfencing call outcome phase⟩⟩

end Setup.Calm

/-- What a phase before the lock is not. -/
theorem Phase.beforeLock_facts {phase : Phase Response} (waiting : phase.beforeLock = true) :
    phase.holdsLock = false ∧ phase.executes = false ∧ phase.faulty = false ∧
      (∀ result, phase ≠ .completing result) ∧ ∀ outcome, phase ≠ .unfencing outcome := by
  cases phase with
  | entryResult | entryFence | acquiring | sleeping | pollResult | pollLock
  | pollFence | finalResult => exact ⟨rfl, rfl, rfl, nofun, nofun⟩
  | doubleCheck | calling | running | completing | persisting | releasing | unfencing
  | settled | crashed => cases waiting

theorem Phase.heartbeatActive_of_beforeLock {phase : Phase Response}
    (waiting : phase.beforeLock = true) : phase.heartbeatActive = false := by
  cases phase with
  | entryResult | entryFence | acquiring | sleeping | pollResult | pollLock
  | pollFence | finalResult => rfl
  | doubleCheck | calling | running | completing | persisting | releasing | unfencing
  | settled | crashed => cases waiting

theorem Phase.calm_settles {state : State Call Response} {call : Call}
    {before : CallState Response} (waiting : before.phase.beforeLock = true)
    (outcome : Outcome Response) :
    Setup.CalmCall state call before (before.goto (.settled outcome)) := by
  obtain ⟨holds, _, _, completing, _⟩ := Phase.beforeLock_facts waiting
  exact
    { holdsLock := holds.symm
      kept := nofun
      idle := nofun
      faulty := nofun
      resolved := fun _ _ _ => Iff.rfl
      completing := fun result phase => absurd phase (completing result)
      executes := nofun }

theorem Phase.Waits.calm {state : State Call Response} {call : Call}
    {before : CallState Response} {after : Phase Response} (waits : before.phase.Waits after) :
    Setup.CalmCall state call before (before.goto after) := by
  obtain ⟨holds, _, _, completing, _⟩ := Phase.beforeLock_facts waits.1
  rcases waits.2 with waiting | ⟨error, rfl⟩
  · obtain ⟨holds', executes', faulty', _, _⟩ := Phase.beforeLock_facts waiting
    exact
      { holdsLock := holds'.trans holds.symm
        kept := fun _ kept => kept
        idle := fun _ => ⟨waits.1, rfl, rfl⟩
        faulty := fun fault => absurd (faulty'.symm.trans fault) (by decide)
        resolved := fun _ _ _ => Iff.rfl
        completing := fun result phase => absurd phase (completing result)
        executes := fun executing => absurd (executes'.symm.trans executing) (by decide) }
  · exact Phase.calm_settles waits.1 _

theorem Phase.holdsLock_of_executes {phase : Phase Response} (executes : phase.executes = true) :
    phase.holdsLock = true := by
  cases phase with
  | calling | running | completing => rfl
  | entryResult | entryFence | acquiring | sleeping | pollResult | pollLock
  | pollFence | finalResult | doubleCheck | persisting | releasing | unfencing | settled
  | crashed => cases executes

variable [DecidableEq Call]

section Moved

variable {setup : Setup Call Response} {state : State Call Response} {call : Call}
  {after : CallState Response} {keys : IdempotencyKeys} {acquirer : Option Call}

theorem State.moved_sound (exclusive : setup.Exclusive state)
    (sound : setup.CallSound state.now call after) :
    ∀ other, setup.CallSound state.now other
      ((state.moved call after keys acquirer).calls other) := by
  intro other
  by_cases same : other = call
  · subst other
    rw [state.moved_calls_self]
    exact sound
  · rw [state.moved_calls_other _ _ _ same]
    exact exclusive.sound other

theorem State.Resolved.of_moved {other : Call} {result : Response}
    (resolved : (state.moved call after keys acquirer).Resolved other result)
    (handler : after.handler = (state.calls call).handler) : state.Resolved other result := by
  obtain ⟨startedAt, resolvedAt, history⟩ := resolved
  refine ⟨startedAt, resolvedAt, ?_⟩
  by_cases same : other = call
  · subst other
    rw [state.moved_calls_self, handler] at history
    exact history
  · rw [state.moved_calls_other _ _ _ same] at history
    exact history

theorem Setup.Stores.moved {other : Call} {result : Response}
    (stores : setup.Stores state other result)
    (handler : after.handler = (state.calls call).handler)
    (kept : keys.result = state.keys.result) :
    setup.Stores (state.moved call after keys acquirer) other result := by
  obtain ⟨expiry, stored, outlives⟩ := stores
  refine ⟨expiry, kept.trans stored, ?_⟩
  by_cases same : other = call
  · subst other
    rw [state.moved_calls_self, handler]
    exact outlives
  · rw [state.moved_calls_other _ _ _ same]
    exact outlives

end Moved

namespace Setup.Exclusive

variable {setup : Setup Call Response} {state : State Call Response} {call : Call}

theorem calm (exclusive : setup.Exclusive state) {after : CallState Response}
    {keys : IdempotencyKeys} {acquirer : Option Call}
    (moves : Setup.CalmCall state call (state.calls call) after)
    (lock : get state.now keys.lock = get state.now state.keys.lock)
    (result : keys.result = state.keys.result)
    (fenced : live state.now keys.fence ≠ none → keys.fence = state.keys.fence ∧
      ∀ outcome, (state.calls call).phase = .unfencing outcome →
        after.phase = .unfencing outcome) :
    setup.Exclusive (state.moved call after keys acquirer) := by
  refine Setup.Calm.exclusive ?_ exclusive
  refine
    { later := Nat.le_refl _
      within := fun other => (exclusive.sound other).within
      lock := lock
      result := result
      each := ?_
      fenced := ?_ }
  · intro other
    by_cases same : other = call
    · subst other
      rw [state.moved_calls_self]
      exact moves
    · rw [state.moved_calls_other _ _ _ same]
      exact .refl state other _
  · intro alive
    obtain ⟨kept, unfencing⟩ := fenced alive
    refine ⟨kept ▸ alive, ?_⟩
    intro other outcome phase
    by_cases same : other = call
    · subst other
      rw [state.moved_calls_self]
      exact unfencing outcome phase
    · rw [state.moved_calls_other _ _ _ same]
      exact phase

theorem calm_same_keys (exclusive : setup.Exclusive state) {after : CallState Response}
    {acquirer : Option Call} (moves : Setup.CalmCall state call (state.calls call) after)
    (elsewhere : ∀ outcome, (state.calls call).phase ≠ .unfencing outcome) :
    setup.Exclusive (state.moved call after state.keys acquirer) :=
  exclusive.calm moves rfl rfl fun _ =>
    ⟨rfl, fun outcome phase => absurd phase (elsewhere outcome)⟩

theorem acquires (exclusive : setup.Exclusive state)
    (phase : (state.calls call).phase = .acquiring)
    (free : live state.now state.keys.lock = none) {expiry : Nat} {fence : Slot String}
    {acquirer : Option Call} :
    setup.Exclusive (state.moved call
      { state.calls call with
        phase := .doubleCheck
        fenceUntil := some expiry }
      { state.keys with
        lock := setEx state.now (setup.lockToken call) lockTtlSeconds
        fence := fence }
      acquirer) := by
  have waiting : (state.calls call).phase.beforeLock = true := by rw [phase]; rfl
  have noHolder (other : Call) : (state.calls other).phase.holdsLock ≠ true := by
    intro holds
    have held := exclusive.held other holds
    rw [get_eq_none_iff.mpr free] at held
    cases held
  have sound : setup.CallSound state.now call
      { state.calls call with
        phase := .doubleCheck
        fenceUntil := some expiry } :=
    { kept := fun _ => ((exclusive.sound call).idle waiting).1
      idle := nofun
      faultless := rfl
      within := (exclusive.sound call).within }
  constructor
  · exact State.moved_sound exclusive sound
  · intro other holds
    by_cases same : other = call
    · subst other
      exact get_setEx_now _ _ _
    · rw [state.moved_calls_other _ _ _ same] at holds
      exact absurd holds (noHolder other)
  · intro taken
    exact ⟨call, by rw [state.moved_calls_self]; rfl⟩
  · intro other result resolved
    have resolved := resolved.of_moved rfl
    rcases exclusive.stored other result resolved with completing | stores
    · exact absurd (by rw [completing]; rfl) (noHolder other)
    · exact Or.inr (stores.moved rfl rfl)
  · intro executing executes
    by_cases same : executing = call
    · subst executing
      rw [state.moved_calls_self] at executes
      cases executes
    · rw [state.moved_calls_other _ _ _ same] at executes
      exact absurd (Phase.holdsLock_of_executes executes) (noHolder executing)
  · intro first second result response resolved also
    exact exclusive.unique first second result response (resolved.of_moved rfl)
      (also.of_moved rfl)
  · exact fun _ => ⟨call, Or.inl (by rw [state.moved_calls_self]; rfl)⟩

/-- Once the holder has let go of the lock, nobody holds it. -/
theorem lets_go (exclusive : setup.Exclusive state) {after : CallState Response}
    {keys : IdempotencyKeys} {acquirer : Option Call}
    (holds : (state.calls call).phase.holdsLock = true)
    (sound : setup.CallSound state.now call after) (released : after.phase.holdsLock = false)
    (handler : after.handler = (state.calls call).handler)
    (lock : get state.now keys.lock = none)
    (stored : ∀ other result, state.Resolved other result →
      setup.Stores (state.moved call after keys acquirer) other result)
    (fenced : live state.now keys.fence ≠ none → ∃ outcome, after.phase = .unfencing outcome) :
    setup.Exclusive (state.moved call after keys acquirer) := by
  have free (other : Call) :
      ((state.moved call after keys acquirer).calls other).phase.holdsLock ≠ true := by
    by_cases same : other = call
    · subst other
      rw [state.moved_calls_self, released]
      decide
    · rw [state.moved_calls_other _ _ _ same]
      exact fun also => same (exclusive.one_holder holds also)
  constructor
  · exact State.moved_sound exclusive sound
  · exact fun other also => absurd also (free other)
  · exact fun taken => absurd lock taken
  · exact fun other result resolved => Or.inr (stored other result (resolved.of_moved handler))
  · exact fun other executes => absurd (Phase.holdsLock_of_executes executes) (free other)
  · intro first second result response resolved also
    exact exclusive.unique first second result response (resolved.of_moved handler)
      (also.of_moved handler)
  · intro alive
    obtain ⟨outcome, phase⟩ := fenced alive
    exact ⟨call, Or.inr ⟨outcome, by rw [state.moved_calls_self, phase]⟩⟩

theorem completes (exclusive : setup.Exclusive state) (coherent : state.Coherent)
    {result : Response} (phase : (state.calls call).phase = .completing result)
    {acquirer : Option Call} :
    setup.Exclusive (state.moved call
      { state.calls call with
        phase := .settled (.fulfilled result)
        fenceUntil := none }
      { lock := del
        fence := del
        result := setEx state.now (setup.serialized call result) (setup.input call).ttlSeconds }
      acquirer) := by
  have executes : (state.calls call).phase.executes = true := by rw [phase]; rfl
  refine exclusive.lets_go (by rw [phase]; rfl) ?_ rfl rfl rfl ?_ nofun
  · exact ⟨nofun, nofun, rfl, (exclusive.sound call).within⟩
  · intro other response resolved
    by_cases same : other = call
    · subst other
      obtain ⟨startedAt, resolvedAt, handler⟩ := resolved
      obtain ⟨_, _, own⟩ := coherent.resolved (Or.inl phase)
      cases handler.symm.trans own
      refine ⟨_, rfl, ?_⟩
      intro since at' history
      rw [state.moved_calls_self] at history
      cases handler.symm.trans history
      have past := (coherent call).past
      rw [handler] at past
      exact Nat.add_le_add_right past.2 _
    · exact absurd resolved (exclusive.clear call executes other response same)

theorem releases (exclusive : setup.Exclusive state) {succeeded : Bool}
    {outcome : Outcome Response}
    (phase : (state.calls call).phase = .releasing succeeded outcome)
    {acquirer : Option Call} :
    setup.Exclusive (state.moved call
      ((state.calls call).goto (if succeeded then .settled outcome else .unfencing outcome))
      { state.keys with
        lock := (compareAndDelete state.now state.keys.lock (setup.lockToken call)).1 }
      acquirer) := by
  have holds : (state.calls call).phase.holdsLock = true := by rw [phase]; rfl
  have faultless := (exclusive.sound call).faultless
  rw [phase] at faultless
  cases succeeded with
  | true => cases faultless
  | false =>
      refine exclusive.lets_go holds ?_ rfl rfl ?_ ?_ fun _ => ⟨outcome, rfl⟩
      · exact ⟨nofun, nofun, rfl, (exclusive.sound call).within⟩
      · rw [compareAndDelete_of_holds (exclusive.held call holds)]
        rfl
      · intro other result resolved
        rcases exclusive.stored other result resolved with completing | stores
        · have same := exclusive.one_holder holds
            (completing ▸ rfl : (state.calls other).phase.holdsLock = true)
          rw [same, phase] at completing
          cases completing
        · exact stores.moved rfl rfl

/-- The handler of the holder resolves: from here on the cell has its owner. -/
theorem resolves (exclusive : setup.Exclusive state) {startedAt : Nat} {response : Response}
    (phase : (state.calls call).phase = .running) {acquirer : Option Call} :
    setup.Exclusive (state.moved call
      { state.calls call with
        phase :=
          if (state.calls call).lockLost then .persisting response else .completing response
        handler := .resolved startedAt state.now response }
      state.keys acquirer) := by
  have holds : (state.calls call).phase.holdsLock = true := by rw [phase]; rfl
  have executes : (state.calls call).phase.executes = true := by rw [phase]; rfl
  have alone := exclusive.clear call executes
  have kept := (exclusive.sound call).kept holds
  have nobody {other : Call} {result : Response} (different : other ≠ call)
      {after : CallState Response} {keys : IdempotencyKeys} :
      ¬(state.moved call after keys acquirer).Resolved other result := by
    intro found
    obtain ⟨since, at', handler⟩ := found
    rw [state.moved_calls_other _ _ _ different] at handler
    exact alone other result different ⟨since, at', handler⟩
  rw [kept]
  constructor
  · refine State.moved_sound exclusive ⟨fun _ => kept, nofun, rfl, ?_⟩
    intro since at' result handler
    cases handler
    exact Nat.lt_add_of_pos_right (Nat.mul_pos (setup.input call).ttlSeconds_pos (by decide))
  · intro other also
    by_cases same : other = call
    · subst other
      exact exclusive.held call holds
    · rw [state.moved_calls_other _ _ _ same] at also
      exact exclusive.held other also
  · exact fun _ => ⟨call, by rw [state.moved_calls_self]; rfl⟩
  · intro other result resolved
    by_cases same : other = call
    · subst other
      obtain ⟨since, at', handler⟩ := resolved
      rw [state.moved_calls_self] at handler ⊢
      cases handler
      exact Or.inl rfl
    · exact absurd resolved (nobody same)
  · intro executing running other result different resolved
    by_cases same : executing = call
    · subst executing
      exact nobody different resolved
    · rw [state.moved_calls_other _ _ _ same] at running
      exact same (exclusive.one_holder holds (Phase.holdsLock_of_executes running))
  · intro first second result response resolved also
    have isFirst : first = call := not_not.mp fun different => nobody different resolved
    have isSecond : second = call := not_not.mp fun different => nobody different also
    exact isSecond.trans isFirst.symm
  · exact fun _ => ⟨call, Or.inl (by rw [state.moved_calls_self]; rfl)⟩

end Setup.Exclusive

section Steps

variable {setup : Setup Call Response} {state following : State Call Response}
  {action : Action Call Response}

theorem Setup.Reads.exclusive {call : Call} {phase : Phase Response} {acquirer : Option Call}
    (reads : setup.Reads call state.now state.keys (state.calls call).phase phase)
    (exclusive : setup.Exclusive state) (provenance : setup.Provenance state) :
    setup.Exclusive
      (state.moved call ((state.calls call).goto phase) state.keys acquirer) := by
  have faultless := (exclusive.sound call).faultless
  generalize stands : (state.calls call).phase = before at reads
  cases reads with
  | awaits waiting =>
      have waits : (state.calls call).phase.Waits phase := by
        rw [stands]
        exact waiting.waits
      exact exclusive.calm_same_keys waits.calm
        (Phase.beforeLock_facts waits.1).2.2.2.2
  | replays looks stored =>
      have waits : (state.calls call).phase.beforeLock = true := by
        rw [stands]
        exact Phase.beforeLock_of_looksUp looks
      exact exclusive.calm_same_keys (Phase.calm_settles waits _)
        (Phase.beforeLock_facts waits).2.2.2.2
  | checkReplays stored =>
      refine exclusive.calm_same_keys ?_ (by rw [stands]; exact nofun)
      exact
        { holdsLock := by rw [stands]; rfl
          kept := fun _ kept => kept
          idle := nofun
          faulty := nofun
          resolved := fun _ _ _ => Iff.rfl
          completing := by rw [stands]; exact nofun
          executes := nofun }
  | checkPasses missing =>
      have holds : (state.calls call).phase.holdsLock = true := by rw [stands]; rfl
      refine exclusive.calm_same_keys ?_ (by rw [stands]; exact nofun)
      exact
        { holdsLock := by rw [stands]; rfl
          kept := fun _ kept => kept
          idle := nofun
          faulty := nofun
          resolved := fun _ _ _ => Iff.rfl
          completing := by rw [stands]; exact nofun
          executes := fun _ => Or.inr fun other result different =>
            exclusive.clear_of_missing holds (provenance.get_eq_none missing) different }
  | sameResult | otherResult | otherHash =>
      rw [stands] at faultless
      cases faultless

theorem Setup.Effect.exclusive {call : Call} {keys : IdempotencyKeys}
    {after : CallState Response} {acquirer : Option Call}
    (effect : setup.Effect call state.now state.keys (state.calls call) keys after)
    (exclusive : setup.Exclusive state) (coherent : state.Coherent)
    (provenance : setup.Provenance state) :
    setup.Exclusive (state.moved call after keys acquirer) := by
  have sound := exclusive.sound call
  cases effect with
  | reads read => exact read.exclusive exclusive provenance
  | acquires phase free => exact exclusive.acquires phase free
  | completes phase held => exact exclusive.completes coherent phase
  | losesLock phase lost => exact absurd (exclusive.held call (by rw [phase]; rfl)) lost
  | persists phase missing =>
      have faultless := sound.faultless
      rw [phase] at faultless
      cases faultless
  | releases phase => exact exclusive.releases phase
  | unfences phase =>
      refine exclusive.calm ?_ rfl rfl (fun alive => absurd rfl alive)
      exact
        { holdsLock := by rw [phase]; rfl
          kept := nofun
          idle := nofun
          faulty := nofun
          resolved := fun _ _ _ => Iff.rfl
          completing := by rw [phase]; exact nofun
          executes := nofun }

/-- A heartbeat of the holder finds its token; any other finds a token that is not its own. -/
theorem Setup.Exclusive.beats {call : Call} (exclusive : setup.Exclusive state)
    (pending : (state.calls call).heartbeatInProgress = true) {acquirer : Option Call} :
    setup.Exclusive (state.moved call
      { state.calls call with
        lockLost := (state.calls call).lockLost ||
          !(compareAndExpire state.now state.keys.lock (setup.lockToken call) lockTtlSeconds).2
        heartbeatInProgress := false }
      { state.keys with
        lock := (compareAndExpire state.now state.keys.lock (setup.lockToken call)
          lockTtlSeconds).1 }
      acquirer) := by
  refine exclusive.calm ?_ (get_compareAndExpire _ _ _ _) rfl fun _ => ⟨rfl, fun _ phase => phase⟩
  exact
    { holdsLock := rfl
      kept := by
        intro holds kept
        rw [compareAndExpire_of_holds lockTtlSeconds (exclusive.held call holds), kept]
        rfl
      idle := by
        intro waiting
        rw [((exclusive.sound call).idle waiting).2] at pending
        cases pending
      faulty := id
      resolved := fun _ _ _ => Iff.rfl
      completing := fun _ phase => phase
      executes := Or.inl }

theorem Setup.Move.exclusive (move : setup.Move state action following)
    (allowed : setup.FailureFree state action) (exclusive : setup.Exclusive state)
    (coherent : state.Coherent) (provenance : setup.Provenance state) :
    setup.Exclusive following := by
  cases move with
  | advances milliseconds =>
      refine Setup.Calm.exclusive ?_ exclusive
      exact
        { later := Nat.le_add_right _ _
          within := allowed.2
          lock := congrArg (Option.map Cell.value) allowed.1
          result := rfl
          each := fun call => .refl state call _
          fenced := fun alive =>
            ⟨fun missing => alive (live_none_later (Nat.le_add_right _ _) missing),
              fun _ _ phase => phase⟩ }
  | locksOut | errsApplied | errs | beatFails | crashes => exact allowed.elim
  | answers effect => exact effect.exclusive exclusive coherent provenance
  | idles idling =>
      exact exclusive.calm_same_keys idling.waits.calm
        (Phase.beforeLock_facts idling.waits.1).2.2.2.2
  | @starts call phase =>
      have waiting := (coherent call).agrees
      rw [phase] at waiting
      refine exclusive.calm_same_keys ?_ (by rw [phase]; exact nofun)
      exact
        { holdsLock := by rw [phase]; rfl
          kept := fun _ kept => kept
          idle := nofun
          faulty := nofun
          resolved := by rw [waiting.2]; exact fun _ _ _ => ⟨nofun, nofun⟩
          completing := by rw [phase]; exact nofun
          executes := fun _ => Or.inl (by rw [phase]; rfl) }
  | resolves response phase started => exact exclusive.resolves phase
  | @rejects call startedAt phase started =>
      refine exclusive.calm_same_keys ?_ (by rw [phase]; exact nofun)
      exact
        { holdsLock := by rw [phase]; rfl
          kept := fun _ kept => kept
          idle := nofun
          faulty := nofun
          resolved := by rw [started]; exact fun _ _ _ => ⟨nofun, nofun⟩
          completing := by rw [phase]; exact nofun
          executes := nofun }
  | @ticks call active =>
      refine exclusive.calm ?_ rfl rfl fun _ => ⟨rfl, fun _ phase => phase⟩
      exact
        { holdsLock := rfl
          kept := fun _ kept => kept
          idle := by
            intro waiting
            exact absurd active (by rw [Phase.heartbeatActive_of_beforeLock waiting]; decide)
          faulty := id
          resolved := fun _ _ _ => Iff.rfl
          completing := fun _ phase => phase
          executes := Or.inl }
  | beats pending => exact exclusive.beats pending

end Steps

theorem Setup.exclusive_of_reachable {setup : Setup Call Response} {state : State Call Response}
    (reached : setup.system.Reachable setup.FailureFree state) : setup.Exclusive state := by
  have known : ∀ before, setup.system.Reachable setup.FailureFree before →
      before.Coherent ∧ setup.Provenance before :=
    fun _ earlier => ⟨setup.coherent_of_reachable earlier, setup.provenance_of_reachable earlier⟩
  apply reached.invariant_using known
  · intro start initial
    obtain ⟨keys, calls, acquirer⟩ := initial
    have idle (call : Call) : start.calls call = CallState.fresh := by rw [calls]
    have unresolved {call : Call} {result : Response} : ¬start.Resolved call result := by
      intro resolved
      obtain ⟨startedAt, resolvedAt, handler⟩ := resolved
      rw [idle] at handler
      cases handler
    constructor
    · intro call
      rw [idle]
      exact ⟨nofun, fun _ => ⟨rfl, rfl⟩, rfl, nofun⟩
    · intro call holds
      rw [idle] at holds
      cases holds
    · intro taken
      rw [keys] at taken
      exact absurd rfl taken
    · exact fun call result resolved => absurd resolved unresolved
    · exact fun call executes other result different => unresolved
    · exact fun call other result response resolved => absurd resolved unresolved
    · intro alive
      rw [keys] at alive
      exact absurd rfl alive
  · intro before action after known exclusive allowed stepped
    exact (setup.step_move stepped).exclusive allowed exclusive known.1 known.2

end BackendFoundation.Idempotency
