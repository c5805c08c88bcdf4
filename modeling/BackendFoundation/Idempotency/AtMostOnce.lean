/-
At most one effect for an idempotency key, with faults. The fence is read before
the acquire script and not by it, its ttl runs from the acquire and not from the
start of the handler, and cleaning up deletes it whoever has set it. While no
step runs into one of these gaps, a handler is started only after every earlier
one has rejected or its ttl is over.
-/

import BackendFoundation.Idempotency.History

namespace BackendFoundation.Idempotency

open Redis Redis.Slot Redis.RedisService Transition

variable {Call Response : Type}

/-- The handler of the call has been started, has not rejected, and its ttl is not over. -/
def Setup.InWindow (setup : Setup Call Response) (state : State Call Response) (call : Call)
    (startedAt : Nat) : Prop :=
  (state.calls call).handler.outstandingSince = some startedAt ∧
    state.now < startedAt + (setup.input call).ttlSeconds * 1000

/-- The fence that the call has set has not reached its expiry. -/
def State.FenceStands (state : State Call Response) (call : Call) : Prop :=
  ∃ expiry, (state.calls call).fenceUntil = some expiry ∧ state.now ≤ expiry

/-- A script that takes the lock finds no fence, and no call in its window has
outlived its own. A call that deletes the fence deletes its own. -/
def Setup.FencedCommand (setup : Setup Call Response) (state : State Call Response)
    (call : Call) : Prop :=
  match (state.calls call).phase with
  | .acquiring => live state.now state.keys.lock = none →
      live state.now state.keys.fence = none ∧
        ∀ other startedAt expiry, setup.InWindow state other startedAt →
          (state.calls other).fenceUntil = some expiry → state.now ≤ expiry
  | .persisting _ => get state.now state.keys.result = none → state.FenceStands call
  | .unfencing _ => state.FenceStands call
  | _ => True

/-- The fence is in place at every step that relies on it. -/
def Setup.Fenced (setup : Setup Call Response) (state : State Call Response) :
    Action Call Response → Prop
  | .command call => setup.FencedCommand state call
  | .commandFails call applied => applied = true → setup.FencedCommand state call
  | .proceed call => (state.calls call).phase = .calling → state.FenceStands call
  | _ => True

/-- The stored result outlives this moment. -/
def State.ResultLasts (state : State Call Response) (moment : Nat) : Prop :=
  ∃ cell expiry, state.keys.result = some cell ∧ cell.expireAt = some expiry ∧ moment ≤ expiry

/-- Why no second handler starts. -/
structure Setup.Guarded (setup : Setup Call Response) (state : State Call Response) :
    Prop where
  fenced : ∀ call expiry, (state.calls call).fenceUntil = some expiry → state.now ≤ expiry →
    (∃ cell, state.keys.fence = some cell ∧ cell.expireAt = some expiry) ∧
      state.acquirer = some call
  owned : ∀ cell, live state.now state.keys.lock = some cell →
    ∃ call, state.acquirer = some call ∧ cell.value = setup.lockToken call
  covered : ∀ call startedAt, setup.InWindow state call startedAt →
    (state.calls call).fenceUntil.isSome = true ∨
      state.ResultLasts (startedAt + (setup.input call).ttlSeconds * 1000)
  checked : ∀ call, (state.calls call).phase = .doubleCheck → state.FenceStands call →
    ∀ other startedAt, other ≠ call → setup.InWindow state other startedAt →
      state.ResultLasts (startedAt + (setup.input other).ttlSeconds * 1000)
  alone : ∀ call, (state.calls call).phase = .calling → state.FenceStands call →
    ∀ other startedAt, other ≠ call → ¬setup.InWindow state other startedAt
  sole : ∀ call since, state.acquirer = some call →
    (state.calls call).handler.outstandingSince = some since →
    ∀ other startedAt, other ≠ call → ¬setup.InWindow state other startedAt

theorem State.ResultLasts.found {state : State Call Response} {moment : Nat}
    (lasts : state.ResultLasts moment) (before : state.now ≤ moment) :
    get state.now state.keys.result ≠ none := by
  obtain ⟨cell, expiry, stored, expires, outlives⟩ := lasts
  have alive : live state.now state.keys.result = some cell :=
    live_some_iff.mpr ⟨stored, aliveAt_of_le expires (Nat.le_trans before outlives)⟩
  rw [Ne, get_eq_none_iff, alive]
  exact Option.some_ne_none cell

namespace Setup.Guarded

variable {setup : Setup Call Response} {state : State Call Response}

theorem acquirer_of_stands (guarded : setup.Guarded state) {call : Call}
    (stands : state.FenceStands call) : state.acquirer = some call := by
  obtain ⟨expiry, set, before⟩ := stands
  exact (guarded.fenced call expiry set before).2

theorem stands_unique (guarded : setup.Guarded state) {call other : Call}
    (stands : state.FenceStands call) (also : state.FenceStands other) : other = call :=
  Option.some.inj
    ((guarded.acquirer_of_stands also).symm.trans (guarded.acquirer_of_stands stands))

theorem live_of_stands (guarded : setup.Guarded state) {call : Call}
    (stands : state.FenceStands call) : live state.now state.keys.fence ≠ none := by
  obtain ⟨expiry, set, before⟩ := stands
  obtain ⟨⟨cell, stored, expires⟩, _⟩ := guarded.fenced call expiry set before
  rw [live_some_iff.mpr ⟨stored, aliveAt_of_le expires before⟩]
  exact Option.some_ne_none cell

theorem acquirer_of_holds (guarded : setup.Guarded state) {call : Call}
    (held : get state.now state.keys.lock = some (setup.lockToken call)) :
    state.acquirer = some call := by
  obtain ⟨cell, found, value⟩ := get_eq_some_iff.mp held
  obtain ⟨owner, acquirer, token⟩ := guarded.owned cell found
  rw [setup.lockToken_injective (value.symm.trans token)]
  exact acquirer

end Setup.Guarded

/-- A step that sets no fence, deletes none, stores no result and starts no handler. -/
structure Setup.Quiet (setup : Setup Call Response) (state following : State Call Response) :
    Prop where
  later : state.now ≤ following.now
  fence : following.keys.fence = state.keys.fence
  result : following.keys.result = state.keys.result
  acquirer : following.acquirer = state.acquirer
  lock : ∀ cell, live following.now following.keys.lock = some cell →
    ∃ earlier, live state.now state.keys.lock = some earlier ∧ earlier.value = cell.value
  fenceUntil : ∀ call, (following.calls call).fenceUntil = (state.calls call).fenceUntil
  outstanding : ∀ call since,
    (following.calls call).handler.outstandingSince = some since →
    (state.calls call).handler.outstandingSince = some since
  checking : ∀ call, (following.calls call).phase = .doubleCheck →
    (state.calls call).phase = .doubleCheck
  calling : ∀ call, (following.calls call).phase = .calling → state.FenceStands call →
    (state.calls call).phase = .calling ∨
      ∀ other startedAt, other ≠ call → ¬setup.InWindow state other startedAt

namespace Setup.Quiet

variable {setup : Setup Call Response} {state following : State Call Response}

theorem inWindow (quiet : setup.Quiet state following) {call : Call} {startedAt : Nat}
    (window : setup.InWindow following call startedAt) :
    setup.InWindow state call startedAt :=
  ⟨quiet.outstanding call startedAt window.1, Nat.lt_of_le_of_lt quiet.later window.2⟩

theorem fenceStands (quiet : setup.Quiet state following) {call : Call}
    (stands : following.FenceStands call) : state.FenceStands call := by
  obtain ⟨expiry, set, before⟩ := stands
  rw [quiet.fenceUntil] at set
  exact ⟨expiry, set, Nat.le_trans quiet.later before⟩

theorem resultLasts (quiet : setup.Quiet state following) {moment : Nat}
    (lasts : state.ResultLasts moment) : following.ResultLasts moment := by
  unfold State.ResultLasts
  rw [quiet.result]
  exact lasts

theorem guarded (quiet : setup.Quiet state following) (guarded : setup.Guarded state) :
    setup.Guarded following := by
  constructor
  · intro call expiry set before
    rw [quiet.fence, quiet.acquirer]
    rw [quiet.fenceUntil] at set
    exact guarded.fenced call expiry set (Nat.le_trans quiet.later before)
  · intro cell found
    obtain ⟨earlier, live, same⟩ := quiet.lock cell found
    rw [quiet.acquirer, ← same]
    exact guarded.owned earlier live
  · intro call startedAt window
    rw [quiet.fenceUntil]
    exact (guarded.covered call startedAt (quiet.inWindow window)).imp_right quiet.resultLasts
  · intro call phase stands other startedAt different window
    exact quiet.resultLasts (guarded.checked call (quiet.checking call phase)
      (quiet.fenceStands stands) other startedAt different (quiet.inWindow window))
  · intro call phase stands other startedAt different window
    rcases quiet.calling call phase (quiet.fenceStands stands) with already | alone
    · exact guarded.alone call already (quiet.fenceStands stands) other startedAt different
        (quiet.inWindow window)
    · exact alone other startedAt different (quiet.inWindow window)
  · intro call since acquirer outstanding other startedAt different window
    rw [quiet.acquirer] at acquirer
    exact guarded.sole call since acquirer (quiet.outstanding call since outstanding) other
      startedAt different (quiet.inWindow window)

end Setup.Quiet

/-- A call that keeps its fence and does not come to the double check. -/
structure CallState.Quiet (before after : CallState Response) : Prop where
  fenceUntil : after.fenceUntil = before.fenceUntil
  outstanding : ∀ since, after.handler.outstandingSince = some since →
    before.handler.outstandingSince = some since
  checking : after.phase = .doubleCheck → before.phase = .doubleCheck

theorem CallState.Quiet.refl (call : CallState Response) : call.Quiet call :=
  { fenceUntil := rfl
    outstanding := fun _ outstanding => outstanding
    checking := id }

theorem CallState.quiet_goto (before : CallState Response) {phase : Phase Response}
    (different : phase ≠ .doubleCheck) : before.Quiet (before.goto phase) :=
  { fenceUntil := rfl
    outstanding := fun _ outstanding => outstanding
    checking := fun same => absurd same different }

theorem Phase.Waits.ne {before after : Phase Response} (waits : before.Waits after) :
    after ≠ .doubleCheck ∧ after ≠ .calling := by
  rcases waits.2 with waiting | ⟨error, rfl⟩
  · constructor
    · intro same
      subst same
      cases waiting
    · intro same
      subst same
      cases waiting
  · exact ⟨nofun, nofun⟩

theorem Phase.afterError_ne {phase failed : Phase Response}
    (failing : phase.afterError = some failed) :
    failed ≠ .doubleCheck ∧ failed ≠ .calling := by
  cases phase with
  | entryResult | entryFence | acquiring | pollResult | pollLock | pollFence | finalResult
  | doubleCheck | completing | persisting | releasing | unfencing =>
      cases failing
      exact ⟨nofun, nofun⟩
  | sleeping | calling | running | settled | crashed => cases failing

variable [DecidableEq Call]

section Moved

variable {setup : Setup Call Response} {state : State Call Response} {call other : Call}
  {after : CallState Response} {keys : IdempotencyKeys} {acquirer : Option Call}

theorem CallState.Quiet.moved (quiet : (state.calls call).Quiet after)
    (calling : after.phase = .calling → state.FenceStands call →
      (state.calls call).phase = .calling ∨
        ∀ other startedAt, other ≠ call → ¬setup.InWindow state other startedAt)
    (fence : keys.fence = state.keys.fence) (result : keys.result = state.keys.result)
    (lock : ∀ cell, live state.now keys.lock = some cell →
      ∃ earlier, live state.now state.keys.lock = some earlier ∧ earlier.value = cell.value) :
    setup.Quiet state (state.moved call after keys state.acquirer) := by
  have each (other : Call) :
      (state.calls other).Quiet ((state.moved call after keys state.acquirer).calls other) := by
    by_cases same : other = call
    · subst other
      rw [state.moved_calls_self]
      exact quiet
    · rw [state.moved_calls_other after keys state.acquirer same]
      exact .refl _
  refine
    { later := Nat.le_refl _
      fence := fence
      result := result
      acquirer := rfl
      lock := lock
      fenceUntil := fun other => (each other).fenceUntil
      outstanding := fun other => (each other).outstanding
      checking := fun other => (each other).checking
      calling := ?_ }
  intro other phase stands
  by_cases same : other = call
  · subst other
    rw [state.moved_calls_self] at phase
    exact calling phase stands
  · rw [state.moved_calls_other after keys state.acquirer same] at phase
    exact Or.inl phase

theorem CallState.Quiet.moved_same_keys (quiet : (state.calls call).Quiet after)
    (elsewhere : after.phase ≠ .calling) :
    setup.Quiet state (state.moved call after state.keys state.acquirer) :=
  quiet.moved (fun phase => absurd phase elsewhere) rfl rfl fun cell found => ⟨cell, found, rfl⟩

theorem State.fenceStands_moved (different : other ≠ call)
    (stands : (state.moved call after keys acquirer).FenceStands other) :
    state.FenceStands other := by
  obtain ⟨expiry, set, before⟩ := stands
  rw [state.moved_calls_other after keys acquirer different] at set
  exact ⟨expiry, set, before⟩

/-- After a step of the only call whose fence may stand, no call is at a phase that this one
has not gone to while its fence stands. -/
theorem State.not_stands_moved {phase : Phase Response}
    (only : ∀ other, state.FenceStands other → other = call) (elsewhere : after.phase ≠ phase)
    (here : ((state.moved call after keys acquirer).calls other).phase = phase)
    (stands : (state.moved call after keys acquirer).FenceStands other) : False := by
  by_cases same : other = call
  · subst other
    rw [state.moved_calls_self] at here
    exact elsewhere here
  · exact same (only other (State.fenceStands_moved same stands))

theorem Setup.inWindow_moved_other {startedAt : Nat} (different : other ≠ call)
    (window : setup.InWindow (state.moved call after keys acquirer) other startedAt) :
    setup.InWindow state other startedAt := by
  obtain ⟨outstanding, within⟩ := window
  rw [state.moved_calls_other after keys acquirer different] at outstanding
  exact ⟨outstanding, within⟩

theorem Setup.inWindow_moved {startedAt : Nat}
    (window : setup.InWindow (state.moved call after keys acquirer) other startedAt)
    (handler : after.handler = (state.calls call).handler) :
    setup.InWindow state other startedAt := by
  by_cases same : other = call
  · subst other
    obtain ⟨outstanding, within⟩ := window
    rw [state.moved_calls_self, handler] at outstanding
    exact ⟨outstanding, within⟩
  · exact Setup.inWindow_moved_other same window

end Moved

namespace Setup.Guarded

variable {setup : Setup Call Response} {state : State Call Response} {call : Call}

/-- The acquire script takes the lock and sets the fence. -/
theorem acquires (guarded : setup.Guarded state) (coherent : state.Coherent)
    (phase : (state.calls call).phase = .acquiring)
    (free : live state.now state.keys.lock = none)
    (fenced : setup.FencedCommand state call) :
    setup.Guarded (state.moved call
      { state.calls call with
        phase := .doubleCheck
        fenceUntil := some (state.now + (setup.input call).ttlSeconds * 1000) }
      { state.keys with
        lock := setEx state.now (setup.lockToken call) lockTtlSeconds
        fence := setEx state.now (setup.input call).requestHash (setup.input call).ttlSeconds }
      (some call)) := by
  simp only [Setup.FencedCommand, phase] at fenced
  obtain ⟨unfenced, lapsed⟩ := fenced free
  have noStands (other : Call) : ¬state.FenceStands other :=
    fun stands => guarded.live_of_stands stands unfenced
  have waiting : (state.calls call).handler = .notStarted := by
    have agrees := (coherent call).agrees
    rw [phase] at agrees
    exact agrees.2
  constructor
  · intro other expiry set before
    by_cases same : other = call
    · subst other
      rw [state.moved_calls_self] at set
      cases set
      exact ⟨⟨_, rfl, rfl⟩, rfl⟩
    · rw [state.moved_calls_other _ _ _ same] at set
      exact absurd ⟨expiry, set, before⟩ (noStands other)
  · intro cell found
    simp only [State.moved_keys, State.moved_now, live_setEx_now] at found
    cases found
    exact ⟨call, rfl, rfl⟩
  · intro other startedAt window
    by_cases same : other = call
    · subst other
      rw [state.moved_calls_self]
      exact Or.inl rfl
    · rw [state.moved_calls_other _ _ _ same]
      exact guarded.covered other startedAt (Setup.inWindow_moved window rfl)
  · intro checking at' stands other startedAt different window
    have window : setup.InWindow state other startedAt := Setup.inWindow_moved window rfl
    by_cases same : checking = call
    · rcases guarded.covered other startedAt window with set | lasts
      · obtain ⟨expiry, set⟩ := Option.isSome_iff_exists.mp set
        exact absurd ⟨expiry, set, lapsed other startedAt expiry window set⟩ (noStands other)
      · exact lasts
    · exact absurd (State.fenceStands_moved same stands) (noStands checking)
  · intro starting calls stands other startedAt different window
    exact (State.not_stands_moved (fun _ stands => absurd stands (noStands _)) (by nofun)
      calls stands).elim
  · intro holder since acquirer outstanding
    cases acquirer
    rw [state.moved_calls_self] at outstanding
    simp only [waiting, Handler.outstandingSince] at outstanding
    cases outstanding

theorem goto (guarded : setup.Guarded state) (call : Call) (phase : Phase Response)
    (check : phase ≠ .doubleCheck) (start : phase ≠ .calling) :
    setup.Guarded
      (state.moved call ((state.calls call).goto phase) state.keys state.acquirer) := by
  have kept : (state.calls call).Quiet ((state.calls call).goto phase) :=
    CallState.quiet_goto _ check
  exact (kept.moved_same_keys start : setup.Quiet _ _).guarded guarded

/-- A double check that finds no result has found nobody else in its window. -/
theorem passes (guarded : setup.Guarded state) (provenance : setup.Provenance state)
    (phase : (state.calls call).phase = .doubleCheck)
    (missing : truthy (get state.now state.keys.result) = none) :
    setup.Quiet state
      (state.moved call ((state.calls call).goto .calling) state.keys state.acquirer) := by
  have kept : (state.calls call).Quiet ((state.calls call).goto .calling) :=
    CallState.quiet_goto _ nofun
  refine kept.moved ?_ rfl rfl fun cell found => ⟨cell, found, rfl⟩
  intro _ stands
  refine Or.inr fun other startedAt different window => ?_
  have lasts := guarded.checked call phase stands other startedAt different window
  exact lasts.found (Nat.le_of_lt window.2) (provenance.get_eq_none missing)

/-- Storing the result of the call that holds the lock, or whose fence stands. -/
theorem stores (guarded : setup.Guarded state) (coherent : state.Coherent) {result : Response}
    {after : CallState Response} {lock : Slot String}
    (phase : (state.calls call).phase = .completing result ∨
      (state.calls call).phase = .persisting result)
    (acquirer : state.acquirer = some call)
    (settles : after.phase = .settled (.fulfilled result)) (clears : after.fenceUntil = none)
    (handler : after.handler = (state.calls call).handler)
    (locked : ∀ cell, live state.now lock = some cell →
      live state.now state.keys.lock = some cell) :
    setup.Guarded (state.moved call after
      { lock := lock
        fence := del
        result := setEx state.now (setup.serialized call result) (setup.input call).ttlSeconds }
      state.acquirer) := by
  obtain ⟨startedAt, resolvedAt, resolved⟩ := coherent.resolved phase
  have alone := guarded.sole call startedAt acquirer (by rw [resolved]; rfl)
  have onlyCall (other : Call) (stands : state.FenceStands other) : other = call :=
    Option.some.inj ((guarded.acquirer_of_stands stands).symm.trans acquirer)
  constructor
  · intro other expiry set before
    by_cases same : other = call
    · subst other
      rw [state.moved_calls_self, clears] at set
      cases set
    · rw [state.moved_calls_other _ _ _ same] at set
      exact absurd (onlyCall other ⟨expiry, set, before⟩) same
  · intro cell found
    exact guarded.owned cell (locked cell found)
  · intro other since window
    have window := Setup.inWindow_moved window handler
    by_cases same : other = call
    · subst other
      have started := (coherent call).past.outstanding window.1
      exact Or.inr ⟨_, _, rfl, rfl, by omega⟩
    · exact absurd window (alone other since same)
  · intro checking at' still other since different window
    have elsewhere : after.phase ≠ .doubleCheck := by
      rw [settles]
      exact nofun
    exact (State.not_stands_moved onlyCall elsewhere at' still).elim
  · intro starting at' still other since different window
    have elsewhere : after.phase ≠ .calling := by
      rw [settles]
      exact nofun
    exact (State.not_stands_moved onlyCall elsewhere at' still).elim
  · intro holder since holds outstanding other startedAt different window
    cases Option.some.inj (holds.symm.trans acquirer)
    exact alone other startedAt different (Setup.inWindow_moved window handler)

/-- Cleaning up deletes the fence that the call has set itself. -/
theorem unfences (guarded : setup.Guarded state) (coherent : state.Coherent)
    {outcome : Outcome Response} (phase : (state.calls call).phase = .unfencing outcome)
    (stands : state.FenceStands call) :
    setup.Guarded (state.moved call
      { state.calls call with
        phase := .settled outcome
        fenceUntil := none }
      { state.keys with fence := del } state.acquirer) := by
  have quiescent : (state.calls call).handler.outstandingSince = none := by
    have agrees := (coherent call).agrees
    rw [phase] at agrees
    exact agrees
  constructor
  · intro other expiry set before
    by_cases same : other = call
    · subst other
      rw [state.moved_calls_self] at set
      cases set
    · rw [state.moved_calls_other _ _ _ same] at set
      exact absurd (guarded.stands_unique stands ⟨expiry, set, before⟩) same
  · exact guarded.owned
  · intro other since window
    have window := Setup.inWindow_moved window rfl
    by_cases same : other = call
    · subst other
      cases quiescent.symm.trans window.1
    · rw [state.moved_calls_other _ _ _ same]
      exact guarded.covered other since window
  · intro checking at' still other since different window
    exact (State.not_stands_moved (fun _ => guarded.stands_unique stands) (by nofun) at'
      still).elim
  · intro starting at' still other since different window
    exact (State.not_stands_moved (fun _ => guarded.stands_unique stands) (by nofun) at'
      still).elim
  · intro holder since holds outstanding other startedAt different window
    refine guarded.sole holder since holds ?_ other startedAt different
      (Setup.inWindow_moved window rfl)
    by_cases same : holder = call
    · subst holder
      rw [state.moved_calls_self] at outstanding
      exact outstanding
    · rw [state.moved_calls_other _ _ _ same] at outstanding
      exact outstanding

/-- A handler starts under its own fence. -/
theorem starts (guarded : setup.Guarded state) (phase : (state.calls call).phase = .calling)
    (stands : state.FenceStands call) :
    setup.Guarded (state.moved call
      { state.calls call with
        phase := .running
        handler := .started state.now }
      state.keys state.acquirer) := by
  constructor
  · intro other expiry set before
    refine guarded.fenced other expiry ?_ before
    by_cases same : other = call
    · subst other
      rw [state.moved_calls_self] at set
      exact set
    · rw [state.moved_calls_other _ _ _ same] at set
      exact set
  · exact guarded.owned
  · intro other since window
    by_cases same : other = call
    · subst other
      obtain ⟨expiry, set, before⟩ := stands
      rw [state.moved_calls_self]
      exact Or.inl (by rw [set]; rfl)
    · rw [state.moved_calls_other _ _ _ same]
      exact guarded.covered other since (Setup.inWindow_moved_other same window)
  · intro checking at' still other since different window
    exact (State.not_stands_moved (fun _ => guarded.stands_unique stands) (by nofun) at'
      still).elim
  · intro starting at' still other since different window
    exact (State.not_stands_moved (fun _ => guarded.stands_unique stands) (by nofun) at'
      still).elim
  · intro holder since holds outstanding other startedAt different window
    cases Option.some.inj (holds.symm.trans (guarded.acquirer_of_stands stands))
    exact guarded.alone call phase stands other startedAt different
      (Setup.inWindow_moved_other different window)

end Setup.Guarded

section Steps

variable {setup : Setup Call Response} {state following : State Call Response}
  {action : Action Call Response}

theorem Setup.Reads.guarded {call : Call} {phase : Phase Response}
    (reads : setup.Reads call state.now state.keys (state.calls call).phase phase)
    (guarded : setup.Guarded state) (provenance : setup.Provenance state) :
    setup.Guarded
      (state.moved call ((state.calls call).goto phase) state.keys state.acquirer) := by
  generalize stands : (state.calls call).phase = before at reads
  cases reads with
  | awaits waiting =>
      exact guarded.goto call _ waiting.waits.ne.1 waiting.waits.ne.2
  | checkPasses missing => exact (guarded.passes provenance stands missing).guarded guarded
  | replays | sameResult | otherResult => exact guarded.goto call (.settled _) nofun nofun
  | checkReplays | otherHash => exact guarded.goto call (.releasing _ _) nofun nofun

theorem Setup.Effect.guarded {call : Call} {keys : IdempotencyKeys}
    {after : CallState Response}
    (effect : setup.Effect call state.now state.keys (state.calls call) keys after)
    (fenced : setup.FencedCommand state call) (guarded : setup.Guarded state)
    (coherent : state.Coherent) (provenance : setup.Provenance state) :
    setup.Guarded (state.moved call after keys (state.acquirerAfter call)) := by
  cases effect with
  | reads read =>
      rw [read.acquirerAfter]
      exact read.guarded guarded provenance
  | acquires phase free =>
      rw [State.acquirerAfter_of_free phase free]
      exact guarded.acquires coherent phase free fenced
  | completes phase held =>
      rw [State.acquirerAfter_of_ne (by rw [phase]; exact nofun)]
      exact guarded.stores coherent (Or.inl phase) (guarded.acquirer_of_holds held) rfl rfl rfl
        nofun
  | losesLock phase lost =>
      rw [State.acquirerAfter_of_ne (by rw [phase]; exact nofun)]
      refine Setup.Quiet.guarded (CallState.Quiet.moved_same_keys ?_ nofun) guarded
      exact ⟨rfl, fun _ outstanding => outstanding, nofun⟩
  | persists phase missing =>
      rw [State.acquirerAfter_of_ne (by rw [phase]; exact nofun)]
      simp only [Setup.FencedCommand, phase] at fenced
      exact guarded.stores coherent (Or.inr phase)
        (guarded.acquirer_of_stands (fenced missing)) rfl rfl rfl fun _ found => found
  | @releases succeeded outcome phase =>
      rw [State.acquirerAfter_of_ne (by rw [phase]; exact nofun)]
      refine Setup.Quiet.guarded (CallState.Quiet.moved ?_ ?_ rfl rfl ?_) guarded
      · apply CallState.quiet_goto _
        cases succeeded <;> exact nofun
      · cases succeeded <;> exact nofun
      · intro cell found
        exact ⟨cell, live_compareAndDelete found, rfl⟩
  | unfences phase =>
      rw [State.acquirerAfter_of_ne (by rw [phase]; exact nofun)]
      simp only [Setup.FencedCommand, phase] at fenced
      exact guarded.unfences coherent phase fenced

theorem Setup.Move.guarded (move : setup.Move state action following)
    (fenced : setup.Fenced state action) (guarded : setup.Guarded state)
    (coherent : state.Coherent) (provenance : setup.Provenance state) :
    setup.Guarded following := by
  cases move with
  | advances milliseconds =>
      refine Setup.Quiet.guarded ?_ guarded
      exact
        { later := Nat.le_add_right _ _
          fence := rfl
          result := rfl
          acquirer := rfl
          lock := fun cell found => ⟨cell, live_earlier (Nat.le_add_right _ _) found, rfl⟩
          fenceUntil := fun _ => rfl
          outstanding := fun _ _ outstanding => outstanding
          checking := fun _ phase => phase
          calling := fun _ phase _ => Or.inl phase }
  | locksOut =>
      refine Setup.Quiet.guarded ?_ guarded
      exact
        { later := Nat.le_refl _
          fence := rfl
          result := rfl
          acquirer := rfl
          lock := nofun
          fenceUntil := fun _ => rfl
          outstanding := fun _ _ outstanding => outstanding
          checking := fun _ phase => phase
          calling := fun _ phase _ => Or.inl phase }
  | answers effect => exact effect.guarded fenced guarded coherent provenance
  | @errsApplied call keys after failed effect failing =>
      -- the script has run: only the reply is lost
      have applied := effect.guarded (fenced rfl) guarded coherent provenance
      have elsewhere := Phase.afterError_ne failing
      have errs := applied.goto call failed elsewhere.1 elsewhere.2
      rw [State.moved_moved, State.moved_calls_self] at errs
      exact errs
  | errs failing =>
      exact guarded.goto _ _ (Phase.afterError_ne failing).1 (Phase.afterError_ne failing).2
  | idles idling => exact guarded.goto _ _ idling.waits.ne.1 idling.waits.ne.2
  | starts phase => exact guarded.starts phase (fenced phase)
  | resolves response phase started =>
      refine Setup.Quiet.guarded (CallState.Quiet.moved_same_keys ?_ ?_) guarded
      · refine ⟨rfl, ?_, ?_⟩
        · intro since outstanding
          rw [started]
          exact outstanding
        · cases lost : (state.calls _).lockLost <;> exact nofun
      · cases lost : (state.calls _).lockLost <;> exact nofun
  | rejects phase started =>
      exact Setup.Quiet.guarded
        (CallState.Quiet.moved_same_keys ⟨rfl, nofun, nofun⟩ nofun) guarded
  | ticks active =>
      refine Setup.Quiet.guarded (CallState.Quiet.moved ?_ ?_ rfl rfl ?_) guarded
      · exact ⟨rfl, fun _ outstanding => outstanding, id⟩
      · exact fun phase _ => Or.inl phase
      · exact fun cell found => ⟨cell, found, rfl⟩
  | beats pending =>
      refine Setup.Quiet.guarded (CallState.Quiet.moved ?_ ?_ rfl rfl ?_) guarded
      · exact ⟨rfl, fun _ outstanding => outstanding, id⟩
      · exact fun phase _ => Or.inl phase
      · exact fun cell found => live_compareAndExpire found
  | @beatFails call applied pending =>
      refine Setup.Quiet.guarded (CallState.Quiet.moved ?_ ?_ rfl rfl ?_) guarded
      · exact ⟨rfl, fun _ outstanding => outstanding, id⟩
      · exact fun phase _ => Or.inl phase
      · intro cell found
        cases applied with
        | true => exact live_compareAndExpire found
        | false => exact ⟨cell, found, rfl⟩
  | crashes => exact guarded.goto _ .crashed nofun nofun

end Steps

theorem Setup.guarded_of_reachable {setup : Setup Call Response} {state : State Call Response}
    (reached : setup.system.Reachable setup.Fenced state) : setup.Guarded state := by
  have known : ∀ before, setup.system.Reachable setup.Fenced before →
      before.Coherent ∧ setup.Provenance before :=
    fun _ earlier => ⟨setup.coherent_of_reachable earlier, setup.provenance_of_reachable earlier⟩
  apply reached.invariant_using known
  · intro start initial
    obtain ⟨keys, calls, acquirer⟩ := initial
    have idle (call : Call) : start.calls call = CallState.fresh := by rw [calls]
    constructor
    · intro call expiry set
      rw [idle] at set
      cases set
    · intro cell found
      rw [keys] at found
      cases found
    · intro call startedAt window
      cases (idle call ▸ window.1 : CallState.fresh.handler.outstandingSince = some startedAt)
    · intro call phase
      rw [idle] at phase
      cases phase
    · intro call phase
      rw [idle] at phase
      cases phase
    · intro call since holds
      rw [acquirer] at holds
      cases holds
  · intro before action after known guarded fenced stepped
    exact (setup.step_move stepped).guarded fenced guarded known.1 known.2

/-- Within the ttl of a handler that has been started and has not rejected no other
handler is started; a call that starts none replays or fails. -/
def Setup.SingleEffect (setup : Setup Call Response)
    (allowed : State Call Response → Action Call Response → Prop) : Prop :=
  ∀ state, setup.system.Reachable allowed state →
    (∀ call, (state.calls call).phase = .calling → allowed state (.proceed call) →
      ∀ other startedAt, other ≠ call → ¬setup.InWindow state other startedAt) ∧
    ∀ call outcome, (state.calls call).phase = .settled outcome →
      (state.calls call).handler = .notStarted → setup.Declines state call outcome

theorem singleEffect_of_fenced (setup : Setup Call Response) :
    setup.SingleEffect setup.Fenced := by
  intro state reached
  have guarded := setup.guarded_of_reachable reached
  constructor
  · intro call phase fenced
    exact guarded.alone call phase (fenced phase)
  · intro call outcome settled notStarted
    exact (setup.provenance_of_reachable reached).declines settled notStarted

/-- The second call has passed both entry checks when the first one takes the lock.
The lock expires under the running handler, and the second call takes it without
looking at the fence again. -/
theorem not_singleEffect : ¬∀ setup : Setup Bool Bool, setup.SingleEffect anyAction := by
  intro claim
  have executed :
      (duplicateRequests.system.execute (fun _ _ => true) State.empty
        [.command true, .command true, .command false, .command false, .command false,
          .command false, .proceed false, .advance 30001, .command true, .command true]).map
        (fun state => (state.now, (state.calls true).phase, (state.calls false).handler)) =
      some (30001, .calling, .started 0) := by decide
  obtain ⟨state, run, facts⟩ := Option.map_eq_some_iff.mp executed
  simp only [Prod.mk.injEq] at facts
  obtain ⟨now, calling, running⟩ := facts
  have reached : duplicateRequests.system.Reachable anyAction state :=
    .of_execute (fun _ _ _ => trivial) ⟨rfl, rfl, rfl⟩ run
  refine (claim duplicateRequests state reached).1 true calling trivial false 0 nofun ⟨?_, ?_⟩
  · rw [running]
    rfl
  · rw [now]
    decide

end BackendFoundation.Idempotency
