/-
What one step of the idempotency machine can do. The safety proofs argue by
cases on these relations and never unfold the step function again.
-/

import BackendFoundation.Idempotency.Service

namespace BackendFoundation.Idempotency

open Redis Redis.Slot Redis.RedisService

variable {Call Response : Type}

/-- The call has not taken the lock yet: entry checks and waiting. -/
def Phase.beforeLock : Phase Response → Bool
  | .entryResult | .entryFence | .acquiring | .sleeping _ _ _
  | .pollResult _ _ | .pollLock _ _ | .pollFence _ _ | .finalResult => true
  | _ => false

/-- The reads of the result key before the lock. -/
def Phase.looksUp : Phase Response → Bool
  | .entryResult | .pollResult _ _ | .finalResult => true
  | _ => false

/-- A waiting call goes on waiting or gives up with a conflict. -/
def Phase.Waits (before after : Phase Response) : Prop :=
  before.beforeLock = true ∧
    (after.beforeLock = true ∨ ∃ error, after = .settled (.rejected (.conflict error)))

/-- The replies on which a call that has not taken the lock goes on or gives up. -/
inductive Setup.Awaits (setup : Setup Call Response) (call : Call) (now : Nat)
    (keys : IdempotencyKeys) : Phase Response → Phase Response → Prop
  | uncached : truthy (get now keys.result) = none →
      Awaits setup call now keys .entryResult .entryFence
  | unfenced : truthy (get now keys.fence) = none →
      Awaits setup call now keys .entryFence .acquiring
  | reused {fence : String} : truthy (get now keys.fence) = some fence →
      fence ≠ (setup.input call).requestHash →
      Awaits setup call now keys .entryFence (.settled (.rejected (.conflict keyReused)))
  | unknown {fence : String} : truthy (get now keys.fence) = some fence →
      fence = (setup.input call).requestHash →
      Awaits setup call now keys .entryFence (.settled (.rejected (.conflict outcomeUnknown)))
  | locked : live now keys.lock ≠ none →
      Awaits setup call now keys .acquiring (nextRound now (now + waitTimeoutMs) false)
  | pollsResult {deadline : Nat} {saw : Bool} : truthy (get now keys.result) = none →
      Awaits setup call now keys (.pollResult deadline saw) (.pollLock deadline saw)
  | pollsLocked {deadline : Nat} {saw : Bool} : present now keys.lock = true →
      Awaits setup call now keys (.pollLock deadline saw) (nextRound now deadline saw)
  | pollsFree {deadline : Nat} {saw : Bool} : present now keys.lock = false →
      Awaits setup call now keys (.pollLock deadline saw) (.pollFence deadline saw)
  | pollsReused {deadline : Nat} {saw : Bool} {fence : String} :
      truthy (get now keys.fence) = some fence → fence ≠ (setup.input call).requestHash →
      Awaits setup call now keys (.pollFence deadline saw)
        (.settled (.rejected (.conflict keyReused)))
  | pollsFenced {deadline : Nat} {saw : Bool} {fence : String} :
      truthy (get now keys.fence) = some fence → fence = (setup.input call).requestHash →
      Awaits setup call now keys (.pollFence deadline saw) (nextRound now deadline true)
  | pollsUnfenced {deadline : Nat} {saw : Bool} : truthy (get now keys.fence) = none →
      Awaits setup call now keys (.pollFence deadline saw) (afterLoop saw)
  | gone : truthy (get now keys.result) = none →
      Awaits setup call now keys .finalResult (.settled (.rejected (.conflict outcomeUnknown)))

/-- The end of a sleep. -/
inductive Phase.Idles (now : Nat) : Phase Response → Phase Response → Prop
  | wakes {deadline wakeAt : Nat} {saw : Bool} : wakeAt ≤ now →
      Idles now (.sleeping deadline saw wakeAt) (.pollResult deadline saw)

/-- Replies that leave every key as it is. -/
inductive Setup.Reads (setup : Setup Call Response) (call : Call) (now : Nat)
    (keys : IdempotencyKeys) : Phase Response → Phase Response → Prop
  | awaits {before after : Phase Response} : setup.Awaits call now keys before after →
      Reads setup call now keys before after
  | replays {before : Phase Response} {raw : String} : before.looksUp = true →
      get now keys.result = some raw →
      Reads setup call now keys before
        (.settled (setup.parseStoredResult raw (setup.input call).requestHash))
  | checkReplays {raw : String} : get now keys.result = some raw →
      Reads setup call now keys .doubleCheck
        (.releasing false (setup.parseStoredResult raw (setup.input call).requestHash))
  | checkPasses : truthy (get now keys.result) = none →
      Reads setup call now keys .doubleCheck .calling
  | sameResult {result : Response} {raw : String} : get now keys.result = some raw →
      raw = setup.serialized call result →
      Reads setup call now keys (.persisting result) (.settled (.fulfilled result))
  | otherResult {result persisted : Response} {raw : String} :
      get now keys.result = some raw →
      setup.parseStoredResult raw (setup.input call).requestHash = .fulfilled persisted →
      Reads setup call now keys (.persisting result) (.settled (.fulfilled persisted))
  | otherHash {result : Response} {raw : String} {reason : Rejection} :
      get now keys.result = some raw →
      setup.parseStoredResult raw (setup.input call).requestHash = .rejected reason →
      Reads setup call now keys (.persisting result) (.releasing true (.rejected reason))

/-- The effect of one Redis command together with its reply. -/
inductive Setup.Effect (setup : Setup Call Response) (call : Call) (now : Nat)
    (keys : IdempotencyKeys) (before : CallState Response) :
    IdempotencyKeys → CallState Response → Prop
  | reads {phase : Phase Response} : setup.Reads call now keys before.phase phase →
      Effect setup call now keys before keys (before.goto phase)
  | acquires : before.phase = .acquiring → live now keys.lock = none →
      Effect setup call now keys before
        { keys with
          lock := setEx now (setup.lockToken call) lockTtlSeconds
          fence := setEx now (setup.input call).requestHash (setup.input call).ttlSeconds }
        { before with
          phase := .doubleCheck
          fenceUntil := some (now + (setup.input call).ttlSeconds * 1000) }
  | completes {result : Response} : before.phase = .completing result →
      get now keys.lock = some (setup.lockToken call) →
      Effect setup call now keys before
        { lock := del
          fence := del
          result := setEx now (setup.serialized call result) (setup.input call).ttlSeconds }
        { before with phase := .settled (.fulfilled result), fenceUntil := none }
  | losesLock {result : Response} : before.phase = .completing result →
      get now keys.lock ≠ some (setup.lockToken call) →
      Effect setup call now keys before keys
        { before with phase := .persisting result, lockLost := true }
  | persists {result : Response} : before.phase = .persisting result →
      get now keys.result = none →
      Effect setup call now keys before
        { keys with
          result := setEx now (setup.serialized call result) (setup.input call).ttlSeconds
          fence := del }
        { before with phase := .settled (.fulfilled result), fenceUntil := none }
  | releases {handlerSucceeded : Bool} {outcome : Outcome Response} :
      before.phase = .releasing handlerSucceeded outcome →
      Effect setup call now keys before
        { keys with lock := (compareAndDelete now keys.lock (setup.lockToken call)).1 }
        (before.goto (if handlerSucceeded then .settled outcome else .unfencing outcome))
  | unfences {outcome : Outcome Response} : before.phase = .unfencing outcome →
      Effect setup call now keys before { keys with fence := del }
        { before with phase := .settled outcome, fenceUntil := none }

theorem truthy_some {reply : Option String} {text : String}
    (found : truthy reply = some text) : reply = some text := by
  unfold truthy at found
  exact (Option.filter_eq_some_iff.mp found).1

theorem truthy_none_of_ne_empty {reply : Option String} {text : String}
    (missing : truthy reply = none) (nonempty : text ≠ "") : reply ≠ some text := by
  intro found
  rw [found] at missing
  simp [truthy, Option.filter, nonempty] at missing

private theorem afterLoop_waits {before : Phase Response} (waiting : before.beforeLock = true)
    (saw : Bool) : before.Waits (afterLoop saw) := by
  refine ⟨waiting, ?_⟩
  cases saw with
  | false => exact Or.inr ⟨requestInProgress, rfl⟩
  | true => exact Or.inl rfl

private theorem nextRound_waits {before : Phase Response} (waiting : before.beforeLock = true)
    (now deadline : Nat) (saw : Bool) : before.Waits (nextRound now deadline saw) := by
  unfold nextRound
  split
  · exact ⟨waiting, Or.inl rfl⟩
  · exact afterLoop_waits waiting saw

theorem Setup.Awaits.waits {setup : Setup Call Response} {call : Call} {now : Nat}
    {keys : IdempotencyKeys} {before after : Phase Response}
    (awaits : setup.Awaits call now keys before after) : before.Waits after := by
  cases awaits with
  | uncached | unfenced | pollsResult | pollsFree => exact ⟨rfl, Or.inl rfl⟩
  | locked | pollsLocked | pollsFenced => exact nextRound_waits rfl _ _ _
  | reused | unknown | pollsReused | gone => exact ⟨rfl, Or.inr ⟨_, rfl⟩⟩
  | pollsUnfenced missing => exact afterLoop_waits rfl _

theorem Phase.Idles.waits {now : Nat} {before after : Phase Response}
    (idles : before.Idles now after) : before.Waits after := by
  cases idles with
  | wakes due => exact ⟨rfl, Or.inl rfl⟩

theorem Setup.acquire_effect (setup : Setup Call Response) (call : Call) (now : Nat)
    (keys : IdempotencyKeys) (before : CallState Response) (phase : before.phase = .acquiring) :
    setup.Effect call now keys before (setup.answer call now keys before).1
      (setup.answer call now keys before).2 := by
  cases free : live now keys.lock with
  | none =>
      simp only [Setup.answer, phase, acquireIdempotencyLockWithFence, setExNx, free]
      exact .acquires phase free
  | some cell =>
      simp only [Setup.answer, phase, acquireIdempotencyLockWithFence, setExNx, free]
      refine .reads (.awaits ?_)
      rw [phase]
      exact .locked (by rw [free]; exact Option.some_ne_none cell)

theorem Setup.persist_effect (setup : Setup Call Response) (call : Call) (now : Nat)
    (keys : IdempotencyKeys) (before : CallState Response) (result : Response)
    (phase : before.phase = .persisting result) :
    setup.Effect call now keys before (setup.answer call now keys before).1
      (setup.answer call now keys before).2 := by
  cases stored : get now keys.result with
  | none =>
      simp only [Setup.answer, phase, persistIdempotencyResultBestEffort, stored,
        Option.isNone_none, if_true]
      exact .persists phase stored
  | some raw =>
      simp only [Setup.answer, phase, persistIdempotencyResultBestEffort, stored,
        Option.isNone_some, Bool.false_eq_true, if_false]
      split
      · rename_i same
        refine .reads ?_
        rw [phase]
        exact .sameResult stored same
      · cases parsed : setup.parseStoredResult raw (setup.input call).requestHash with
        | fulfilled persisted =>
            refine .reads ?_
            rw [phase]
            exact .otherResult stored parsed
        | rejected reason =>
            refine .reads ?_
            rw [phase]
            exact .otherHash stored parsed

/-- The inversion lemma of `answer`. -/
theorem Setup.answer_effect (setup : Setup Call Response) (call : Call) (now : Nat)
    (keys : IdempotencyKeys) (before : CallState Response)
    (pending : before.phase.afterError.isSome = true) :
    setup.Effect call now keys before (setup.answer call now keys before).1
      (setup.answer call now keys before).2 := by
  cases phase : before.phase with
  | acquiring => exact setup.acquire_effect call now keys before phase
  | persisting result => exact setup.persist_effect call now keys before result phase
  | entryResult =>
      simp only [Setup.answer, phase]
      cases cached : truthy (get now keys.result) with
      | none => exact .reads (by rw [phase]; exact .awaits (.uncached cached))
      | some raw => exact .reads (.replays (by rw [phase]; rfl) (truthy_some cached))
  | entryFence =>
      simp only [Setup.answer, phase]
      cases fenced : truthy (get now keys.fence) with
      | none => exact .reads (by rw [phase]; exact .awaits (.unfenced fenced))
      | some fence =>
          dsimp only
          split
          · rename_i other
            exact .reads (by rw [phase]; exact .awaits (.reused fenced other))
          · rename_i same
            exact .reads (by rw [phase]; exact .awaits (.unknown fenced (not_not.mp same)))
  | pollResult deadline saw =>
      simp only [Setup.answer, phase]
      cases cached : truthy (get now keys.result) with
      | none => exact .reads (by rw [phase]; exact .awaits (.pollsResult cached))
      | some raw => exact .reads (.replays (by rw [phase]; rfl) (truthy_some cached))
  | pollLock deadline saw =>
      simp only [Setup.answer, phase]
      split
      · rename_i held
        exact .reads (by rw [phase]; exact .awaits (.pollsLocked held))
      · rename_i free
        exact .reads (by rw [phase]; exact .awaits (.pollsFree (by simpa using free)))
  | pollFence deadline saw =>
      simp only [Setup.answer, phase]
      cases fenced : truthy (get now keys.fence) with
      | none => exact .reads (by rw [phase]; exact .awaits (.pollsUnfenced fenced))
      | some fence =>
          dsimp only
          split
          · rename_i other
            exact .reads (by rw [phase]; exact .awaits (.pollsReused fenced other))
          · rename_i same
            exact .reads (by rw [phase]; exact .awaits (.pollsFenced fenced (not_not.mp same)))
  | finalResult =>
      simp only [Setup.answer, phase]
      cases cached : truthy (get now keys.result) with
      | none => exact .reads (by rw [phase]; exact .awaits (.gone cached))
      | some raw => exact .reads (.replays (by rw [phase]; rfl) (truthy_some cached))
  | doubleCheck =>
      simp only [Setup.answer, phase]
      cases cached : truthy (get now keys.result) with
      | none => exact .reads (by rw [phase]; exact .checkPasses cached)
      | some raw => exact .reads (by rw [phase]; exact .checkReplays (truthy_some cached))
  | completing result =>
      simp only [Setup.answer, phase, completeIdempotency, holds]
      by_cases held : get now keys.lock = some (setup.lockToken call)
      · simp only [held, beq_self_eq_true, if_true]
        exact .completes phase held
      · simp only [beq_eq_false_iff_ne.mpr held, Bool.false_eq_true, if_false]
        exact .losesLock phase held
  | releasing handlerSucceeded outcome =>
      simp only [Setup.answer, phase]
      exact .releases phase
  | unfencing outcome =>
      simp only [Setup.answer, phase]
      exact .unfences phase
  | sleeping | calling | running | settled | crashed =>
      rw [phase] at pending
      cases pending

theorem Phase.beforeLock_of_looksUp {phase : Phase Response} (looks : phase.looksUp = true) :
    phase.beforeLock = true := by
  cases phase with
  | entryResult | pollResult | finalResult => rfl
  | entryFence | acquiring | sleeping | pollLock | pollFence | doubleCheck | calling
  | running | completing | persisting | releasing | unfencing | settled | crashed => cases looks

theorem State.takesLock_iff {state : State Call Response} {call : Call} :
    state.takesLock call = true ↔
      (state.calls call).phase = .acquiring ∧ live state.now state.keys.lock = none := by
  unfold State.takesLock
  cases (state.calls call).phase <;> simp

theorem State.takesLock_eq_false {state : State Call Response} {call : Call}
    (elsewhere : (state.calls call).phase ≠ .acquiring) : state.takesLock call = false := by
  rw [← Bool.not_eq_true, State.takesLock_iff]
  exact fun takes => elsewhere takes.1

/-- Who holds the lock once the command of the call has taken effect. -/
def State.acquirerAfter (state : State Call Response) (call : Call) : Option Call :=
  if state.takesLock call then some call else state.acquirer

theorem State.acquirerAfter_of_ne {state : State Call Response} {call : Call}
    (elsewhere : (state.calls call).phase ≠ .acquiring) :
    state.acquirerAfter call = state.acquirer := by
  unfold State.acquirerAfter
  rw [State.takesLock_eq_false elsewhere]
  rfl

theorem State.acquirerAfter_of_free {state : State Call Response} {call : Call}
    (phase : (state.calls call).phase = .acquiring)
    (free : live state.now state.keys.lock = none) : state.acquirerAfter call = some call := by
  unfold State.acquirerAfter
  rw [State.takesLock_iff.mpr ⟨phase, free⟩]
  rfl

/-- A reply without effect comes to a call that does not take the lock. -/
theorem Setup.Reads.acquirerAfter {setup : Setup Call Response} {state : State Call Response}
    {call : Call} {phase : Phase Response}
    (reads : setup.Reads call state.now state.keys (state.calls call).phase phase) :
    state.acquirerAfter call = state.acquirer := by
  by_cases acquiring : (state.calls call).phase = .acquiring
  · rw [acquiring] at reads
    unfold State.acquirerAfter
    rw [if_neg]
    intro takes
    cases reads with
    | awaits waiting =>
        cases waiting with
        | locked held => exact held (State.takesLock_iff.mp takes).2
    | replays looks stored => cases looks
  · exact State.acquirerAfter_of_ne acquiring

variable [DecidableEq Call]

/-- One call moves, and with it the keys. -/
def State.moved (state : State Call Response) (call : Call) (after : CallState Response)
    (keys : IdempotencyKeys) (acquirer : Option Call) : State Call Response :=
  { state.update call after with
    keys := keys
    acquirer := acquirer }

section Moved

variable (state : State Call Response) {call other : Call} (after : CallState Response)
  (keys : IdempotencyKeys) (acquirer : Option Call)

@[simp] theorem State.moved_now : (state.moved call after keys acquirer).now = state.now := rfl

@[simp] theorem State.moved_keys : (state.moved call after keys acquirer).keys = keys := rfl

@[simp] theorem State.moved_calls_self :
    (state.moved call after keys acquirer).calls call = after := by
  simp only [State.moved, State.update, Function.update_self]

theorem State.moved_calls_other (different : other ≠ call) :
    (state.moved call after keys acquirer).calls other = state.calls other := by
  simp only [State.moved, State.update, Function.update_of_ne different]

theorem State.moved_moved (between : CallState Response) (written : IdempotencyKeys)
    (holder : Option Call) :
    (state.moved call between written holder).moved call after keys acquirer =
      state.moved call after keys acquirer := by
  simp only [State.moved, State.update, Function.update_idem]

end Moved

/-- Every step, by what it does to the keys, the clock and the call that takes it.
`errs` covers a command that fails, whether Redis applied it or not. -/
inductive Setup.Move (setup : Setup Call Response) (state : State Call Response) :
    Action Call Response → State Call Response → Prop
  | advances (milliseconds : Nat) :
      Move setup state (.advance milliseconds) { state with now := state.now + milliseconds }
  | locksOut : Move setup state .lockExpires
      { state with keys := { state.keys with lock := del } }
  | answers {call : Call} {keys : IdempotencyKeys} {after : CallState Response} :
      setup.Effect call state.now state.keys (state.calls call) keys after →
      Move setup state (.command call)
        (state.moved call after keys (state.acquirerAfter call))
  | errsApplied {call : Call} {keys : IdempotencyKeys} {after : CallState Response}
      {failed : Phase Response} :
      setup.Effect call state.now state.keys (state.calls call) keys after →
      (state.calls call).phase.afterError = some failed →
      Move setup state (.commandFails call true)
        (state.moved call (after.goto failed) keys (state.acquirerAfter call))
  | errs {call : Call} {failed : Phase Response} :
      (state.calls call).phase.afterError = some failed →
      Move setup state (.commandFails call false)
        (state.moved call ((state.calls call).goto failed) state.keys state.acquirer)
  | idles {call : Call} {phase : Phase Response} :
      (state.calls call).phase.Idles state.now phase →
      Move setup state (.proceed call)
        (state.moved call ((state.calls call).goto phase) state.keys state.acquirer)
  | starts {call : Call} : (state.calls call).phase = .calling →
      Move setup state (.proceed call)
        (state.moved call
          { state.calls call with
            phase := .running
            handler := .started state.now }
          state.keys state.acquirer)
  | resolves {call : Call} {startedAt : Nat} (response : Response) :
      (state.calls call).phase = .running →
      (state.calls call).handler = .started startedAt →
      Move setup state (.handlerResolves call response)
        (state.moved call
          { state.calls call with
            phase :=
              if (state.calls call).lockLost then .persisting response
              else .completing response
            handler := .resolved startedAt state.now response }
          state.keys state.acquirer)
  | rejects {call : Call} {startedAt : Nat} :
      (state.calls call).phase = .running →
      (state.calls call).handler = .started startedAt →
      Move setup state (.handlerRejects call)
        (state.moved call
          { state.calls call with
            phase := .releasing false (.rejected .handlerError)
            handler := .rejected startedAt }
          state.keys state.acquirer)
  | ticks {call : Call} : (state.calls call).phase.heartbeatActive = true →
      Move setup state (.heartbeatTimer call)
        (state.moved call { state.calls call with heartbeatInProgress := true }
          state.keys state.acquirer)
  | beats {call : Call} : (state.calls call).heartbeatInProgress = true →
      Move setup state (.heartbeat call)
        (state.moved call
          { state.calls call with
            lockLost := (state.calls call).lockLost ||
              !(compareAndExpire state.now state.keys.lock (setup.lockToken call)
                lockTtlSeconds).2
            heartbeatInProgress := false }
          { state.keys with
            lock := (compareAndExpire state.now state.keys.lock (setup.lockToken call)
              lockTtlSeconds).1 }
          state.acquirer)
  | beatFails {call : Call} {applied : Bool} :
      (state.calls call).heartbeatInProgress = true →
      Move setup state (.heartbeatFails call applied)
        (state.moved call
          { state.calls call with
            lockLost := true
            heartbeatInProgress := false }
          { state.keys with
            lock :=
              if applied then
                (compareAndExpire state.now state.keys.lock (setup.lockToken call)
                  lockTtlSeconds).1
              else state.keys.lock }
          state.acquirer)
  | crashes {call : Call} : Move setup state (.crash call)
      (state.moved call ((state.calls call).goto .crashed) state.keys state.acquirer)

theorem Setup.local_move (setup : Setup Call Response) {state : State Call Response}
    {call : Call} {after : CallState Response}
    (moved : (state.calls call).local? state.now = some after) :
    setup.Move state (.proceed call) (state.update call after) := by
  cases phase : (state.calls call).phase with
  | sleeping deadline saw wakeAt =>
      simp only [CallState.local?, phase] at moved
      split at moved
      · rename_i due
        cases moved
        exact .idles (by rw [phase]; exact .wakes due)
      · cases moved
  | calling =>
      simp only [CallState.local?, phase] at moved
      cases moved
      exact .starts phase
  | entryResult | entryFence | acquiring | pollResult | pollLock | pollFence | finalResult
  | doubleCheck | running | completing | persisting | releasing | unfencing | settled
  | crashed =>
      simp only [CallState.local?, phase] at moved
      cases moved

/-- The inversion lemma of `step`. -/
theorem Setup.step_move (setup : Setup Call Response) {state following : State Call Response}
    {action : Action Call Response} (stepped : setup.step state action = some following) :
    setup.Move state action following := by
  cases action with
  | advance milliseconds =>
      cases stepped
      exact .advances milliseconds
  | lockExpires =>
      cases stepped
      exact .locksOut
  | command call =>
      simp only [Setup.step] at stepped
      split at stepped
      · cases stepped
      · rename_i failed pending
        cases stepped
        exact .answers (setup.answer_effect call _ _ _ (by rw [pending]; rfl))
  | commandFails call applied =>
      simp only [Setup.step] at stepped
      split at stepped
      · cases stepped
      · rename_i failed pending
        cases applied with
        | true =>
            cases stepped
            exact .errsApplied (setup.answer_effect call _ _ _ (by rw [pending]; rfl)) pending
        | false =>
            cases stepped
            exact .errs pending
  | proceed call =>
      simp only [Setup.step, Option.map_eq_some_iff] at stepped
      obtain ⟨after, moved, rfl⟩ := stepped
      exact setup.local_move moved
  | handlerResolves call response =>
      simp only [Setup.step] at stepped
      split at stepped
      · rename_i phase handler
        cases stepped
        exact .resolves response phase handler
      · cases stepped
  | handlerRejects call =>
      simp only [Setup.step] at stepped
      split at stepped
      · rename_i phase handler
        cases stepped
        exact .rejects phase handler
      · cases stepped
  | heartbeatTimer call =>
      simp only [Setup.step] at stepped
      split at stepped
      · rename_i idle
        cases stepped
        exact .ticks (Bool.and_eq_true_iff.mp idle).1
      · cases stepped
  | heartbeat call =>
      simp only [Setup.step] at stepped
      split at stepped
      · rename_i pending
        cases stepped
        exact .beats pending
      · cases stepped
  | heartbeatFails call applied =>
      simp only [Setup.step] at stepped
      split at stepped
      · rename_i pending
        cases stepped
        exact .beatFails pending
      · cases stepped
  | crash call =>
      simp only [Setup.step] at stepped
      split at stepped
      · cases stepped
      · cases stepped
      · cases stepped
        exact .crashes

end BackendFoundation.Idempotency
