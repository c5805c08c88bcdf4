/-
Concurrent identical requests. The fence of the call that executes refuses a
request whose entry check reads it; every other request that reads the result key
once the result is stored is answered from it. A polling round that has read the
result key too early, and the lock key too late, is left open.
-/

import BackendFoundation.Idempotency.Exclusive

namespace BackendFoundation.Idempotency

open Redis Redis.Slot Redis.RedisService Transition

variable {Call Response : Type}

/-- The result is stored: a handler has resolved and its call has completed. -/
def State.FilledBy (state : State Call Response) (owner : Call) (result : Response) : Prop :=
  state.Resolved owner result ∧ ∀ response, (state.calls owner).phase ≠ .completing response

def State.Filled (state : State Call Response) : Prop :=
  ∃ owner result, state.FilledBy owner result

/-- The end of the wait of a call that polls. -/
def Phase.deadline? : Phase Response → Option Nat
  | .sleeping deadline _ _ | .pollResult deadline _ | .pollLock deadline _
  | .pollFence deadline _ => some deadline
  | _ => none

/-- Runs without failures in which no handler rejects, and the result is stored before
the wait of any other call has run out. -/
def Setup.Undisturbed (setup : Setup Call Response) (state : State Call Response)
    (action : Action Call Response) : Prop :=
  setup.FailureFree state action ∧
    match action with
    | .handlerRejects _ => False
    | .advance milliseconds => state.Filled ∨ ∀ call deadline,
        (state.calls call).phase.deadline? = some deadline →
        state.now + milliseconds < deadline
    | _ => True

def Setup.SameRequest (setup : Setup Call Response) : Prop :=
  ∀ call other, (setup.input call).requestHash = (setup.input other).requestHash

def State.Held (state : State Call Response) : Prop :=
  ∃ call, (state.calls call).phase.holdsLock = true

/-- Until the result is stored a waiting call finds the lock taken; it leaves its
polling loop, and a call releases its lock, only once the result is stored. -/
def Phase.Attended (state : State Call Response) : Phase Response → Prop
  | .sleeping deadline saw _ | .pollResult deadline saw | .pollLock deadline saw =>
      state.Filled ∨ state.Held ∧ state.now < deadline ∧ saw = false
  | .pollFence _ _ | .finalResult => state.Filled
  | .releasing _ outcome | .unfencing outcome =>
      state.Filled ∧ ∃ response, outcome = .fulfilled response
  | _ => True

structure Setup.Attended (setup : Setup Call Response) (state : State Call Response) :
    Prop where
  each : ∀ call, (state.calls call).phase.Attended state
  marked : ∀ cell, state.keys.fence = some cell →
    ∃ call, cell.value = (setup.input call).requestHash

theorem Phase.Attended.mono {state following : State Call Response} {phase : Phase Response}
    (attended : phase.Attended state) (filled : state.Filled → following.Filled)
    (held : state.Held → following.Held ∨ following.Filled)
    (patient : following.Filled ∨ ∀ deadline, phase.deadline? = some deadline →
      state.now < deadline → following.now < deadline) : phase.Attended following := by
  cases phase with
  | sleeping deadline | pollResult deadline | pollLock deadline =>
      rcases attended with stored | ⟨taken, early, unseen⟩
      · exact Or.inl (filled stored)
      · rcases patient with stored | patient
        · exact Or.inl stored
        · rcases held taken with taken | stored
          · exact Or.inr ⟨taken, patient deadline rfl early, unseen⟩
          · exact Or.inl stored
  | pollFence | finalResult => exact filled attended
  | releasing | unfencing => exact ⟨filled attended.1, attended.2⟩
  | entryResult | entryFence | acquiring | doubleCheck | calling | running | completing
  | persisting | settled | crashed => trivial

theorem Setup.undisturbed_of_plain (setup : Setup Call Response) (state : State Call Response)
    (action : Action Call Response) (plain : action.plain = true) :
    setup.Undisturbed state action := by
  refine ⟨setup.failureFree_of_plain state action plain, ?_⟩
  cases action with
  | command | proceed | handlerResolves => trivial
  | advance | lockExpires | commandFails | handlerRejects | heartbeatTimer | heartbeat
  | heartbeatFails | crash => cases plain

section Filled

variable {setup : Setup Call Response} {state : State Call Response}

theorem Setup.Exclusive.found_of_filledBy (exclusive : setup.Exclusive state) {owner : Call}
    {result : Response} (filled : state.FilledBy owner result) :
    get state.now state.keys.result = some (setup.serialized owner result) := by
  rcases exclusive.stored owner result filled.1 with completing | stores
  · exact absurd completing (filled.2 result)
  · exact exclusive.found filled.1 stores

theorem Setup.Exclusive.found_of_filled (exclusive : setup.Exclusive state)
    (filled : state.Filled) : truthy (get state.now state.keys.result) ≠ none := by
  obtain ⟨owner, result, filled⟩ := filled
  rw [exclusive.found_of_filledBy filled]
  intro missing
  exact truthy_none_of_ne_empty missing (setup.json.stringify_ne_empty _) rfl

/-- A call past its double check is the only one that can have resolved. -/
theorem Setup.Exclusive.not_filled (exclusive : setup.Exclusive state)
    (coherent : state.Coherent) {call : Call}
    (executes : (state.calls call).phase.executes = true) : ¬state.Filled := by
  intro found
  obtain ⟨owner, result, resolved, stored⟩ := found
  by_cases same : owner = call
  · subst owner
    have agrees := (coherent call).agrees
    obtain ⟨startedAt, resolvedAt, handler⟩ := resolved
    cases phase : (state.calls call).phase with
    | completing response => exact stored response phase
    | calling =>
        rw [phase] at agrees
        cases agrees.2.symm.trans handler
    | running =>
        rw [phase] at agrees
        obtain ⟨_, since, started⟩ := agrees
        cases started.symm.trans handler
    | entryResult | entryFence | acquiring | sleeping | pollResult | pollLock | pollFence
    | finalResult | doubleCheck | persisting | releasing | unfencing | settled | crashed =>
        rw [phase] at executes
        cases executes
  · exact exclusive.clear call executes owner result same resolved

/-- A result that is found has been stored by a call that has completed. -/
theorem Setup.Provenance.filled (provenance : setup.Provenance state)
    (exclusive : setup.Exclusive state) {call : Call}
    (phase : (state.calls call).phase = .doubleCheck) {raw : String}
    (found : get state.now state.keys.result = some raw) : state.Filled := by
  obtain ⟨owner, result, resolved, _⟩ := provenance.stored_get found
  refine ⟨owner, result, resolved, fun response completing => ?_⟩
  have holds : (state.calls call).phase.holdsLock = true := by rw [phase]; rfl
  have same := exclusive.one_holder holds
    (completing ▸ rfl : (state.calls owner).phase.holdsLock = true)
  rw [same, phase] at completing
  cases completing

/-- Among identical requests a stored result is never refused. -/
theorem Setup.Provenance.parses (provenance : setup.Provenance state)
    (sameRequest : setup.SameRequest)
    {raw : String} (found : get state.now state.keys.result = some raw) (call : Call) :
    ∃ response, setup.parseStoredResult raw (setup.input call).requestHash =
      .fulfilled response := by
  obtain ⟨owner, result, _, rfl⟩ := provenance.stored_get found
  rw [setup.parse_serialized, if_neg (not_not.mpr (sameRequest owner call))]
  exact ⟨_, rfl⟩

theorem nextRound_attended {deadline : Nat} {saw : Bool}
    (attended : state.Filled ∨ state.Held ∧ state.now < deadline ∧ saw = false) :
    (nextRound state.now deadline saw : Phase Response).Attended state := by
  unfold nextRound
  split
  · exact attended
  · rename_i late
    rcases attended with stored | ⟨_, early, _⟩
    · cases saw with
      | false => trivial
      | true => exact stored
    · exact absurd early late

theorem Setup.Awaits.attended {call : Call} {before after : Phase Response}
    (awaits : setup.Awaits call state.now state.keys before after)
    (exclusive : setup.Exclusive state) (attended : before.Attended state) :
    after.Attended state := by
  cases awaits with
  | uncached | unfenced | reused | unknown | pollsReused | gone => trivial
  | locked taken =>
      refine nextRound_attended (Or.inr ⟨?_, by simp [waitTimeoutMs], rfl⟩)
      exact exclusive.owned (mt get_eq_none_iff.mp taken)
  | pollsResult missing => exact attended
  | pollsLocked taken => exact nextRound_attended attended
  | pollsFree free =>
      rcases attended with stored | ⟨⟨holder, holds⟩, _⟩
      · exact stored
      · have held := exclusive.held holder holds
        rw [get_eq_none_iff.mpr (present_eq_false_iff.mp free)] at held
        cases held
  | pollsFenced fenced same => exact nextRound_attended (Or.inl attended)
  | @pollsUnfenced deadline saw missing =>
      cases saw with
      | false => trivial
      | true => exact attended

theorem Setup.Reads.attended {call : Call} {phase : Phase Response}
    (reads : setup.Reads call state.now state.keys (state.calls call).phase phase)
    (sameRequest : setup.SameRequest)
    (exclusive : setup.Exclusive state) (provenance : setup.Provenance state)
    (attended : setup.Attended state) : phase.Attended state := by
  have faultless := (exclusive.sound call).faultless
  have here := attended.each call
  generalize stands : (state.calls call).phase = before at reads faultless here
  cases reads with
  | awaits waiting => exact waiting.attended exclusive here
  | replays | checkPasses => trivial
  | checkReplays found =>
      exact ⟨provenance.filled exclusive stands found, provenance.parses sameRequest found call⟩
  | sameResult | otherResult | otherHash => cases faultless

theorem Setup.Effect.attended {call : Call} {keys : IdempotencyKeys}
    {after : CallState Response}
    (effect : setup.Effect call state.now state.keys (state.calls call) keys after)
    (sameRequest : setup.SameRequest)
    (exclusive : setup.Exclusive state) (provenance : setup.Provenance state)
    (attended : setup.Attended state) : after.phase.Attended state := by
  cases effect with
  | reads read => exact read.attended sameRequest exclusive provenance attended
  | acquires | completes | losesLock | persists | unfences => trivial
  | @releases succeeded outcome phase =>
      have here := attended.each call
      rw [phase] at here
      cases succeeded with
      | false => exact here
      | true => trivial

/-- The fence carries the request hash of the call that has set it. -/
theorem Setup.Effect.marked {call : Call} {now : Nat} {keys written : IdempotencyKeys}
    {before after : CallState Response}
    (effect : setup.Effect call now keys before written after)
    (marked : ∀ cell, keys.fence = some cell →
      ∃ owner, cell.value = (setup.input owner).requestHash) :
    ∀ cell, written.fence = some cell →
      ∃ owner, cell.value = (setup.input owner).requestHash := by
  cases effect with
  | reads | losesLock | releases => exact marked
  | acquires phase free =>
      intro cell found
      cases found
      exact ⟨call, rfl⟩
  | completes | persists | unfences => exact nofun

/-- How a call may settle: with the stored response; refused by the fence of a call that
is busy with the key; or out of a polling round that has read the result key before
the result was stored. -/
def Setup.Answers (setup : Setup Call Response) (state : State Call Response) (call : Call)
    (outcome : Outcome Response) : Prop :=
  (∃ owner result response, state.Resolved owner result ∧ outcome = .fulfilled response ∧
    setup.Repeats owner result call response) ∨
  (outcome = .rejected (.conflict outcomeUnknown) ∧
    (state.calls call).phase = .entryFence ∧ live state.now state.keys.fence ≠ none ∧
    ∃ other, (state.calls other).phase.Busy) ∨
  (outcome = .rejected (.conflict requestInProgress) ∧ state.Filled ∧
    ∃ deadline saw, (state.calls call).phase = .pollLock deadline saw ∨
      (state.calls call).phase = .pollFence deadline saw)

theorem Setup.Accounts.answers {call : Call} {response : Response}
    (accounts : setup.Accounts state call (.fulfilled response)) :
    setup.Answers state call (.fulfilled response) := by
  obtain ⟨owner, result, resolved, repeats⟩ := accounts.repeats
  exact Or.inl ⟨owner, result, response, resolved, rfl, repeats⟩

theorem afterLoop_settled {saw : Bool} {outcome : Outcome Response}
    (settled : afterLoop saw = .settled outcome) :
    outcome = .rejected (.conflict requestInProgress) := by
  cases saw with
  | false =>
      cases settled
      rfl
  | true => cases settled

theorem nextRound_settled {now deadline : Nat} {saw : Bool} {outcome : Outcome Response}
    (settled : nextRound now deadline saw = .settled outcome) :
    deadline ≤ now ∧ saw = false ∧ outcome = .rejected (.conflict requestInProgress) := by
  unfold nextRound at settled
  split at settled
  · cases settled
  · rename_i late
    cases saw with
    | false => exact ⟨Nat.le_of_not_lt late, rfl, afterLoop_settled settled⟩
    | true => cases settled

theorem Setup.Attended.fence_same (attended : setup.Attended state)
    (sameRequest : setup.SameRequest) {fence : String}
    (found : truthy (get state.now state.keys.fence) = some fence) (call : Call) :
    fence = (setup.input call).requestHash := by
  obtain ⟨cell, alive, rfl⟩ := get_eq_some_iff.mp (truthy_some found)
  obtain ⟨owner, value⟩ := attended.marked cell (live_some_iff.mp alive).1
  exact value.trans (sameRequest owner call)

theorem Setup.Awaits.answers {call : Call} {before : Phase Response}
    {outcome : Outcome Response} (stands : (state.calls call).phase = before)
    (awaits : setup.Awaits call state.now state.keys before (.settled outcome))
    (sameRequest : setup.SameRequest) (exclusive : setup.Exclusive state)
    (attended : setup.Attended state) : setup.Answers state call outcome := by
  have here := attended.each call
  rw [stands] at here
  generalize settled : (Phase.settled outcome : Phase Response) = after at awaits
  cases awaits with
  | uncached | unfenced | pollsResult | pollsFree => cases settled
  | locked taken =>
      obtain ⟨late, _⟩ := nextRound_settled settled.symm
      exact absurd late (by simp [waitTimeoutMs])
  | reused found other => exact absurd (attended.fence_same sameRequest found call) other
  | unknown found same =>
      cases settled
      refine Or.inr (Or.inl ⟨rfl, stands, ?_⟩)
      have alive : live state.now state.keys.fence ≠ none := by
        intro missing
        have gone := truthy_some found
        rw [get_eq_none_iff.mpr missing] at gone
        cases gone
      exact ⟨alive, exclusive.fenced alive⟩
  | pollsLocked taken =>
      obtain ⟨late, _, rfl⟩ := nextRound_settled settled.symm
      rcases here with stored | ⟨_, early, _⟩
      · exact Or.inr (Or.inr ⟨rfl, stored, _, _, Or.inl stands⟩)
      · exact absurd early (Nat.not_lt_of_le late)
  | pollsReused found other => exact absurd (attended.fence_same sameRequest found call) other
  | pollsFenced found same =>
      obtain ⟨_, impossible, _⟩ := nextRound_settled settled.symm
      cases impossible
  | pollsUnfenced missing =>
      cases afterLoop_settled settled.symm
      exact Or.inr (Or.inr ⟨rfl, here, _, _, Or.inr stands⟩)
  | gone missing => exact absurd missing (exclusive.found_of_filled here)

theorem Setup.Effect.answers {call : Call} {keys : IdempotencyKeys}
    {after : CallState Response} {outcome : Outcome Response}
    (effect : setup.Effect call state.now state.keys (state.calls call) keys after)
    (settled : after.phase = .settled outcome) (sameRequest : setup.SameRequest)
    (exclusive : setup.Exclusive state) (coherent : state.Coherent)
    (provenance : setup.Provenance state) (attended : setup.Attended state) :
    setup.Answers state call outcome := by
  have accounts := effect.accounts coherent provenance
    (settled ▸ rfl : after.phase.outcome? = some outcome)
  have faultless := (exclusive.sound call).faultless
  cases effect with
  | @reads phase read =>
      change phase = .settled outcome at settled
      subst settled
      generalize stands : (state.calls call).phase = before at read faultless
      generalize after : (Phase.settled outcome : Phase Response) = phase at read
      cases read with
      | awaits waiting =>
          subst after
          exact waiting.answers stands sameRequest exclusive attended
      | replays looks found =>
          cases after
          obtain ⟨response, parsed⟩ := provenance.parses sameRequest found call
          rw [parsed] at accounts ⊢
          exact Setup.Accounts.answers accounts
      | checkReplays | checkPasses => cases after
      | sameResult | otherResult | otherHash => cases faultless
  | acquires | losesLock => cases settled
  | completes phase held =>
      cases settled
      exact Setup.Accounts.answers accounts
  | persists phase missing =>
      rw [phase] at faultless
      cases faultless
  | @releases succeeded releasing phase =>
      cases succeeded with
      | false => cases settled
      | true =>
          rw [phase] at faultless
          cases faultless
  | unfences phase =>
      cases settled
      have here := attended.each call
      rw [phase] at here
      obtain ⟨_, response, rfl⟩ := here
      exact Setup.Accounts.answers accounts

/-- A call in one of these phases reads the result key before it can be refused. -/
def Phase.Finds : Phase Response → Prop
  | .entryResult | .acquiring | .sleeping _ _ _ | .pollResult _ _ | .finalResult
  | .doubleCheck => True
  | .releasing _ (.fulfilled _) | .unfencing (.fulfilled _) | .settled (.fulfilled _) => True
  | _ => False

/-- How many steps of its own a call still takes once the result is stored. -/
@[simp] def Phase.rank : Phase Response → Nat
  | .entryFence => 6
  | .acquiring => 5
  | .pollLock _ _ => 4
  | .pollFence _ _ | .doubleCheck => 3
  | .sleeping _ _ _ | .releasing _ _ => 2
  | .entryResult | .pollResult _ _ | .finalResult | .unfencing _ => 1
  | .calling | .running | .completing _ | .persisting _ | .settled _ | .crashed => 0

theorem nextRound_rank (now deadline : Nat) (saw : Bool) :
    (nextRound now deadline saw : Phase Response).rank ≤ 2 := by
  unfold nextRound afterLoop
  split
  · exact Nat.le_refl _
  · cases saw <;> simp

theorem nextRound_waiting (now : Nat) :
    (nextRound now (now + waitTimeoutMs) false : Phase Response) =
      .sleeping (now + waitTimeoutMs) false (now + waitPollMs) :=
  if_pos (by simp [waitTimeoutMs])

theorem Setup.Reads.finds {call : Call} {phase : Phase Response}
    (reads : setup.Reads call state.now state.keys (state.calls call).phase phase)
    (sameRequest : setup.SameRequest) (exclusive : setup.Exclusive state)
    (provenance : setup.Provenance state) (filled : state.Filled) :
    phase.rank < (state.calls call).phase.rank ∧
      ((state.calls call).phase.Finds → phase.Finds) := by
  have faultless := (exclusive.sound call).faultless
  have found := exclusive.found_of_filled filled
  generalize stands : (state.calls call).phase = before at reads faultless
  cases reads with
  | awaits waiting =>
      cases waiting with
      | uncached missing | pollsResult missing | gone missing => exact absurd missing found
      | unfenced | reused | unknown | pollsFree | pollsReused => exact ⟨by simp, nofun⟩
      | locked taken =>
          rw [nextRound_waiting]
          exact ⟨by simp, fun _ => trivial⟩
      | pollsLocked =>
          exact ⟨Nat.lt_of_le_of_lt (nextRound_rank _ _ _) (by simp), nofun⟩
      | pollsFenced =>
          exact ⟨Nat.lt_of_le_of_lt (nextRound_rank _ _ _) (by simp), nofun⟩
      | @pollsUnfenced deadline saw missing => cases saw <;> exact ⟨by simp [afterLoop], nofun⟩
  | replays looks stored =>
      obtain ⟨response, parsed⟩ := provenance.parses sameRequest stored call
      rw [parsed]
      refine ⟨?_, fun _ => trivial⟩
      cases before with
      | entryResult | pollResult | finalResult => simp
      | entryFence | acquiring | sleeping | pollLock | pollFence | doubleCheck | calling
      | running | completing | persisting | releasing | unfencing | settled | crashed =>
          cases looks
  | checkReplays stored =>
      obtain ⟨response, parsed⟩ := provenance.parses sameRequest stored call
      rw [parsed]
      exact ⟨by simp, fun _ => trivial⟩
  | checkPasses missing => exact absurd missing found
  | sameResult | otherResult | otherHash => cases faultless

theorem Setup.Effect.finds {call : Call} {keys : IdempotencyKeys}
    {after : CallState Response}
    (effect : setup.Effect call state.now state.keys (state.calls call) keys after)
    (sameRequest : setup.SameRequest) (exclusive : setup.Exclusive state)
    (coherent : state.Coherent) (provenance : setup.Provenance state) (filled : state.Filled) :
    after.phase.rank < (state.calls call).phase.rank ∧
      ((state.calls call).phase.Finds → after.phase.Finds) := by
  have faultless := (exclusive.sound call).faultless
  cases effect with
  | reads read => exact read.finds sameRequest exclusive provenance filled
  | acquires phase free =>
      rw [phase]
      exact ⟨by simp, fun _ => trivial⟩
  | completes phase | losesLock phase =>
      exact absurd filled (exclusive.not_filled coherent (by rw [phase]; rfl))
  | persists phase missing =>
      rw [phase] at faultless
      cases faultless
  | @releases succeeded outcome phase =>
      rw [phase]
      cases succeeded with
      | false =>
          refine ⟨by simp [CallState.goto], fun finds => ?_⟩
          cases outcome <;> exact finds
      | true =>
          rw [phase] at faultless
          cases faultless
  | @unfences outcome phase =>
      rw [phase]
      refine ⟨by simp, fun finds => ?_⟩
      cases outcome <;> exact finds

end Filled

theorem Phase.Waits.not_completing {before after : Phase Response} (waits : before.Waits after)
    (response : Response) : after ≠ .completing response := by
  intro same
  subst same
  rcases waits.2 with waiting | ⟨error, impossible⟩
  · cases waiting
  · cases impossible

theorem Setup.Effect.not_completing {setup : Setup Call Response} {call : Call} {now : Nat}
    {keys written : IdempotencyKeys} {before after : CallState Response}
    (effect : setup.Effect call now keys before written after) (response : Response) :
    after.phase ≠ .completing response := by
  cases effect with
  | @reads phase read =>
      change phase ≠ .completing response
      generalize before.phase = stands at read
      cases read with
      | awaits waiting => exact waiting.waits.not_completing response
      | replays | checkReplays | checkPasses | sameResult | otherResult | otherHash => exact nofun
  | acquires | completes | losesLock | persists | unfences => exact nofun
  | @releases succeeded outcome phase =>
      cases succeeded <;> exact nofun

variable [DecidableEq Call]

section Steps

variable {setup : Setup Call Response} {state following : State Call Response}
  {action : Action Call Response}

private theorem not_completing_moved {owner call : Call} {after : CallState Response}
    {keys : IdempotencyKeys} {acquirer : Option Call} {response : Response}
    (before : (state.calls owner).phase ≠ .completing response)
    (here : owner = call → after.phase ≠ .completing response) :
    ((state.moved call after keys acquirer).calls owner).phase ≠ .completing response := by
  by_cases same : owner = call
  · subst owner
    rw [state.moved_calls_self]
    exact here rfl
  · rw [state.moved_calls_other _ _ _ same]
    exact before

/-- What is stored stays stored. -/
theorem Setup.Move.filledBy (move : setup.Move state action following)
    (allowed : setup.FailureFree state action) (coherent : state.Coherent) {owner : Call}
    {result : Response} (filled : state.FilledBy owner result) :
    following.FilledBy owner result := by
  refine ⟨move.resolved coherent filled.1, fun response => ?_⟩
  have before := filled.2 response
  cases move with
  | advances => exact before
  | locksOut | errsApplied | errs | beatFails | crashes => exact allowed.elim
  | answers effect => exact not_completing_moved before fun _ => effect.not_completing response
  | idles idling =>
      exact not_completing_moved before fun _ => idling.waits.not_completing response
  | starts | rejects => exact not_completing_moved before fun _ => nofun
  | resolves reply phase started =>
      refine not_completing_moved before fun same => ?_
      subst same
      obtain ⟨⟨_, _, handler⟩, _⟩ := filled
      cases started.symm.trans handler
  | ticks | beats =>
      refine not_completing_moved before fun same => ?_
      subst same
      exact before

theorem Setup.Move.filled (move : setup.Move state action following)
    (allowed : setup.FailureFree state action) (coherent : state.Coherent)
    (filled : state.Filled) : following.Filled := by
  obtain ⟨owner, result, filled⟩ := filled
  exact ⟨owner, result, move.filledBy allowed coherent filled⟩

private theorem held_moved {call : Call} {after : CallState Response}
    {keys : IdempotencyKeys} {acquirer : Option Call} (held : state.Held)
    (here : (state.calls call).phase.holdsLock = true →
      after.phase.holdsLock = true ∨ (state.moved call after keys acquirer).Filled) :
    (state.moved call after keys acquirer).Held ∨
      (state.moved call after keys acquirer).Filled := by
  obtain ⟨holder, holds⟩ := held
  by_cases same : holder = call
  · subst holder
    exact (here holds).imp_left fun still => ⟨call, by rw [state.moved_calls_self]; exact still⟩
  · exact Or.inl ⟨holder, by rw [state.moved_calls_other _ _ _ same]; exact holds⟩

/-- The lock is let go only once the result is stored. -/
theorem Setup.Move.held (move : setup.Move state action following)
    (allowed : setup.Undisturbed state action) (exclusive : setup.Exclusive state)
    (coherent : state.Coherent) (attended : setup.Attended state) (held : state.Held) :
    following.Held ∨ following.Filled := by
  have filled := move.filled allowed.1 coherent
  have resolved {owner : Call} {result : Response} (before : state.Resolved owner result) :=
    move.resolved coherent before
  cases move with
  | advances => exact Or.inl held
  | locksOut | errsApplied | errs | beatFails | crashes => exact allowed.1.elim
  | rejects => exact allowed.2.elim
  | @answers call keys after effect =>
      refine held_moved held fun holds => ?_
      cases effect with
      | @reads phase read =>
          generalize stands : (state.calls call).phase = before at read holds
          cases read with
          | awaits waiting =>
              cases (Phase.beforeLock_facts waiting.waits.1).1.symm.trans holds
          | replays looks stored =>
              cases (Phase.beforeLock_facts (Phase.beforeLock_of_looksUp looks)).1.symm.trans holds
          | checkReplays | checkPasses => exact Or.inl rfl
          | sameResult | otherResult | otherHash => cases holds
      | acquires => exact Or.inl rfl
      | @completes result phase found =>
          refine Or.inr ⟨call, result, resolved (coherent.resolved (Or.inl phase)), ?_⟩
          intro response
          rw [state.moved_calls_self]
          exact nofun
      | losesLock phase lost => exact absurd (exclusive.held call holds) lost
      | persists phase missing =>
          rw [phase] at holds
          cases holds
      | releases phase =>
          have stored := attended.each call
          rw [phase] at stored
          exact Or.inr (filled stored.1)
      | unfences phase =>
          rw [phase] at holds
          cases holds
  | idles idling =>
      refine held_moved held fun holds => ?_
      cases (Phase.beforeLock_facts idling.waits.1).1.symm.trans holds
  | starts phase => exact held_moved held fun _ => Or.inl rfl
  | @resolves call startedAt response phase started =>
      refine held_moved held fun holds => Or.inl ?_
      rw [(exclusive.sound call).kept holds]
      rfl
  | ticks | beats => exact held_moved held fun holds => Or.inl holds

theorem Setup.Move.marked (move : setup.Move state action following)
    (allowed : setup.FailureFree state action) (attended : setup.Attended state) :
    ∀ cell, following.keys.fence = some cell →
      ∃ owner, cell.value = (setup.input owner).requestHash := by
  cases move with
  | locksOut | errsApplied | errs | beatFails | crashes => exact allowed.elim
  | answers effect => exact effect.marked attended.marked
  | advances | idles | starts | resolves | rejects | ticks | beats => exact attended.marked

private theorem attended_moved {call : Call} {after : CallState Response}
    {keys : IdempotencyKeys} {acquirer : Option Call} (attended : setup.Attended state)
    (here : after.phase.Attended state) (other : Call) :
    ((state.moved call after keys acquirer).calls other).phase.Attended state := by
  by_cases same : other = call
  · subst other
    rw [state.moved_calls_self]
    exact here
  · rw [state.moved_calls_other _ _ _ same]
    exact attended.each other

theorem Setup.Move.attended (move : setup.Move state action following)
    (allowed : setup.Undisturbed state action)
    (sameRequest : setup.SameRequest)
    (exclusive : setup.Exclusive state) (coherent : state.Coherent)
    (provenance : setup.Provenance state) (attended : setup.Attended state) :
    setup.Attended following := by
  refine ⟨fun other => ?_, move.marked allowed.1 attended⟩
  have filled := move.filled allowed.1 coherent
  have held := move.held allowed exclusive coherent attended
  have later {after : Phase Response} (before : after.Attended state)
      (same : following.now = state.now) : after.Attended following :=
    before.mono filled held (Or.inr fun _ _ early => same ▸ early)
  cases move with
  | advances milliseconds =>
      refine (attended.each other).mono filled held ?_
      exact allowed.2.imp filled fun patient deadline waits _ => patient other deadline waits
  | locksOut | errsApplied | errs | beatFails | crashes => exact allowed.1.elim
  | rejects => exact allowed.2.elim
  | answers effect =>
      have here := effect.attended sameRequest exclusive provenance attended
      exact later (attended_moved attended here other) rfl
  | @idles call phase idling =>
      have here := attended.each call
      generalize stands : (state.calls call).phase = before at idling here
      cases idling with
      | wakes due => exact later (attended_moved attended here other) rfl
  | starts phase =>
      refine later (attended_moved attended ?_ other) rfl
      trivial
  | @resolves call startedAt response phase started =>
      have holds : (state.calls call).phase.holdsLock = true := by rw [phase]; rfl
      refine later (attended_moved attended ?_ other) rfl
      rw [(exclusive.sound call).kept holds]
      trivial
  | @ticks call active =>
      refine later (attended_moved attended ?_ other) rfl
      exact attended.each call
  | @beats call pending =>
      refine later (attended_moved attended ?_ other) rfl
      exact attended.each call

private theorem settled_moved {call other : Call} {after : CallState Response}
    {keys : IdempotencyKeys} {acquirer : Option Call} {outcome : Outcome Response}
    (settled : ((state.moved call after keys acquirer).calls other).phase = .settled outcome) :
    other = call ∧ after.phase = .settled outcome ∨
      (state.calls other).phase = .settled outcome := by
  by_cases same : other = call
  · subst other
    rw [state.moved_calls_self] at settled
    exact Or.inl ⟨rfl, settled⟩
  · rw [state.moved_calls_other _ _ _ same] at settled
    exact Or.inr settled

theorem Setup.Move.settles (move : setup.Move state action following)
    (allowed : setup.Undisturbed state action) (sameRequest : setup.SameRequest)
    (exclusive : setup.Exclusive state) (coherent : state.Coherent)
    (provenance : setup.Provenance state) (attended : setup.Attended state) {call : Call}
    {outcome : Outcome Response} (settled : (following.calls call).phase = .settled outcome) :
    (state.calls call).phase = .settled outcome ∨ setup.Answers state call outcome := by
  cases move with
  | advances => exact Or.inl settled
  | locksOut | errsApplied | errs | beatFails | crashes => exact allowed.1.elim
  | rejects => exact allowed.2.elim
  | answers effect =>
      rcases settled_moved settled with ⟨rfl, here⟩ | elsewhere
      · exact Or.inr (effect.answers here sameRequest exclusive coherent provenance attended)
      · exact Or.inl elsewhere
  | @idles acting phase' idling =>
      generalize stands : (state.calls acting).phase = before at idling
      rcases settled_moved settled with ⟨rfl, here⟩ | elsewhere
      · cases idling
        cases here
      · exact Or.inl elsewhere
  | starts =>
      rcases settled_moved settled with ⟨rfl, here⟩ | elsewhere
      · cases here
      · exact Or.inl elsewhere
  | resolves response running started =>
      rcases settled_moved settled with ⟨rfl, here⟩ | elsewhere
      · have holds : (state.calls call).phase.holdsLock = true := by rw [running]; rfl
        rw [(exclusive.sound call).kept holds] at here
        cases here
      · exact Or.inl elsewhere
  | ticks | beats =>
      rcases settled_moved settled with ⟨rfl, here⟩ | elsewhere
      · exact Or.inl here
      · exact Or.inl elsewhere

/-- Once the result is stored, every step of a call brings it closer to its end, and
what is going to find the result goes on to find it. -/
theorem Setup.Move.finds (move : setup.Move state action following)
    (allowed : setup.Undisturbed state action) (sameRequest : setup.SameRequest)
    (exclusive : setup.Exclusive state) (coherent : state.Coherent)
    (provenance : setup.Provenance state) (filled : state.Filled) (call : Call) :
    (following.calls call).phase.rank ≤ (state.calls call).phase.rank ∧
      (action = .command call ∨ action = .proceed call →
        (following.calls call).phase.rank < (state.calls call).phase.rank) ∧
      ((state.calls call).phase.Finds → (following.calls call).phase.Finds) := by
  have busy {acting : Call} (phase : (state.calls acting).phase.executes = true) : False :=
    exclusive.not_filled coherent phase filled
  cases move with
  | advances => exact ⟨Nat.le_refl _, nofun, id⟩
  | locksOut | errsApplied | errs | beatFails | crashes => exact allowed.1.elim
  | rejects => exact allowed.2.elim
  | @answers acting keys after effect =>
      have moves := effect.finds sameRequest exclusive coherent provenance filled
      by_cases same : call = acting
      · subst call
        rw [state.moved_calls_self]
        exact ⟨Nat.le_of_lt moves.1, fun _ => moves.1, moves.2⟩
      · rw [state.moved_calls_other _ _ _ same]
        refine ⟨Nat.le_refl _, ?_, id⟩
        intro either
        rcases either with own | own
        · cases own
          exact absurd rfl same
        · cases own
  | @idles acting phase' idling =>
      by_cases same : call = acting
      · subst call
        rw [state.moved_calls_self]
        generalize (state.calls acting).phase = before at idling
        cases idling
        exact ⟨by simp [CallState.goto], fun _ => by simp [CallState.goto], fun _ => trivial⟩
      · rw [state.moved_calls_other _ _ _ same]
        refine ⟨Nat.le_refl _, ?_, id⟩
        intro either
        rcases either with own | own
        · cases own
        · cases own
          exact absurd rfl same
  | starts phase => exact (busy (by rw [phase]; rfl)).elim
  | resolves response phase started => exact (busy (by rw [phase]; rfl)).elim
  | @ticks acting active | @beats acting pending =>
      by_cases same : call = acting
      · subst call
        rw [state.moved_calls_self]
        exact ⟨Nat.le_refl _, nofun, id⟩
      · rw [state.moved_calls_other _ _ _ same]
        exact ⟨Nat.le_refl _, nofun, id⟩

end Steps

/-- A call that has not settled when the result is stored can take a step of its own,
at once or after its sleep. -/
theorem Setup.Exclusive.enabled {setup : Setup Call Response} {state : State Call Response}
    (exclusive : setup.Exclusive state) (coherent : state.Coherent) (filled : state.Filled)
    (call : Call) :
    (∃ outcome, (state.calls call).phase = .settled outcome) ∨
      (setup.step state (.command call)).isSome = true ∨
      ∃ deadline saw wakeAt, (state.calls call).phase = .sleeping deadline saw wakeAt ∧
        (wakeAt ≤ state.now → (setup.step state (.proceed call)).isSome = true) := by
  have idle : (state.calls call).phase.executes = true → ¬state.Filled :=
    exclusive.not_filled coherent
  have faultless := (exclusive.sound call).faultless
  cases phase : (state.calls call).phase with
  | settled outcome => exact Or.inl ⟨outcome, rfl⟩
  | sleeping deadline saw wakeAt =>
      refine Or.inr (Or.inr ⟨deadline, saw, wakeAt, rfl, fun due => ?_⟩)
      simp only [Setup.step, CallState.local?, phase, if_pos due]
      rfl
  | calling | running | completing =>
      rw [phase] at idle
      exact absurd filled (idle rfl)
  | persisting | crashed =>
      rw [phase] at faultless
      cases faultless
  | entryResult | entryFence | acquiring | pollResult | pollLock | pollFence | finalResult
  | doubleCheck | releasing | unfencing =>
      refine Or.inr (Or.inl ?_)
      simp only [Setup.step, phase, Phase.afterError]
      rfl

theorem Setup.attended_of_reachable {setup : Setup Call Response}
    (sameRequest : setup.SameRequest)
    {state : State Call Response} (reached : setup.system.Reachable setup.Undisturbed state) :
    setup.Attended state := by
  have known : ∀ before, setup.system.Reachable setup.Undisturbed before →
      before.Coherent ∧ setup.Provenance before ∧ setup.Exclusive before :=
    fun _ earlier => ⟨setup.coherent_of_reachable earlier, setup.provenance_of_reachable earlier,
      setup.exclusive_of_reachable (earlier.weaken fun _ _ permitted => permitted.1)⟩
  apply reached.invariant_using known
  · intro start initial
    obtain ⟨keys, calls, _⟩ := initial
    constructor
    · intro call
      rw [calls]
      trivial
    · intro cell found
      rw [keys] at found
      cases found
  · intro before action after known attended allowed stepped
    exact (setup.step_move stepped).attended allowed sameRequest known.2.2 known.1 known.2.1
      attended

section Identical

variable {setup : Setup Call Response} {state : State Call Response}

/-- What was stored is what every later reader is answered with. -/
theorem Setup.finds_of_run (sameRequest : setup.SameRequest)
    (reached : setup.system.Reachable setup.Undisturbed state) {owner call : Call}
    {result : Response} (filled : state.FilledBy owner result)
    (finds : (state.calls call).phase.Finds) {actions : List (Action Call Response)}
    {finish : State Call Response}
    (run : setup.system.Run setup.Undisturbed state actions finish) :
    finish.FilledBy owner result ∧ (finish.calls call).phase.Finds := by
  induction run with
  | nil => exact ⟨filled, finds⟩
  | @snoc actions action middle finish before permitted stepped ih =>
      have earlier := reached.extend before
      have exclusive :=
        setup.exclusive_of_reachable (earlier.weaken fun _ _ permitted => permitted.1)
      have coherent := setup.coherent_of_reachable earlier
      have move := setup.step_move stepped
      exact ⟨move.filledBy permitted.1 coherent ih.1,
        (move.finds permitted sameRequest exclusive coherent
          (setup.provenance_of_reachable earlier) ⟨owner, result, ih.1⟩ call).2.2 ih.2⟩

theorem identicalRequests (setup : Setup Call Response) (sameRequest : setup.SameRequest)
    (reached : setup.system.Reachable setup.Undisturbed state) :
    (∀ action following call outcome, setup.Undisturbed state action →
      setup.step state action = some following →
      (following.calls call).phase = .settled outcome →
      (state.calls call).phase = .settled outcome ∨ setup.Answers state call outcome) ∧
    (∀ owner result call actions finish outcome, state.FilledBy owner result →
      (state.calls call).phase.Finds →
      setup.system.Run setup.Undisturbed state actions finish →
      (finish.calls call).phase = .settled outcome →
      ∃ response, outcome = .fulfilled response ∧
        setup.Repeats owner result call response) ∧
    (state.Filled → ∀ call,
      ((∃ outcome, (state.calls call).phase = .settled outcome) ∨
        (setup.step state (.command call)).isSome = true ∨
        ∃ deadline saw wakeAt, (state.calls call).phase = .sleeping deadline saw wakeAt ∧
          (wakeAt ≤ state.now → (setup.step state (.proceed call)).isSome = true)) ∧
      ∀ action following, setup.Undisturbed state action →
        setup.step state action = some following →
        (following.calls call).phase.rank ≤ (state.calls call).phase.rank ∧
          (action = .command call ∨ action = .proceed call →
            (following.calls call).phase.rank < (state.calls call).phase.rank)) := by
  have coherent := setup.coherent_of_reachable reached
  have provenance := setup.provenance_of_reachable reached
  have exclusive := setup.exclusive_of_reachable (reached.weaken fun _ _ permitted => permitted.1)
  have attended := setup.attended_of_reachable sameRequest reached
  refine ⟨?_, ?_, ?_⟩
  · intro action following call outcome allowed stepped settled
    exact (setup.step_move stepped).settles allowed sameRequest exclusive coherent provenance
      attended settled
  · intro owner result call actions finish outcome filled finds run settled
    obtain ⟨stored, found⟩ := Setup.finds_of_run sameRequest reached filled finds run
    rw [settled] at found
    cases outcome with
    | rejected reason => exact found.elim
    | fulfilled response =>
        have later := reached.extend run
        have accounts := (setup.provenance_of_reachable later).outcomes call
          (.fulfilled response) (by rw [settled]; rfl)
        obtain ⟨holder, kept, resolved, repeats⟩ := accounts.repeats
        have unique := (setup.exclusive_of_reachable
          (later.weaken fun _ _ permitted => permitted.1)).unique
        cases unique owner holder result kept stored.1 resolved
        cases stored.1.eq resolved
        exact ⟨response, rfl, repeats⟩
  · intro filled call
    refine ⟨exclusive.enabled coherent filled call, ?_⟩
    intro action following allowed stepped
    have moves := (setup.step_move stepped).finds allowed sameRequest exclusive coherent
      provenance filled call
    exact ⟨moves.1, moves.2.1⟩

end Identical

/-- The second request comes after the first has stored its response. -/
theorem identicalRequests_replayed :
    ∃ (state finish : State Bool Bool) (response : Bool), state.FilledBy false true ∧
      (finish.calls true).phase = .settled (.fulfilled response) ∧
      duplicateRequests.Repeats false true true response := by
  have executed :
      (duplicateRequests.system.execute (fun _ action => action.plain) State.empty
        [.command false, .command false, .command false, .command false, .proceed false,
          .handlerResolves false true, .command false]).map
        (fun state => ((state.calls false).handler, (state.calls false).phase,
          (state.calls true).phase,
          (duplicateRequests.system.execute (fun _ action => action.plain) state
            [.command true]).map fun finish => (finish.calls true).phase)) =
      some (.resolved 0 0 true, .settled (.fulfilled true), .entryResult,
        some (.settled (.fulfilled true))) := by decide +kernel
  obtain ⟨state, run, facts⟩ := Option.map_eq_some_iff.mp executed
  simp only [Prod.mk.injEq] at facts
  obtain ⟨resolved, completed, fresh, replays⟩ := facts
  obtain ⟨finish, replay, settled⟩ := Option.map_eq_some_iff.mp replays
  have plain : ∀ before action, Action.plain action = true →
      duplicateRequests.Undisturbed before action := duplicateRequests.undisturbed_of_plain
  have filled : state.FilledBy false true :=
    ⟨⟨0, 0, resolved⟩, fun response => by rw [completed]; exact nofun⟩
  obtain ⟨response, same, repeats⟩ := (identicalRequests duplicateRequests (fun _ _ => rfl)
    (.of_execute plain ⟨rfl, rfl, rfl⟩ run)).2.1 false true true _ finish (.fulfilled true) filled
    (by rw [fresh]; trivial) (.of_execute plain replay) settled
  cases same
  exact ⟨state, finish, true, filled, settled, repeats⟩

/-- The fence of the request that executes refuses the second one at its entry check,
although its owner is alive and stores its response a moment later. -/
theorem not_always_replayed :
    ¬∀ setup : Setup Bool Bool, setup.SameRequest → ∀ state,
      setup.system.Reachable setup.Undisturbed state → state.Filled →
      ∀ call outcome, (state.calls call).phase = .settled outcome →
        ∃ response, outcome = .fulfilled response := by
  intro claim
  have executed :
      (duplicateRequests.system.execute (fun _ action => action.plain) State.empty
        [.command false, .command false, .command false, .command false, .proceed false,
          .command true, .command true, .handlerResolves false true, .command false]).map
        (fun state => ((state.calls false).handler, (state.calls false).phase,
          (state.calls true).phase)) =
      some (.resolved 0 0 true, .settled (.fulfilled true),
        .settled (.rejected (.conflict outcomeUnknown))) := by decide +kernel
  obtain ⟨state, run, facts⟩ := Option.map_eq_some_iff.mp executed
  simp only [Prod.mk.injEq] at facts
  obtain ⟨resolved, completed, refused⟩ := facts
  have filled : state.FilledBy false true :=
    ⟨⟨0, 0, resolved⟩, fun response => by rw [completed]; exact nofun⟩
  obtain ⟨response, impossible⟩ := claim duplicateRequests (fun _ _ => rfl) state
    (.of_execute duplicateRequests.undisturbed_of_plain ⟨rfl, rfl, rfl⟩ run)
    ⟨false, true, filled⟩ true _ refused
  cases impossible

end BackendFoundation.Idempotency
