/-
What every call remembers of its own fence and handler agrees with where it
stands, and every stored result and every reply goes back to a handler that
resolved. Both hold in every interleaving, with any faults.
-/

import BackendFoundation.Idempotency.Steps

namespace BackendFoundation.Idempotency

open Redis Redis.Slot Redis.RedisService Transition

variable {Call Response : Type}

/-- The times a handler has recorded lie in the past. -/
def Handler.Past (now : Nat) : Handler Response → Prop
  | .notStarted => True
  | .started startedAt => startedAt ≤ now
  | .resolved startedAt resolvedAt _ => startedAt ≤ resolvedAt ∧ resolvedAt ≤ now
  | .rejected startedAt => startedAt ≤ now

/-- What a phase says about the history of the call that is in it. -/
def Phase.Agrees (fenceUntil : Option Nat) (handler : Handler Response) :
    Phase Response → Prop
  | .doubleCheck | .calling => fenceUntil.isSome = true ∧ handler = .notStarted
  | .running => fenceUntil.isSome = true ∧ ∃ startedAt, handler = .started startedAt
  | .completing result | .persisting result =>
      fenceUntil.isSome = true ∧ ∃ startedAt resolvedAt,
        handler = .resolved startedAt resolvedAt result
  | .releasing true _ => ∃ startedAt resolvedAt result,
      handler = .resolved startedAt resolvedAt result
  | .releasing false _ | .unfencing _ => handler.outstandingSince = none
  | .settled _ => ∀ startedAt, handler ≠ .started startedAt
  | .crashed => True
  | _ => fenceUntil = none ∧ handler = .notStarted

structure CallState.Coherent (now : Nat) (call : CallState Response) : Prop where
  past : call.handler.Past now
  agrees : call.phase.Agrees call.fenceUntil call.handler

theorem Handler.Past.later {now later : Nat} {handler : Handler Response}
    (past : handler.Past now) (order : now ≤ later) : handler.Past later := by
  cases handler with
  | notStarted => trivial
  | started startedAt => exact Nat.le_trans past order
  | resolved startedAt resolvedAt response => exact ⟨past.1, Nat.le_trans past.2 order⟩
  | rejected startedAt => exact Nat.le_trans past order

theorem Handler.Past.outstanding {now startedAt : Nat} {handler : Handler Response}
    (past : handler.Past now) (outstanding : handler.outstandingSince = some startedAt) :
    startedAt ≤ now := by
  cases handler with
  | notStarted => cases outstanding
  | started since =>
      cases outstanding
      exact past
  | resolved since resolvedAt response =>
      cases outstanding
      exact Nat.le_trans past.1 past.2
  | rejected since => cases outstanding

theorem Phase.Agrees.beforeLock {fenceUntil : Option Nat} {handler : Handler Response}
    {phase : Phase Response} (agrees : phase.Agrees fenceUntil handler)
    (waiting : phase.beforeLock = true) : fenceUntil = none ∧ handler = .notStarted := by
  cases phase with
  | entryResult | entryFence | acquiring | sleeping | pollResult | pollLock
  | pollFence | finalResult => exact agrees
  | doubleCheck | calling | running | completing | persisting | releasing | unfencing
  | settled | crashed => cases waiting

theorem Phase.agrees_of_beforeLock {phase : Phase Response}
    (waiting : phase.beforeLock = true) : phase.Agrees none .notStarted := by
  cases phase with
  | entryResult | entryFence | acquiring | sleeping | pollResult | pollLock
  | pollFence | finalResult => exact ⟨rfl, rfl⟩
  | doubleCheck | calling | running | completing | persisting | releasing | unfencing
  | settled | crashed => cases waiting

theorem Phase.Waits.agrees {before after : Phase Response} {fenceUntil : Option Nat}
    {handler : Handler Response} (waits : before.Waits after)
    (agrees : before.Agrees fenceUntil handler) : after.Agrees fenceUntil handler := by
  obtain ⟨rfl, rfl⟩ := agrees.beforeLock waits.1
  rcases waits.2 with waiting | ⟨error, rfl⟩
  · exact Phase.agrees_of_beforeLock waiting
  · intro startedAt impossible
    cases impossible

theorem Setup.Reads.agrees {setup : Setup Call Response} {call : Call} {now : Nat}
    {keys : IdempotencyKeys} {before after : Phase Response} {fenceUntil : Option Nat}
    {handler : Handler Response} (reads : setup.Reads call now keys before after)
    (agrees : before.Agrees fenceUntil handler) : after.Agrees fenceUntil handler := by
  cases reads with
  | awaits waiting => exact waiting.waits.agrees agrees
  | replays looks stored =>
      obtain ⟨rfl, rfl⟩ := agrees.beforeLock (Phase.beforeLock_of_looksUp looks)
      intro startedAt impossible
      cases impossible
  | checkReplays stored =>
      obtain ⟨fenced, rfl⟩ := agrees
      rfl
  | checkPasses missing => exact agrees
  | sameResult stored same =>
      obtain ⟨fenced, startedAt, resolvedAt, rfl⟩ := agrees
      intro since impossible
      cases impossible
  | otherResult stored parsed =>
      obtain ⟨fenced, startedAt, resolvedAt, rfl⟩ := agrees
      intro since impossible
      cases impossible
  | otherHash stored parsed =>
      obtain ⟨fenced, resolved⟩ := agrees
      obtain ⟨startedAt, resolvedAt, rfl⟩ := resolved
      exact ⟨startedAt, resolvedAt, _, rfl⟩

namespace Setup.Effect

variable {setup : Setup Call Response} {call : Call} {now : Nat}
  {keys written : IdempotencyKeys} {before after : CallState Response}

/-- A Redis command never touches the handler. -/
theorem handler_eq (effect : setup.Effect call now keys before written after) :
    after.handler = before.handler := by
  cases effect with
  | reads | acquires | completes | losesLock | persists | releases | unfences => rfl

theorem agrees (effect : setup.Effect call now keys before written after)
    (agrees : before.phase.Agrees before.fenceUntil before.handler) :
    after.phase.Agrees after.fenceUntil after.handler := by
  cases effect with
  | reads read => exact read.agrees agrees
  | acquires phase free =>
      rw [phase] at agrees
      exact ⟨rfl, agrees.2⟩
  | completes phase held =>
      rw [phase] at agrees
      obtain ⟨fenced, startedAt, resolvedAt, resolved⟩ := agrees
      intro since impossible
      exact nomatch resolved.symm.trans impossible
  | losesLock phase lost =>
      rw [phase] at agrees
      exact agrees
  | persists phase missing =>
      rw [phase] at agrees
      obtain ⟨fenced, startedAt, resolvedAt, resolved⟩ := agrees
      intro since impossible
      exact nomatch resolved.symm.trans impossible
  | @releases succeeded outcome phase =>
      rw [phase] at agrees
      cases succeeded with
      | false => exact agrees
      | true =>
          obtain ⟨startedAt, resolvedAt, result, resolved⟩ := agrees
          intro since impossible
          exact nomatch resolved.symm.trans impossible
  | unfences phase =>
      rw [phase] at agrees
      intro since impossible
      exact nomatch agrees.symm.trans (congrArg Handler.outstandingSince impossible)

end Setup.Effect

/-- An error leads to a phase that asks nothing of the fence, and of the handler only
what the failed command already knew. -/
theorem Phase.Agrees.afterError {phase failed : Phase Response}
    {fenceUntil : Option Nat} {handler : Handler Response}
    (agrees : phase.Agrees fenceUntil handler) (failing : phase.afterError = some failed)
    (anyFence : Option Nat) : failed.Agrees anyFence handler := by
  cases phase with
  | entryResult | entryFence | acquiring | pollResult | pollLock | pollFence | finalResult =>
      cases failing
      obtain ⟨rfl, rfl⟩ := agrees
      intro startedAt impossible
      cases impossible
  | doubleCheck =>
      cases failing
      obtain ⟨fenced, rfl⟩ := agrees
      rfl
  | completing result | persisting result =>
      cases failing
      obtain ⟨fenced, startedAt, resolvedAt, rfl⟩ := agrees
      exact ⟨startedAt, resolvedAt, result, rfl⟩
  | releasing succeeded outcome =>
      cases failing
      cases succeeded with
      | false =>
          intro since impossible
          exact nomatch agrees.symm.trans (congrArg Handler.outstandingSince impossible)
      | true =>
          obtain ⟨startedAt, resolvedAt, result, rfl⟩ := agrees
          intro since impossible
          cases impossible
  | unfencing outcome =>
      cases failing
      intro since impossible
      exact nomatch agrees.symm.trans (congrArg Handler.outstandingSince impossible)
  | sleeping | calling | running | settled | crashed => cases failing

def State.Coherent (state : State Call Response) : Prop :=
  ∀ call, (state.calls call).Coherent state.now

theorem CallState.Coherent.later {now later : Nat} {call : CallState Response}
    (coherent : call.Coherent now) (order : now ≤ later) : call.Coherent later :=
  { past := coherent.past.later order
    agrees := coherent.agrees }

/-- How the history of a handler may grow. -/
inductive Handler.Grows (now : Nat) : Handler Response → Handler Response → Prop
  | same (handler : Handler Response) : Grows now handler handler
  | starts : Grows now .notStarted (.started now)
  | resolves (startedAt : Nat) (response : Response) :
      Grows now (.started startedAt) (.resolved startedAt now response)
  | rejects (startedAt : Nat) : Grows now (.started startedAt) (.rejected startedAt)

/-- The handler of the call has resolved with this response. -/
def State.Resolved (state : State Call Response) (owner : Call) (result : Response) : Prop :=
  ∃ startedAt resolvedAt, (state.calls owner).handler = .resolved startedAt resolvedAt result

theorem State.Resolved.eq {state : State Call Response} {owner : Call}
    {first second : Response} (resolved : state.Resolved owner first)
    (also : state.Resolved owner second) : first = second := by
  obtain ⟨startedAt, resolvedAt, handler⟩ := resolved
  obtain ⟨_, _, again⟩ := also
  cases handler.symm.trans again
  rfl

/-- Where an outcome may come from: a response from the call's own handler, or read
back from another handler of the same request; a handler error from the handler. -/
def Setup.Accounts (setup : Setup Call Response) (state : State Call Response) (call : Call) :
    Outcome Response → Prop
  | .fulfilled response => state.Resolved call response ∨
      ∃ owner result, state.Resolved owner result ∧
        (setup.input owner).requestHash = (setup.input call).requestHash ∧
        response = setup.json.roundTrip result
  | .rejected .handlerError => ∃ startedAt, (state.calls call).handler = .rejected startedAt
  | .rejected .syntaxError => False
  | .rejected (.conflict _) | .rejected .redisError => True

/-- The call may fulfil with this response once the owner's handler has resolved. -/
def Setup.Repeats (setup : Setup Call Response) (owner : Call) (result : Response)
    (call : Call) (response : Response) : Prop :=
  (setup.input owner).requestHash = (setup.input call).requestHash ∧
    (call = owner ∧ response = result ∨ response = setup.json.roundTrip result)

theorem Setup.Accounts.repeats {setup : Setup Call Response} {state : State Call Response}
    {call : Call} {response : Response}
    (accounts : setup.Accounts state call (.fulfilled response)) :
    ∃ owner result, state.Resolved owner result ∧ setup.Repeats owner result call response := by
  rcases accounts with own | ⟨owner, result, resolved, sameHash, read⟩
  · exact ⟨call, response, own, rfl, Or.inl ⟨rfl, rfl⟩⟩
  · exact ⟨owner, result, resolved, sameHash, Or.inr read⟩

def Phase.outcome? : Phase Response → Option (Outcome Response)
  | .releasing _ outcome | .unfencing outcome | .settled outcome => some outcome
  | _ => none

structure Setup.Provenance (setup : Setup Call Response) (state : State Call Response) :
    Prop where
  stored : ∀ cell, state.keys.result = some cell →
    ∃ owner result, state.Resolved owner result ∧ cell.value = setup.serialized owner result
  outcomes : ∀ call outcome, (state.calls call).phase.outcome? = some outcome →
    setup.Accounts state call outcome

theorem Setup.parse_serialized (setup : Setup Call Response) (owner : Call)
    (result : Response) (expected : String) :
    setup.parseStoredResult (setup.serialized owner result) expected =
      if (setup.input owner).requestHash ≠ expected then .rejected (.conflict keyReused)
      else .fulfilled (setup.json.roundTrip result) := by
  unfold Setup.parseStoredResult Setup.serialized
  rw [setup.json.parse_stringify]

namespace Setup.Provenance

variable {setup : Setup Call Response} {state following : State Call Response}

theorem stored_get (provenance : setup.Provenance state) {raw : String}
    (found : get state.now state.keys.result = some raw) :
    ∃ owner result, state.Resolved owner result ∧ raw = setup.serialized owner result := by
  obtain ⟨cell, live, rfl⟩ := get_eq_some_iff.mp found
  exact provenance.stored cell (live_some_iff.mp live).1

/-- A stored result is never the empty string, so a read that finds nothing true finds
no key. -/
theorem get_eq_none (provenance : setup.Provenance state)
    (missing : truthy (get state.now state.keys.result) = none) :
    get state.now state.keys.result = none := by
  cases found : get state.now state.keys.result with
  | none => rfl
  | some raw =>
      obtain ⟨owner, result, _, rfl⟩ := provenance.stored_get found
      exact absurd found (truthy_none_of_ne_empty missing (setup.json.stringify_ne_empty _))

theorem parse_accounts (provenance : setup.Provenance state) {raw : String}
    (found : get state.now state.keys.result = some raw) (call : Call) :
    setup.Accounts state call
      (setup.parseStoredResult raw (setup.input call).requestHash) := by
  obtain ⟨owner, result, resolved, rfl⟩ := provenance.stored_get found
  rw [setup.parse_serialized]
  split
  · trivial
  · rename_i same
    exact Or.inr ⟨owner, result, resolved, not_not.mp same, rfl⟩

end Setup.Provenance

/-- How a call may settle that has not started its handler. -/
def Setup.Declines (setup : Setup Call Response) (state : State Call Response) (call : Call) :
    Outcome Response → Prop
  | .fulfilled response => ∃ owner result, state.Resolved owner result ∧
      (setup.input owner).requestHash = (setup.input call).requestHash ∧
      response = setup.json.roundTrip result
  | .rejected (.conflict _) | .rejected .redisError => True
  | .rejected _ => False

theorem Setup.Provenance.declines {setup : Setup Call Response} {state : State Call Response}
    (provenance : setup.Provenance state) {call : Call} {outcome : Outcome Response}
    (settled : (state.calls call).phase = .settled outcome)
    (notStarted : (state.calls call).handler = .notStarted) :
    setup.Declines state call outcome := by
  have accounts := provenance.outcomes call outcome (by rw [settled]; rfl)
  cases outcome with
  | fulfilled response =>
      rcases accounts with ⟨startedAt, resolvedAt, own⟩ | replay
      · exact nomatch notStarted.symm.trans own
      · exact replay
  | rejected reason =>
      cases reason with
      | conflict | redisError => trivial
      | handlerError =>
          obtain ⟨startedAt, rejected⟩ := accounts
          exact nomatch notStarted.symm.trans rejected
      | syntaxError => exact accounts.elim

section Replies

variable {setup : Setup Call Response} {state : State Call Response}

/-- A result is written only for a handler that has resolved. -/
theorem Setup.Effect.result_cases {call : Call} {now : Nat} {keys written : IdempotencyKeys}
    {before after : CallState Response}
    (effect : setup.Effect call now keys before written after) :
    written.result = keys.result ∨
      ∃ result, (before.phase = .completing result ∨ before.phase = .persisting result) ∧
        written.result =
          setEx now (setup.serialized call result) (setup.input call).ttlSeconds := by
  cases effect with
  | reads | acquires | losesLock | releases | unfences => exact Or.inl rfl
  | completes phase held => exact Or.inr ⟨_, Or.inl phase, rfl⟩
  | persists phase missing => exact Or.inr ⟨_, Or.inr phase, rfl⟩

theorem State.Coherent.resolved (coherent : state.Coherent) {call : Call} {result : Response}
    (phase : (state.calls call).phase = .completing result ∨
      (state.calls call).phase = .persisting result) : state.Resolved call result := by
  have agrees := (coherent call).agrees
  rcases phase with phase | phase
  · rw [phase] at agrees
    exact agrees.2
  · rw [phase] at agrees
    exact agrees.2

theorem Phase.outcome_of_beforeLock {phase : Phase Response}
    (waiting : phase.beforeLock = true) : phase.outcome? = none := by
  cases phase with
  | entryResult | entryFence | acquiring | sleeping | pollResult | pollLock
  | pollFence | finalResult | doubleCheck | calling | running | completing | persisting
  | crashed => rfl
  | releasing | unfencing | settled => cases waiting

theorem Phase.Waits.outcome {before after : Phase Response} {outcome : Outcome Response}
    (waits : before.Waits after) (answered : after.outcome? = some outcome) :
    ∃ error, outcome = .rejected (.conflict error) := by
  rcases waits.2 with waiting | ⟨error, rfl⟩
  · rw [Phase.outcome_of_beforeLock waiting] at answered
    cases answered
  · cases answered
    exact ⟨error, rfl⟩

theorem Setup.Reads.accounts {call : Call} {phase : Phase Response}
    (reads : setup.Reads call state.now state.keys (state.calls call).phase phase)
    (coherent : state.Coherent) (provenance : setup.Provenance state)
    {outcome : Outcome Response} (answered : phase.outcome? = some outcome) :
    setup.Accounts state call outcome := by
  generalize stands : (state.calls call).phase = before at reads
  cases reads with
  | awaits waiting =>
      obtain ⟨error, rfl⟩ := waiting.waits.outcome answered
      trivial
  | replays waiting stored =>
      cases answered
      exact provenance.parse_accounts stored call
  | checkReplays stored =>
      cases answered
      exact provenance.parse_accounts stored call
  | checkPasses missing => cases answered
  | sameResult stored same =>
      cases answered
      exact Or.inl (coherent.resolved (Or.inr stands))
  | otherResult stored parsed =>
      cases answered
      rw [← parsed]
      exact provenance.parse_accounts stored call
  | otherHash stored parsed =>
      cases answered
      rw [← parsed]
      exact provenance.parse_accounts stored call

theorem Setup.Effect.accounts {call : Call} {keys : IdempotencyKeys}
    {after : CallState Response}
    (effect : setup.Effect call state.now state.keys (state.calls call) keys after)
    (coherent : state.Coherent) (provenance : setup.Provenance state)
    {outcome : Outcome Response} (answered : after.phase.outcome? = some outcome) :
    setup.Accounts state call outcome := by
  cases effect with
  | reads read => exact read.accounts coherent provenance answered
  | acquires phase free => cases answered
  | completes phase held =>
      cases answered
      exact Or.inl (coherent.resolved (Or.inl phase))
  | losesLock phase lost => cases answered
  | persists phase missing =>
      cases answered
      exact Or.inl (coherent.resolved (Or.inr phase))
  | @releases succeeded settled phase =>
      apply provenance.outcomes call outcome
      rw [phase]
      cases succeeded with
      | false => exact answered
      | true => exact answered
  | unfences phase =>
      apply provenance.outcomes call outcome
      rw [phase]
      exact answered

theorem Phase.afterError_outcome {phase failed : Phase Response} {outcome : Outcome Response}
    (failing : phase.afterError = some failed) (answered : failed.outcome? = some outcome) :
    outcome = .rejected .redisError ∨ outcome = .rejected (.conflict outcomeUnconfirmed) := by
  cases phase with
  | persisting =>
      cases failing
      cases answered
      exact Or.inr rfl
  | entryResult | entryFence | acquiring | pollResult | pollLock | pollFence | finalResult
  | doubleCheck | completing | releasing | unfencing =>
      cases failing
      cases answered
      exact Or.inl rfl
  | sleeping | calling | running | settled | crashed => cases failing

end Replies

variable [DecidableEq Call]

namespace Setup.Move

variable {setup : Setup Call Response} {state following : State Call Response}
  {action : Action Call Response}

private theorem coherent_moved {call : Call} {after : CallState Response}
    {keys : IdempotencyKeys} {acquirer : Option Call} (coherent : state.Coherent)
    (changed : after.Coherent state.now) : (state.moved call after keys acquirer).Coherent := by
  intro other
  by_cases same : other = call
  · subst other
    rw [state.moved_calls_self]
    exact changed
  · rw [state.moved_calls_other after keys acquirer same]
    exact coherent other

theorem coherent (move : setup.Move state action following)
    (coherent : state.Coherent) : following.Coherent := by
  cases move with
  | advances milliseconds =>
      exact fun call => (coherent call).later (Nat.le_add_right _ _)
  | locksOut => exact coherent
  | @answers call keys after effect =>
      refine coherent_moved coherent ⟨?_, effect.agrees (coherent call).agrees⟩
      rw [effect.handler_eq]
      exact (coherent call).past
  | @errsApplied call keys after failed effect failing =>
      refine coherent_moved coherent ⟨?_, ?_⟩
      · change after.handler.Past state.now
        rw [effect.handler_eq]
        exact (coherent call).past
      · change failed.Agrees after.fenceUntil after.handler
        rw [effect.handler_eq]
        exact (coherent call).agrees.afterError failing _
  | @errs call failed failing =>
      exact coherent_moved coherent
        ⟨(coherent call).past, (coherent call).agrees.afterError failing _⟩
  | @idles call phase idling =>
      exact coherent_moved coherent
        ⟨(coherent call).past, idling.waits.agrees (coherent call).agrees⟩
  | @starts call phase =>
      have agrees := (coherent call).agrees
      rw [phase] at agrees
      exact coherent_moved coherent ⟨Nat.le_refl _, agrees.1, state.now, rfl⟩
  | @resolves call startedAt response phase started =>
      have agrees := (coherent call).agrees
      have past := (coherent call).past
      rw [phase] at agrees
      rw [started] at past
      refine coherent_moved coherent ⟨⟨past, Nat.le_refl _⟩, ?_⟩
      cases lost : (state.calls call).lockLost with
      | true => exact ⟨agrees.1, startedAt, state.now, rfl⟩
      | false => exact ⟨agrees.1, startedAt, state.now, rfl⟩
  | @rejects call startedAt phase started =>
      have past := (coherent call).past
      rw [started] at past
      exact coherent_moved coherent ⟨past, rfl⟩
  | @ticks call active =>
      exact coherent_moved coherent ⟨(coherent call).past, (coherent call).agrees⟩
  | @beats call pending =>
      exact coherent_moved coherent ⟨(coherent call).past, (coherent call).agrees⟩
  | @beatFails call applied pending =>
      exact coherent_moved coherent ⟨(coherent call).past, (coherent call).agrees⟩
  | @crashes call => exact coherent_moved coherent ⟨(coherent call).past, trivial⟩

end Setup.Move

theorem Setup.coherent_of_reachable {setup : Setup Call Response}
    {allowed : State Call Response → Action Call Response → Prop}
    {state : State Call Response} (reached : setup.system.Reachable allowed state) :
    state.Coherent := by
  apply reached.invariant
  · intro start initial call
    rw [initial.2.1]
    exact ⟨trivial, rfl, rfl⟩
  · intro before action after coherent _ stepped
    exact (setup.step_move stepped).coherent coherent

private theorem grows_moved {state : State Call Response} {call : Call}
    {after : CallState Response} {keys : IdempotencyKeys} {acquirer : Option Call}
    (changed : Handler.Grows state.now (state.calls call).handler after.handler) (other : Call) :
    Handler.Grows state.now (state.calls other).handler
      ((state.moved call after keys acquirer).calls other).handler := by
  by_cases same : other = call
  · subst other
    rw [state.moved_calls_self]
    exact changed
  · rw [state.moved_calls_other after keys acquirer same]
    exact .same _

theorem Setup.Move.grows {setup : Setup Call Response} {state following : State Call Response}
    {action : Action Call Response} (move : setup.Move state action following)
    (coherent : state.Coherent) (call : Call) :
    Handler.Grows state.now (state.calls call).handler (following.calls call).handler := by
  cases move with
  | advances | locksOut => exact .same _
  | answers effect =>
      refine grows_moved ?_ call
      rw [effect.handler_eq]
      exact .same _
  | @errsApplied _ _ after _ effect failing =>
      refine grows_moved ?_ call
      change Handler.Grows _ _ after.handler
      rw [effect.handler_eq]
      exact .same _
  | errs | idles | ticks | beats | beatFails | crashes =>
      refine grows_moved ?_ call
      exact .same _
  | @starts starter phase =>
      have agrees := (coherent starter).agrees
      rw [phase] at agrees
      refine grows_moved ?_ call
      rw [agrees.2]
      exact .starts
  | resolves response phase started =>
      refine grows_moved ?_ call
      rw [started]
      exact .resolves _ _
  | rejects phase started =>
      refine grows_moved ?_ call
      rw [started]
      exact .rejects _


section Steps

variable {setup : Setup Call Response} {state following : State Call Response}
  {action : Action Call Response}

theorem Setup.Move.resolved (move : setup.Move state action following)
    (coherent : state.Coherent) {owner : Call} {result : Response}
    (resolved : state.Resolved owner result) : following.Resolved owner result := by
  obtain ⟨startedAt, resolvedAt, handler⟩ := resolved
  have grown := move.grows coherent owner
  rw [handler] at grown
  generalize after : (following.calls owner).handler = history at grown
  cases grown with
  | same => exact ⟨startedAt, resolvedAt, after⟩

theorem Setup.Move.accounts (move : setup.Move state action following)
    (coherent : state.Coherent) {call : Call} {outcome : Outcome Response}
    (accounts : setup.Accounts state call outcome) :
    setup.Accounts following call outcome := by
  cases outcome with
  | fulfilled response =>
      rcases accounts with own | ⟨owner, result, resolved, sameHash, read⟩
      · exact Or.inl (move.resolved coherent own)
      · exact Or.inr ⟨owner, result, move.resolved coherent resolved, sameHash, read⟩
  | rejected reason =>
      cases reason with
      | conflict | redisError => trivial
      | syntaxError => exact accounts.elim
      | handlerError =>
          obtain ⟨startedAt, handler⟩ := accounts
          have grown := move.grows coherent call
          rw [handler] at grown
          generalize after : (following.calls call).handler = history at grown
          cases grown with
          | same => exact ⟨startedAt, after⟩

theorem Setup.Move.result_cases (move : setup.Move state action following)
    (coherent : state.Coherent) :
    following.keys.result = state.keys.result ∨
      ∃ owner result, state.Resolved owner result ∧ following.keys.result =
        setEx state.now (setup.serialized owner result) (setup.input owner).ttlSeconds := by
  cases move with
  | advances | locksOut | errs | idles | starts | resolves | rejects | ticks | beats
  | beatFails | crashes => exact Or.inl rfl
  | answers effect =>
      rcases effect.result_cases with kept | ⟨result, phase, written⟩
      · exact Or.inl kept
      · exact Or.inr ⟨_, result, coherent.resolved phase, written⟩
  | errsApplied effect failing =>
      rcases effect.result_cases with kept | ⟨result, phase, written⟩
      · exact Or.inl kept
      · exact Or.inr ⟨_, result, coherent.resolved phase, written⟩

private theorem answered_moved {call other : Call} {after : CallState Response}
    {keys : IdempotencyKeys} {acquirer : Option Call} {outcome : Outcome Response}
    (answered :
      ((state.moved call after keys acquirer).calls other).phase.outcome? = some outcome) :
    other = call ∧ after.phase.outcome? = some outcome ∨
      (state.calls other).phase.outcome? = some outcome := by
  by_cases same : other = call
  · subst other
    rw [state.moved_calls_self] at answered
    exact Or.inl ⟨rfl, answered⟩
  · rw [state.moved_calls_other after keys acquirer same] at answered
    exact Or.inr answered

private theorem outcome_cases (move : setup.Move state action following)
    (coherent : state.Coherent) (provenance : setup.Provenance state) {other : Call}
    {outcome : Outcome Response}
    (answered : (following.calls other).phase.outcome? = some outcome) :
    setup.Accounts state other outcome ∨
      outcome = .rejected .handlerError ∧
        ∃ startedAt, (following.calls other).handler = .rejected startedAt := by
  cases move with
  | advances | locksOut => exact Or.inl (provenance.outcomes other outcome answered)
  | answers effect =>
      rcases answered_moved answered with ⟨rfl, here⟩ | elsewhere
      · exact Or.inl (effect.accounts coherent provenance here)
      · exact Or.inl (provenance.outcomes other outcome elsewhere)
  | errsApplied effect failing =>
      rcases answered_moved answered with ⟨rfl, here⟩ | elsewhere
      · rcases Phase.afterError_outcome failing here with rfl | rfl
        · exact Or.inl trivial
        · exact Or.inl trivial
      · exact Or.inl (provenance.outcomes other outcome elsewhere)
  | errs failing =>
      rcases answered_moved answered with ⟨rfl, here⟩ | elsewhere
      · rcases Phase.afterError_outcome failing here with rfl | rfl
        · exact Or.inl trivial
        · exact Or.inl trivial
      · exact Or.inl (provenance.outcomes other outcome elsewhere)
  | idles idling =>
      rcases answered_moved answered with ⟨rfl, here⟩ | elsewhere
      · obtain ⟨error, rfl⟩ := idling.waits.outcome here
        exact Or.inl trivial
      · exact Or.inl (provenance.outcomes other outcome elsewhere)
  | starts phase =>
      rcases answered_moved answered with ⟨rfl, here⟩ | elsewhere
      · cases here
      · exact Or.inl (provenance.outcomes other outcome elsewhere)
  | resolves response phase started =>
      rcases answered_moved answered with ⟨rfl, here⟩ | elsewhere
      · cases lost : (state.calls other).lockLost with
        | true => simp [lost, Phase.outcome?] at here
        | false => simp [lost, Phase.outcome?] at here
      · exact Or.inl (provenance.outcomes other outcome elsewhere)
  | @rejects _ startedAt phase started =>
      rcases answered_moved answered with ⟨rfl, here⟩ | elsewhere
      · cases here
        refine Or.inr ⟨rfl, startedAt, ?_⟩
        rw [state.moved_calls_self]
      · exact Or.inl (provenance.outcomes other outcome elsewhere)
  | ticks | beats | beatFails =>
      rcases answered_moved answered with ⟨rfl, here⟩ | elsewhere
      · exact Or.inl (provenance.outcomes other outcome here)
      · exact Or.inl (provenance.outcomes other outcome elsewhere)
  | crashes =>
      rcases answered_moved answered with ⟨rfl, here⟩ | elsewhere
      · cases here
      · exact Or.inl (provenance.outcomes other outcome elsewhere)

theorem Setup.Move.provenance (move : setup.Move state action following)
    (coherent : state.Coherent) (provenance : setup.Provenance state) :
    setup.Provenance following := by
  constructor
  · intro cell found
    rcases move.result_cases coherent with kept | ⟨owner, result, resolved, written⟩
    · rw [kept] at found
      obtain ⟨owner, result, resolved, value⟩ := provenance.stored cell found
      exact ⟨owner, result, move.resolved coherent resolved, value⟩
    · rw [written] at found
      cases found
      exact ⟨owner, result, move.resolved coherent resolved, rfl⟩
  · intro call outcome answered
    rcases outcome_cases move coherent provenance answered with accounted | ⟨rfl, rejected⟩
    · exact move.accounts coherent accounted
    · exact rejected

end Steps

theorem Setup.provenance_of_reachable {setup : Setup Call Response}
    {allowed : State Call Response → Action Call Response → Prop}
    {state : State Call Response} (reached : setup.system.Reachable allowed state) :
    setup.Provenance state := by
  have coherent : ∀ before, setup.system.Reachable allowed before → before.Coherent :=
    fun _ earlier => setup.coherent_of_reachable earlier
  apply reached.invariant_using coherent
  · intro start initial
    constructor
    · intro cell found
      rw [initial.1] at found
      cases found
    · intro call outcome answered
      rw [initial.2.1] at answered
      cases answered
  · intro before action after coherent provenance _ stepped
    exact (setup.step_move stepped).provenance coherent provenance

end BackendFoundation.Idempotency
