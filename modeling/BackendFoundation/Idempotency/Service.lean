/-
RedisIdempotencyService.execute for the calls that share one scope and key.

Every call is a process that issues one Redis command at a time and continues
with its reply; any number of them interleave at the level of single commands
and scripts. Commands may fail before or after Redis has applied them, callers
may crash, and the lock may be lost at any moment. A handler is an arbitrary
asynchronous function: it resolves or rejects whenever the environment says so.
-/

import BackendFoundation.Redis.RedisService
import BackendFoundation.Transition.System

namespace BackendFoundation.Idempotency

open Redis Redis.Slot Redis.RedisService

def lockTtlSeconds : Nat := 30
def waitTimeoutMs : Nat := 15000
def waitPollMs : Nat := 100

structure ConflictError where
  code : String
  message : String
deriving DecidableEq, Repr

def keyReused : ConflictError :=
  { code := "IDEMPOTENCY_KEY_REUSED"
    message := "Idempotency key was already used with a different request payload" }

def outcomeUnknown : ConflictError :=
  { code := "IDEMPOTENCY_OUTCOME_UNKNOWN"
    message := "Idempotency fence is set without a stored result; do not treat as never executed" }

def outcomeUnconfirmed : ConflictError :=
  { code := "IDEMPOTENCY_OUTCOME_UNKNOWN"
    message :=
      "Idempotency outcome could not be confirmed after lock loss; do not treat as never executed" }

def requestInProgress : ConflictError :=
  { code := "IDEMPOTENCY_REQUEST_IN_PROGRESS"
    message := "An identical request is already being processed" }

inductive Rejection
  | conflict (error : ConflictError)
  | handlerError
  | redisError
  | syntaxError
deriving DecidableEq, Repr

inductive Outcome (Response : Type)
  | fulfilled (response : Response)
  | rejected (reason : Rejection)
deriving DecidableEq, Repr

structure StoredIdempotencyResult (Response : Type) where
  requestHash : String
  response : Response

/-- JSON.stringify and JSON.parse on stored results. A response read back is the
JSON round trip of the one that was stored. -/
structure JsonCodec (Response : Type) where
  stringify : StoredIdempotencyResult Response → String
  parse : String → Option (StoredIdempotencyResult Response)
  roundTrip : Response → Response
  parse_stringify : ∀ stored, parse (stringify stored) =
    some { stored with response := roundTrip stored.response }
  stringify_ne_empty : ∀ stored, stringify stored ≠ ""

/-- The JSON text of a stored boolean response, for a request hash without characters
that JSON escapes. -/
def booleanJson : JsonCodec Bool :=
  let opening := "\x7b\"requestHash\":\"".toList
  let closing (response : Bool) :=
    if response then "\",\"response\":true\x7d".toList else "\",\"response\":false\x7d".toList
  let read (body : List Char) (response : Bool) : StoredIdempotencyResult Bool :=
    { requestHash := String.ofList (body.take (body.length - (closing response).length))
      response := response }
  { stringify := fun stored =>
      String.ofList (opening ++ (stored.requestHash.toList ++ closing stored.response))
    parse := fun raw =>
      let body := raw.toList.drop opening.length
      if closing true <:+ body then some (read body true)
      else if closing false <:+ body then some (read body false)
      else none
    roundTrip := id
    parse_stringify := by
      intro found
      obtain ⟨requestHash, response⟩ := found
      have reads : read (requestHash.toList ++ closing response) response =
          { requestHash := requestHash, response := response } := by
        simp only [read, List.length_append, Nat.add_sub_cancel, List.take_left',
          String.ofList_toList]
      simp only [String.toList_ofList, List.drop_left', id]
      cases response with
      | true => rw [if_pos (List.suffix_append _ _), reads]
      | false =>
          have different : ¬closing true <:+ requestHash.toList ++ closing false := by
            intro ends
            have ends := List.suffix_of_suffix_length_le ends (List.suffix_append _ _) (by decide)
            exact absurd ends (by decide)
          rw [if_neg different, if_pos (List.suffix_append _ _), reads]
    stringify_ne_empty := by
      intro stored empty
      have none := congrArg String.toList empty
      rw [String.toList_ofList] at none
      exact absurd (List.append_eq_nil_iff.mp none).1 (by decide) }

structure ExecuteInput where
  requestHash : String
  ttlSeconds : Nat
  ttlSeconds_pos : 0 < ttlSeconds

/-- The calls of a run. Each draws its own randomUUID as lock token. -/
structure Setup (Call Response : Type) where
  input : Call → ExecuteInput
  lockToken : Call → String
  lockToken_injective : Function.Injective lockToken
  json : JsonCodec Response

/-- Where a call stands: the Redis command, timer or handler it awaits. -/
inductive Phase (Response : Type)
  | entryResult
  | entryFence
  | acquiring
  | sleeping (deadline : Nat) (sawFenceWithoutResult : Bool) (wakeAt : Nat)
  | pollResult (deadline : Nat) (sawFenceWithoutResult : Bool)
  | pollLock (deadline : Nat) (sawFenceWithoutResult : Bool)
  | pollFence (deadline : Nat) (sawFenceWithoutResult : Bool)
  | finalResult
  | doubleCheck
  | calling
  | running
  | completing (result : Response)
  | persisting (result : Response)
  | releasing (handlerSucceeded : Bool) (outcome : Outcome Response)
  | unfencing (outcome : Outcome Response)
  | settled (outcome : Outcome Response)
  | crashed
deriving DecidableEq, Repr

/-- What has become of the call's handler. This is history: the code never reads it. -/
inductive Handler (Response : Type)
  | notStarted
  | started (startedAt : Nat)
  | resolved (startedAt resolvedAt : Nat) (response : Response)
  | rejected (startedAt : Nat)
deriving DecidableEq, Repr

namespace Handler

variable {Response : Type}

/-- A handler that is running, has resolved, or whose process died under it. -/
def outstandingSince : Handler Response → Option Nat
  | notStarted => none
  | started startedAt => some startedAt
  | resolved startedAt _ _ => some startedAt
  | rejected _ => none

end Handler

/-- The last two fields are history: the expiry of the fence this call has set and
not deleted itself, and its handler. -/
structure CallState (Response : Type) where
  phase : Phase Response
  lockLost : Bool
  heartbeatInProgress : Bool
  fenceUntil : Option Nat
  handler : Handler Response
deriving DecidableEq, Repr

namespace CallState

variable {Response : Type}

def fresh : CallState Response :=
  { phase := .entryResult
    lockLost := false
    heartbeatInProgress := false
    fenceUntil := none
    handler := .notStarted }

def goto (call : CallState Response) (phase : Phase Response) : CallState Response :=
  { call with phase := phase }

end CallState

/-- The acquirer is history: the call whose acquire script last took the lock. -/
structure State (Call Response : Type) where
  now : Nat
  keys : IdempotencyKeys
  calls : Call → CallState Response
  acquirer : Option Call

inductive Action (Call Response : Type)
  | advance (milliseconds : Nat)
  | lockExpires
  | command (call : Call)
  | commandFails (call : Call) (applied : Bool)
  | proceed (call : Call)
  | handlerResolves (call : Call) (response : Response)
  | handlerRejects (call : Call)
  | heartbeatTimer (call : Call)
  | heartbeat (call : Call)
  | heartbeatFails (call : Call) (applied : Bool)
  | crash (call : Call)
deriving DecidableEq, Repr

/-- JavaScript's test on a reply: null and the empty string are both false. -/
def truthy (reply : Option String) : Option String :=
  reply.filter fun text => text ≠ ""

variable {Call Response : Type}

def Setup.parseStoredResult (setup : Setup Call Response) (raw expectedRequestHash : String) :
    Outcome Response :=
  match setup.json.parse raw with
  | none => .rejected .syntaxError
  | some stored =>
      if stored.requestHash ≠ expectedRequestHash then .rejected (.conflict keyReused)
      else .fulfilled stored.response

def Setup.serialized (setup : Setup Call Response) (call : Call) (result : Response) : String :=
  setup.json.stringify
    { requestHash := (setup.input call).requestHash, response := result }

/-- Leaving the polling loop of waitForResult. -/
def afterLoop (sawFenceWithoutResult : Bool) : Phase Response :=
  if sawFenceWithoutResult then .finalResult
  else .settled (.rejected (.conflict requestInProgress))

/-- The test of the polling loop, on the way into its next round. -/
def nextRound (now deadline : Nat) (sawFenceWithoutResult : Bool) : Phase Response :=
  if now < deadline then .sleeping deadline sawFenceWithoutResult (now + waitPollMs)
  else afterLoop sawFenceWithoutResult

/-- The pending Redis command of a call takes effect and its reply is processed. -/
def Setup.answer (setup : Setup Call Response) (call : Call) (now : Nat)
    (keys : IdempotencyKeys) (state : CallState Response) :
    IdempotencyKeys × CallState Response :=
  let input := setup.input call
  match state.phase with
  | .entryResult =>
      match truthy (get now keys.result) with
      | some cached =>
          (keys, state.goto (.settled (setup.parseStoredResult cached input.requestHash)))
      | none => (keys, state.goto .entryFence)
  | .entryFence =>
      match truthy (get now keys.fence) with
      | none => (keys, state.goto .acquiring)
      | some fence =>
          if fence ≠ input.requestHash then
            (keys, state.goto (.settled (.rejected (.conflict keyReused))))
          else (keys, state.goto (.settled (.rejected (.conflict outcomeUnknown))))
  | .acquiring =>
      match acquireIdempotencyLockWithFence now { lock := keys.lock, fence := keys.fence }
          (setup.lockToken call) lockTtlSeconds input.requestHash input.ttlSeconds with
      | (written, true) =>
          ({ keys with lock := written.lock, fence := written.fence },
            { state with
              phase := .doubleCheck
              fenceUntil := some (now + input.ttlSeconds * 1000) })
      | (written, false) =>
          ({ keys with lock := written.lock, fence := written.fence },
            state.goto (nextRound now (now + waitTimeoutMs) false))
  | .pollResult deadline saw =>
      match truthy (get now keys.result) with
      | some cached =>
          (keys, state.goto (.settled (setup.parseStoredResult cached input.requestHash)))
      | none => (keys, state.goto (.pollLock deadline saw))
  | .pollLock deadline saw =>
      if present now keys.lock then (keys, state.goto (nextRound now deadline saw))
      else (keys, state.goto (.pollFence deadline saw))
  | .pollFence deadline saw =>
      match truthy (get now keys.fence) with
      | some fence =>
          if fence ≠ input.requestHash then
            (keys, state.goto (.settled (.rejected (.conflict keyReused))))
          else (keys, state.goto (nextRound now deadline true))
      | none => (keys, state.goto (afterLoop saw))
  | .finalResult =>
      match truthy (get now keys.result) with
      | some cached =>
          (keys, state.goto (.settled (setup.parseStoredResult cached input.requestHash)))
      | none => (keys, state.goto (.settled (.rejected (.conflict outcomeUnknown))))
  | .doubleCheck =>
      match truthy (get now keys.result) with
      | some cached =>
          (keys, state.goto
            (.releasing false (setup.parseStoredResult cached input.requestHash)))
      | none => (keys, state.goto .calling)
  | .completing result =>
      match completeIdempotency now keys (setup.lockToken call)
          (setup.serialized call result) input.ttlSeconds with
      | (written, true) =>
          (written, { state with phase := .settled (.fulfilled result), fenceUntil := none })
      | (written, false) =>
          (written, { state with phase := .persisting result, lockLost := true })
  | .persisting result =>
      let serialized := setup.serialized call result
      let (written, persistedRaw) :=
        persistIdempotencyResultBestEffort now { result := keys.result, fence := keys.fence }
          serialized input.ttlSeconds
      let after : CallState Response :=
        { state with
          fenceUntil := if (get now keys.result).isNone then none else state.fenceUntil }
      let keys := { keys with result := written.result, fence := written.fence }
      if persistedRaw = serialized then (keys, after.goto (.settled (.fulfilled result)))
      else
        match setup.parseStoredResult persistedRaw input.requestHash with
        | .fulfilled persisted => (keys, after.goto (.settled (.fulfilled persisted)))
        | .rejected reason => (keys, after.goto (.releasing true (.rejected reason)))
  | .releasing handlerSucceeded outcome =>
      ({ keys with lock := (compareAndDelete now keys.lock (setup.lockToken call)).1 },
        state.goto (if handlerSucceeded then .settled outcome else .unfencing outcome))
  | .unfencing outcome =>
      ({ keys with fence := deleteIdempotencyFence keys.fence },
        { state with phase := .settled outcome, fenceUntil := none })
  | _ => (keys, state)

/-- Where an error of the pending Redis command leads. Inside the try block the
finally clause still runs; an error in that clause replaces the outcome. -/
def Phase.afterError : Phase Response → Option (Phase Response)
  | .entryResult | .entryFence | .acquiring | .pollResult _ _ | .pollLock _ _
  | .pollFence _ _ | .finalResult | .releasing _ _ | .unfencing _ =>
      some (.settled (.rejected .redisError))
  | .doubleCheck => some (.releasing false (.rejected .redisError))
  | .completing _ => some (.releasing true (.rejected .redisError))
  | .persisting _ => some (.releasing true (.rejected (.conflict outcomeUnconfirmed)))
  | _ => none

/-- A step without a Redis command: the end of a sleep, the call of the handler. -/
def CallState.local? (now : Nat) (state : CallState Response) : Option (CallState Response) :=
  match state.phase with
  | .sleeping deadline saw wakeAt =>
      if wakeAt ≤ now then some (state.goto (.pollResult deadline saw)) else none
  | .calling => some { state with phase := .running, handler := .started now }
  | _ => none

/-- setInterval runs from the acquired lock to the finally clause. -/
def Phase.heartbeatActive : Phase Response → Bool
  | .doubleCheck | .calling | .running | .completing _ | .persisting _ => true
  | _ => false

/-- The acquire script is about to take the lock. -/
def State.takesLock (state : State Call Response) (call : Call) : Bool :=
  match (state.calls call).phase with
  | .acquiring => (live state.now state.keys.lock).isNone
  | _ => false

variable [DecidableEq Call]

def State.update (state : State Call Response) (call : Call) (after : CallState Response) :
    State Call Response :=
  { state with calls := Function.update state.calls call after }

def Setup.step (setup : Setup Call Response) (state : State Call Response) :
    Action Call Response → Option (State Call Response)
  | .advance milliseconds => some { state with now := state.now + milliseconds }
  | .lockExpires => some { state with keys := { state.keys with lock := del } }
  | .command call =>
      let before := state.calls call
      match before.phase.afterError with
      | none => none
      | some _ =>
          let (keys, after) := setup.answer call state.now state.keys before
          some { state.update call after with
            keys := keys
            acquirer := if state.takesLock call then some call else state.acquirer }
  | .commandFails call applied =>
      let before := state.calls call
      match before.phase.afterError with
      | none => none
      | some failed =>
          if applied then
            let (keys, after) := setup.answer call state.now state.keys before
            some { state.update call (after.goto failed) with
              keys := keys
              acquirer := if state.takesLock call then some call else state.acquirer }
          else some (state.update call (before.goto failed))
  | .proceed call =>
      ((state.calls call).local? state.now).map fun after => state.update call after
  | .handlerResolves call response =>
      let before := state.calls call
      match before.phase, before.handler with
      | .running, .started startedAt =>
          some (state.update call
            { before with
              phase := if before.lockLost then .persisting response else .completing response
              handler := .resolved startedAt state.now response })
      | _, _ => none
  | .handlerRejects call =>
      let before := state.calls call
      match before.phase, before.handler with
      | .running, .started startedAt =>
          some (state.update call
            { before with
              phase := .releasing false (.rejected .handlerError)
              handler := .rejected startedAt })
      | _, _ => none
  | .heartbeatTimer call =>
      let before := state.calls call
      if before.phase.heartbeatActive && !before.heartbeatInProgress then
        some (state.update call { before with heartbeatInProgress := true })
      else none
  | .heartbeat call =>
      let before := state.calls call
      if before.heartbeatInProgress then
        let (lock, extended) :=
          compareAndExpire state.now state.keys.lock (setup.lockToken call) lockTtlSeconds
        some { state.update call
            { before with
              lockLost := before.lockLost || !extended
              heartbeatInProgress := false } with
          keys := { state.keys with lock := lock } }
      else none
  | .heartbeatFails call applied =>
      let before := state.calls call
      if before.heartbeatInProgress then
        let lock :=
          if applied then
            (compareAndExpire state.now state.keys.lock (setup.lockToken call)
              lockTtlSeconds).1
          else state.keys.lock
        some { state.update call
            { before with lockLost := true, heartbeatInProgress := false } with
          keys := { state.keys with lock := lock } }
      else none
  | .crash call =>
      match (state.calls call).phase with
      | .settled _ | .crashed => none
      | _ => some (state.update call ((state.calls call).goto .crashed))

def State.initial (state : State Call Response) : Prop :=
  state.keys = { lock := none, fence := none, result := none } ∧
    state.calls = (fun _ => CallState.fresh) ∧ state.acquirer = none

def State.empty : State Call Response :=
  { now := 0
    keys := { lock := none, fence := none, result := none }
    calls := fun _ => CallState.fresh
    acquirer := none }

def Setup.system (setup : Setup Call Response) :
    Transition.System (State Call Response) (Action Call Response) :=
  { initial := State.initial
    step := setup.step }

/-- Steps that take no time and cannot fail. -/
def Action.plain : Action Call Response → Bool
  | .command _ | .proceed _ | .handlerResolves _ _ => true
  | _ => false

/-- Two requests with one key and one payload. -/
def duplicateRequests : Setup Bool Bool :=
  { input := fun _ =>
      { requestHash := "9f86d081"
        ttlSeconds := 86400
        ttlSeconds_pos := by decide }
    lockToken := fun call => if call then "uuid-b" else "uuid-a"
    lockToken_injective := by
      intro first second same
      cases first <;> cases second <;> first | rfl | exact absurd same (by decide)
    json := booleanJson }

end BackendFoundation.Idempotency
