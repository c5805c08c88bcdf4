/-
RedisDistributedLock.runWithLock on one key, by any number of processes, beside direct
calls of acquire, extend and release.

A reply may be on its way for any time, a command may fail before or after Redis has
applied it, timers may fire late, and a handler settles whenever it likes.
-/

import BackendFoundation.Locks.Lease
import BackendFoundation.Transition.System

namespace BackendFoundation.Locks

inductive Entry
  | acquire
  | runWithLock
deriving DecidableEq, Repr

/-- The calls that ask for the lock. Each acquire draws its own randomUUID. SET rejects a
TTL that is not positive. -/
structure Setup (Call : Type) where
  key : String
  entry : Call → Entry
  ttlMs : Call → Nat
  ttlMs_pos : ∀ call, 0 < ttlMs call
  token : Call → String
  token_injective : Function.Injective token

inductive RunError
  | redisError
  | handlerError
  | lockLost (message : String)
deriving DecidableEq, Repr

inductive Phase (Value : Type)
  | ready
  | answered (acquired : Bool)
  | failed
  | skipped
  | held
  | running
  | releasing (outcome : Except RunError Value)
  | released (outcome : Except RunError Value)
  | returned (outcome : Except RunError Value)

/-- The extend of a heartbeat: heartbeatInProgress holds unless it is idle. -/
inductive Heartbeat
  | idle
  | sent
  | answered (extended : Bool)
deriving DecidableEq, Repr

/-- The instants at which the handler was called are history. -/
structure CallState (Value : Type) where
  phase : Phase Value
  lockLost : Bool
  heartbeat : Heartbeat
  nextHeartbeatAt : Nat
  handlerStarts : List Nat

namespace CallState

variable {Value : Type}

def fresh : CallState Value :=
  { phase := .ready
    lockLost := false
    heartbeat := .idle
    nextHeartbeatAt := 0
    handlerStarts := [] }

def goto (call : CallState Value) (phase : Phase Value) : CallState Value :=
  { call with phase := phase }

end CallState

/-- A delay beyond the timer range becomes one millisecond. -/
def setIntervalDelay (milliseconds : Nat) : Nat :=
  if milliseconds ≤ 2147483647 then milliseconds else 1

def heartbeatIntervalMs (ttlMs : Nat) : Nat :=
  setIntervalDelay (max (ttlMs / 3) 1000)

/-- From the acquire that took the lock to the settlement of the handler. -/
def Phase.underLock {Value : Type} : Phase Value → Bool
  | .answered true | .running => true
  | _ => false

/-- A call is overtaken (history) when another runWithLock call acquires the lock between
its own acquire and the settlement of its handler. -/
structure State (Call Value : Type) where
  lock : Lock Call
  calls : Call → CallState Value
  overtaken : Call → Bool

inductive Action (Call Value : Type)
  | advance (milliseconds : Nat)
  | acquire (call : Call)
  | acquireFails (call : Call)
  | proceed (call : Call)
  | heartbeatTimer (call : Call)
  | extend (call : Call)
  | extendAnswered (call : Call)
  | extendFails (call : Call)
  | handlerResolves (call : Call) (result : Value)
  | handlerRejects (call : Call)
  | release (call : Call)
  | releaseAnswered (call : Call)
  | releaseFails (call : Call)
  | extendHandle (call : Call) (ttlMs : Nat)
  | releaseHandle (call : Call)

variable {Call Value : Type}

def Setup.lockLost (setup : Setup Call) : RunError :=
  .lockLost ("Distributed lock was lost during execution: " ++ setup.key)

/-- The reply to acquire arrives. runWithLock starts the heartbeat and calls the handler. -/
def Setup.proceed (setup : Setup Call) (call : Call) (now : Nat)
    (before : CallState Value) : Option (CallState Value) :=
  match before.phase, setup.entry call with
  | .answered false, _ => some (before.goto .skipped)
  | .answered true, .acquire => some (before.goto .held)
  | .answered true, .runWithLock =>
      some { before with
        phase := .running
        nextHeartbeatAt := now + heartbeatIntervalMs (setup.ttlMs call)
        handlerStarts := now :: before.handlerStarts }
  | _, _ => none

def Setup.heartbeatTimer (setup : Setup Call) (call : Call) (now : Nat)
    (before : CallState Value) : Option (CallState Value) :=
  match before.phase with
  | .running =>
      if before.nextHeartbeatAt ≤ now then
        some { before with
          nextHeartbeatAt := now + heartbeatIntervalMs (setup.ttlMs call)
          heartbeat := if before.heartbeat = .idle then .sent else before.heartbeat }
      else none
  | _ => none

/-- The reply to the extend of a heartbeat arrives. -/
def extendAnswered (before : CallState Value) : Option (CallState Value) :=
  match before.heartbeat with
  | .answered extended =>
      some { before with
        heartbeat := .idle
        lockLost := before.lockLost || !extended }
  | _ => none

def extendFails (before : CallState Value) : Option (CallState Value) :=
  match before.heartbeat with
  | .idle => none
  | _ => some { before with heartbeat := .idle, lockLost := true }

/-- The await of the handler settles, and the finally clause clears the heartbeat. -/
def Setup.handlerSettles (setup : Setup Call) (result : Except RunError Value)
    (before : CallState Value) : Option (CallState Value) :=
  match before.phase with
  | .running =>
      match result with
      | .ok value =>
          some (before.goto (.releasing
            (if before.lockLost then .error setup.lockLost else .ok value)))
      | .error error => some (before.goto (.releasing (.error error)))
  | _ => none

variable [DecidableEq Call]

def State.update (state : State Call Value) (call : Call) (after : CallState Value) :
    State Call Value :=
  { state with calls := Function.update state.calls call after }

def Setup.overtakes (setup : Setup Call) (state : State Call Value) (call other : Call) :
    Bool :=
  setup.entry call == .runWithLock && setup.entry other == .runWithLock && other != call &&
    (state.calls other).phase.underLock

/-- SET PX NX takes effect. -/
def Setup.acquire (setup : Setup Call) (state : State Call Value) (call : Call) :
    State Call Value :=
  let (lock, acquired) := state.lock.acquire setup.token call (setup.ttlMs call)
  { state.update call ((state.calls call).goto (.answered acquired)) with
    lock := lock
    overtaken := fun other =>
      state.overtaken other || (acquired && setup.overtakes state call other) }

def Setup.step (setup : Setup Call) (state : State Call Value) :
    Action Call Value → Option (State Call Value)
  | .advance milliseconds => some { state with lock := state.lock.advance milliseconds }
  | .acquire call =>
      match (state.calls call).phase with
      | .ready => some (setup.acquire state call)
      | _ => none
  | .acquireFails call =>
      let before := state.calls call
      match before.phase with
      | .ready | .answered _ => some (state.update call (before.goto .failed))
      | _ => none
  | .proceed call =>
      (setup.proceed call state.lock.now (state.calls call)).map (state.update call)
  | .heartbeatTimer call =>
      (setup.heartbeatTimer call state.lock.now (state.calls call)).map (state.update call)
  | .extend call =>
      let before := state.calls call
      match before.heartbeat with
      | .sent =>
          let (lock, extended) := state.lock.extend setup.token call (setup.ttlMs call)
          some { state.update call { before with heartbeat := .answered extended } with
            lock := lock }
      | _ => none
  | .extendAnswered call => (extendAnswered (state.calls call)).map (state.update call)
  | .extendFails call => (extendFails (state.calls call)).map (state.update call)
  | .handlerResolves call result =>
      (setup.handlerSettles (.ok result) (state.calls call)).map (state.update call)
  | .handlerRejects call =>
      (setup.handlerSettles (.error .handlerError) (state.calls call)).map
        (state.update call)
  | .release call =>
      let before := state.calls call
      match before.phase with
      | .releasing outcome =>
          some { state.update call (before.goto (.released outcome)) with
            lock := state.lock.release setup.token call }
      | _ => none
  | .releaseAnswered call =>
      let before := state.calls call
      match before.phase with
      | .released outcome => some (state.update call (before.goto (.returned outcome)))
      | _ => none
  | .releaseFails call =>
      let before := state.calls call
      match before.phase with
      | .releasing _ | .released _ =>
          some (state.update call (before.goto (.returned (.error .redisError))))
      | _ => none
  | .extendHandle call ttlMs =>
      match (state.calls call).phase with
      | .held =>
          if 0 < ttlMs then
            some { state with lock := (state.lock.extend setup.token call ttlMs).1 }
          else none
      | _ => none
  | .releaseHandle call =>
      match (state.calls call).phase with
      | .held => some { state with lock := state.lock.release setup.token call }
      | _ => none

def State.empty : State Call Value :=
  { lock :=
      { now := 0
        key := none
        deadline := fun _ => none }
    calls := fun _ => CallState.fresh
    overtaken := fun _ => false }

def State.initial (state : State Call Value) : Prop :=
  state.lock.key = none ∧ state.lock.deadline = (fun _ => none) ∧
    state.calls = (fun _ => CallState.fresh) ∧ state.overtaken = fun _ => false

def Setup.system (setup : Setup Call) :
    Transition.System (State Call Value) (Action Call Value) :=
  { initial := State.initial
    step := setup.step }

end BackendFoundation.Locks
