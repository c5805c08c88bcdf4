/-
DrizzleOutboxProcessor.processPending as calls that interleave at the level of
single statements, timers and handlers.

Handlers resolve or reject when the environment says so, a reply may be on its way
for any time, a statement may fail before or after the database has committed it, and
a process may crash at any moment. An extendLock that was sent stays in flight although
its call goes on.
-/

import BackendFoundation.Outbox.Events
import BackendFoundation.Transition.System
import Mathlib.Order.Monotone.Defs

namespace BackendFoundation.Outbox

/-- Dates are readings of the worker's own clock; timers run on the true time. -/
structure Setup (Worker Handler : Type) where
  options : OutboxProcessorOptions
  handlers : List Handler
  supports : Handler → String → Bool
  clock : Worker → Nat → Nat
  clock_monotone : ∀ worker, Monotone (clock worker)

/-- The extendLock of a heartbeat, with the date that it writes: heartbeatInProgress holds
unless it is idle. -/
inductive Heartbeat
  | idle
  | sent (date : Nat)
  | executed (extended : Bool)
deriving DecidableEq, Repr

/-- The variables of one iteration of the loop over the claimed events. -/
structure Iteration (Worker : Type) where
  event : OutboxRow Worker
  rest : List (OutboxRow Worker)
  ownershipLost : Bool
  heartbeat : Heartbeat
  nextHeartbeat : Nat
  timeoutAt : Option Nat
  handlerTimedOut : Bool
deriving DecidableEq, Repr

/-- A statement that has been executed and not been answered is marked with its reply. -/
inductive Stage (Handler : Type)
  | publishing (routing : Routing Handler)
  | markingProcessed (reply : Option Bool)
  | markingFailed (now : Nat) (reply : Option Bool)
deriving DecidableEq, Repr

inductive Phase (Worker Handler : Type)
  | ready
  | claiming (now : Nat) (reply : Option (List (OutboxRow Worker)))
  | iterating (iteration : Iteration Worker) (stage : Stage Handler)
  | returned
  | rejected
  | crashed
deriving DecidableEq, Repr

structure ProcessOutboxResult where
  selected : Nat
  processed : Nat
  failed : Nat
deriving DecidableEq, Repr

/-- The late statements are the extendLocks of earlier iterations that are still in
flight: the id and the date of each. -/
structure CallState (Worker Handler : Type) where
  phase : Phase Worker Handler
  late : List (String × Nat)
  result : ProcessOutboxResult
deriving DecidableEq, Repr

inductive Statement (Worker : Type)
  | claimPendingBatch (now : Nat) (scan : Scan)
  | extendLock (now : Nat) (id : String)
  | markProcessed (id : String)
  | markFailed (now : Nat) (event : OutboxRow Worker)
deriving DecidableEq, Repr

/-- A call of DomainEventRouter.route that has resolved, with the handlers that had
resolved in it. -/
structure Routed (Worker Handler : Type) where
  worker : Worker
  id : String
  resolved : List Handler
deriving DecidableEq, Repr

/-- The last three fields are history: the ids appended, the route calls that have
resolved, and the id of every markFailed that changed a row. -/
structure State (Worker Handler : Type) where
  now : Nat
  events : OutboxEvents Worker
  calls : Worker → CallState Worker Handler
  appended : List String
  routed : List (Routed Worker Handler)
  failedMarks : List String

inductive Action (Worker : Type)
  | advance (milliseconds : Nat)
  | append (id eventName payload : String) (occurredAt availableAt : Nat)
  | start (call : Worker)
  | claim (call : Worker) (scan : Scan)
  | claimAnswered (call : Worker)
  | claimFails (call : Worker)
  | heartbeatTimer (call : Worker)
  | extendLock (call : Worker)
  | extendLockAnswered (call : Worker)
  | extendLockFails (call : Worker)
  | lateExtendLock (call : Worker) (id : String) (date : Nat)
  | timeout (call : Worker)
  | handlerResolves (call : Worker)
  | handlerRejects (call : Worker)
  | routeSettles (call : Worker)
  | mark (call : Worker)
  | markAnswered (call : Worker)
  | markFails (call : Worker)
  | crash (call : Worker)
deriving DecidableEq, Repr

variable {Worker Handler : Type}

def CallState.fresh : CallState Worker Handler :=
  { phase := .ready
    late := []
    result :=
      { selected := 0
        processed := 0
        failed := 0 } }

def CallState.goto (call : CallState Worker Handler) (phase : Phase Worker Handler) :
    CallState Worker Handler :=
  { call with phase := phase }

/-- The extendLock that the database has not executed yet. -/
def Iteration.inFlight (iteration : Iteration Worker) : List (String × Nat) :=
  match iteration.heartbeat with
  | .sent date => [(iteration.event.id, date)]
  | .idle | .executed _ => []

/-- The callback of setInterval. -/
def Iteration.beat (iteration : Iteration Worker) (options : OutboxProcessorOptions)
    (now date : Nat) : Iteration Worker :=
  { iteration with
    heartbeat :=
      if iteration.heartbeat ≠ .idle ∨ iteration.ownershipLost = true then iteration.heartbeat
      else .sent date
    nextHeartbeat := now + options.heartbeatIntervalMs }

/-- The reply to an extendLock arrives; an error counts as false. -/
def Iteration.extended (iteration : Iteration Worker) (extended : Bool) : Iteration Worker :=
  { iteration with
    ownershipLost := iteration.ownershipLost || !extended
    heartbeat := .idle }

def Setup.iteration (setup : Setup Worker Handler) (now : Nat) (event : OutboxRow Worker)
    (rest : List (OutboxRow Worker)) : Iteration Worker :=
  { event := event
    rest := rest
    ownershipLost := false
    heartbeat := .idle
    nextHeartbeat := now + setup.options.heartbeatIntervalMs
    timeoutAt :=
      if setup.options.handlerTimeoutMs = 0 then none
      else some (now + setup.options.handlerTimeoutMs)
    handlerTimedOut := false }

/-- Into the next iteration, or out of the loop. -/
def Setup.nextEvent (setup : Setup Worker Handler) (now : Nat) :
    List (OutboxRow Worker) → Phase Worker Handler
  | [] => .returned
  | event :: rest =>
      .iterating (setup.iteration now event rest)
        (.publishing (route setup.handlers setup.supports event.eventName))

/-- The finally clause and the way into the next iteration. -/
def Setup.finish (setup : Setup Worker Handler) (now : Nat) (call : CallState Worker Handler)
    (iteration : Iteration Worker) (result : ProcessOutboxResult) : CallState Worker Handler :=
  { phase := setup.nextEvent now iteration.rest
    late := iteration.inFlight ++ call.late
    result := result }

/-- The call ends inside an iteration. -/
def CallState.abandon (call : CallState Worker Handler) (iteration : Iteration Worker)
    (phase : Phase Worker Handler) : CallState Worker Handler :=
  { call with
    phase := phase
    late := iteration.inFlight ++ call.late }

/-- The claimed copies that a call still has to deal with. -/
def CallState.held (call : CallState Worker Handler) : List (OutboxRow Worker) :=
  match call.phase with
  | .claiming _ (some rows) => rows
  | .iterating iteration _ => iteration.event :: iteration.rest
  | _ => []

/-- The extendLocks in flight, of this iteration and of earlier ones. -/
def CallState.extensions (call : CallState Worker Handler) : List (String × Nat) :=
  match call.phase with
  | .iterating iteration _ => iteration.inFlight ++ call.late
  | _ => call.late

theorem Setup.held_nextEvent (setup : Setup Worker Handler) (now : Nat)
    (events : List (OutboxRow Worker)) (late : List (String × Nat)) (result : ProcessOutboxResult) :
    CallState.held
      { phase := setup.nextEvent now events
        late := late
        result := result } = events := by
  cases events <;> rfl

theorem Setup.extensions_nextEvent (setup : Setup Worker Handler) (now : Nat)
    (events : List (OutboxRow Worker)) (late : List (String × Nat)) (result : ProcessOutboxResult) :
    CallState.extensions
      { phase := setup.nextEvent now events
        late := late
        result := result } = late := by
  cases events <;> rfl

variable [DecidableEq Worker]

def State.update (state : State Worker Handler) (call : Worker)
    (after : CallState Worker Handler) : State Worker Handler :=
  { state with calls := Function.update state.calls call after }

/-- The database executes a statement of a call. -/
def Setup.execute (setup : Setup Worker Handler) (state : State Worker Handler)
    (call : Worker) : Statement Worker → State Worker Handler
  | .claimPendingBatch now scan =>
      { state with
        events := (claimPendingBatch setup.options state.events now call scan).1 }
  | .extendLock now id =>
      { state with events := (extendLock state.events now id call).1 }
  | .markProcessed id =>
      { state with events := (markProcessed state.events id call).1 }
  | .markFailed now event =>
      let (events, marked) := markFailed setup.options state.events now event call
      { state with
        events := events
        failedMarks := if marked then event.id :: state.failedMarks else state.failedMarks }

def Setup.step (setup : Setup Worker Handler)
    (state : State Worker Handler) : Action Worker → Option (State Worker Handler)
  | .advance milliseconds => some { state with now := state.now + milliseconds }
  | .append id eventName payload occurredAt availableAt =>
      (append state.events id eventName payload occurredAt availableAt state.now).map
        fun events =>
          { state with
            events := events
            appended := id :: state.appended }
  | .start call =>
      let before := state.calls call
      match before.phase with
      | .ready =>
          some (state.update call (before.goto (.claiming (setup.clock call state.now) none)))
      | _ => none
  | .claim call scan =>
      let before := state.calls call
      match before.phase with
      | .claiming now none =>
          let rows := (claimPendingBatch setup.options state.events now call scan).2
          some ((setup.execute state call (.claimPendingBatch now scan)).update call
            (before.goto (.claiming now (some rows))))
      | _ => none
  | .claimAnswered call =>
      let before := state.calls call
      match before.phase with
      | .claiming _ (some rows) =>
          some (state.update call
            { before with
              phase := setup.nextEvent state.now rows
              result := { before.result with selected := rows.length } })
      | _ => none
  | .claimFails call =>
      let before := state.calls call
      match before.phase with
      | .claiming _ _ => some (state.update call (before.goto .rejected))
      | _ => none
  | .heartbeatTimer call =>
      let before := state.calls call
      match before.phase with
      | .iterating iteration stage =>
          if iteration.nextHeartbeat ≤ state.now then
            let beaten :=
              iteration.beat setup.options state.now (setup.clock call state.now)
            some (state.update call (before.goto (.iterating beaten stage)))
          else none
      | _ => none
  | .extendLock call =>
      let before := state.calls call
      match before.phase with
      | .iterating iteration stage =>
          match iteration.heartbeat with
          | .sent date =>
              let extended := (extendLock state.events date iteration.event.id call).2
              some ((setup.execute state call (.extendLock date iteration.event.id)).update call
                (before.goto (.iterating
                  { iteration with heartbeat := .executed extended } stage)))
          | _ => none
      | _ => none
  | .extendLockAnswered call =>
      let before := state.calls call
      match before.phase with
      | .iterating iteration stage =>
          match iteration.heartbeat with
          | .executed extended =>
              some (state.update call
                (before.goto (.iterating (iteration.extended extended) stage)))
          | _ => none
      | _ => none
  | .extendLockFails call =>
      let before := state.calls call
      match before.phase with
      | .iterating iteration stage =>
          if iteration.heartbeat = .idle then none
          else
            some (state.update call
              (before.goto (.iterating (iteration.extended false) stage)))
      | _ => none
  | .lateExtendLock call id date =>
      let before := state.calls call
      if (id, date) ∈ before.late then
        some ((setup.execute state call (.extendLock date id)).update call
          { before with late := before.late.erase (id, date) })
      else none
  | .timeout call =>
      let before := state.calls call
      match before.phase with
      | .iterating iteration (.publishing routing) =>
          match iteration.timeoutAt with
          | some timeoutAt =>
              if timeoutAt ≤ state.now then
                some (state.update call (before.goto (.iterating
                  { iteration with
                    timeoutAt := none
                    handlerTimedOut := true } (.publishing routing))))
              else none
          | none => none
      | _ => none
  | .handlerResolves call =>
      let before := state.calls call
      match before.phase with
      | .iterating iteration (.publishing (.awaiting (handler :: pending) resolved)) =>
          some (state.update call (before.goto
            (.iterating iteration (.publishing (.awaiting pending (resolved ++ [handler]))))))
      | _ => none
  | .handlerRejects call =>
      let before := state.calls call
      match before.phase with
      | .iterating iteration (.publishing (.awaiting (_ :: _) _)) =>
          some (state.update call (before.goto (.iterating iteration (.publishing .thrown))))
      | _ => none
  | .routeSettles call =>
      let before := state.calls call
      let failing : Stage Handler := .markingFailed (setup.clock call state.now) none
      match before.phase with
      | .iterating iteration (.publishing (.awaiting [] resolved)) =>
          let stage :=
            if iteration.handlerTimedOut || iteration.ownershipLost then failing
            else .markingProcessed none
          some { state.update call (before.goto (.iterating iteration stage)) with
            routed :=
              { worker := call
                id := iteration.event.id
                resolved := resolved } :: state.routed }
      | .iterating iteration (.publishing .thrown) =>
          some (state.update call (before.goto (.iterating iteration failing)))
      | _ => none
  | .mark call =>
      let before := state.calls call
      match before.phase with
      | .iterating iteration (.markingProcessed none) =>
          let marked := (markProcessed state.events iteration.event.id call).2
          some ((setup.execute state call (.markProcessed iteration.event.id)).update call
            (before.goto (.iterating iteration (.markingProcessed (some marked)))))
      | .iterating iteration (.markingFailed now none) =>
          let marked :=
            (markFailed setup.options state.events now iteration.event call).2
          some ((setup.execute state call (.markFailed now iteration.event)).update call
            (before.goto (.iterating iteration (.markingFailed now (some marked)))))
      | _ => none
  | .markAnswered call =>
      let before := state.calls call
      match before.phase with
      | .iterating iteration (.markingProcessed (some true)) =>
          some (state.update call (setup.finish state.now before iteration
            { before.result with processed := before.result.processed + 1 }))
      | .iterating iteration (.markingProcessed (some false)) =>
          some (state.update call (before.goto
            (.iterating iteration (.markingFailed (setup.clock call state.now) none))))
      | .iterating iteration (.markingFailed _ (some marked)) =>
          let result :=
            if marked then { before.result with failed := before.result.failed + 1 }
            else before.result
          some (state.update call (setup.finish state.now before iteration result))
      | _ => none
  | .markFails call =>
      let before := state.calls call
      match before.phase with
      | .iterating iteration (.markingProcessed _) =>
          some (state.update call (before.goto
            (.iterating iteration (.markingFailed (setup.clock call state.now) none))))
      | .iterating iteration (.markingFailed _ _) =>
          some (state.update call (before.abandon iteration .rejected))
      | _ => none
  | .crash call =>
      let before := state.calls call
      match before.phase with
      | .returned | .rejected | .crashed => none
      | .iterating iteration _ =>
          some (state.update call (before.abandon iteration .crashed))
      | .ready | .claiming _ _ => some (state.update call (before.goto .crashed))

def State.initial (state : State Worker Handler) : Prop :=
  state.events = Database.Table.empty ∧ state.calls = (fun _ => CallState.fresh) ∧
    state.appended = [] ∧ state.routed = [] ∧ state.failedMarks = []

def Setup.system (setup : Setup Worker Handler) :
    Transition.System (State Worker Handler) (Action Worker) :=
  { initial := State.initial
    step := setup.step }

def State.empty : State Worker Handler :=
  { now := 0
    events := Database.Table.empty
    calls := fun _ => CallState.fresh
    appended := []
    routed := []
    failedMarks := [] }

/-- Two calls of processPending with the default options and one handler. -/
def userRegistrations : Setup Bool Unit :=
  { options := outboxProcessorDefaultOptions
    handlers := [()]
    supports := fun _ eventName => eventName == "user.registered"
    clock := fun _ now => now
    clock_monotone := fun _ _ _ passed => passed }

end BackendFoundation.Outbox
