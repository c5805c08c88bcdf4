/-
OutboxSchedule in any number of cron processes: each has an interval of its own, and each
tick of it is one runWithLock call on cron:outbox whose handler calls queues.add.
-/

import BackendFoundation.Locks.Ownership

namespace BackendFoundation.Cron

/-- The part of OutboxProcessorOptions that the schedule reads. -/
structure OutboxProcessorOptions where
  pollIntervalMs : Nat
  cronLockTtlMs : Nat
  cronLockTtlMs_pos : 0 < cronLockTtlMs
  cronLockTtlMs_lt : cronLockTtlMs < pollIntervalMs

/-- The ticks of a replica are numbered. Each acquire draws its own randomUUID. -/
structure Setup (Replica : Type) where
  options : OutboxProcessorOptions
  token : Replica × Nat → String
  token_injective : Function.Injective token

structure ReplicaState where
  nextIntervalAt : Option Nat
  ticks : Nat
  tickRunning : Bool
  shuttingDown : Bool
deriving DecidableEq, Repr

def ReplicaState.fresh : ReplicaState :=
  { nextIntervalAt := none
    ticks := 0
    tickRunning := false
    shuttingDown := false }

/-- queued: the job outbox-process-pending is in the queue. A second one with its id is
not added. -/
structure State (Replica : Type) where
  locks : Locks.State (Replica × Nat) Unit
  replicas : Replica → ReplicaState
  queued : Bool

inductive Action (Replica : Type)
  | onModuleInit (replica : Replica)
  | onModuleDestroy (replica : Replica)
  | interval (replica : Replica)
  | run (inner : Locks.Action (Replica × Nat) Unit)
  | tickEnds (replica : Replica)
  | jobRemoved

variable {Replica : Type}

/-- The runWithLock calls of all ticks. -/
def Setup.calls (setup : Setup Replica) : Locks.Setup (Replica × Nat) :=
  { key := "cron:outbox"
    entry := fun _ => .runWithLock
    ttlMs := fun _ => setup.options.cronLockTtlMs
    ttlMs_pos := fun _ => setup.options.cronLockTtlMs_pos
    token := setup.token
    token_injective := setup.token_injective }

/-- runTickSafely: at most one tick of a replica runs, and none begins after shutdown. -/
def ReplicaState.runTickSafely (replica : ReplicaState) : ReplicaState :=
  if replica.shuttingDown || replica.tickRunning then replica
  else { replica with ticks := replica.ticks + 1, tickRunning := true }

/-- The tick that a replica runs. -/
def State.Current (state : State Replica) (tick : Replica × Nat) : Prop :=
  (state.replicas tick.1).tickRunning = true ∧ tick.2 + 1 = (state.replicas tick.1).ticks

instance (state : State Replica) (tick : Replica × Nat) : Decidable (state.Current tick) :=
  inferInstanceAs (Decidable (_ ∧ _))

/-- The call is made by the tick that runs. -/
def State.permits (state : State Replica) : Locks.Action (Replica × Nat) Unit → Bool
  | .acquire tick | .acquireFails tick => decide (state.Current tick)
  | _ => true

/-- queues.add has put the job into the queue when it resolves. -/
def State.queues (state : State Replica) : Locks.Action (Replica × Nat) Unit → Bool
  | .handlerResolves _ _ => true
  | _ => state.queued

/-- runWithLock has fulfilled or rejected. -/
def callEnded {Value : Type} : Locks.Phase Value → Bool
  | .failed | .skipped | .returned _ => true
  | _ => false

variable [DecidableEq Replica]

def State.update (state : State Replica) (replica : Replica) (after : ReplicaState) :
    State Replica :=
  { state with replicas := Function.update state.replicas replica after }

def Setup.step (setup : Setup Replica) (state : State Replica) :
    Action Replica → Option (State Replica)
  | .onModuleInit replica =>
      let before := state.replicas replica
      if before.nextIntervalAt.isNone && !before.shuttingDown then
        some (state.update replica
          { before with
            nextIntervalAt := some
              (state.locks.lock.now + Locks.setIntervalDelay setup.options.pollIntervalMs) })
      else none
  | .onModuleDestroy replica =>
      some (state.update replica
        { state.replicas replica with nextIntervalAt := none, shuttingDown := true })
  | .interval replica =>
      let before := state.replicas replica
      match before.nextIntervalAt with
      | none => none
      | some due =>
          if due ≤ state.locks.lock.now then
            some (state.update replica
              { before.runTickSafely with
                nextIntervalAt := some (state.locks.lock.now +
                  Locks.setIntervalDelay setup.options.pollIntervalMs) })
          else none
  | .run inner =>
      if state.permits inner then
        (setup.calls.step state.locks inner).map fun locks =>
          { state with locks := locks, queued := state.queues inner }
      else none
  | .tickEnds replica =>
      let before := state.replicas replica
      if before.tickRunning &&
          callEnded (state.locks.calls (replica, before.ticks - 1)).phase then
        some (state.update replica { before with tickRunning := false })
      else none
  | .jobRemoved => some { state with queued := false }

def State.empty : State Replica :=
  { locks := Locks.State.empty
    replicas := fun _ => ReplicaState.fresh
    queued := false }

def State.initial (state : State Replica) : Prop :=
  state.locks.initial ∧ state.replicas = fun _ => ReplicaState.fresh

def Setup.system (setup : Setup Replica) :
    Transition.System (State Replica) (Action Replica) :=
  { initial := State.initial
    step := setup.step }

/-- A tick has called queues.add at a moment: it is the first thing its handler does. -/
def State.Enqueued (state : State Replica) (tick : Replica × Nat) (moment : Nat) : Prop :=
  moment ∈ (state.locks.calls tick).handlerStarts

end BackendFoundation.Cron
