/-
The outbox_events table, its statements, and the routing of one event to its
handlers. Each statement is one atomic step; the time it writes is the one that
the worker read before it issued the statement.
-/

import BackendFoundation.Database.Table
import Mathlib.Algebra.Group.Nat.Defs
import Mathlib.Data.List.Sort

namespace BackendFoundation.Outbox

open Database

inductive OutboxStatus
  | pending
  | processing
  | processed
  | failed
deriving DecidableEq, Repr

/-- A worker is the randomUUID that one call of processPending draws for its claim. -/
structure OutboxRow (Worker : Type) where
  id : String
  eventName : String
  payload : String
  occurredAt : Nat
  status : OutboxStatus
  attempts : Nat
  availableAt : Nat
  lockedAt : Option Nat
  lockedBy : Option Worker
  createdAt : Nat
deriving DecidableEq, Repr

structure OutboxProcessorOptions where
  batchSize : Nat
  maxAttempts : Nat
  maxAttempts_pos : 0 < maxAttempts
  lockTtlMs : Nat
  heartbeatIntervalMs : Nat
  handlerTimeoutMs : Nat
  retryDelaySeconds : Nat → Nat

def computeLockHeartbeatIntervalMs (lockTtlMs : Nat) : Nat :=
  max (lockTtlMs / 3) 1000

def defaultRetryDelaySeconds (attempt : Nat) : Nat :=
  min (2 ^ attempt * 30) 3600

def defaultLockTtlMs : Nat := 5 * 60 * 1000

def outboxProcessorDefaultOptions : OutboxProcessorOptions :=
  { batchSize := 50
    maxAttempts := 10
    maxAttempts_pos := by decide
    lockTtlMs := defaultLockTtlMs
    heartbeatIntervalMs := computeLockHeartbeatIntervalMs defaultLockTtlMs
    handlerTimeoutMs := 0
    retryDelaySeconds := defaultRetryDelaySeconds }

abbrev OutboxEvents (Worker : Type) := Table (OutboxRow Worker) String OutboxRow.id

variable {Worker : Type}

/-- DrizzleOutboxWriter.append: availableAt is the writer's time, createdAt the database's. -/
def append (table : OutboxEvents Worker) (id eventName payload : String)
    (occurredAt availableAt createdAt : Nat) : Option (OutboxEvents Worker) :=
  table.insert
    { id := id
      eventName := eventName
      payload := payload
      occurredAt := occurredAt
      status := .pending
      attempts := 0
      availableAt := availableAt
      lockedAt := none
      lockedBy := none
      createdAt := createdAt }

/-- The WHERE clause of claimPendingBatch. -/
def claimable (options : OutboxProcessorOptions) (now : Nat) (row : OutboxRow Worker) : Bool :=
  let expiredLockAt := now - options.lockTtlMs
  decide (row.availableAt ≤ now) && decide (row.attempts ≤ options.maxAttempts - 1) &&
    (decide (row.status = .pending) ||
      (decide (row.status = .processing) &&
        match row.lockedAt with
        | none => true
        | some lockedAt => decide (lockedAt < expiredLockAt)))

/-- What the database is free to do in a SELECT: the rows that other transactions hold are
skipped, and rows that ORDER BY leaves equal come in the order of the ties. -/
structure Scan where
  skipped : List String
  ties : List String
deriving DecidableEq, Repr

def Scan.plain : Scan :=
  { skipped := []
    ties := [] }

/-- ORDER BY created_at. -/
def Scan.le (scan : Scan) (first second : OutboxRow Worker) : Prop :=
  first.createdAt < second.createdAt ∨
    first.createdAt = second.createdAt ∧
      scan.ties.idxOf first.id ≤ scan.ties.idxOf second.id

instance (scan : Scan) : DecidableRel (scan.le : OutboxRow Worker → OutboxRow Worker → Prop) :=
  fun _ _ => inferInstanceAs (Decidable (_ ∨ _))

/-- The rows that SELECT ... FOR UPDATE SKIP LOCKED returns. -/
def claimedRows (options : OutboxProcessorOptions) (table : OutboxEvents Worker) (now : Nat)
    (scan : Scan) : List (OutboxRow Worker) :=
  ((table.select fun row =>
    claimable options now row && !scan.skipped.contains row.id).insertionSort
      scan.le).take options.batchSize

def claimAssignment (now : Nat) (workerId : Worker) :
    Assignment (OutboxRow.id : OutboxRow Worker → String) :=
  { set := fun row =>
      { row with
        status := .processing
        lockedAt := some now
        lockedBy := some workerId }
    keepsKey := fun _ => rfl }

/-- The rows are returned as they were selected, before the update. -/
def claimPendingBatch (options : OutboxProcessorOptions) (table : OutboxEvents Worker)
    (now : Nat) (workerId : Worker) (scan : Scan) :
    OutboxEvents Worker × List (OutboxRow Worker) :=
  let rows := claimedRows options table now scan
  let ids := rows.map OutboxRow.id
  (table.update (fun row => ids.contains row.id) (claimAssignment now workerId), rows)

theorem claimable_iff {options : OutboxProcessorOptions} {now : Nat} {row : OutboxRow Worker} :
    claimable options now row = true ↔
      row.availableAt ≤ now ∧ row.attempts ≤ options.maxAttempts - 1 ∧
        (row.status = .pending ∨
          row.status = .processing ∧
            ∀ lockedAt, row.lockedAt = some lockedAt → lockedAt < now - options.lockTtlMs) := by
  unfold claimable
  cases row.lockedAt <;> simp [and_assoc]

theorem mem_claimedRows {options : OutboxProcessorOptions} {table : OutboxEvents Worker}
    {now : Nat} {scan : Scan} {row : OutboxRow Worker}
    (claimed : row ∈ claimedRows options table now scan) :
    row ∈ table.rows ∧ claimable options now row = true := by
  have sorted := List.mem_of_mem_take claimed
  rw [List.mem_insertionSort] at sorted
  have selected := List.mem_filter.mp sorted
  exact ⟨selected.1, (Bool.and_eq_true_iff.mp selected.2).1⟩

theorem claimedRows_nodup (options : OutboxProcessorOptions) (table : OutboxEvents Worker)
    (now : Nat) (scan : Scan) :
    ((claimedRows options table now scan).map OutboxRow.id).Nodup := by
  have selected : ((table.select fun row =>
      claimable options now row && !scan.skipped.contains row.id).map OutboxRow.id).Nodup :=
    table.primaryKey.sublist (List.filter_sublist.map _)
  have sorted := ((List.perm_insertionSort scan.le _).map OutboxRow.id).nodup_iff.mpr selected
  exact sorted.sublist ((List.take_sublist _ _).map _)

/-- The ids select exactly the rows that were returned. -/
theorem mem_claimedRows_of_id {options : OutboxProcessorOptions} {table : OutboxEvents Worker}
    {now : Nat} {scan : Scan} {row : OutboxRow Worker} (member : row ∈ table.rows)
    (selected : row.id ∈ (claimedRows options table now scan).map OutboxRow.id) :
    row ∈ claimedRows options table now scan := by
  obtain ⟨claimed, present, same⟩ := List.mem_map.mp selected
  rw [table.unique member (mem_claimedRows present).1 same.symm]
  exact present

variable [DecidableEq Worker]

/-- id = ... AND status = 'processing' AND locked_by = ... -/
def owned (id : String) (workerId : Worker) (row : OutboxRow Worker) : Bool :=
  decide (row.id = id) && decide (row.status = .processing) &&
    decide (row.lockedBy = some workerId)

/-- The three conditional updates differ in their SET clause only. -/
def updateOwned (table : OutboxEvents Worker) (id : String) (workerId : Worker)
    (assignment : Assignment (OutboxRow.id : OutboxRow Worker → String)) :
    OutboxEvents Worker × Bool :=
  (table.update (owned id workerId) assignment,
    (table.select (owned id workerId)).length == 1)

def extendAssignment (now : Nat) : Assignment (OutboxRow.id : OutboxRow Worker → String) :=
  { set := fun row => { row with lockedAt := some now }
    keepsKey := fun _ => rfl }

def extendLock (table : OutboxEvents Worker) (now : Nat) (id : String) (workerId : Worker) :
    OutboxEvents Worker × Bool :=
  updateOwned table id workerId (extendAssignment now)

def processedAssignment : Assignment (OutboxRow.id : OutboxRow Worker → String) :=
  { set := fun row =>
      { row with
        status := .processed
        lockedAt := none
        lockedBy := none }
    keepsKey := fun _ => rfl }

def markProcessed (table : OutboxEvents Worker) (id : String) (workerId : Worker) :
    OutboxEvents Worker × Bool :=
  updateOwned table id workerId processedAssignment

/-- The number of attempts comes from the claimed copy of the row. -/
def failedAssignment (options : OutboxProcessorOptions) (now : Nat) (event : OutboxRow Worker) :
    Assignment (OutboxRow.id : OutboxRow Worker → String) :=
  let attempts := event.attempts + 1
  let permanentlyFailed := decide (options.maxAttempts ≤ attempts)
  { set := fun row =>
      { row with
        status := if permanentlyFailed then .failed else .pending
        attempts := attempts
        availableAt :=
          if permanentlyFailed then now
          else now + options.retryDelaySeconds attempts * 1000
        lockedAt := none
        lockedBy := none }
    keepsKey := fun _ => rfl }

def markFailed (options : OutboxProcessorOptions) (table : OutboxEvents Worker) (now : Nat)
    (event : OutboxRow Worker) (workerId : Worker) : OutboxEvents Worker × Bool :=
  updateOwned table event.id workerId (failedAssignment options now event)

theorem owned_iff {id : String} {workerId : Worker} {row : OutboxRow Worker} :
    owned id workerId row = true ↔
      row.id = id ∧ row.status = .processing ∧ row.lockedBy = some workerId := by
  simp [owned, and_assoc]

theorem updateOwned_changes_iff (table : OutboxEvents Worker) (id : String) (workerId : Worker)
    (assignment : Assignment (OutboxRow.id : OutboxRow Worker → String)) :
    (updateOwned table id workerId assignment).2 = true ↔
      ∃ row ∈ table.rows, owned id workerId row = true := by
  have same : ∀ row other : OutboxRow Worker, owned id workerId row = true →
      owned id workerId other = true → row.id = other.id :=
    fun _ _ first second => (owned_iff.mp first).1.trans (owned_iff.mp second).1.symm
  exact beq_iff_eq.trans (table.length_select_eq_one_iff same)

/-- DomainEventRouter.route awaits its handlers one after the other. -/
inductive Routing (Handler : Type)
  | awaiting (pending resolved : List Handler)
  | thrown
deriving DecidableEq, Repr

def route {Handler : Type} (handlers : List Handler) (supports : Handler → String → Bool)
    (eventName : String) : Routing Handler :=
  if handlers.isEmpty then .awaiting [] []
  else
    match handlers.filter fun handler => supports handler eventName with
    | [] => .thrown
    | supporting => .awaiting supporting []

end BackendFoundation.Outbox
