/-
The leases of a deployment and the timers that renew them, from the environment that
envSchema accepts to the delays that Node gives its timers.
-/

import BackendFoundation.Jobs.EmailProcessor
import BackendFoundation.Locks.RunWithLock
import BackendFoundation.Outbox.RetryPolicy

namespace BackendFoundation.Config

open Outbox RateLimiter
open Locks (setIntervalDelay)

structure JobExecutionEnv where
  jobExecutionLeaseTtlSeconds : EnvNumber
  jobExecutionHeartbeatIntervalSeconds : EnvNumber
  jobExecutionCompletedRetentionTtlSeconds : EnvNumber

structure JobExecutionEnvMappingInput where
  jobExecutionLeaseTtlSeconds : AtLeast 1
  jobExecutionHeartbeatIntervalSeconds : AtLeast 1
  jobExecutionCompletedRetentionTtlSeconds : AtLeast 1

def JobExecutionEnv.fields (env : JobExecutionEnv) : Option JobExecutionEnvMappingInput := do
  let leaseTtlSeconds ← intAtLeast 1 300 env.jobExecutionLeaseTtlSeconds
  let heartbeatIntervalSeconds ← intAtLeast 1 100 env.jobExecutionHeartbeatIntervalSeconds
  let retentionTtlSeconds ← intAtLeast 1 2592000 env.jobExecutionCompletedRetentionTtlSeconds
  return {
    jobExecutionLeaseTtlSeconds := leaseTtlSeconds
    jobExecutionHeartbeatIntervalSeconds := heartbeatIntervalSeconds
    jobExecutionCompletedRetentionTtlSeconds := retentionTtlSeconds }

/-- The job execution part of superRefine. -/
def JobExecutionEnvMappingInput.issues (env : JobExecutionEnvMappingInput) : List Issue :=
  let maxJobExecutionHeartbeat := env.jobExecutionLeaseTtlSeconds.val / 2
  Issue.when "JOB_EXECUTION_HEARTBEAT_INTERVAL_SECONDS"
    ("JOB_EXECUTION_HEARTBEAT_INTERVAL_SECONDS must be less than or equal to " ++
      toString maxJobExecutionHeartbeat)
    (decide (maxJobExecutionHeartbeat < env.jobExecutionHeartbeatIntervalSeconds.val))

/-- The variables of the environment that give the times of a lease. -/
structure TimingEnv where
  outbox : OutboxEnv
  jobExecution : JobExecutionEnv

structure TimingFields where
  outbox : OutboxEnvMappingInput
  jobExecution : JobExecutionEnvMappingInput

def TimingEnv.fields (env : TimingEnv) : Option TimingFields := do
  let outbox ← env.outbox.fields
  let jobExecution ← env.jobExecution.fields
  return {
    outbox := outbox
    jobExecution := jobExecution }

/-- What envSchema accepts of these variables. -/
def TimingEnv.parse (env : TimingEnv) : Option TimingFields :=
  env.fields.filter fun fields =>
    (fields.outbox.issues ++ fields.jobExecution.issues).isEmpty

structure JobExecutionOptions extends Jobs.JobExecutionOptions where
  heartbeatIntervalSeconds : Nat

def mapJobExecutionEnvToOptions (env : JobExecutionEnvMappingInput) : JobExecutionOptions :=
  { leaseTtlSeconds := env.jobExecutionLeaseTtlSeconds.val
    heartbeatIntervalSeconds := env.jobExecutionHeartbeatIntervalSeconds.val
    completedRetentionTtlSeconds := env.jobExecutionCompletedRetentionTtlSeconds.val }

/-- How long a lease lasts, and how long its heartbeat timer waits. -/
structure Lease where
  ttlMs : Nat
  heartbeatDelay : Nat

/-- A heartbeat comes before the lease ends, and no oftener than once in a second. -/
def Lease.KeptAlive (lease : Lease) : Prop :=
  lease.heartbeatDelay < lease.ttlMs ∧ 1000 ≤ lease.heartbeatDelay

namespace TimingFields

variable (fields : TimingFields)

/-- The lock of an outbox row, with the interval of processPending. -/
def rowLock : Lease :=
  let options := mapOutboxEnvToOptions fields.outbox
  { ttlMs := options.lockTtlMs
    heartbeatDelay := setIntervalDelay options.heartbeatIntervalMs }

/-- The lease of a job execution, with the interval of EmailProcessor.process. -/
def jobLease : Lease :=
  let options := mapJobExecutionEnvToOptions fields.jobExecution
  { ttlMs := options.leaseTtlSeconds * 1000
    heartbeatDelay := setIntervalDelay (options.heartbeatIntervalSeconds * 1000) }

/-- The lock of a cron tick, with the interval of runWithLock. -/
def cronLock : Lease :=
  let options := mapOutboxEnvToOptions fields.outbox
  { ttlMs := options.cronLockTtlMs
    heartbeatDelay := Locks.heartbeatIntervalMs options.cronLockTtlMs }

/-- The interval of OutboxSchedule.onModuleInit. -/
def pollDelay : Nat :=
  setIntervalDelay (mapOutboxEnvToOptions fields.outbox).pollIntervalMs

/-- The timer of publishEventWithTimeout, which 0 disables. -/
def handlerTimeout : Option Nat :=
  let options := mapOutboxEnvToOptions fields.outbox
  if options.handlerTimeoutMs = 0 then none
  else some (setIntervalDelay options.handlerTimeoutMs)

/-- The three leases outlive their heartbeats, polls are further apart than a cron lock is
long, and a handler has at least the time of a row lock. -/
structure KeepsLeasesAlive : Prop where
  rowLock : fields.rowLock.KeptAlive
  jobLease : fields.jobLease.KeptAlive
  cronLock : fields.cronLock.KeptAlive
  polls : fields.pollDelay = fields.outbox.outboxPollIntervalMs.val
  pollsApart : fields.cronLock.ttlMs < fields.pollDelay
  handler : ∀ delay, fields.handlerTimeout = some delay → fields.rowLock.ttlMs ≤ delay

/-- The intervals that a Node timer can wait for, and a cron lock of more than a second. -/
structure InTimerRange : Prop where
  heartbeat : fields.outbox.outboxHeartbeatIntervalMs.val ≤ 2147483647
  jobHeartbeat : fields.jobExecution.jobExecutionHeartbeatIntervalSeconds.val ≤ 2147483
  poll : fields.outbox.outboxPollIntervalMs.val ≤ 2147483647
  handlerTimeout : fields.outbox.outboxHandlerTimeoutMs.val ≤ 2147483647
  cronLock : 1000 < fields.outbox.outboxCronLockTtlMs.val

end TimingFields

/-- A timer that waits for at least two milliseconds is in range exactly when it waits as
long as it was told. -/
theorem le_setIntervalDelay_iff {milliseconds least : Nat} (long : 1 < least)
    (enough : least ≤ milliseconds) :
    least ≤ setIntervalDelay milliseconds ↔ milliseconds ≤ 2147483647 := by
  unfold setIntervalDelay
  split
  · rename_i inRange
    exact iff_of_true enough inRange
  · rename_i beyond
    exact iff_of_false (Nat.not_le_of_lt long) beyond

theorem setIntervalDelay_eq_iff {milliseconds : Nat} (long : 1 < milliseconds) :
    setIntervalDelay milliseconds = milliseconds ↔ milliseconds ≤ 2147483647 := by
  unfold setIntervalDelay
  split
  · rename_i inRange
    exact iff_of_true rfl inRange
  · rename_i beyond
    exact iff_of_false (Nat.ne_of_lt long) beyond

theorem setIntervalDelay_le {milliseconds : Nat} (positive : 0 < milliseconds) :
    setIntervalDelay milliseconds ≤ milliseconds := by
  unfold setIntervalDelay
  split
  · exact Nat.le_refl milliseconds
  · exact positive

/-- A heartbeat of at most half a lease. -/
theorem keptAlive_iff {ttlMs intervalMs : Nat} (second : 1000 ≤ intervalMs)
    (half : 2 * intervalMs ≤ ttlMs) :
    Lease.KeptAlive
        { ttlMs := ttlMs
          heartbeatDelay := setIntervalDelay intervalMs } ↔
      intervalMs ≤ 2147483647 := by
  have waits := setIntervalDelay_le (Nat.lt_of_lt_of_le (by decide) second)
  rw [← le_setIntervalDelay_iff (by decide) second]
  constructor
  · intro alive
    exact alive.2
  · intro slow
    exact ⟨by dsimp only; omega, slow⟩

/-- A heartbeat of a third of a lease, but not below one second. -/
theorem keptAlive_cron_iff {ttlMs : Nat} (inRange : ttlMs ≤ 2147483647) :
    Lease.KeptAlive
        { ttlMs := ttlMs
          heartbeatDelay := Locks.heartbeatIntervalMs ttlMs } ↔
      1000 < ttlMs := by
  have waits : Locks.heartbeatIntervalMs ttlMs = max (ttlMs / 3) 1000 :=
    if_pos (by omega)
  unfold Lease.KeptAlive
  rw [waits]
  dsimp only
  omega

variable {env : TimingEnv} {fields : TimingFields}

theorem TimingEnv.outbox_accepted (accepted : env.parse = some fields) :
    env.outbox.parse = some fields.outbox := by
  obtain ⟨read, unchallenged⟩ := Option.filter_eq_some_iff.mp accepted
  obtain ⟨outbox, first, read⟩ := Option.bind_eq_some_iff.mp read
  obtain ⟨jobExecution, _, read⟩ := Option.bind_eq_some_iff.mp read
  cases read
  rw [List.isEmpty_iff, List.append_eq_nil_iff] at unchallenged
  exact Option.filter_eq_some_iff.mpr ⟨first, List.isEmpty_iff.mpr unchallenged.1⟩

theorem TimingEnv.jobExecution_checked (accepted : env.parse = some fields) :
    2 * fields.jobExecution.jobExecutionHeartbeatIntervalSeconds.val ≤
      fields.jobExecution.jobExecutionLeaseTtlSeconds.val := by
  have unchallenged := (Option.filter_eq_some_iff.mp accepted).2
  rw [List.isEmpty_iff, List.append_eq_nil_iff] at unchallenged
  have passed := Issue.when_eq_nil_iff.mp unchallenged.2
  rw [decide_eq_false_iff_not] at passed
  omega

theorem rowLock_keptAlive_iff (accepted : env.parse = some fields) :
    fields.rowLock.KeptAlive ↔ fields.outbox.outboxHeartbeatIntervalMs.val ≤ 2147483647 :=
  keptAlive_iff fields.outbox.outboxHeartbeatIntervalMs.property
    (OutboxEnv.checked (TimingEnv.outbox_accepted accepted)).2.2.1

theorem jobLease_keptAlive_iff (accepted : env.parse = some fields) :
    fields.jobLease.KeptAlive ↔
      fields.jobExecution.jobExecutionHeartbeatIntervalSeconds.val ≤ 2147483 := by
  have checked := TimingEnv.jobExecution_checked accepted
  have positive := fields.jobExecution.jobExecutionHeartbeatIntervalSeconds.property
  unfold TimingFields.jobLease mapJobExecutionEnvToOptions
  rw [keptAlive_iff (by dsimp only; omega) (by dsimp only; omega)]
  dsimp only
  omega

theorem pollDelay_eq_iff (fields : TimingFields) :
    fields.pollDelay = fields.outbox.outboxPollIntervalMs.val ↔
      fields.outbox.outboxPollIntervalMs.val ≤ 2147483647 :=
  setIntervalDelay_eq_iff
    (Nat.lt_of_lt_of_le (by decide) fields.outbox.outboxPollIntervalMs.property)

theorem handlerTimeout_iff (accepted : env.parse = some fields) :
    (∀ delay, fields.handlerTimeout = some delay → fields.rowLock.ttlMs ≤ delay) ↔
      fields.outbox.outboxHandlerTimeoutMs.val ≤ 2147483647 := by
  have checked := (OutboxEnv.checked (TimingEnv.outbox_accepted accepted)).2.2.2
  have second := fields.outbox.outboxLockTtlMs.property
  by_cases disabled : fields.outbox.outboxHandlerTimeoutMs.val = 0
  · apply iff_of_true
    · intro delay enabled
      have without : fields.handlerTimeout = none := if_pos disabled
      rw [without] at enabled
      cases enabled
    · omega
  · have enabled : fields.handlerTimeout =
        some (setIntervalDelay fields.outbox.outboxHandlerTimeoutMs.val) :=
      if_neg disabled
    rw [← le_setIntervalDelay_iff (Nat.lt_of_lt_of_le (by decide) second)
      (checked.resolve_left disabled), enabled]
    constructor
    · intro every
      exact every _ rfl
    · intro long delay same
      cases same
      exact long

/-- An accepted environment keeps its leases alive exactly when its intervals fit into the
range of a timer and a cron lock lasts longer than a second. -/
theorem keepsLeasesAlive_iff (accepted : env.parse = some fields) :
    fields.KeepsLeasesAlive ↔ fields.InTimerRange := by
  have checked := (OutboxEnv.checked (TimingEnv.outbox_accepted accepted)).1
  constructor
  · intro alive
    have poll := (pollDelay_eq_iff fields).mp alive.polls
    have short : fields.outbox.outboxCronLockTtlMs.val ≤ 2147483647 := by omega
    exact
      { heartbeat := (rowLock_keptAlive_iff accepted).mp alive.rowLock
        jobHeartbeat := (jobLease_keptAlive_iff accepted).mp alive.jobLease
        poll := poll
        handlerTimeout := (handlerTimeout_iff accepted).mp alive.handler
        cronLock := (keptAlive_cron_iff short).mp alive.cronLock }
  · intro inRange
    have poll := inRange.poll
    have polls := (pollDelay_eq_iff fields).mpr poll
    have short : fields.outbox.outboxCronLockTtlMs.val ≤ 2147483647 := by omega
    exact
      { rowLock := (rowLock_keptAlive_iff accepted).mpr inRange.heartbeat
        jobLease := (jobLease_keptAlive_iff accepted).mpr inRange.jobHeartbeat
        cronLock := (keptAlive_cron_iff short).mpr inRange.cronLock
        polls := polls
        pollsApart := polls ▸ checked
        handler := (handlerTimeout_iff accepted).mpr inRange.handlerTimeout }

/-- The environment that sets none of these variables. -/
def defaultTimingEnv : TimingEnv :=
  { outbox := defaultOutboxEnv
    jobExecution :=
      { jobExecutionLeaseTtlSeconds := .undefined
        jobExecutionHeartbeatIntervalSeconds := .undefined
        jobExecutionCompletedRetentionTtlSeconds := .undefined } }

theorem keepsLeasesAlive_default :
    ∃ fields, defaultTimingEnv.parse = some fields ∧ fields.KeepsLeasesAlive :=
  ⟨_, rfl, (@keepsLeasesAlive_iff defaultTimingEnv _ rfl).mpr
    { heartbeat := by decide
      jobHeartbeat := by decide
      poll := by decide
      handlerTimeout := by decide
      cronLock := by decide }⟩

/-- OUTBOX_CRON_LOCK_TTL_MS=1000 lets the lock end when its first heartbeat is due, and
OUTBOX_POLL_INTERVAL_MS=2592000000, a poll in thirty days, polls every millisecond. -/
theorem not_keepsLeasesAlive :
    (∃ fields : TimingFields,
      TimingEnv.parse
          { defaultTimingEnv with
            outbox :=
              { defaultOutboxEnv with
                outboxCronLockTtlMs := .finite 1000 } } = some fields ∧
        fields.cronLock.heartbeatDelay = 1000 ∧ fields.cronLock.ttlMs = 1000 ∧
        ¬ fields.KeepsLeasesAlive) ∧
    ∃ fields : TimingFields,
      TimingEnv.parse
          { defaultTimingEnv with
            outbox :=
              { defaultOutboxEnv with
                outboxPollIntervalMs := .finite 2592000000 } } = some fields ∧
        fields.pollDelay = 1 ∧ ¬ fields.KeepsLeasesAlive := by
  constructor
  · refine ⟨_, rfl, rfl, rfl, ?_⟩
    intro alive
    exact absurd alive.cronLock.1 (by decide)
  · refine ⟨_, rfl, rfl, ?_⟩
    intro alive
    exact absurd alive.polls (by decide)

end BackendFoundation.Config
