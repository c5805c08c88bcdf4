/-
The outbox part of the environment, as envSchema accepts it, and the options that
mapOutboxEnvToOptions makes of it.
-/

import BackendFoundation.Outbox.Events
import BackendFoundation.RateLimiter.NoLockOut

namespace BackendFoundation.Outbox

open RateLimiter (EnvNumber)

/-- Number.MAX_SAFE_INTEGER -/
def maxSafeInteger : Nat := 9007199254740991

abbrev AtLeast (least : Nat) := { value : Nat // least ≤ value }

/-- z.coerce.number().int().min(least).default(fallback); int() accepts safe integers. -/
def intAtLeast (least fallback : Nat) : EnvNumber → Option (AtLeast least)
  | .undefined => if inRange : least ≤ fallback then some ⟨fallback, inRange⟩ else none
  | .notFinite => none
  | .finite value =>
      if inRange : least ≤ value.num.toNat then
        if value.den = 1 ∧ 0 ≤ value.num ∧ value.num.toNat ≤ maxSafeInteger then
          some ⟨value.num.toNat, inRange⟩
        else none
      else none

structure OutboxEnv where
  outboxBatchSize : EnvNumber
  outboxMaxAttempts : EnvNumber
  outboxLockTtlMs : EnvNumber
  outboxHeartbeatIntervalMs : EnvNumber
  outboxHandlerTimeoutMs : EnvNumber
  outboxPollIntervalMs : EnvNumber
  outboxCronLockTtlMs : EnvNumber
  outboxConcurrency : EnvNumber
  outboxRetryBaseDelaySeconds : EnvNumber
  outboxRetryMaxDelaySeconds : EnvNumber

structure OutboxEnvMappingInput where
  outboxBatchSize : AtLeast 1
  outboxMaxAttempts : AtLeast 1
  outboxLockTtlMs : AtLeast 1000
  outboxHeartbeatIntervalMs : AtLeast 1000
  outboxHandlerTimeoutMs : AtLeast 0
  outboxPollIntervalMs : AtLeast 1000
  outboxCronLockTtlMs : AtLeast 1000
  outboxConcurrency : AtLeast 1
  outboxRetryBaseDelaySeconds : AtLeast 1
  outboxRetryMaxDelaySeconds : AtLeast 1
deriving DecidableEq

structure Issue where
  path : String
  message : String
deriving DecidableEq, Repr

def Issue.when (path message : String) (condition : Bool) : List Issue :=
  if condition then
    [{ path := path
       message := message }]
  else []

/-- The outbox part of superRefine. -/
def OutboxEnvMappingInput.issues (env : OutboxEnvMappingInput) : List Issue :=
  let maxOutboxHeartbeat := env.outboxLockTtlMs.val / 2
  Issue.when "OUTBOX_CRON_LOCK_TTL_MS"
      "OUTBOX_CRON_LOCK_TTL_MS must be less than OUTBOX_POLL_INTERVAL_MS"
      (decide (env.outboxPollIntervalMs.val ≤ env.outboxCronLockTtlMs.val)) ++
    Issue.when "OUTBOX_RETRY_MAX_DELAY_SECONDS"
      ("OUTBOX_RETRY_MAX_DELAY_SECONDS must be greater than or equal to " ++
        "OUTBOX_RETRY_BASE_DELAY_SECONDS")
      (decide (env.outboxRetryMaxDelaySeconds.val < env.outboxRetryBaseDelaySeconds.val)) ++
    Issue.when "OUTBOX_HEARTBEAT_INTERVAL_MS"
      ("OUTBOX_HEARTBEAT_INTERVAL_MS must be less than or equal to " ++
        toString maxOutboxHeartbeat)
      (decide (maxOutboxHeartbeat < env.outboxHeartbeatIntervalMs.val)) ++
    Issue.when "OUTBOX_HANDLER_TIMEOUT_MS"
      "OUTBOX_HANDLER_TIMEOUT_MS must be 0 or greater than or equal to OUTBOX_LOCK_TTL_MS"
      (decide (0 < env.outboxHandlerTimeoutMs.val ∧
        env.outboxHandlerTimeoutMs.val < env.outboxLockTtlMs.val))

def OutboxEnv.fields (env : OutboxEnv) : Option OutboxEnvMappingInput := do
  let batchSize ← intAtLeast 1 50 env.outboxBatchSize
  let maxAttempts ← intAtLeast 1 10 env.outboxMaxAttempts
  let lockTtlMs ← intAtLeast 1000 300000 env.outboxLockTtlMs
  let heartbeatIntervalMs ← intAtLeast 1000 100000 env.outboxHeartbeatIntervalMs
  let handlerTimeoutMs ← intAtLeast 0 0 env.outboxHandlerTimeoutMs
  let pollIntervalMs ← intAtLeast 1000 60000 env.outboxPollIntervalMs
  let cronLockTtlMs ← intAtLeast 1000 55000 env.outboxCronLockTtlMs
  let concurrency ← intAtLeast 1 1 env.outboxConcurrency
  let retryBaseDelaySeconds ← intAtLeast 1 30 env.outboxRetryBaseDelaySeconds
  let retryMaxDelaySeconds ← intAtLeast 1 3600 env.outboxRetryMaxDelaySeconds
  return {
    outboxBatchSize := batchSize
    outboxMaxAttempts := maxAttempts
    outboxLockTtlMs := lockTtlMs
    outboxHeartbeatIntervalMs := heartbeatIntervalMs
    outboxHandlerTimeoutMs := handlerTimeoutMs
    outboxPollIntervalMs := pollIntervalMs
    outboxCronLockTtlMs := cronLockTtlMs
    outboxConcurrency := concurrency
    outboxRetryBaseDelaySeconds := retryBaseDelaySeconds
    outboxRetryMaxDelaySeconds := retryMaxDelaySeconds }

/-- What envSchema accepts of the outbox variables. -/
def OutboxEnv.parse (env : OutboxEnv) : Option OutboxEnvMappingInput :=
  env.fields.filter fun fields => fields.issues.isEmpty

/-- With the options that the schedule and the queue worker read. -/
structure OutboxModuleOptions extends OutboxProcessorOptions where
  pollIntervalMs : Nat
  cronLockTtlMs : Nat
  concurrency : Nat

/-- Floating point is exact here: a product with a power of two has no rounding error, and
where it overflows to Infinity the minimum is the other argument. -/
def mapOutboxEnvToOptions (env : OutboxEnvMappingInput) : OutboxModuleOptions :=
  { batchSize := env.outboxBatchSize.val
    maxAttempts := env.outboxMaxAttempts.val
    maxAttempts_pos := env.outboxMaxAttempts.property
    lockTtlMs := env.outboxLockTtlMs.val
    heartbeatIntervalMs := env.outboxHeartbeatIntervalMs.val
    handlerTimeoutMs := env.outboxHandlerTimeoutMs.val
    retryDelaySeconds := fun attempt =>
      min (2 ^ attempt * env.outboxRetryBaseDelaySeconds.val)
        env.outboxRetryMaxDelaySeconds.val
    pollIntervalMs := env.outboxPollIntervalMs.val
    cronLockTtlMs := env.outboxCronLockTtlMs.val
    concurrency := env.outboxConcurrency.val }

variable {env : OutboxEnv} {fields : OutboxEnvMappingInput}

theorem Issue.when_eq_nil_iff {path message : String} {condition : Bool} :
    Issue.when path message condition = [] ↔ condition = false := by
  cases condition <;> simp [Issue.when]

/-- The environment without an outbox variable. -/
def defaultOutboxEnv : OutboxEnv :=
  { outboxBatchSize := .undefined
    outboxMaxAttempts := .undefined
    outboxLockTtlMs := .undefined
    outboxHeartbeatIntervalMs := .undefined
    outboxHandlerTimeoutMs := .undefined
    outboxPollIntervalMs := .undefined
    outboxCronLockTtlMs := .undefined
    outboxConcurrency := .undefined
    outboxRetryBaseDelaySeconds := .undefined
    outboxRetryMaxDelaySeconds := .undefined }

/-- The two places that name defaults agree. -/
theorem OutboxEnv.parse_default : ∃ fields, defaultOutboxEnv.parse = some fields ∧
    (mapOutboxEnvToOptions fields).toOutboxProcessorOptions = outboxProcessorDefaultOptions :=
  ⟨_, rfl, rfl⟩

/-- What the cross-checks leave. -/
theorem OutboxEnv.checked (accepted : env.parse = some fields) :
    fields.outboxCronLockTtlMs.val < fields.outboxPollIntervalMs.val ∧
      fields.outboxRetryBaseDelaySeconds.val ≤ fields.outboxRetryMaxDelaySeconds.val ∧
      2 * fields.outboxHeartbeatIntervalMs.val ≤ fields.outboxLockTtlMs.val ∧
      (fields.outboxHandlerTimeoutMs.val = 0 ∨
        fields.outboxLockTtlMs.val ≤ fields.outboxHandlerTimeoutMs.val) := by
  have none := (Option.filter_eq_some_iff.mp accepted).2
  rw [List.isEmpty_iff] at none
  simp only [OutboxEnvMappingInput.issues, List.append_eq_nil_iff, Issue.when_eq_nil_iff,
    decide_eq_false_iff_not] at none
  omega

section Delay

variable (env : OutboxEnvMappingInput)

theorem retryDelaySeconds_monotone :
    Monotone (mapOutboxEnvToOptions env).retryDelaySeconds := by
  intro attempt later passed
  have powers : 2 ^ attempt ≤ 2 ^ later := Nat.pow_le_pow_right Nat.two_pos passed
  have products := Nat.mul_le_mul_right env.outboxRetryBaseDelaySeconds.val powers
  exact Nat.le_min.mpr
    ⟨(Nat.min_le_left _ _).trans products, Nat.min_le_right _ _⟩

theorem retryDelaySeconds_le (attempt : Nat) :
    (mapOutboxEnvToOptions env).retryDelaySeconds attempt ≤
      env.outboxRetryMaxDelaySeconds.val :=
  Nat.min_le_right _ _

theorem le_retryDelaySeconds
    (ordered : env.outboxRetryBaseDelaySeconds.val ≤ env.outboxRetryMaxDelaySeconds.val)
    (attempt : Nat) :
    env.outboxRetryBaseDelaySeconds.val ≤
      (mapOutboxEnvToOptions env).retryDelaySeconds attempt := by
  have product : env.outboxRetryBaseDelaySeconds.val ≤
      2 ^ attempt * env.outboxRetryBaseDelaySeconds.val :=
    Nat.le_mul_of_pos_left _ (Nat.two_pow_pos attempt)
  exact Nat.le_min.mpr ⟨product, ordered⟩

end Delay

end BackendFoundation.Outbox
