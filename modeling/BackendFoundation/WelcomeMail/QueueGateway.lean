/-
BullQueueGateway.add, and the two that ask it for mails: the handler of registrations, and
ForgotPasswordUseCase.

Of the queue itself it is assumed that a job whose id stands in it already is not taken a
second time.
-/

import BackendFoundation.Jobs.EmailProcessor
import BackendFoundation.Json.StringLiteral
import BackendFoundation.Outbox.Events
import BackendFoundation.PasswordReset.ForgotPassword

namespace BackendFoundation.WelcomeMail

inductive BackoffType
  | fixed
  | exponential
deriving DecidableEq, Repr

structure Backoff where
  type : BackoffType
  delay : Nat
deriving DecidableEq, Repr

inductive Retention
  | flag (remove : Bool)
  | count (keep : Nat)
deriving DecidableEq, Repr

structure QueueJobOptions where
  delay : Option Nat
  attempts : Option Nat
  backoff : Option Backoff
  removeOnComplete : Option Retention
  removeOnFail : Option Retention
  jobId : Option String

structure DefaultJobOptions where
  attempts : Nat
  backoffDelay : Nat

structure JobsOptions where
  attempts : Nat
  backoff : Backoff
  removeOnComplete : Retention
  removeOnFail : Retention
  delay : Option Nat
  jobId : Option String

/-- The options of the call stand over those of the gateway. -/
def buildJobOptions (defaultJobOptions : Option DefaultJobOptions) (options : QueueJobOptions) :
    JobsOptions :=
  let defaults := defaultJobOptions.getD
    { attempts := 3
      backoffDelay := 1000 }
  { attempts := options.attempts.getD defaults.attempts
    backoff := options.backoff.getD
      { type := .exponential
        delay := defaults.backoffDelay }
    removeOnComplete := options.removeOnComplete.getD (.count 1000)
    removeOnFail := options.removeOnFail.getD (.count 5000)
    delay := options.delay
    jobId := options.jobId }

structure Job (Payload : Type) where
  id : String
  name : String
  payload : Payload
  opts : JobsOptions

/-- The jobs that stand in the queue under their ids. Those it has ever taken, the first one
first, are history. -/
structure Queue (Payload : Type) where
  stored : String → Option (Job Payload)
  taken : List (Job Payload)

def Queue.empty {Payload : Type} : Queue Payload :=
  { stored := fun _ => none
    taken := [] }

def Queue.take {Payload : Type} (queue : Queue Payload) (job : Job Payload) : Queue Payload :=
  { stored := Function.update queue.stored job.id (some job)
    taken := queue.taken ++ [job] }

/-- What becomes of a queue that accepts a job. -/
inductive Queue.Accepts {Payload : Type} (queue : Queue Payload) (job : Job Payload) :
    Queue Payload → Prop
  | stands {other : Job Payload} (stored : queue.stored job.id = some other) :
      Accepts queue job queue
  | takes (free : queue.stored job.id = none) : Accepts queue job (queue.take job)

/-- Queue.add of BullMQ, which may also refuse a job, such as one with an id that it does
not allow. Without an id of its own a job gets a fresh one. -/
structure BullMQ (Payload : Type) where
  add : Queue Payload → (fresh name : String) → Payload → JobsOptions →
    Except String (Queue Payload × String)
  accepts : ∀ {queue following : Queue Payload} {fresh name id : String} {payload : Payload}
    {opts : JobsOptions}, add queue fresh name payload opts = .ok (following, id) →
      id = opts.jobId.getD fresh ∧
        queue.Accepts
          { id := id
            name := name
            payload := payload
            opts := opts } following

/-- A job that has ended is removed some time. -/
def Queue.remove {Payload : Type} (queue : Queue Payload) (id : String) : Queue Payload :=
  { queue with stored := Function.update queue.stored id none }

structure BullQueueGateway where
  registeredQueues : List String
  defaultJobOptions : Option DefaultJobOptions

def BullQueueGateway.add {Payload : Type} (gateway : BullQueueGateway) (bullmq : BullMQ Payload)
    (queueName : String) (queue : Queue Payload) (fresh jobName : String) (payload : Payload)
    (options : QueueJobOptions) : Except String (Queue Payload × String) :=
  if gateway.registeredQueues.contains queueName then
    bullmq.add queue fresh jobName payload (buildJobOptions gateway.defaultJobOptions options)
  else .error ("Unknown queue: " ++ queueName)

/-- The payload of an e-mail job with an idempotency key. -/
structure EmailJob where
  mail : Jobs.EmailJobPayload
  idempotencyKey : String
deriving DecidableEq, Repr

/-- The handlers that the worker registers. -/
inductive EventHandler
  | userRegistered
deriving DecidableEq, Repr

def EventHandler.supports : EventHandler → String → Bool
  | .userRegistered, eventName => eventName == "user.registered"

def idempotencyKeyOf (eventId : String) : String :=
  "user-registered:" ++ eventId ++ ":welcome"

def jobIdOf (eventId : String) : String :=
  "welcome-email:" ++ eventId

def welcomeEmailJob (eventId email : String) : EmailJob :=
  { mail := .templated email "Welcome" "welcome" email
    idempotencyKey := idempotencyKeyOf eventId }

/-- Options with a job id alone. -/
def withJobId (jobId : String) : QueueJobOptions :=
  { delay := none
    attempts := none
    backoff := none
    removeOnComplete := none
    removeOnFail := none
    jobId := some jobId }

/-- UserRegisteredEventHandler.handle, with the email of the event's payload. -/
def UserRegisteredEventHandler.handle (gateway : BullQueueGateway) (bullmq : BullMQ EmailJob)
    (queue : Queue EmailJob) (fresh eventId email : String) :
    Except String (Queue EmailJob × String) :=
  gateway.add bullmq "email" queue fresh "send-welcome-email" (welcomeEmailJob eventId email)
    (withJobId (jobIdOf eventId))

def welcomeJob (gateway : BullQueueGateway) (eventId email : String) : Job EmailJob :=
  { id := jobIdOf eventId
    name := "send-welcome-email"
    payload := welcomeEmailJob eventId email
    opts := buildJobOptions gateway.defaultJobOptions (withJobId (jobIdOf eventId)) }

/-- The data of a template as they stand in the job. -/
def resetData (data : PasswordReset.PasswordResetData) : String :=
  let text (value : String) := String.ofList (Json.quote value.toList)
  let resetUrl :=
    match data.resetUrl with
    | none => ""
    | some resetUrl => ",\"resetUrl\":" ++ text resetUrl
  "\x7b\"email\":" ++ text data.email ++ ",\"token\":" ++ text data.token ++ resetUrl ++
    ",\"expiresInMinutes\":" ++ toString data.expiresInMinutes ++ "\x7d"

def EmailJob.ofReset (job : PasswordReset.PasswordResetEmailJob) : EmailJob :=
  { mail := .templated job.recipient job.subject job.template (resetData job.data)
    idempotencyKey := job.idempotencyKey }

/-- A call of ForgotPasswordUseCase that has found its user. -/
structure ResetRequest where
  normalizedEmail : String
  userId : String
  rawToken : String
deriving DecidableEq, Repr

/-- The calls of the queue in ForgotPasswordUseCase; what it logs is left out. -/
def forgotPasswordCollaborators (gateway : BullQueueGateway) (bullmq : BullMQ EmailJob)
    (fresh : String) :
    PasswordReset.Collaborators (StateT (Queue EmailJob) (Except PasswordReset.Rejection)) :=
  { findByEmail := fun _ => pure none
    tokenStore :=
      { get := fun _ => pure none
        del := fun _ => pure ()
        set := fun _ _ _ => pure () }
    add := fun queueName jobName job jobId queue =>
      match gateway.add bullmq queueName queue fresh jobName (.ofReset job) (withJobId jobId) with
      | .ok (queue, id) => .ok (id, queue)
      | .error message => .error (.failure message)
    info := fun _ _ => pure ()
    warn := fun _ _ _ => pure () }

/-- The queue once ForgotPasswordUseCase has asked for a mail. -/
def ResetRequest.enqueue (request : ResetRequest) (forgot : PasswordReset.ForgotPassword)
    (gateway : BullQueueGateway) (bullmq : BullMQ EmailJob) (queue : Queue EmailJob)
    (fresh : String) : Except PasswordReset.Rejection (Unit × Queue EmailJob) :=
  forgot.enqueue (forgotPasswordCollaborators gateway bullmq fresh) request.normalizedEmail
    request.userId request.rawToken queue

def resetJob (forgot : PasswordReset.ForgotPassword) (gateway : BullQueueGateway)
    (request : ResetRequest) : Job EmailJob :=
  let jobId := "password-reset-email:" ++ forgot.sha256 request.rawToken
  { id := jobId
    name := "send-password-reset-email"
    payload :=
      .ofReset (forgot.emailJob request.normalizedEmail request.userId request.rawToken)
    opts := buildJobOptions gateway.defaultJobOptions (withJobId jobId) }

theorem append_right_injective (front : String) :
    Function.Injective fun text : String => front ++ text := by
  intro first second same
  have characters := congrArg String.toList same
  simp only [String.toList_append] at characters
  exact String.toList_inj.mp (List.append_cancel_left characters)

theorem append_left_injective (back : String) :
    Function.Injective fun text : String => text ++ back := by
  intro first second same
  have characters := congrArg String.toList same
  simp only [String.toList_append] at characters
  exact String.toList_inj.mp (List.append_cancel_right characters)

theorem jobIdOf_injective : Function.Injective jobIdOf :=
  append_right_injective "welcome-email:"

theorem idempotencyKeyOf_injective : Function.Injective idempotencyKeyOf :=
  (append_left_injective ":welcome").comp (append_right_injective "user-registered:")

section Queue

variable {gateway : BullQueueGateway} {bullmq : BullMQ EmailJob}
  {queue following : Queue EmailJob} {fresh answer : String}

/-- A job with an id of its own is asked for under this id. -/
theorem BullQueueGateway.accepted {queueName jobName jobId : String} {payload : EmailJob}
    (added : gateway.add bullmq queueName queue fresh jobName payload (withJobId jobId) =
      .ok (following, answer)) :
    queue.Accepts
      { id := jobId
        name := jobName
        payload := payload
        opts := buildJobOptions gateway.defaultJobOptions (withJobId jobId) } following := by
  unfold BullQueueGateway.add at added
  split at added
  · obtain ⟨rfl, accepts⟩ := bullmq.accepts added
    exact accepts
  · cases added

theorem UserRegisteredEventHandler.handled {eventId email : String}
    (handled : UserRegisteredEventHandler.handle gateway bullmq queue fresh eventId email =
      .ok (following, answer)) :
    queue.Accepts (welcomeJob gateway eventId email) following :=
  BullQueueGateway.accepted handled

/-- A refusal of the queue leaves it as it is. -/
theorem ResetRequest.enqueue_eq (request : ResetRequest) (forgot : PasswordReset.ForgotPassword) :
    request.enqueue forgot gateway bullmq queue fresh =
      match gateway.add bullmq "email" queue fresh "send-password-reset-email"
        (resetJob forgot gateway request).payload
          (withJobId (resetJob forgot gateway request).id) with
      | .ok (following, _) => .ok ((), following)
      | .error _ => .ok ((), queue) := by
  change Except.tryCatch (Except.bind
    (match gateway.add bullmq "email" queue fresh "send-password-reset-email"
        (resetJob forgot gateway request).payload
          (withJobId (resetJob forgot gateway request).id) with
      | .ok (queue, id) => Except.ok (id, queue)
      | .error message => .error (PasswordReset.Rejection.failure message))
    fun reply => Except.ok ((), reply.2)) (fun _ => Except.ok ((), queue)) = _
  cases gateway.add bullmq "email" queue fresh "send-password-reset-email"
      (resetJob forgot gateway request).payload
      (withJobId (resetJob forgot gateway request).id) with
  | error message => rfl
  | ok reply => rfl

theorem ResetRequest.enqueued {request : ResetRequest} {forgot : PasswordReset.ForgotPassword}
    (enqueued : request.enqueue forgot gateway bullmq queue fresh = .ok ((), following)) :
    following = queue ∨ queue.Accepts (resetJob forgot gateway request) following := by
  rw [enqueue_eq] at enqueued
  split at enqueued
  · rename_i added
    cases enqueued
    exact .inr (BullQueueGateway.accepted added)
  · cases enqueued
    exact .inl rfl

end Queue

end BackendFoundation.WelcomeMail
