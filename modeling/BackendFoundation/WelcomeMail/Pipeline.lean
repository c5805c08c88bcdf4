/-
The way of a registration to its welcome mail: outbox calls publish events, their handler
asks the queue for a job, and processors take the jobs of the queue. ForgotPasswordUseCase
asks the same queue for its mails.

The outbox, the queue and the deliveries under each execution key go on independently. An
outbox call resolves its handler only after the queue has answered, and a delivery starts
from a job that stands in the queue.
-/

import BackendFoundation.Outbox.Delivery
import BackendFoundation.Registration.Creation
import BackendFoundation.WelcomeMail.QueueGateway

namespace BackendFoundation.WelcomeMail

open Transition

/-- The email is what the payload column gives back under that name. SHA-256 comes in
hexadecimal digits. -/
structure Setup (Worker Delivery : Type) where
  bullmq : BullMQ EmailJob
  gateway : BullQueueGateway
  apiGateway : BullQueueGateway
  forgot : PasswordReset.ForgotPassword
  sha256_plain : ∀ text, ':' ∉ (forgot.sha256 text).toList
  options : Outbox.OutboxProcessorOptions
  clock : Worker → Nat → Nat
  clock_monotone : ∀ worker, Monotone (clock worker)
  email : String → String
  email_stringify : ∀ payload : Registration.UserRegisteredPayload,
    email payload.stringify = payload.email
  execution : Jobs.JobExecutionOptions
  render : Jobs.EmailJobPayload → Jobs.RenderedMail
  token : String → Delivery → String
  token_injective : ∀ jobId, Function.Injective (token jobId)
  token_ne_marker : ∀ jobId delivery,
    token jobId delivery ≠ Jobs.JobExecutionStore.completed ∧
      token jobId delivery ≠ Jobs.JobExecutionStore.sentAmbiguous

/-- An event as it was appended to the outbox. -/
structure AppendedEvent where
  id : String
  eventName : String
  payload : String
deriving DecidableEq, Repr

def AppendedEvent.ofRow {Worker : Type} (row : Outbox.OutboxRow Worker) : AppendedEvent :=
  { id := row.id
    eventName := row.eventName
    payload := row.payload }

/-- The answered calls are those whose handler has its answer from the queue. The mails
stand under their execution keys. The appended events and the requests for a password reset
are history. -/
structure State (Worker Delivery : Type) where
  outbox : Outbox.State Worker EventHandler
  queue : Queue EmailJob
  answered : Worker → Bool
  mails : String → Jobs.State Delivery
  appended : List AppendedEvent
  resets : List ResetRequest

inductive Action (Worker Delivery : Type)
  | outbox (action : Outbox.Action Worker)
  | queueAdd (call : Worker) (fresh : String)
  | forgotPassword (request : ResetRequest) (fresh : String)
  | queueRemove (jobId : String)
  | process (jobId : String) (action : Jobs.Action Delivery)

variable {Worker Delivery : Type}

namespace Setup

variable (setup : Setup Worker Delivery)

def outbox : Outbox.Setup Worker EventHandler :=
  { options := setup.options
    handlers := [.userRegistered]
    supports := EventHandler.supports
    clock := setup.clock
    clock_monotone := setup.clock_monotone }

/-- The EmailProcessor calls for one job. -/
def deliveries (job : Job EmailJob) : Jobs.Setup Delivery :=
  { options := setup.execution
    idempotencyKey := job.payload.idempotencyKey
    jobId := job.id
    payload := job.payload.mail
    rendered := setup.render job.payload.mail
    token := setup.token job.id
    token_injective := setup.token_injective job.id
    token_ne_marker := setup.token_ne_marker job.id }

def welcomeJobOf (event : AppendedEvent) : Job EmailJob :=
  welcomeJob setup.gateway event.id (setup.email event.payload)

def resetJobOf (request : ResetRequest) : Job EmailJob :=
  resetJob setup.forgot setup.apiGateway request

def tokenHash (request : ResetRequest) : String :=
  setup.forgot.sha256 request.rawToken

end Setup

/-- The event whose handler a call awaits. -/
def awaitedEvent (call : Outbox.CallState Worker EventHandler) :
    Option (Outbox.OutboxRow Worker) :=
  match call.phase with
  | .iterating iteration (.publishing (.awaiting (.userRegistered :: _) _)) =>
      some iteration.event
  | _ => none

def jobOf (queue : Queue EmailJob) (jobId : String) : Option (Job EmailJob) :=
  queue.taken.find? fun job => job.id = jobId

def starts : Jobs.Action Delivery → Bool
  | .start _ => true
  | _ => false

variable [DecidableEq Worker]

def State.permits (state : State Worker Delivery) : Outbox.Action Worker → Bool
  | .handlerResolves call => state.answered call
  | _ => true

def settle (answered : Worker → Bool) : Outbox.Action Worker → Worker → Bool
  | .handlerResolves call | .handlerRejects call => Function.update answered call false
  | _ => answered

def record (appended : List AppendedEvent) : Outbox.Action Worker → List AppendedEvent
  | .append id eventName payload _ _ =>
      { id := id
        eventName := eventName
        payload := payload } :: appended
  | _ => appended

variable [DecidableEq Delivery]

def Setup.step (setup : Setup Worker Delivery) (state : State Worker Delivery) :
    Action Worker Delivery → Option (State Worker Delivery)
  | .outbox action =>
      if state.permits action then
        (setup.outbox.step state.outbox action).map fun outbox =>
          { state with
            outbox := outbox
            answered := settle state.answered action
            appended := record state.appended action }
      else none
  | .queueAdd call fresh =>
      match state.answered call, awaitedEvent (state.outbox.calls call) with
      | false, some event =>
          match UserRegisteredEventHandler.handle setup.gateway setup.bullmq state.queue fresh
            event.id (setup.email event.payload) with
          | .ok (queue, _) =>
              some { state with
                queue := queue
                answered := Function.update state.answered call true }
          | .error _ => none
      | _, _ => none
  | .forgotPassword request fresh =>
      -- randomBytes draws a token that no other call has had.
      if setup.tokenHash request ∈ state.resets.map setup.tokenHash then none
      else
        match request.enqueue setup.forgot setup.apiGateway setup.bullmq state.queue fresh with
        | .ok (_, queue) =>
            some { state with
              queue := queue
              resets := request :: state.resets }
        | .error _ => none
  | .queueRemove jobId => some { state with queue := state.queue.remove jobId }
  | .process jobId action =>
      match jobOf state.queue jobId with
      | none => none
      | some job =>
          if starts action && (state.queue.stored jobId).isNone then none
          else
            let key := job.payload.idempotencyKey
            ((setup.deliveries job).step (state.mails key) action).map fun mails =>
              { state with mails := Function.update state.mails key mails }

def State.empty : State Worker Delivery :=
  { outbox := Outbox.State.empty
    queue := Queue.empty
    answered := fun _ => false
    mails := fun _ => Jobs.State.empty
    appended := []
    resets := [] }

def Setup.system (setup : Setup Worker Delivery) :
    Transition.System (State Worker Delivery) (Action Worker Delivery) :=
  { initial := fun state => state = State.empty
    step := setup.step }

/-- The components move one at a time. -/
inductive Setup.Move (setup : Setup Worker Delivery) (state : State Worker Delivery) :
    State Worker Delivery → Prop
  | outbox {action : Outbox.Action Worker} {outbox : Outbox.State Worker EventHandler}
      (permitted : state.permits action = true)
      (stepped : setup.outbox.step state.outbox action = some outbox) :
      Move setup state
        { state with
          outbox := outbox
          answered := settle state.answered action
          appended := record state.appended action }
  | queueAdd {call : Worker} {event : Outbox.OutboxRow Worker} {fresh answer : String}
      {queue : Queue EmailJob}
      (awaited : awaitedEvent (state.outbox.calls call) = some event)
      (handled : UserRegisteredEventHandler.handle setup.gateway setup.bullmq state.queue fresh
        event.id (setup.email event.payload) = .ok (queue, answer)) :
      Move setup state
        { state with
          queue := queue
          answered := Function.update state.answered call true }
  | forgotPassword {request : ResetRequest} {fresh : String} {queue : Queue EmailJob}
      (unused : setup.tokenHash request ∉ state.resets.map setup.tokenHash)
      (enqueued : request.enqueue setup.forgot setup.apiGateway setup.bullmq state.queue fresh =
        .ok ((), queue)) :
      Move setup state
        { state with
          queue := queue
          resets := request :: state.resets }
  | queueRemove (jobId : String) : Move setup state { state with queue := state.queue.remove jobId }
  | process {jobId : String} {action : Jobs.Action Delivery} {job : Job EmailJob}
      {mails : Jobs.State Delivery} (found : jobOf state.queue jobId = some job)
      (stepped : (setup.deliveries job).step (state.mails job.payload.idempotencyKey) action =
        some mails) :
      Move setup state
        { state with mails := Function.update state.mails job.payload.idempotencyKey mails }

theorem Setup.moved {setup : Setup Worker Delivery} {state following : State Worker Delivery}
    {action : Action Worker Delivery} (stepped : setup.step state action = some following) :
    setup.Move state following := by
  cases action with
  | outbox action =>
      simp only [step] at stepped
      split at stepped
      · rename_i permitted
        obtain ⟨outbox, moved, rfl⟩ := Option.map_eq_some_iff.mp stepped
        exact .outbox permitted moved
      · cases stepped
  | queueAdd call fresh =>
      simp only [step] at stepped
      split at stepped
      · rename_i event unanswered awaited
        split at stepped
        · rename_i queue answer handled
          cases stepped
          exact .queueAdd awaited handled
        · cases stepped
      · cases stepped
  | forgotPassword request fresh =>
      simp only [step] at stepped
      split at stepped
      · cases stepped
      · rename_i unused
        split at stepped
        · rename_i queue enqueued
          cases stepped
          exact .forgotPassword unused enqueued
        · cases stepped
  | queueRemove jobId =>
      cases stepped
      exact .queueRemove jobId
  | process jobId action =>
      simp only [step] at stepped
      split at stepped
      · cases stepped
      · rename_i job found
        split at stepped
        · cases stepped
        · obtain ⟨mails, moved, rfl⟩ := Option.map_eq_some_iff.mp stepped
          exact .process found moved

end BackendFoundation.WelcomeMail
