/-
EmailProcessor.process for the deliveries of one job with an idempotency key.

A delivery awaits one thing at a time: a Redis reply, the template, the mail
gateway. Redis commands may fail before or after Redis has applied them, the
reply to an acquire may be on its way for a while, heartbeats fire at any time,
and a worker may crash at any moment.
-/

import BackendFoundation.Jobs.JobExecutionStore
import BackendFoundation.Transition.System

namespace BackendFoundation.Jobs

open Redis Redis.Slot

structure JobExecutionOptions where
  leaseTtlSeconds : Nat
  completedRetentionTtlSeconds : Nat

inductive JobExecutionOwnershipPhase
  | beforeSend
  | afterSend
deriving DecidableEq, Repr

structure ExecutionOwnershipLostError where
  phase : JobExecutionOwnershipPhase
  idempotencyKey : String
  jobId : String
  reason : String
deriving DecidableEq, Repr

def ExecutionOwnershipLostError.message (error : ExecutionOwnershipLostError) : String :=
  let phaseLabel :=
    match error.phase with
    | .beforeSend => "before email send"
    | .afterSend => "after email send"
  "Job execution ownership was lost " ++ phaseLabel ++ ": " ++ error.reason

inductive ProcessError
  | redisError
  | renderError
  | mailError
  | ownershipLost (error : ExecutionOwnershipLostError)
deriving DecidableEq, Repr

inductive EmailJobPayload
  | templated (recipient subject template data : String)
  | raw (recipient subject html : String) (text sender : Option String)
deriving DecidableEq, Repr

structure RenderedMail where
  html : String
  text : Option String
deriving DecidableEq, Repr

/-- The argument of mail.send. -/
structure MailInput where
  recipient : String
  subject : String
  html : String
  text : Option String
  sender : Option String
  messageId : String
deriving DecidableEq, Repr

/-- The pattern works on UTF-16 code units, so a character outside the BMP is replaced
twice. -/
def formatMessageId (idempotencyKey : String) : String :=
  let sanitized := idempotencyKey.toList.flatMap fun character =>
    if character.isAlphanum || character == '.' || character == '_' || character == '@' ||
        character == '-' then [character]
    else if character.toNat < 65536 then ['-']
    else ['-', '-']
  "<" ++ String.ofList sanitized ++ "@idempotency>"

/-- The deliveries of one job. Each acquire draws its own randomUUID. -/
structure Setup (Delivery : Type) where
  options : JobExecutionOptions
  idempotencyKey : String
  jobId : String
  payload : EmailJobPayload
  rendered : RenderedMail
  token : Delivery → String
  token_injective : Function.Injective token
  token_ne_marker : ∀ delivery, token delivery ≠ JobExecutionStore.completed ∧
    token delivery ≠ JobExecutionStore.sentAmbiguous

inductive Phase
  | ready
  | acquiring
  | replied (acquired : Bool)
  | rendering
  | sending
  | completing
  | marking (reason : String)
  | releasing (error : ProcessError)
  | resolved
  | rejected (error : ProcessError)
  | unrecoverable (message : String)
  | crashed
deriving DecidableEq, Repr

structure DeliveryState where
  phase : Phase
  ownershipLost : Bool
  heartbeatInProgress : Bool
deriving DecidableEq, Repr

namespace DeliveryState

def fresh : DeliveryState :=
  { phase := .ready
    ownershipLost := false
    heartbeatInProgress := false }

def goto (delivery : DeliveryState) (phase : Phase) : DeliveryState :=
  { delivery with phase := phase }

end DeliveryState

/-- The mails sent are history: the deliveries whose mail.send has resolved. -/
structure State (Delivery : Type) where
  now : Nat
  key : Slot String
  deliveries : Delivery → DeliveryState
  sent : List (Delivery × MailInput)

inductive Action (Delivery : Type)
  | advance (milliseconds : Nat)
  | start (delivery : Delivery)
  | command (delivery : Delivery)
  | commandFails (delivery : Delivery) (applied : Bool)
  | proceed (delivery : Delivery)
  | renderFails (delivery : Delivery)
  | sendResolves (delivery : Delivery)
  | sendRejects (delivery : Delivery)
  | heartbeatTimer (delivery : Delivery)
  | extend (delivery : Delivery)
  | extendFails (delivery : Delivery) (applied : Bool)
  | crash (delivery : Delivery)
deriving DecidableEq, Repr

variable {Delivery : Type}

def Setup.lost (setup : Setup Delivery) (phase : JobExecutionOwnershipPhase)
    (reason : String) : ExecutionOwnershipLostError :=
  { phase := phase
    idempotencyKey := setup.idempotencyKey
    jobId := setup.jobId
    reason := reason }

def Setup.mailInput (setup : Setup Delivery) : MailInput :=
  match setup.payload with
  | .templated recipient subject _ _ =>
      { recipient := recipient
        subject := subject
        html := setup.rendered.html
        text := setup.rendered.text
        sender := none
        messageId := formatMessageId setup.idempotencyKey }
  | .raw recipient subject html text sender =>
      { recipient := recipient
        subject := subject
        html := html
        text := text
        sender := sender
        messageId := formatMessageId setup.idempotencyKey }

/-- assertOwnershipBeforeSend, and mail.send. -/
def Setup.beforeSend (setup : Setup Delivery) (ownershipLost : Bool) : Phase :=
  if ownershipLost then
    .releasing (.ownershipLost (setup.lost .beforeSend "ownership-lost-before-send"))
  else .sending

/-- A step without a Redis command: the reply to acquire arrives, the template is ready. -/
def Setup.local? (setup : Setup Delivery) (delivery : DeliveryState) :
    Option DeliveryState :=
  match delivery.phase with
  | .replied false => some (delivery.goto .resolved)
  | .replied true =>
      match setup.payload with
      | .templated _ _ _ _ => some (delivery.goto .rendering)
      | .raw _ _ _ _ _ => some (delivery.goto (setup.beforeSend delivery.ownershipLost))
  | .rendering => some (delivery.goto (setup.beforeSend delivery.ownershipLost))
  | _ => none

/-- The pending Redis command takes effect. Every reply but that of acquire is processed
at once. -/
def Setup.answer (setup : Setup Delivery) (delivery : Delivery) (now : Nat)
    (key : Slot String) (before : DeliveryState) : Slot String × DeliveryState :=
  let retention := setup.options.completedRetentionTtlSeconds
  match before.phase with
  | .acquiring =>
      let (written, acquired) := JobExecutionStore.acquire now key (setup.token delivery)
        setup.options.leaseTtlSeconds
      (written, before.goto (.replied acquired))
  | .completing =>
      match JobExecutionStore.complete now key (setup.token delivery) retention with
      | (written, true) => (written, before.goto .resolved)
      | (written, false) => (written, before.goto (.marking "complete-returned-false"))
  | .marking reason =>
      (JobExecutionStore.markAmbiguousSent now retention,
        before.goto (.unrecoverable (setup.lost .afterSend reason).message))
  | .releasing error =>
      (JobExecutionStore.release now key (setup.token delivery), before.goto (.rejected error))
  | _ => (key, before)

/-- Where an error of the pending Redis command leads. A failing marker is logged only. -/
def Setup.afterError (setup : Setup Delivery) : Phase → Option Phase
  | .acquiring | .completing | .releasing _ => some (.rejected .redisError)
  | .marking reason => some (.unrecoverable (setup.lost .afterSend reason).message)
  | _ => none

/-- setInterval runs from the reply to acquire to the finally clause. -/
def Phase.heartbeatActive : Phase → Bool
  | .rendering | .sending | .completing | .marking _ | .releasing _ => true
  | _ => false

def Phase.ended : Phase → Bool
  | .resolved | .rejected _ | .unrecoverable _ | .crashed => true
  | _ => false

/-- From the acquire that took the key to the end of the call. -/
def Phase.executing : Phase → Bool
  | .replied true | .rendering | .sending | .completing | .marking _ | .releasing _ => true
  | _ => false

variable [DecidableEq Delivery]

def State.update (state : State Delivery) (delivery : Delivery) (after : DeliveryState) :
    State Delivery :=
  { state with deliveries := Function.update state.deliveries delivery after }

def Setup.step (setup : Setup Delivery) (state : State Delivery) :
    Action Delivery → Option (State Delivery)
  | .advance milliseconds => some { state with now := state.now + milliseconds }
  | .start delivery =>
      let before := state.deliveries delivery
      match before.phase with
      | .ready => some (state.update delivery (before.goto .acquiring))
      | _ => none
  | .command delivery =>
      let before := state.deliveries delivery
      match setup.afterError before.phase with
      | none => none
      | some _ =>
          let (key, after) := setup.answer delivery state.now state.key before
          some { state.update delivery after with key := key }
  | .commandFails delivery applied =>
      let before := state.deliveries delivery
      match setup.afterError before.phase with
      | none => none
      | some failed =>
          let key :=
            if applied then (setup.answer delivery state.now state.key before).1
            else state.key
          some { state.update delivery (before.goto failed) with key := key }
  | .proceed delivery =>
      (setup.local? (state.deliveries delivery)).map fun after => state.update delivery after
  | .renderFails delivery =>
      let before := state.deliveries delivery
      match before.phase with
      | .rendering => some (state.update delivery (before.goto (.releasing .renderError)))
      | _ => none
  | .sendResolves delivery =>
      let before := state.deliveries delivery
      match before.phase with
      | .sending =>
          let after :=
            if before.ownershipLost then .marking "ownership-lost-before-complete"
            else .completing
          some { state.update delivery (before.goto after) with
            sent := (delivery, setup.mailInput) :: state.sent }
      | _ => none
  | .sendRejects delivery =>
      let before := state.deliveries delivery
      match before.phase with
      | .sending => some (state.update delivery (before.goto (.releasing .mailError)))
      | _ => none
  | .heartbeatTimer delivery =>
      let before := state.deliveries delivery
      if before.phase.heartbeatActive && !before.heartbeatInProgress &&
          !before.ownershipLost then
        some (state.update delivery { before with heartbeatInProgress := true })
      else none
  | .extend delivery =>
      let before := state.deliveries delivery
      if before.heartbeatInProgress then
        let (key, extended) := JobExecutionStore.extend state.now state.key
          (setup.token delivery) setup.options.leaseTtlSeconds
        some { state.update delivery
            { before with
              ownershipLost := before.ownershipLost || !extended
              heartbeatInProgress := false } with
          key := key }
      else none
  | .extendFails delivery applied =>
      let before := state.deliveries delivery
      if before.heartbeatInProgress then
        let key :=
          if applied then
            (JobExecutionStore.extend state.now state.key (setup.token delivery)
              setup.options.leaseTtlSeconds).1
          else state.key
        some { state.update delivery
            { before with ownershipLost := true, heartbeatInProgress := false } with
          key := key }
      else none
  | .crash delivery =>
      let before := state.deliveries delivery
      if before.phase.ended then none
      else some (state.update delivery (before.goto .crashed))

def State.initial (state : State Delivery) : Prop :=
  state.key = none ∧ state.deliveries = (fun _ => DeliveryState.fresh) ∧ state.sent = []

def State.empty : State Delivery :=
  { now := 0
    key := none
    deliveries := fun _ => DeliveryState.fresh
    sent := [] }

def Setup.system (setup : Setup Delivery) :
    Transition.System (State Delivery) (Action Delivery) :=
  { initial := State.initial
    step := setup.step }

def mailTokens (delivery : Bool) : String :=
  if delivery then "uuid-b" else "uuid-a"

theorem mailTokens_injective : Function.Injective mailTokens := by
  intro first second same
  cases first <;> cases second <;> first | rfl | exact absurd same (by decide)

theorem mailTokens_ne_marker (delivery : Bool) :
    mailTokens delivery ≠ JobExecutionStore.completed ∧
      mailTokens delivery ≠ JobExecutionStore.sentAmbiguous := by
  cases delivery <;> decide

/-- The welcome mail of a registration, delivered twice. -/
def welcomeMail : Setup Bool :=
  { options :=
      { leaseTtlSeconds := 300
        completedRetentionTtlSeconds := 2592000 }
    idempotencyKey := "user-registered:e1:welcome"
    jobId := "welcome-email:e1"
    payload := .templated "user@example.com" "Welcome" "welcome" "user@example.com"
    rendered :=
      { html := "<p>Welcome</p>"
        text := none }
    token := mailTokens
    token_injective := mailTokens_injective
    token_ne_marker := mailTokens_ne_marker }

end BackendFoundation.Jobs
