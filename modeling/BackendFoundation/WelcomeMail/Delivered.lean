/-
From the outbox to the mail server: an event that is marked processed has its job, every mail
is the welcome mail of a registration or the mail of a password reset, and publishing an event
again sends no second one.
-/

import BackendFoundation.Jobs.NoSecondSend
import BackendFoundation.PasswordReset.Enumeration
import BackendFoundation.WelcomeMail.Asked

namespace BackendFoundation.WelcomeMail

open Transition

variable {Worker Delivery : Type}

section Jobs

variable [DecidableEq Delivery] {setup : Jobs.Setup Delivery} {state : Jobs.State Delivery}

theorem sent_mailInput (reached : setup.system.Reachable anyAction state) :
    ∀ entry ∈ state.sent, entry.2 = setup.mailInput := by
  apply reached.invariant
  · intro start initial entry member
    rw [initial.2.2] at member
    cases member
  · intro before action after sent _ stepped entry member
    cases setup.moved stepped with
    | advances | acts => exact sent entry member
    | sends =>
        rcases List.mem_cons.mp member with rfl | old
        · rfl
        · exact sent entry old

theorem now_of_command {following : Jobs.State Delivery} {delivery : Delivery}
    (stepped : setup.step state (.command delivery) = some following) :
    following.now = state.now := by
  cases setup.moved stepped with
  | acts => rfl

end Jobs

theorem jobOf_taken {queue : Queue EmailJob} {jobId : String} {job : Job EmailJob}
    (found : jobOf queue jobId = some job) : job ∈ queue.taken ∧ job.id = jobId := by
  have same := List.find?_some found
  exact ⟨List.mem_of_find?_eq_some found, of_decide_eq_true same⟩

section Components

variable [DecidableEq Worker] [DecidableEq Delivery] {setup : Setup Worker Delivery}
  {state : State Worker Delivery}

theorem Setup.Move.grows {following : State Worker Delivery}
    (move : setup.Move state following) : state.queue.taken ⊆ following.queue.taken := by
  cases move with
  | outbox | queueRemove | process => exact List.Subset.refl _
  | queueAdd _ handled => exact (UserRegisteredEventHandler.handled handled).grows
  | forgotPassword _ enqueued =>
      rcases ResetRequest.enqueued enqueued with rfl | accepts
      · exact List.Subset.refl _
      · exact accepts.grows

/-- The mails of other steps stay as they are. -/
theorem Setup.Move.mails {following : State Worker Delivery}
    (move : setup.Move state following) (key : String) :
    following.mails key = state.mails key ∨ ∃ jobId job action,
      jobOf state.queue jobId = some job ∧ job.payload.idempotencyKey = key ∧
        (setup.deliveries job).step (state.mails key) action = some (following.mails key) := by
  cases move with
  | outbox | queueAdd | forgotPassword | queueRemove => exact .inl rfl
  | @process jobId action job mails found stepped =>
      by_cases same : key = job.payload.idempotencyKey
      · subst same
        refine .inr ⟨jobId, job, action, found, rfl, ?_⟩
        change _ = some (Function.update state.mails job.payload.idempotencyKey mails _)
        rw [Function.update_self]
        exact stepped
      · exact .inl (Function.update_of_ne same _ _)

/-- The deliveries under an execution key are those of one job, and go on as they do alone. -/
theorem Setup.mails_reachable (reached : setup.system.Reachable anyAction state)
    (key : String) :
    state.mails key = Jobs.State.empty ∨ ∃ job ∈ state.queue.taken,
      job.payload.idempotencyKey = key ∧
        (setup.deliveries job).system.Reachable anyAction (state.mails key) := by
  apply reached.invariant_using fun _ reached => Setup.asked reached
  · intro start initial
    cases initial
    exact .inl rfl
  · intro before action after asked component _ stepped
    have move := Setup.moved stepped
    rcases move.mails key with same | ⟨jobId, job, action, found, rfl, moved⟩
    · rw [same]
      rcases component with empty | ⟨job, taken, named, running⟩
      · exact .inl empty
      · exact .inr ⟨job, move.grows taken, named, running⟩
    · have taken := (jobOf_taken found).1
      have moves : (setup.deliveries job).system.step (before.mails job.payload.idempotencyKey)
          action = some _ := moved
      refine .inr ⟨job, move.grows taken, rfl, ?_⟩
      rcases component with empty | ⟨other, taken', named, running⟩
      · have fresh : (setup.deliveries job).system.Reachable anyAction
            (before.mails job.payload.idempotencyKey) := by
          rw [empty]
          exact ⟨_, [], ⟨rfl, rfl, rfl⟩, .nil⟩
        exact fresh.next trivial moves
      · cases asked.eq_of_key taken' taken named
        exact running.next trivial moves

/-- A marker under an execution key turns away the deliveries of every job with the key. -/
theorem Setup.mails_blocked {following later : State Worker Delivery}
    {actions : List (Action Worker Delivery)} {key : String} {other : Delivery} {deadline : Nat}
    (marked : (following.mails key).Marked deadline)
    (retained : deadline ≤
      (following.mails key).now + setup.execution.completedRetentionTtlSeconds * 1000)
    (run : setup.system.Run anyAction following actions later)
    (ready : ((following.mails key).deliveries other).phase = .ready)
    (early : (later.mails key).now ≤ deadline) :
    ((later.mails key).deliveries other).phase.turnedAway = true := by
  have blocks : (later.mails key).Blocks other (following.mails key).now deadline := by
    apply run.preserves
    · intro before action after blocks _ stepped
      rcases (Setup.moved stepped).mails key with same | ⟨_, job, _, _, _, moved⟩
      · rw [same]
        exact blocks
      · have kept : deadline ≤ (following.mails key).now +
            (setup.deliveries job).options.completedRetentionTtlSeconds * 1000 := retained
        exact blocks.step kept moved
    · constructor
      · exact Nat.le_refl _
      · intro _
        refine ⟨marked, ?_⟩
        rw [ready]
        rfl
  exact (blocks.2 early).2

end Components

section Sample

/-- The value of the second field of a payload. -/
def readEmail (payload : String) : String :=
  match Json.readString .plain (payload.toList.drop 11) with
  | none => ""
  | some (_, rest) =>
      match Json.readString .plain (rest.drop 10) with
      | none => ""
      | some (email, _) => String.ofList email

theorem readEmail_fields {text rest last id email : List Char}
    (first : text.drop 11 = id.flatMap Json.escape ++ Json.quotation :: rest)
    (second : rest.drop 10 = email.flatMap Json.escape ++ Json.quotation :: last) :
    readEmail (String.ofList text) = String.ofList email := by
  rw [readEmail, String.toList_ofList, first, Json.readString_quoted]
  simp only [second, Json.readString_quoted]

theorem drop_userId (text : List Char) :
    ("\x7b\"userId\":".toList ++ Json.quotation :: text).drop 11 = text :=
  rfl

theorem drop_email (text : List Char) :
    (",\"email\":".toList ++ Json.quotation :: text).drop 10 = text :=
  rfl

theorem readEmail_stringify (payload : Registration.UserRegisteredPayload) :
    readEmail payload.stringify = payload.email := by
  unfold Registration.UserRegisteredPayload.stringify
  rw [readEmail_fields]
  · exact String.ofList_toList
  · rw [Json.quote, List.cons_append, drop_userId, List.append_assoc, List.cons_append,
      List.nil_append]
  · rw [Json.quote, List.cons_append, drop_email, List.append_assoc, List.cons_append,
      List.nil_append]

/-- An id of a job's own is no number, and has no colon, or two of them. -/
def refusalOf (jobId : String) : Option String :=
  let pieces := (jobId.toList.splitOn ':').length
  if jobId.toList.all Char.isDigit then some "Custom Id cannot be integers"
  else if pieces = 1 ∨ pieces = 3 then none
  else some "Custom Id cannot contain :"

def checkedQueue {Payload : Type} : BullMQ Payload :=
  { add := fun queue fresh name payload opts =>
      match opts.jobId.bind refusalOf with
      | some message => .error message
      | none =>
          let id := opts.jobId.getD fresh
          match queue.stored id with
          | some _ => .ok (queue, id)
          | none =>
              .ok (queue.take
                { id := id
                  name := name
                  payload := payload
                  opts := opts }, id)
    accepts := by
      intro queue following fresh name id payload opts added
      dsimp only at added
      split at added
      · cases added
      · split at added
        · rename_i stored
          cases added
          exact ⟨rfl, .stands stored⟩
        · rename_i free
          cases added
          exact ⟨rfl, .takes free⟩ }

def emailGateway : BullQueueGateway :=
  { registeredQueues := ["outbox", "email"]
    defaultJobOptions := none }

theorem starter_plain (text : String) :
    ':' ∉ (PasswordReset.ForgotPassword.starter.sha256 text).toList := by
  change _ ∉ "ea866a757e4c38babfa8127cbe9a409d3e1f93a00ff1488ff735fcf917afffd0".toList
  decide

/-- Two outbox workers, and two processors at each job. -/
def welcomePipeline : Setup Bool Bool :=
  { bullmq := checkedQueue
    gateway := emailGateway
    apiGateway := emailGateway
    forgot := PasswordReset.ForgotPassword.starter
    sha256_plain := starter_plain
    options := Outbox.outboxProcessorDefaultOptions
    clock := fun _ now => now
    clock_monotone := fun _ _ _ passed => passed
    email := readEmail
    email_stringify := readEmail_stringify
    execution :=
      { leaseTtlSeconds := 300
        completedRetentionTtlSeconds := 2592000 }
    render := fun _ =>
      { html := "<p>Welcome</p>"
        text := none }
    token := fun _ => Jobs.mailTokens
    token_injective := fun _ => Jobs.mailTokens_injective
    token_ne_marker := fun _ => Jobs.mailTokens_ne_marker }

def registered : Registration.UserRegisteredPayload :=
  { userId := "u1"
    email := "user@example.com" }

/-- The first worker crashes once the event is routed, and the second routes it again. -/
def publishing : List (Action Bool Bool) :=
  [.outbox (.append "e1:1" "user.registered" registered.stringify 0 0), .outbox (.start false),
    .outbox (.claim false .plain), .outbox (.claimAnswered false), .queueAdd false "1",
    .outbox (.handlerResolves false), .outbox (.routeSettles false), .outbox (.crash false),
    .outbox (.advance 300001), .outbox (.start true), .outbox (.claim true .plain),
    .outbox (.claimAnswered true), .queueAdd true "2", .outbox (.handlerResolves true),
    .outbox (.routeSettles true), .outbox (.mark true)]

/-- A processor gets as far as its mail. -/
def mailing : List (Action Bool Bool) :=
  [.process "welcome-email:e1:1" (.start false), .process "welcome-email:e1:1" (.command false),
    .process "welcome-email:e1:1" (.proceed false), .process "welcome-email:e1:1" (.proceed false),
    .process "welcome-email:e1:1" (.sendResolves false)]

end Sample

section Results

variable [DecidableEq Worker] [DecidableEq Delivery] {setup : Setup Worker Delivery}
  {state : State Worker Delivery}

/-- A registration that the outbox has marked processed has its job, and no other job has
its id. -/
theorem registration_enqueued (reached : setup.system.Reachable anyAction state)
    {row : Outbox.OutboxRow Worker} (member : row ∈ state.outbox.events.rows)
    (processed : row.status = .processed) (registration : row.eventName = "user.registered") :
    setup.welcomeJobOf (AppendedEvent.ofRow row) ∈ state.queue.taken ∧
      ∀ job ∈ state.queue.taken, job.id = jobIdOf row.id →
        job = setup.welcomeJobOf (AppendedEvent.ofRow row) := by
  have asked := Setup.asked reached
  have alone : ∀ job ∈ state.queue.taken, job.id = jobIdOf row.id →
      job = setup.welcomeJobOf (AppendedEvent.ofRow row) := by
    intro job taken id
    obtain ⟨event, appended, _, same, rfl⟩ := (asked.taken job taken).welcome_of_id id
    rw [asked.named.unique appended (asked.named.rows row member) same]
  have sound := (setup.outbox.accounted_of_reachable (Setup.outbox_reachable reached)).rows row
    member
  rw [Outbox.Setup.RowSound, processed] at sound
  obtain ⟨record, routed, same, resolved⟩ := sound
  have supported : setup.outbox.supports .userRegistered row.eventName = true := by
    rw [registration]
    exact beq_self_eq_true _
  obtain ⟨job, taken, id⟩ :=
    asked.routed record routed (resolved .userRegistered List.mem_cons_self supported)
  rw [same] at id
  have found := alone job taken id
  exact ⟨found ▸ taken, alone⟩

theorem registered_enqueued : ∃ state, welcomePipeline.system.Reachable anyAction state ∧
    ∃ row ∈ state.outbox.events.rows, row.status = .processed ∧
      welcomePipeline.welcomeJobOf (AppendedEvent.ofRow row) ∈ state.queue.taken := by
  have executed :
      (welcomePipeline.system.execute (fun _ _ => true) State.empty publishing).map
        (fun state => state.outbox.events.rows.head?.map fun row =>
          (row.eventName, row.status)) =
      some (some ("user.registered", .processed)) := by rfl
  obtain ⟨state, run, facts⟩ := Option.map_eq_some_iff.mp executed
  obtain ⟨row, first, same⟩ := Option.map_eq_some_iff.mp facts
  obtain ⟨registration, processed⟩ := Prod.mk.inj same
  have reached : welcomePipeline.system.Reachable anyAction state :=
    .of_execute (fun _ _ _ => trivial) rfl run
  have member := List.mem_of_head? first
  exact ⟨state, reached, row, member, processed,
    (registration_enqueued reached member processed registration).1⟩

/-- The mail of a job is the welcome mail of a registration. -/
structure Welcomes (appended : List AppendedEvent) (job : Job EmailJob)
    (mail : Jobs.MailInput) (event : AppendedEvent) : Prop where
  member : event ∈ appended
  name : event.eventName = "user.registered"
  id : job.id = jobIdOf event.id
  subject : mail.subject = "Welcome"
  messageId : mail.messageId = Jobs.formatMessageId (idempotencyKeyOf event.id)
  recipient : ∀ payload : Registration.UserRegisteredPayload,
    event.payload = payload.stringify → mail.recipient = payload.email

/-- The mail of a job is one that ForgotPasswordUseCase has asked for. -/
structure Setup.Resets (setup : Setup Worker Delivery) (resets : List ResetRequest)
    (job : Job EmailJob) (mail : Jobs.MailInput) (request : ResetRequest) : Prop where
  member : request ∈ resets
  id : job.id = "password-reset-email:" ++ setup.tokenHash request
  subject : mail.subject = "Password reset"
  recipient : mail.recipient = request.normalizedEmail

/-- Every mail that is sent for a job of the queue with the id of a welcome mail is the welcome
mail of an event of the outbox, and goes to the address of the registration; every other one
is that of a password reset. -/
theorem mail_of_registration (reached : setup.system.Reachable anyAction state) {key : String}
    {entry : Delivery × Jobs.MailInput} (sent : entry ∈ (state.mails key).sent) :
    ∃ job ∈ state.queue.taken, job.payload.idempotencyKey = key ∧
      ((∃ event, Welcomes state.appended job entry.2 event) ∨
        (∀ eventId, job.id ≠ jobIdOf eventId) ∧
          ∃ request, setup.Resets state.resets job entry.2 request) := by
  rcases Setup.mails_reachable reached key with empty | ⟨job, taken, named, running⟩
  · rw [empty] at sent
    cases sent
  · refine ⟨job, taken, named, ?_⟩
    have mail := sent_mailInput running entry sent
    cases (Setup.asked reached).taken job taken with
    | @welcome event member name =>
        refine .inl ⟨event, ?_⟩
        constructor
        · exact member
        · exact name
        · rfl
        · rw [mail]
          rfl
        · rw [mail]
          rfl
        · intro payload stored
          rw [mail, ← setup.email_stringify payload, ← stored]
          rfl
    | @reset request member =>
        refine .inr ⟨resetJobOf_id_ne request, request, ?_⟩
        constructor
        · exact member
        · rfl
        · rw [mail]
          rfl
        · rw [mail]
          rfl

theorem registered_mailed : ∃ state, welcomePipeline.system.Reachable anyAction state ∧
    ∃ entry ∈ (state.mails "user-registered:e1:1:welcome").sent,
      ∃ event ∈ state.appended, event.eventName = "user.registered" ∧
        entry.2.recipient = registered.email := by
  have executed :
      (welcomePipeline.system.execute (fun _ _ => true) State.empty (publishing ++ mailing)).map
        (fun state =>
          ((state.mails "user-registered:e1:1:welcome").sent.head?.map Prod.fst,
            state.appended, state.resets)) =
      some (some false,
        [{ id := "e1:1"
           eventName := "user.registered"
           payload := registered.stringify }], []) := by rfl
  obtain ⟨state, run, facts⟩ := Option.map_eq_some_iff.mp executed
  obtain ⟨sent, histories⟩ := Prod.mk.inj facts
  obtain ⟨recorded, unasked⟩ := Prod.mk.inj histories
  obtain ⟨entry, first, _⟩ := Option.map_eq_some_iff.mp sent
  have reached : welcomePipeline.system.Reachable anyAction state :=
    .of_execute (fun _ _ _ => trivial) rfl run
  have member := List.mem_of_head? first
  obtain ⟨job, _, _, mail⟩ := mail_of_registration reached member
  rcases mail with ⟨event, welcomes⟩ | ⟨_, request, resets⟩
  · refine ⟨state, reached, entry, member, event, welcomes.member, welcomes.name,
      welcomes.recipient registered ?_⟩
    have appended := welcomes.member
    rw [recorded, List.mem_singleton] at appended
    rw [appended]
  · have asked := resets.member
    rw [unasked] at asked
    cases asked

/-- Once a delivery has completed its job, no delivery that starts within the retention time
sends the mail again, however often the event is published and the job is taken anew. -/
theorem never_mailed_again {jobId : String} {job : Job EmailJob} {delivery : Delivery}
    {following : State Worker Delivery} (found : jobOf state.queue jobId = some job)
    (completing : ((state.mails job.payload.idempotencyKey).deliveries delivery).phase =
      .completing)
    (stepped : setup.step state (.process jobId (.command delivery)) = some following)
    (resolved : ((following.mails job.payload.idempotencyKey).deliveries delivery).phase =
      .resolved)
    {actions : List (Action Worker Delivery)} {later : State Worker Delivery}
    (run : setup.system.Run anyAction following actions later)
    (early : (later.mails job.payload.idempotencyKey).now ≤
      (following.mails job.payload.idempotencyKey).now +
        setup.execution.completedRetentionTtlSeconds * 1000)
    {other : Delivery}
    (ready : ((following.mails job.payload.idempotencyKey).deliveries other).phase = .ready) :
    ((later.mails job.payload.idempotencyKey).deliveries other).phase ≠ .sending := by
  have completed : (following.mails job.payload.idempotencyKey).Marked
      ((following.mails job.payload.idempotencyKey).now +
        setup.execution.completedRetentionTtlSeconds * 1000) := by
    simp only [Setup.step, found, starts, Bool.false_and, Bool.false_eq_true, if_false] at stepped
    obtain ⟨mails, moved, rfl⟩ := Option.map_eq_some_iff.mp stepped
    change ((Function.update state.mails _ mails _).deliveries delivery).phase = _ at resolved
    change (Function.update state.mails _ mails _).Marked
      ((Function.update state.mails _ mails _).now + _)
    rw [Function.update_self] at resolved ⊢
    rcases Jobs.Setup.step_completing completing moved with ⟨_, _, stored⟩ | ⟨_, marking⟩
    · refine ⟨_, _, .inl rfl, ?_, stored⟩
      rw [now_of_command moved]
      exact Nat.le_refl _
    · rw [marking] at resolved
      cases resolved
  have away := setup.mails_blocked completed (Nat.le_refl _) run ready early
  intro sending
  rw [sending] at away
  cases away

/-- The second processor takes the job once the first has completed it. -/
theorem registered_not_mailed_again :
    ∃ later, welcomePipeline.system.Reachable anyAction later ∧
      ((later.mails "user-registered:e1:1:welcome").deliveries true).phase ≠ .sending := by
  have executed :
      (welcomePipeline.system.execute (fun _ _ => true) State.empty
          (publishing ++ mailing)).bind (fun state =>
        (welcomePipeline.system.step state (.process "welcome-email:e1:1" (.command false))).bind
          fun following =>
            (welcomePipeline.system.execute (fun _ _ => true) following
              [.process "welcome-email:e1:1" (.start true),
                .process "welcome-email:e1:1" (.command true)]).map fun later =>
              (((jobOf state.queue "welcome-email:e1:1").map fun job =>
                  job.payload.idempotencyKey,
                ((state.mails "user-registered:e1:1:welcome").deliveries false).phase,
                ((following.mails "user-registered:e1:1:welcome").deliveries false).phase),
                ((following.mails "user-registered:e1:1:welcome").deliveries true).phase,
                (following.mails "user-registered:e1:1:welcome").now,
                (later.mails "user-registered:e1:1:welcome").now)) =
        some ((some "user-registered:e1:1:welcome", .completing, .resolved), .ready, 0, 0) := by
    rfl
  obtain ⟨state, run, executed⟩ := Option.bind_eq_some_iff.mp executed
  obtain ⟨following, stepped, executed⟩ := Option.bind_eq_some_iff.mp executed
  obtain ⟨later, again, facts⟩ := Option.map_eq_some_iff.mp executed
  simp only [Prod.mk.injEq] at facts
  obtain ⟨⟨taken, completing, resolved⟩, ready, before, after⟩ := facts
  obtain ⟨job, found, key⟩ := Option.map_eq_some_iff.mp taken
  have reached : welcomePipeline.system.Reachable anyAction following :=
    Transition.System.Reachable.next (.of_execute (fun _ _ _ => trivial) rfl run) trivial stepped
  have further : welcomePipeline.system.Run anyAction following _ later :=
    .of_execute (fun _ _ _ => trivial) again
  refine ⟨later, reached.extend further, ?_⟩
  rw [← key] at completing resolved ready before after ⊢
  apply never_mailed_again found completing stepped resolved further _ ready
  rw [before, after]
  exact Nat.zero_le _

end Results

end BackendFoundation.WelcomeMail
