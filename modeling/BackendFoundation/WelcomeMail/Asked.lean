/-
What the queue has been asked for: a job of the welcome mail for an event whose handler has
resolved, one of the mail for a password reset, and no other job.
-/

import BackendFoundation.Text.Pieces
import BackendFoundation.WelcomeMail.Pipeline

namespace BackendFoundation.WelcomeMail

open Transition Database

variable {Worker Delivery : Type}

theorem awaitedEvent_eq_some_iff {call : Outbox.CallState Worker EventHandler}
    {event : Outbox.OutboxRow Worker} :
    awaitedEvent call = some event ↔ ∃ iteration pending resolved,
      call.phase = .iterating iteration
        (.publishing (.awaiting (.userRegistered :: pending) resolved)) ∧
        iteration.event = event := by
  unfold awaitedEvent
  constructor
  · intro awaited
    split at awaited
    · rename_i iteration pending resolved phase
      exact ⟨iteration, pending, resolved, phase, Option.some.inj awaited⟩
    · cases awaited
  · intro found
    obtain ⟨iteration, pending, resolved, phase, rfl⟩ := found
    rw [phase]

/-- The events whose handler has resolved in the route call under way. -/
def ResolvedFor (call : Outbox.CallState Worker EventHandler) (holds : String → Prop) : Prop :=
  ∀ iteration pending resolved,
    call.phase = .iterating iteration (.publishing (.awaiting pending resolved)) →
      EventHandler.userRegistered ∈ resolved → holds iteration.event.id

theorem resolvedFor_of_phase {call : Outbox.CallState Worker EventHandler}
    {holds : String → Prop}
    (other : ∀ iteration pending resolved,
      call.phase ≠ .iterating iteration (.publishing (.awaiting pending resolved))) :
    ResolvedFor call holds := by
  intro iteration pending resolved phase
  exact absurd phase (other iteration pending resolved)

/-- A route call begins with no handler resolved. -/
theorem resolvedFor_nextEvent (setup : Outbox.Setup Worker EventHandler) (now : Nat)
    (events : List (Outbox.OutboxRow Worker)) (late : List (String × Nat))
    (result : Outbox.ProcessOutboxResult) (holds : String → Prop) :
    ResolvedFor
      { phase := setup.nextEvent now events
        late := late
        result := result } holds := by
  intro iteration pending resolved phase member
  cases events with
  | nil => cases phase
  | cons event rest =>
      have routing : Outbox.route setup.handlers setup.supports event.eventName =
          .awaiting pending resolved := by
        have stage := (Outbox.Phase.iterating.inj phase).2
        exact Outbox.Stage.publishing.inj stage
      unfold Outbox.route at routing
      split at routing
      · cases routing
        cases member
      · split at routing
        · cases routing
        · cases routing
          cases member

section Turns

variable [DecidableEq Worker] {setup : Outbox.Setup Worker EventHandler}
  {state : Outbox.State Worker EventHandler} {call : Worker}
  {before after : Outbox.CallState Worker EventHandler} {action : Outbox.Action Worker}
  {statement : Option (Outbox.Statement Worker)}

/-- A handler is awaited until it settles. -/
theorem turn_awaited (turn : setup.Turn state call before action statement after)
    {event : Outbox.OutboxRow Worker} (awaited : awaitedEvent before = some event) :
    awaitedEvent after = some event ∨ after.phase = .crashed ∨
      action = .handlerResolves call ∨ action = .handlerRejects call := by
  obtain ⟨iteration, pending, resolved, awaits, same⟩ := awaitedEvent_eq_some_iff.mp awaited
  cases turn with
  | starts phase | claims _ phase | claimAnswered phase | claimFails phase | routeFails phase
  | marksProcessed phase | marksFailed phase | notProcessed phase | notFailed phase =>
      rw [awaits] at phase
      cases phase
  | finishes _ phase finished =>
      rw [awaits] at phase
      cases phase
      cases finished
  | beats phase | renews phase | extendAnswered phase | extendFails phase | timesOut phase =>
      rw [awaits] at phase
      cases phase
      exact .inl (awaitedEvent_eq_some_iff.mpr ⟨_, pending, resolved, rfl, same⟩)
  | extendsLate => exact .inl awaited
  | resolves => exact .inr (.inr (.inl rfl))
  | throws => exact .inr (.inr (.inr rfl))
  | crashes | crashesInside => exact .inr (.inl rfl)

theorem turn_crashed (turn : setup.Turn state call before action statement after)
    (crashed : before.phase = .crashed) : after.phase = .crashed := by
  cases turn with
  | starts phase | claims _ phase | claimAnswered phase | claimFails phase | routeFails phase
  | marksProcessed phase | marksFailed phase | notProcessed phase | finishes _ phase
  | notFailed phase | beats phase | renews phase | extendAnswered phase | extendFails phase
  | timesOut phase | resolves phase | throws phase | crashesInside phase =>
      rw [crashed] at phase
      cases phase
  | extendsLate => exact crashed
  | crashes => rfl

theorem turn_resolvedFor (turn : setup.Turn state call before action statement after)
    {holds : String → Prop} (earlier : ResolvedFor before holds)
    (resolving : ∀ event, action = .handlerResolves call → awaitedEvent before = some event →
      holds event.id) : ResolvedFor after holds := by
  cases turn with
  | starts | claims | claimFails | throws | routeFails | marksProcessed | marksFailed
  | notProcessed | notFailed | crashes | crashesInside =>
      apply resolvedFor_of_phase
      intro iteration pending resolved phase
      cases phase
  | claimAnswered | finishes => exact resolvedFor_nextEvent _ _ _ _ _ _
  | beats phase | renews phase | extendAnswered phase | extendFails phase =>
      intro iteration pending resolved phase' member
      cases phase'
      have kept := earlier _ pending resolved phase member
      exact kept
  | timesOut phase =>
      intro iteration pending resolved phase' member
      cases phase'
      have kept := earlier _ pending resolved phase member
      exact kept
  | extendsLate => exact earlier
  | @resolves iteration handler pending resolved phase =>
      intro iteration' pending' resolved' phase' member
      cases phase'
      rcases List.mem_append.mp member with old | new
      · exact earlier iteration (handler :: pending) resolved phase old
      · rw [← List.mem_singleton.mp new] at phase
        exact resolving iteration.event rfl
          (awaitedEvent_eq_some_iff.mpr ⟨iteration, pending, resolved, phase, rfl⟩)

end Turns

section Names

variable {options : Outbox.OutboxProcessorOptions} {call : Worker}
  {statement : Outbox.Statement Worker} {row after : Outbox.OutboxRow Worker}

variable [DecidableEq Worker]

theorem ofRow_rewrites (rewrites : statement.Rewrites options call row after) :
    AppendedEvent.ofRow after = AppendedEvent.ofRow row := by
  cases rewrites <;> rfl

theorem ofRow_becomes {setup : Outbox.Setup Worker EventHandler}
    {state : Outbox.State Worker EventHandler} (becomes : setup.Becomes state row after) :
    AppendedEvent.ofRow after = AppendedEvent.ofRow row := by
  rcases becomes with rfl | ⟨_, _, _, rewrites⟩
  · rfl
  · exact ofRow_rewrites rewrites

end Names

/-- Every row and every claimed copy is an appended event, and no id was appended twice. -/
structure Named (outbox : Outbox.State Worker EventHandler) (appended : List AppendedEvent) :
    Prop where
  rows : ∀ row ∈ outbox.events.rows, AppendedEvent.ofRow row ∈ appended
  copies : ∀ call, ∀ event ∈ (outbox.calls call).held, AppendedEvent.ofRow event ∈ appended
  ids : ∀ event ∈ appended, event.id ∈ outbox.events.rows.map Outbox.OutboxRow.id
  once : (appended.map AppendedEvent.id).Nodup

section Naming

variable [DecidableEq Worker] {setup : Outbox.Setup Worker EventHandler}
  {outbox following : Outbox.State Worker EventHandler} {appended : List AppendedEvent}
  {action : Outbox.Action Worker}

omit [DecidableEq Worker] in
theorem Named.unique (named : Named outbox appended) {first second : AppendedEvent}
    (one : first ∈ appended) (two : second ∈ appended) (same : first.id = second.id) :
    first = second :=
  List.inj_on_of_nodup_map named.once one two same

theorem Named.appends (named : Named outbox appended) {id eventName payload : String}
    {occurredAt availableAt : Nat}
    (stepped : setup.step outbox (.append id eventName payload occurredAt availableAt) =
      some following) :
    Named following
      ({ id := id
         eventName := eventName
         payload := payload } :: appended) := by
  obtain ⟨events, stored, rfl⟩ := Option.map_eq_some_iff.mp stepped
  constructor
  · intro row member
    rcases (Table.mem_insert stored row).mp member with rfl | old
    · exact List.mem_cons_self
    · exact List.mem_cons_of_mem _ (named.rows row old)
  · intro call event held
    exact List.mem_cons_of_mem _ (named.copies call event held)
  · intro event member
    rcases List.mem_cons.mp member with rfl | old
    · exact List.mem_map.mpr ⟨_, (Table.mem_insert stored _).mpr (.inl rfl), rfl⟩
    · obtain ⟨row, present, same⟩ := List.mem_map.mp (named.ids event old)
      exact List.mem_map.mpr ⟨row, (Table.mem_insert stored row).mpr (.inr present), same⟩
  · rw [List.map_cons, List.nodup_cons]
    refine ⟨?_, named.once⟩
    intro member
    obtain ⟨event, old, same⟩ := List.mem_map.mp member
    have present := named.ids event old
    rw [same] at present
    obtain ⟨row, inside, equal⟩ := List.mem_map.mp present
    exact Table.not_mem_of_insert stored row inside equal

theorem Named.moves (named : Named outbox appended) (move : setup.Move outbox action following)
    (quiet : ∀ id eventName payload occurredAt availableAt,
      action ≠ .append id eventName payload occurredAt availableAt) :
    Named following appended := by
  constructor
  · intro row member
    have earlier : ∃ before ∈ outbox.events.rows, setup.Becomes outbox before row := by
      cases move with
      | advances | routes => exact ⟨row, member, .inl rfl⟩
      | appends => exact absurd rfl (quiet _ _ _ _ _)
      | @acts call _ statement _ turn =>
          cases statement with
          | none => exact ⟨row, member, .inl rfl⟩
          | some statement =>
              obtain ⟨before, present, rewrites⟩ := Outbox.Setup.row_before_execute member
              exact ⟨before, present, .inr ⟨call, statement, turn.sends, rewrites⟩⟩
    obtain ⟨before, present, becomes⟩ := earlier
    rw [ofRow_becomes becomes]
    exact named.rows before present
  · intro call event held
    rcases move.held call with subset | ⟨now, scan, _, _, claimed⟩
    · exact named.copies call event (subset held)
    · rw [claimed] at held
      exact named.rows event (Outbox.mem_claimedRows held).1
  · intro event member
    exact move.ids (named.ids event member)
  · exact named.once

theorem Named.step (named : Named outbox appended)
    (stepped : setup.step outbox action = some following) :
    Named following (record appended action) := by
  cases action with
  | append id eventName payload occurredAt availableAt => exact named.appends stepped
  | advance | start | claim | claimAnswered | claimFails | heartbeatTimer | extendLock
  | extendLockAnswered | extendLockFails | lateExtendLock | timeout | handlerResolves
  | handlerRejects | routeSettles | mark | markAnswered | markFails | crash =>
      apply named.moves (setup.moved stepped)
      intro id eventName payload occurredAt availableAt same
      cases same

end Naming

/-- The queue has taken a job for the event. -/
def Queue.Has (queue : Queue EmailJob) (eventId : String) : Prop :=
  ∃ job ∈ queue.taken, job.id = jobIdOf eventId

/-- What a job has been made from. -/
inductive Setup.Made (setup : Setup Worker Delivery) (appended : List AppendedEvent)
    (resets : List ResetRequest) : Job EmailJob → Prop
  | welcome {event : AppendedEvent} (member : event ∈ appended)
      (name : event.eventName = "user.registered") :
      Made setup appended resets (setup.welcomeJobOf event)
  | reset {request : ResetRequest} (member : request ∈ resets) :
      Made setup appended resets (setup.resetJobOf request)

structure Setup.Asked (setup : Setup Worker Delivery) (state : State Worker Delivery) : Prop where
  named : Named state.outbox state.appended
  drawn : (state.resets.map setup.tokenHash).Nodup
  taken : ∀ job ∈ state.queue.taken, setup.Made state.appended state.resets job
  stored : ∀ id job, state.queue.stored id = some job → job ∈ state.queue.taken ∧ job.id = id
  answered : ∀ call, state.answered call = true →
    (∃ event, awaitedEvent (state.outbox.calls call) = some event ∧
      Queue.Has state.queue event.id) ∨ (state.outbox.calls call).phase = .crashed
  resolved : ∀ call, ResolvedFor (state.outbox.calls call) (Queue.Has state.queue)
  routed : ∀ record ∈ state.outbox.routed, EventHandler.userRegistered ∈ record.resolved →
    Queue.Has state.queue record.id

section Keys

variable {setup : Setup Worker Delivery} {appended : List AppendedEvent}
  {resets : List ResetRequest} {job : Job EmailJob}

theorem Setup.Made.mono (made : setup.Made appended resets job)
    {appended' : List AppendedEvent} {resets' : List ResetRequest}
    (events : appended ⊆ appended') (requests : resets ⊆ resets') :
    setup.Made appended' resets' job := by
  cases made with
  | welcome member name => exact .welcome (events member) name
  | reset member => exact .reset (requests member)

/-- Texts that begin differently. -/
theorem append_ne_append {front other first second : String}
    (apart : front.toList.head? ≠ other.toList.head?) (begun : front ≠ "") (begun' : other ≠ "") :
    front ++ first ≠ other ++ second := by
  intro same
  have characters := congrArg (fun text => text.toList.head?) same
  have nonempty : front.toList ≠ [] := fun none => begun (String.toList_eq_nil_iff.mp none)
  have nonempty' : other.toList ≠ [] := fun none => begun' (String.toList_eq_nil_iff.mp none)
  simp only [String.toList_append, List.head?_append_of_ne_nil _ nonempty,
    List.head?_append_of_ne_nil _ nonempty'] at characters
  exact apart characters

theorem idempotencyKeyOf_ne (eventId : String) (request : ResetRequest) :
    idempotencyKeyOf eventId ≠ (setup.resetJobOf request).payload.idempotencyKey := by
  change "user-registered:" ++ eventId ++ ":welcome" ≠
    "password-reset:" ++ request.userId ++ ":" ++ setup.tokenHash request
  rw [String.append_assoc, String.append_assoc, String.append_assoc]
  exact append_ne_append (by decide) (by decide) (by decide)

theorem resetJobOf_id_ne (request : ResetRequest) (eventId : String) :
    (setup.resetJobOf request).id ≠ jobIdOf eventId :=
  append_ne_append (by decide) (by decide) (by decide)

/-- The id of a welcome job tells the event. -/
theorem Setup.Made.welcome_of_id (made : setup.Made appended resets job) {eventId : String}
    (id : job.id = jobIdOf eventId) :
    ∃ event ∈ appended, event.eventName = "user.registered" ∧ event.id = eventId ∧
      job = setup.welcomeJobOf event := by
  cases made with
  | @welcome event member name => exact ⟨event, member, name, jobIdOf_injective id, rfl⟩
  | reset member => exact absurd id (resetJobOf_id_ne _ _)

/-- Execution keys of password resets tell the token. -/
theorem Setup.tokenHash_of_key {first second : ResetRequest}
    (same : (setup.resetJobOf first).payload.idempotencyKey =
      (setup.resetJobOf second).payload.idempotencyKey) :
    setup.tokenHash first = setup.tokenHash second := by
  have characters := congrArg String.toList same
  change ("password-reset:" ++ first.userId ++ ":" ++ setup.tokenHash first).toList =
    ("password-reset:" ++ second.userId ++ ":" ++ setup.tokenHash second).toList at characters
  simp only [String.toList_append, List.append_assoc] at characters
  rw [← List.append_assoc, ← List.append_assoc "password-reset:".toList] at characters
  exact String.toList_inj.mp (Text.eq_of_edge_eq (setup.sha256_plain _) (setup.sha256_plain _)
    characters)

end Keys

section Asking

variable {setup : Setup Worker Delivery} {state : State Worker Delivery}

/-- Two jobs never share an execution key. -/
theorem Setup.Asked.eq_of_key (asked : setup.Asked state) {first second : Job EmailJob}
    (one : first ∈ state.queue.taken) (two : second ∈ state.queue.taken)
    (same : first.payload.idempotencyKey = second.payload.idempotencyKey) : first = second := by
  cases asked.taken first one with
  | welcome member name =>
      cases asked.taken second two with
      | welcome member' name' =>
          rw [asked.named.unique member member' (idempotencyKeyOf_injective same)]
      | reset member' =>
          exact absurd same (idempotencyKeyOf_ne _ _)
  | reset member =>
      cases asked.taken second two with
      | welcome member' name' =>
          exact absurd same.symm (idempotencyKeyOf_ne _ _)
      | reset member' =>
          rw [List.inj_on_of_nodup_map asked.drawn member member' (setup.tokenHash_of_key same)]

theorem record_subset (appended : List AppendedEvent) (action : Outbox.Action Worker) :
    appended ⊆ record appended action := by
  cases action with
  | append => exact List.subset_cons_self _ _
  | advance | start | claim | claimAnswered | claimFails | heartbeatTimer | extendLock
  | extendLockAnswered | extendLockFails | lateExtendLock | timeout | handlerResolves
  | handlerRejects | routeSettles | mark | markAnswered | markFails | crash =>
      exact List.Subset.refl _

theorem awaitedEvent_held {call : Outbox.CallState Worker EventHandler}
    {event : Outbox.OutboxRow Worker} (awaited : awaitedEvent call = some event) :
    event ∈ call.held := by
  obtain ⟨iteration, pending, resolved, phase, rfl⟩ := awaitedEvent_eq_some_iff.mp awaited
  rw [Outbox.CallState.held, phase]
  exact List.mem_cons_self

/-- The handler is awaited for the events it supports. -/
theorem awaitedEvent_name (calls : setup.outbox.CallsSound state.outbox) {call : Worker}
    {event : Outbox.OutboxRow Worker}
    (awaited : awaitedEvent (state.outbox.calls call) = some event) :
    event.eventName = "user.registered" := by
  obtain ⟨iteration, pending, resolved, phase, rfl⟩ := awaitedEvent_eq_some_iff.mp awaited
  have sound := calls call
  rw [Outbox.Setup.CallSound, phase] at sound
  have awaits : EventHandler.userRegistered ∈ setup.outbox.handlers.filter fun handler =>
      setup.outbox.supports handler iteration.event.eventName := by
    rw [← show resolved ++ EventHandler.userRegistered :: pending = _ from sound]
    exact List.mem_append_right _ List.mem_cons_self
  exact eq_of_beq (List.mem_filter.mp awaits).2

/-- The handler resolves on the answer of the queue. -/
theorem Setup.Asked.resolving (asked : setup.Asked state) {action : Outbox.Action Worker}
    (permitted : state.permits action = true) {call : Worker} (event : Outbox.OutboxRow Worker)
    (resolves : action = .handlerResolves call)
    (awaited : awaitedEvent (state.outbox.calls call) = some event) :
    Queue.Has state.queue event.id := by
  subst resolves
  rcases asked.answered call permitted with ⟨other, awaited', has⟩ | crashed
  · rw [awaited] at awaited'
    cases awaited'
    exact has
  · obtain ⟨_, _, _, phase, _⟩ := awaitedEvent_eq_some_iff.mp awaited
    rw [crashed] at phase
    cases phase

theorem Setup.Asked.queueRemove (asked : setup.Asked state) (jobId : String) :
    setup.Asked { state with queue := state.queue.remove jobId } :=
  { named := asked.named
    drawn := asked.drawn
    taken := asked.taken
    stored := by
      intro id job found
      change Function.update state.queue.stored jobId none id = some job at found
      by_cases same : id = jobId
      · subst same
        rw [Function.update_self] at found
        cases found
      · rw [Function.update_of_ne same] at found
        exact asked.stored id job found
    answered := asked.answered
    resolved := asked.resolved
    routed := asked.routed }

theorem Setup.asked_empty : setup.Asked (State.empty : State Worker Delivery) := by
  constructor
  · constructor
    · intro row member
      cases member
    · intro call event held
      cases held
    · intro event member
      cases member
    · exact List.nodup_nil
  · exact List.nodup_nil
  · intro job member
    cases member
  · intro id job found
    cases found
  · intro call answered
    cases answered
  · intro call
    apply resolvedFor_of_phase
    intro iteration pending resolved phase
    cases phase
  · intro record member
    cases member

variable [DecidableEq Worker]

theorem settle_answered {answered : Worker → Bool} {action : Outbox.Action Worker}
    {call : Worker} (still : settle answered action call = true) :
    answered call = true ∧ action ≠ .handlerResolves call ∧ action ≠ .handlerRejects call := by
  have settled : ∀ actor, Function.update answered actor false call = true →
      answered call = true ∧ call ≠ actor := by
    intro actor still
    by_cases same : call = actor
    · subst same
      rw [Function.update_self] at still
      cases still
    · rw [Function.update_of_ne same] at still
      exact ⟨still, same⟩
  cases action with
  | handlerResolves actor =>
      obtain ⟨kept, different⟩ := settled actor still
      refine ⟨kept, ?_, ?_⟩
      · intro same
        exact different (Outbox.Action.handlerResolves.inj same).symm
      · intro same
        cases same
  | handlerRejects actor =>
      obtain ⟨kept, different⟩ := settled actor still
      refine ⟨kept, ?_, ?_⟩
      · intro same
        cases same
      · intro same
        exact different (Outbox.Action.handlerRejects.inj same).symm
  | append | advance | start | claim | claimAnswered | claimFails | heartbeatTimer
  | extendLock | extendLockAnswered | extendLockFails | lateExtendLock | timeout
  | routeSettles | mark | markAnswered | markFails | crash =>
      refine ⟨still, ?_, ?_⟩
      · intro same
        cases same
      · intro same
        cases same

/-- An answer of the queue waits for the handler of the event it was given for. -/
theorem Setup.Asked.answered_outbox (asked : setup.Asked state) {action : Outbox.Action Worker}
    {outbox : Outbox.State Worker EventHandler}
    (move : setup.outbox.Move state.outbox action outbox) {call : Worker}
    (still : settle state.answered action call = true) :
    (∃ event, awaitedEvent (outbox.calls call) = some event ∧
      Queue.Has state.queue event.id) ∨ (outbox.calls call).phase = .crashed := by
  obtain ⟨kept, unresolved, unrejected⟩ := settle_answered still
  have goes := move.goes call
  rcases asked.answered call kept with ⟨event, awaited, has⟩ | crashed
  · cases move with
    | advances | appends => exact .inl ⟨event, awaited, has⟩
    | @acts actor _ statement _ turn =>
        by_cases same : call = actor
        · subst same
          rw [Outbox.State.update_calls_self]
          rcases turn_awaited turn awaited with still | crashed | resolves | rejects
          · exact .inl ⟨event, still, has⟩
          · exact .inr crashed
          · exact absurd resolves unresolved
          · exact absurd rejects unrejected
        · rw [Outbox.State.update_calls_other _ _ same, Outbox.Setup.executeOption_calls]
          exact .inl ⟨event, awaited, has⟩
    | @routes actor iteration resolved stage phase =>
        change (∃ event, awaitedEvent ((state.outbox.update actor _).calls call) = _ ∧ _) ∨
          ((state.outbox.update actor _).calls call).phase = _
        by_cases same : call = actor
        · subst same
          obtain ⟨_, _, _, phase', _⟩ := awaitedEvent_eq_some_iff.mp awaited
          rw [phase] at phase'
          cases phase'
        · rw [Outbox.State.update_calls_other _ _ same]
          exact .inl ⟨event, awaited, has⟩
  · right
    generalize outbox.calls call = after at goes
    cases goes with
    | stays => exact crashed
    | acts turn => exact turn_crashed turn crashed
    | routes phase =>
        rw [crashed] at phase
        cases phase

theorem Setup.Asked.resolved_outbox (asked : setup.Asked state) {action : Outbox.Action Worker}
    {outbox : Outbox.State Worker EventHandler} (permitted : state.permits action = true)
    (move : setup.outbox.Move state.outbox action outbox) (call : Worker) :
    ResolvedFor (outbox.calls call) (Queue.Has state.queue) := by
  cases move with
  | advances | appends => exact asked.resolved call
  | @acts actor _ statement _ turn =>
      by_cases same : call = actor
      · subst same
        rw [Outbox.State.update_calls_self]
        exact turn_resolvedFor turn (asked.resolved call) fun event resolves awaited =>
          asked.resolving permitted event resolves awaited
      · rw [Outbox.State.update_calls_other _ _ same, Outbox.Setup.executeOption_calls]
        exact asked.resolved call
  | @routes actor iteration resolved stage phase =>
      change ResolvedFor ((state.outbox.update actor _).calls call) _
      by_cases same : call = actor
      · subst same
        rw [Outbox.State.update_calls_self]
        apply resolvedFor_of_phase
        intro iteration' pending resolved' phase'
        rename_i following
        rcases following with rfl | rfl <;> cases phase'
      · rw [Outbox.State.update_calls_other _ _ same]
        exact asked.resolved call

theorem Setup.Asked.outbox (asked : setup.Asked state) {action : Outbox.Action Worker}
    {outbox : Outbox.State Worker EventHandler} (permitted : state.permits action = true)
    (stepped : setup.outbox.step state.outbox action = some outbox) :
    setup.Asked
      { state with
        outbox := outbox
        answered := settle state.answered action
        appended := record state.appended action } := by
  have move := setup.outbox.moved stepped
  constructor
  · exact asked.named.step stepped
  · exact asked.drawn
  · intro job member
    exact (asked.taken job member).mono (record_subset _ action) (List.Subset.refl _)
  · exact asked.stored
  · intro call still
    exact asked.answered_outbox move still
  · intro call
    exact asked.resolved_outbox permitted move call
  · intro record member resolved
    change record ∈ outbox.routed at member
    cases move with
    | advances | appends => exact asked.routed record member resolved
    | acts =>
        simp only [Outbox.State.update_routed, Outbox.Setup.executeOption_routed] at member
        exact asked.routed record member resolved
    | @routes actor iteration resolved' stage phase =>
        rcases List.mem_cons.mp member with rfl | old
        · exact asked.resolved actor iteration [] resolved' phase resolved
        · exact asked.routed record old resolved

omit [DecidableEq Worker] in
theorem Queue.Accepts.grows {queue following : Queue EmailJob} {job : Job EmailJob}
    (accepts : queue.Accepts job following) : queue.taken ⊆ following.taken := by
  cases accepts with
  | stands => exact List.Subset.refl _
  | takes => exact List.subset_append_left _ _

omit [DecidableEq Worker] in
theorem Queue.Has.grow {queue following : Queue EmailJob} {eventId : String}
    (has : queue.Has eventId) (grows : queue.taken ⊆ following.taken) :
    following.Has eventId := by
  obtain ⟨job, member, same⟩ := has
  exact ⟨job, grows member, same⟩

omit [DecidableEq Worker] in
/-- The queue goes on with a job that it has been asked for. -/
theorem Setup.Asked.accepts (asked : setup.Asked state) {job : Job EmailJob}
    {queue : Queue EmailJob} {resets : List ResetRequest}
    (accepts : state.queue.Accepts job queue) (known : state.resets ⊆ resets)
    (drawn : (resets.map setup.tokenHash).Nodup)
    (made : setup.Made state.appended resets job) :
    setup.Asked
      { state with
        queue := queue
        resets := resets } := by
  have grows := accepts.grows
  constructor
  · exact asked.named
  · exact drawn
  · intro other member
    have old : ∀ other ∈ state.queue.taken, setup.Made state.appended resets other :=
      fun other member => (asked.taken other member).mono (List.Subset.refl _) known
    cases accepts with
    | stands => exact old other member
    | takes =>
        rcases List.mem_append.mp member with before | new
        · exact old other before
        · rw [List.mem_singleton.mp new]
          exact made
  · intro id other found
    cases accepts with
    | stands => exact asked.stored id other found
    | takes =>
        change Function.update state.queue.stored job.id (some job) id = some other at found
        by_cases same : id = job.id
        · subst same
          rw [Function.update_self] at found
          cases found
          exact ⟨List.mem_append_right _ List.mem_cons_self, rfl⟩
        · rw [Function.update_of_ne same] at found
          obtain ⟨member, equal⟩ := asked.stored id other found
          exact ⟨List.mem_append_left _ member, equal⟩
  · intro call answered
    rcases asked.answered call answered with ⟨event, awaited, has⟩ | crashed
    · exact .inl ⟨event, awaited, has.grow grows⟩
    · exact .inr crashed
  · intro call iteration pending resolved phase member
    exact (asked.resolved call iteration pending resolved phase member).grow grows
  · intro record member resolved
    exact (asked.routed record member resolved).grow grows

omit [DecidableEq Worker] in
/-- After the queue has accepted a job, there is one with its id. -/
theorem Setup.Asked.has (asked : setup.Asked state) {job : Job EmailJob}
    {queue : Queue EmailJob} (accepts : state.queue.Accepts job queue) :
    ∃ other ∈ queue.taken, other.id = job.id := by
  cases accepts with
  | stands stored =>
      obtain ⟨member, same⟩ := asked.stored _ _ stored
      exact ⟨_, member, same⟩
  | takes => exact ⟨job, List.mem_append_right _ List.mem_cons_self, rfl⟩

theorem Setup.Asked.queueAdd (asked : setup.Asked state)
    (calls : setup.outbox.CallsSound state.outbox) {call : Worker}
    {event : Outbox.OutboxRow Worker} {fresh answer : String} {queue : Queue EmailJob}
    (awaited : awaitedEvent (state.outbox.calls call) = some event)
    (handled : UserRegisteredEventHandler.handle setup.gateway setup.bullmq state.queue fresh
      event.id (setup.email event.payload) = .ok (queue, answer)) :
    setup.Asked
      { state with
        queue := queue
        answered := Function.update state.answered call true } := by
  have accepts := UserRegisteredEventHandler.handled handled
  have copied := asked.named.copies call event (awaitedEvent_held awaited)
  have after := asked.accepts accepts (List.Subset.refl _) asked.drawn
    (.welcome copied (awaitedEvent_name calls awaited))
  refine
    { named := after.named
      drawn := after.drawn
      taken := after.taken
      stored := after.stored
      answered := ?_
      resolved := after.resolved
      routed := after.routed }
  intro other answered
  change Function.update state.answered call true other = true at answered
  by_cases same : other = call
  · subst same
    exact .inl ⟨event, awaited, asked.has accepts⟩
  · rw [Function.update_of_ne same] at answered
    exact after.answered other answered

omit [DecidableEq Worker] in
theorem Setup.Asked.forgotPassword (asked : setup.Asked state) {request : ResetRequest}
    {fresh : String} {queue : Queue EmailJob}
    (unused : setup.tokenHash request ∉ state.resets.map setup.tokenHash)
    (enqueued : request.enqueue setup.forgot setup.apiGateway setup.bullmq state.queue fresh =
      .ok ((), queue)) :
    setup.Asked
      { state with
        queue := queue
        resets := request :: state.resets } := by
  have drawn : ((request :: state.resets).map setup.tokenHash).Nodup :=
    List.nodup_cons.mpr ⟨unused, asked.drawn⟩
  have known : state.resets ⊆ request :: state.resets := List.subset_cons_self _ _
  rcases ResetRequest.enqueued enqueued with rfl | accepts
  · exact
      { named := asked.named
        drawn := drawn
        taken := fun job member =>
          (asked.taken job member).mono (List.Subset.refl _) known
        stored := asked.stored
        answered := asked.answered
        resolved := asked.resolved
        routed := asked.routed }
  · exact asked.accepts accepts known drawn (.reset List.mem_cons_self)

variable [DecidableEq Delivery]

/-- The outbox goes on as it does alone. -/
theorem Setup.outbox_reachable (reached : setup.system.Reachable anyAction state) :
    setup.outbox.system.Reachable anyAction state.outbox := by
  apply reached.invariant
  · intro start initial
    cases initial
    exact ⟨_, [], ⟨rfl, rfl, rfl, rfl, rfl⟩, .nil⟩
  · intro before action after reached _ stepped
    cases Setup.moved stepped with
    | outbox _ moved =>
        have moves : setup.outbox.system.step before.outbox _ = some _ := moved
        exact reached.next trivial moves
    | queueAdd | forgotPassword | queueRemove | process => exact reached

theorem Setup.asked (reached : setup.system.Reachable anyAction state) : setup.Asked state := by
  have known : ∀ state, setup.system.Reachable anyAction state →
      setup.outbox.CallsSound state.outbox := fun _ reached =>
    setup.outbox.callsSound_of_reachable (Setup.outbox_reachable reached)
  apply reached.invariant_using known
  · intro start initial
    cases initial
    exact Setup.asked_empty
  · intro before action after calls asked _ stepped
    cases Setup.moved stepped with
    | outbox permitted moved => exact asked.outbox permitted moved
    | queueAdd awaited handled => exact asked.queueAdd calls awaited handled
    | forgotPassword unused enqueued => exact asked.forgotPassword unused enqueued
    | queueRemove jobId => exact asked.queueRemove jobId
    | process =>
        exact
          { named := asked.named
            drawn := asked.drawn
            taken := asked.taken
            stored := asked.stored
            answered := asked.answered
            resolved := asked.resolved
            routed := asked.routed }

end Asking

end BackendFoundation.WelcomeMail
