/-
What one step of the outbox can do: to the calls, and to a single row.
-/

import BackendFoundation.Outbox.Acts

namespace BackendFoundation.Outbox

open Database

variable {Worker Handler : Type}

/-- The statements of a call that the database may execute next. -/
inductive CallState.Sends (before : CallState Worker Handler) : Statement Worker → Prop
  | claimPendingBatch {now : Nat} (scan : Scan) (phase : before.phase = .claiming now none) :
      Sends before (.claimPendingBatch now scan)
  | extendLock {iteration : Iteration Worker} {stage : Stage Handler} {date : Nat}
      (phase : before.phase = .iterating iteration stage)
      (sent : iteration.heartbeat = .sent date) :
      Sends before (.extendLock date iteration.event.id)
  | lateExtendLock {id : String} {date : Nat} (late : (id, date) ∈ before.late) :
      Sends before (.extendLock date id)
  | markProcessed {iteration : Iteration Worker}
      (phase : before.phase = .iterating iteration (.markingProcessed none)) :
      Sends before (.markProcessed iteration.event.id)
  | markFailed {iteration : Iteration Worker} {now : Nat}
      (phase : before.phase = .iterating iteration (.markingFailed now none)) :
      Sends before (.markFailed now iteration.event)

theorem CallState.Sends.extension {before : CallState Worker Handler} {id : String} {date : Nat}
    (sends : before.Sends (.extendLock date id)) : (id, date) ∈ before.extensions := by
  cases sends with
  | extendLock phase sent =>
      simp [CallState.extensions, phase, Iteration.inFlight, sent]
  | lateExtendLock late =>
      unfold CallState.extensions
      split
      · exact List.mem_append_right _ late
      · exact late

variable [DecidableEq Worker]

/-- The reply to a mark statement that ends the iteration is there. -/
def Stage.finished : Stage Handler → Bool
  | .markingProcessed (some true) | .markingFailed _ (some _) => true
  | _ => false

/-- What becomes of a call, and the statement of it that the database executes. -/
inductive Setup.Turn (setup : Setup Worker Handler) (state : State Worker Handler)
    (call : Worker) (before : CallState Worker Handler) :
    Action Worker → Option (Statement Worker) → CallState Worker Handler → Prop
  | starts (phase : before.phase = .ready) :
      Turn setup state call before (.start call) none
        (before.goto (.claiming (setup.clock call state.now) none))
  | claims {now : Nat} (scan : Scan) (phase : before.phase = .claiming now none) :
      Turn setup state call before (.claim call scan) (some (.claimPendingBatch now scan))
        (before.goto (.claiming now (some (claimedRows setup.options state.events now scan))))
  | claimAnswered {now : Nat} {rows : List (OutboxRow Worker)}
      (phase : before.phase = .claiming now (some rows)) :
      Turn setup state call before (.claimAnswered call) none
        { before with
          phase := setup.nextEvent state.now rows
          result := { before.result with selected := rows.length } }
  | claimFails {now : Nat} {reply : Option (List (OutboxRow Worker))}
      (phase : before.phase = .claiming now reply) :
      Turn setup state call before (.claimFails call) none (before.goto .rejected)
  | beats {iteration : Iteration Worker} {stage : Stage Handler}
      (phase : before.phase = .iterating iteration stage)
      (due : iteration.nextHeartbeat ≤ state.now) :
      Turn setup state call before (.heartbeatTimer call) none
        (before.goto (.iterating
          (iteration.beat setup.options state.now (setup.clock call state.now)) stage))
  | renews {iteration : Iteration Worker} {stage : Stage Handler} {date : Nat}
      (phase : before.phase = .iterating iteration stage)
      (sent : iteration.heartbeat = .sent date) :
      Turn setup state call before (.extendLock call) (some (.extendLock date iteration.event.id))
        (before.goto (.iterating
          { iteration with
            heartbeat := .executed
              (extendLock state.events date iteration.event.id call).2 } stage))
  | extendAnswered {iteration : Iteration Worker} {stage : Stage Handler} {extended : Bool}
      (phase : before.phase = .iterating iteration stage)
      (executed : iteration.heartbeat = .executed extended) :
      Turn setup state call before (.extendLockAnswered call) none
        (before.goto (.iterating (iteration.extended extended) stage))
  | extendFails {iteration : Iteration Worker} {stage : Stage Handler}
      (phase : before.phase = .iterating iteration stage) :
      Turn setup state call before (.extendLockFails call) none
        (before.goto (.iterating (iteration.extended false) stage))
  | extendsLate {id : String} {date : Nat} (late : (id, date) ∈ before.late) :
      Turn setup state call before (.lateExtendLock call id date) (some (.extendLock date id))
        { before with late := before.late.erase (id, date) }
  | timesOut {iteration : Iteration Worker} {routing : Routing Handler}
      (phase : before.phase = .iterating iteration (.publishing routing)) :
      Turn setup state call before (.timeout call) none
        (before.goto (.iterating
          { iteration with
            timeoutAt := none
            handlerTimedOut := true } (.publishing routing)))
  | resolves {iteration : Iteration Worker} {handler : Handler}
      {pending resolved : List Handler}
      (phase : before.phase =
        .iterating iteration (.publishing (.awaiting (handler :: pending) resolved))) :
      Turn setup state call before (.handlerResolves call) none
        (before.goto
          (.iterating iteration (.publishing (.awaiting pending (resolved ++ [handler])))))
  | throws {iteration : Iteration Worker} {handler : Handler} {pending resolved : List Handler}
      (phase : before.phase =
        .iterating iteration (.publishing (.awaiting (handler :: pending) resolved))) :
      Turn setup state call before (.handlerRejects call) none
        (before.goto (.iterating iteration (.publishing .thrown)))
  | routeFails {action : Action Worker} {iteration : Iteration Worker}
      (phase : before.phase = .iterating iteration (.publishing .thrown)) :
      Turn setup state call before action none
        (before.goto
          (.iterating iteration (.markingFailed (setup.clock call state.now) none)))
  | marksProcessed {iteration : Iteration Worker} {reply : Option Bool}
      (phase : before.phase = .iterating iteration (.markingProcessed none)) :
      Turn setup state call before (.mark call) (some (.markProcessed iteration.event.id))
        (before.goto (.iterating iteration (.markingProcessed reply)))
  | marksFailed {iteration : Iteration Worker} {now : Nat} {reply : Option Bool}
      (phase : before.phase = .iterating iteration (.markingFailed now none)) :
      Turn setup state call before (.mark call) (some (.markFailed now iteration.event))
        (before.goto (.iterating iteration (.markingFailed now reply)))
  | notProcessed {action : Action Worker} {iteration : Iteration Worker} {reply : Option Bool}
      (phase : before.phase = .iterating iteration (.markingProcessed reply)) :
      Turn setup state call before action none
        (before.goto
          (.iterating iteration (.markingFailed (setup.clock call state.now) none)))
  | finishes {iteration : Iteration Worker} {stage : Stage Handler}
      (result : ProcessOutboxResult) (phase : before.phase = .iterating iteration stage)
      (finished : stage.finished = true) :
      Turn setup state call before (.markAnswered call) none
        (setup.finish state.now before iteration result)
  | notFailed {iteration : Iteration Worker} {now : Nat} {reply : Option Bool}
      (phase : before.phase = .iterating iteration (.markingFailed now reply)) :
      Turn setup state call before (.markFails call) none (before.abandon iteration .rejected)
  | crashes (idle : ∀ iteration stage, before.phase ≠ .iterating iteration stage) :
      Turn setup state call before (.crash call) none (before.goto .crashed)
  | crashesInside {iteration : Iteration Worker} {stage : Stage Handler}
      (phase : before.phase = .iterating iteration stage) :
      Turn setup state call before (.crash call) none (before.abandon iteration .crashed)

/-- What a statement does to one row of the table. -/
inductive Statement.Rewrites (options : OutboxProcessorOptions) (call : Worker) :
    Statement Worker → OutboxRow Worker → OutboxRow Worker → Prop
  | kept (statement : Statement Worker) (row : OutboxRow Worker) :
      Rewrites options call statement row row
  | claimed {now : Nat} (scan : Scan) {row : OutboxRow Worker}
      (selected : claimable options now row = true) :
      Rewrites options call (.claimPendingBatch now scan) row
        ((claimAssignment now call).set row)
  | extended (now : Nat) {id : String} {row : OutboxRow Worker}
      (held : owned id call row = true) :
      Rewrites options call (.extendLock now id) row ((extendAssignment now).set row)
  | processed {id : String} {row : OutboxRow Worker} (held : owned id call row = true) :
      Rewrites options call (.markProcessed id) row (processedAssignment.set row)
  | failed (now : Nat) {event row : OutboxRow Worker} (held : owned event.id call row = true) :
      Rewrites options call (.markFailed now event) row
        ((failedAssignment options now event).set row)

/-- Everything one step can do. -/
inductive Setup.Move (setup : Setup Worker Handler) (state : State Worker Handler) :
    Action Worker → State Worker Handler → Prop
  | advances (milliseconds : Nat) :
      Move setup state (.advance milliseconds) { state with now := state.now + milliseconds }
  | appends {id eventName payload : String} {occurredAt availableAt : Nat}
      {events : OutboxEvents Worker}
      (stored : append state.events id eventName payload occurredAt availableAt state.now =
        some events) :
      Move setup state (.append id eventName payload occurredAt availableAt)
        { state with
          events := events
          appended := id :: state.appended }
  | acts (call : Worker) {action : Action Worker} {statement : Option (Statement Worker)}
      {after : CallState Worker Handler}
      (turn : setup.Turn state call (state.calls call) action statement after) :
      Move setup state action ((setup.executeOption state call statement).update call after)
  | routes (call : Worker) {iteration : Iteration Worker} {resolved : List Handler}
      {stage : Stage Handler}
      (phase : (state.calls call).phase =
        .iterating iteration (.publishing (.awaiting [] resolved)))
      (following : stage = .markingProcessed none ∨
        stage = .markingFailed (setup.clock call state.now) none) :
      Move setup state (.routeSettles call)
        { state.update call ((state.calls call).goto (.iterating iteration stage)) with
          routed :=
            { worker := call
              id := iteration.event.id
              resolved := resolved } :: state.routed }

variable {action : Action Worker}

theorem Setup.Act.turn {setup : Setup Worker Handler} {state : State Worker Handler}
    {call : Worker} {before after : CallState Worker Handler}
    {statement : Option (Statement Worker)}
    (act : setup.Act state call before action statement after) :
    setup.Turn state call before action statement after := by
  cases act with
  | starts phase => exact .starts phase
  | claims scan phase => exact .claims scan phase
  | claimAnswered phase => exact .claimAnswered phase
  | claimFails phase => exact .claimFails phase
  | beats phase due => exact .beats phase due
  | renews phase sent => exact .renews phase sent
  | extendAnswered phase executed => exact .extendAnswered phase executed
  | extendFails phase inProgress => exact .extendFails phase
  | extendsLate late => exact .extendsLate late
  | timesOut phase enabled due => exact .timesOut phase
  | resolves phase => exact .resolves phase
  | rejects phase => exact .throws phase
  | routeRejects phase => exact .routeFails phase
  | marksProcessed phase => exact .marksProcessed phase
  | marksFailed phase => exact .marksFailed phase
  | processed phase => exact .finishes _ phase rfl
  | unmatched phase | markProcessedFails phase => exact .notProcessed phase
  | failed phase => exact .finishes _ phase rfl
  | markFailedFails phase => exact .notFailed phase
  | crashes idle => exact .crashes idle
  | crashesInside phase => exact .crashesInside phase

theorem Setup.moved (setup : Setup Worker Handler) {state following : State Worker Handler}
    (stepped : setup.step state action = some following) :
    setup.Move state action following := by
  cases setup.stepped stepped with
  | advances milliseconds => exact .advances milliseconds
  | appends stored => exact .appends stored
  | acts call act => exact .acts call act.turn
  | routes call phase =>
      refine .routes call phase ?_
      unfold afterRoute
      split
      · exact .inr rfl
      · exact .inl rfl

theorem Setup.Turn.sends {setup : Setup Worker Handler} {state : State Worker Handler}
    {call : Worker} {before after : CallState Worker Handler} {statement : Statement Worker}
    (turn : setup.Turn state call before action (some statement) after) :
    before.Sends statement := by
  cases turn with
  | claims scan phase => exact .claimPendingBatch scan phase
  | renews phase sent => exact .extendLock phase sent
  | extendsLate late => exact .lateExtendLock late
  | marksProcessed phase => exact .markProcessed phase
  | marksFailed phase => exact .markFailed phase

section Rows

variable {options : OutboxProcessorOptions} {call : Worker} {statement : Statement Worker}
  {row after : OutboxRow Worker}

@[simp] theorem Statement.Rewrites.id_eq (rewrites : statement.Rewrites options call row after) :
    after.id = row.id := by
  cases rewrites <;> rfl

@[simp] theorem Statement.Rewrites.eventName_eq
    (rewrites : statement.Rewrites options call row after) :
    after.eventName = row.eventName := by
  cases rewrites <;> rfl

/-- Whoever holds a row after a statement held it before, or has claimed it just now. -/
theorem Statement.Rewrites.owned_before {id : String} {holder : Worker}
    (rewrites : statement.Rewrites options call row after)
    (held : owned id holder after = true) :
    (owned id holder row = true ∧ after.attempts = row.attempts ∧
        after.availableAt = row.availableAt) ∨
      ∃ now scan, holder = call ∧ statement = .claimPendingBatch now scan ∧
        claimable options now row = true ∧ after = (claimAssignment now call).set row := by
  have after_owned := owned_iff.mp held
  cases rewrites with
  | kept => exact .inl ⟨held, rfl, rfl⟩
  | claimed scan selected =>
      exact .inr ⟨_, scan, (Option.some.inj after_owned.2.2).symm, rfl, selected, rfl⟩
  | extended now before => exact .inl ⟨owned_iff.mpr after_owned, rfl, rfl⟩
  | processed before => exact nomatch after_owned.2.1
  | failed now before =>
      have status := after_owned.2.1
      simp only [failedAssignment] at status
      split at status <;> cases status

end Rows

/-- Every statement is an UPDATE. -/
theorem Setup.execute_events (setup : Setup Worker Handler) (state : State Worker Handler)
    (call : Worker) (statement : Statement Worker) :
    ∃ condition assignment,
      (setup.execute state call statement).events = state.events.update condition assignment ∧
      ∀ row ∈ state.events.rows, condition row = true →
        statement.Rewrites setup.options call row (assignment.set row) := by
  cases statement with
  | claimPendingBatch now scan =>
      refine ⟨_, _, rfl, ?_⟩
      intro row member selected
      have claimed := mem_claimedRows_of_id member (List.contains_iff_mem.mp selected)
      exact .claimed scan (mem_claimedRows claimed).2
  | extendLock now id => exact ⟨_, _, rfl, fun _ _ held => .extended now held⟩
  | markProcessed id => exact ⟨_, _, rfl, fun _ _ held => .processed held⟩
  | markFailed now event => exact ⟨_, _, rfl, fun _ _ held => .failed now held⟩

theorem Setup.row_before_execute {setup : Setup Worker Handler} {state : State Worker Handler}
    {call : Worker} {statement : Statement Worker} {after : OutboxRow Worker}
    (member : after ∈ (setup.execute state call statement).events.rows) :
    ∃ row ∈ state.events.rows, statement.Rewrites setup.options call row after := by
  obtain ⟨condition, assignment, updated, rewritten⟩ := setup.execute_events state call statement
  rw [updated, Table.mem_update] at member
  obtain ⟨row, present, rfl⟩ := member
  refine ⟨row, present, ?_⟩
  split
  · exact rewritten row present ‹_›
  · exact .kept statement row

theorem Setup.row_after_execute (setup : Setup Worker Handler) {state : State Worker Handler}
    (call : Worker) (statement : Statement Worker) {row : OutboxRow Worker}
    (member : row ∈ state.events.rows) :
    ∃ after ∈ (setup.execute state call statement).events.rows,
      statement.Rewrites setup.options call row after := by
  obtain ⟨condition, assignment, updated, rewritten⟩ := setup.execute_events state call statement
  refine ⟨if condition row then assignment.set row else row, ?_, ?_⟩
  · rw [updated, Table.mem_update]
    exact ⟨row, member, rfl⟩
  · split
    · exact rewritten row member ‹_›
    · exact .kept statement row

/-- A row stays as it is when the statement could only rewrite it to itself. -/
theorem Setup.row_kept (setup : Setup Worker Handler) {state : State Worker Handler}
    {call : Worker} {statement : Statement Worker} {row : OutboxRow Worker}
    (member : row ∈ state.events.rows)
    (untouched : ∀ after, statement.Rewrites setup.options call row after → after = row) :
    row ∈ (setup.execute state call statement).events.rows := by
  obtain ⟨after, present, rewrites⟩ := setup.row_after_execute call statement member
  exact untouched after rewrites ▸ present

/-- A row that no step has touched, or what a statement in flight has made of it. -/
def Setup.Becomes (setup : Setup Worker Handler) (state : State Worker Handler)
    (row after : OutboxRow Worker) : Prop :=
  after = row ∨ ∃ call statement, (state.calls call).Sends statement ∧
    statement.Rewrites setup.options call row after

@[simp] theorem State.update_now (state : State Worker Handler) (call : Worker)
    (after : CallState Worker Handler) : (state.update call after).now = state.now := rfl

@[simp] theorem State.update_routed (state : State Worker Handler) (call : Worker)
    (after : CallState Worker Handler) : (state.update call after).routed = state.routed := rfl

@[simp] theorem State.update_failedMarks (state : State Worker Handler) (call : Worker)
    (after : CallState Worker Handler) :
    (state.update call after).failedMarks = state.failedMarks := rfl

@[simp] theorem State.update_appended (state : State Worker Handler) (call : Worker)
    (after : CallState Worker Handler) :
    (state.update call after).appended = state.appended := rfl

@[simp] theorem State.update_calls_self (state : State Worker Handler) (call : Worker)
    (after : CallState Worker Handler) : (state.update call after).calls call = after :=
  Function.update_self _ _ _

theorem State.update_calls_other (state : State Worker Handler) {call other : Worker}
    (after : CallState Worker Handler) (different : other ≠ call) :
    (state.update call after).calls other = state.calls other :=
  Function.update_of_ne different _ _

section Frames

variable (setup : Setup Worker Handler) (state : State Worker Handler) (call : Worker)
  (statement : Option (Statement Worker))

@[simp] theorem Setup.executeOption_now :
    (setup.executeOption state call statement).now = state.now := by
  rcases statement with _ | _ | _ | _ | _ <;> rfl

@[simp] theorem Setup.executeOption_calls :
    (setup.executeOption state call statement).calls = state.calls := by
  rcases statement with _ | _ | _ | _ | _ <;> rfl

@[simp] theorem Setup.executeOption_routed :
    (setup.executeOption state call statement).routed = state.routed := by
  rcases statement with _ | _ | _ | _ | _ <;> rfl

@[simp] theorem Setup.executeOption_appended :
    (setup.executeOption state call statement).appended = state.appended := by
  rcases statement with _ | _ | _ | _ | _ <;> rfl

end Frames

/-- What a step does to one call. -/
inductive Setup.Goes (setup : Setup Worker Handler) (state following : State Worker Handler)
    (call : Worker) : CallState Worker Handler → Prop
  | stays : Goes setup state following call (state.calls call)
  | acts {action : Action Worker} {statement : Option (Statement Worker)}
      {after : CallState Worker Handler}
      (turn : setup.Turn state call (state.calls call) action statement after)
      (now : following.now = state.now) (routed : following.routed = state.routed)
      (events : following.events = (setup.executeOption state call statement).events) :
      Goes setup state following call after
  | routes {iteration : Iteration Worker} {resolved : List Handler} {stage : Stage Handler}
      (phase : (state.calls call).phase =
        .iterating iteration (.publishing (.awaiting [] resolved)))
      (follows : stage = .markingProcessed none ∨
        stage = .markingFailed (setup.clock call state.now) none)
      (settled :
        { worker := call
          id := iteration.event.id
          resolved := resolved } ∈ following.routed) :
      Goes setup state following call ((state.calls call).goto (.iterating iteration stage))

theorem Setup.Move.goes {setup : Setup Worker Handler} {state following : State Worker Handler}
    (move : setup.Move state action following) (call : Worker) :
    setup.Goes state following call (following.calls call) := by
  cases move with
  | advances | appends => exact .stays
  | @acts actor _ statement after turn =>
      by_cases same : call = actor
      · subst same
        rw [State.update_calls_self]
        exact .acts turn (setup.executeOption_now _ _ _) (setup.executeOption_routed _ _ _) rfl
      · rw [State.update_calls_other _ _ same, Setup.executeOption_calls]
        exact .stays
  | @routes actor iteration resolved stage phase follows =>
      change setup.Goes _ _ call ((state.update actor _).calls call)
      by_cases same : call = actor
      · subst same
        rw [State.update_calls_self]
        exact .routes phase follows List.mem_cons_self
      · rw [State.update_calls_other _ _ same]
        exact .stays

theorem Setup.Move.now_le {setup : Setup Worker Handler} {state following : State Worker Handler}
    (move : setup.Move state action following) : state.now ≤ following.now := by
  cases move with
  | advances milliseconds => exact Nat.le_add_right _ _
  | appends => exact Nat.le_refl _
  | acts => simp
  | routes => exact Nat.le_refl _

theorem Setup.Move.routed_subset {setup : Setup Worker Handler}
    {state following : State Worker Handler} (move : setup.Move state action following) :
    state.routed ⊆ following.routed := by
  cases move with
  | advances | appends => exact List.Subset.refl _
  | acts => simp
  | routes => exact List.subset_cons_self _ _

/-- A row that is new in the table has just been appended. -/
theorem Setup.Move.row_before {setup : Setup Worker Handler}
    {state following : State Worker Handler} (move : setup.Move state action following)
    {after : OutboxRow Worker} (member : after ∈ following.events.rows) :
    (∃ row ∈ state.events.rows, setup.Becomes state row after) ∨
      after.status = .pending ∧ after.attempts = 0 ∧ after.lockedAt = none := by
  cases move with
  | advances | routes => exact .inl ⟨after, member, .inl rfl⟩
  | appends stored =>
      rcases (Table.mem_insert stored after).mp member with rfl | old
      · exact .inr ⟨rfl, rfl, rfl⟩
      · exact .inl ⟨after, old, .inl rfl⟩
  | @acts call _ statement _ turn =>
      cases statement with
      | none => exact .inl ⟨after, member, .inl rfl⟩
      | some statement =>
          obtain ⟨row, present, rewrites⟩ := Setup.row_before_execute member
          exact .inl ⟨row, present, .inr ⟨call, statement, turn.sends, rewrites⟩⟩

theorem Setup.Move.row_after {setup : Setup Worker Handler}
    {state following : State Worker Handler} (move : setup.Move state action following)
    {row : OutboxRow Worker} (member : row ∈ state.events.rows) :
    ∃ after ∈ following.events.rows, setup.Becomes state row after := by
  cases move with
  | advances | routes => exact ⟨row, member, .inl rfl⟩
  | appends stored => exact ⟨row, (Table.mem_insert stored row).mpr (.inr member), .inl rfl⟩
  | @acts call _ statement _ turn =>
      cases statement with
      | none => exact ⟨row, member, .inl rfl⟩
      | some statement =>
          obtain ⟨after, present, rewrites⟩ := setup.row_after_execute call statement member
          exact ⟨after, present, .inr ⟨call, statement, turn.sends, rewrites⟩⟩

section Turns

variable {setup : Setup Worker Handler} {state : State Worker Handler} {call : Worker}
  {before after : CallState Worker Handler} {statement : Option (Statement Worker)}

/-- A call takes on events with its claim only. -/
theorem Setup.Turn.held (turn : setup.Turn state call before action statement after) :
    after.held ⊆ before.held ∨ ∃ now scan,
      statement = some (.claimPendingBatch now scan) ∧ before.phase = .claiming now none ∧
        after.held = claimedRows setup.options state.events now scan := by
  cases turn with
  | claims scan phase => exact .inr ⟨_, scan, rfl, phase, rfl⟩
  | claimAnswered phase =>
      left
      rw [setup.held_nextEvent]
      simp [CallState.held, phase]
  | starts | claimFails | crashes | crashesInside | notFailed =>
      exact .inl (List.nil_subset _)
  | beats phase | renews phase | extendAnswered phase | extendFails phase | timesOut phase
  | resolves phase | throws phase | routeFails phase | marksProcessed phase
  | marksFailed phase | notProcessed phase =>
      left
      simp [CallState.held, CallState.goto, phase, Iteration.beat, Iteration.extended]
  | extendsLate => exact .inl (List.Subset.refl _)
  | finishes _ phase =>
      left
      unfold Setup.finish
      rw [setup.held_nextEvent]
      simp [CallState.held, phase]

/-- A call issues an extendLock inside an iteration, with the date of that moment. -/
theorem Setup.Turn.extensions (turn : setup.Turn state call before action statement after)
    {extension : String × Nat} (inFlight : extension ∈ after.extensions) :
    extension ∈ before.extensions ∨ ∃ iteration stage,
      before.phase = .iterating iteration stage ∧
        extension = (iteration.event.id, setup.clock call state.now) := by
  cases turn with
  | claimAnswered phase =>
      rw [setup.extensions_nextEvent] at inFlight
      exact .inl (by simpa [CallState.extensions, phase] using inFlight)
  | starts phase | claims _ phase | claimFails phase =>
      exact .inl (by simpa [CallState.extensions, CallState.goto, phase] using inFlight)
  | crashes idle =>
      left
      cases phase : before.phase with
      | iterating iteration stage => exact absurd phase (idle iteration stage)
      | _ => simpa [CallState.extensions, CallState.goto, phase] using inFlight
  | timesOut phase | resolves phase | throws phase | routeFails phase | marksProcessed phase
  | marksFailed phase | notProcessed phase | crashesInside phase | notFailed phase =>
      left
      simpa [CallState.extensions, CallState.goto, CallState.abandon, Iteration.inFlight,
        phase] using inFlight
  | finishes _ phase =>
      left
      unfold Setup.finish at inFlight
      rw [setup.extensions_nextEvent] at inFlight
      simpa [CallState.extensions, phase] using inFlight
  | @beats iteration stage phase due =>
      simp only [CallState.extensions, CallState.goto, phase, Iteration.inFlight,
        Iteration.beat] at inFlight ⊢
      by_cases skips : iteration.heartbeat ≠ .idle ∨ iteration.ownershipLost = true
      · rw [if_pos skips] at inFlight
        exact .inl inFlight
      · rw [if_neg skips] at inFlight
        rcases List.mem_append.mp inFlight with new | old
        · exact .inr ⟨iteration, stage, rfl, List.mem_singleton.mp new⟩
        · exact .inl (List.mem_append_right _ old)
  | renews phase | extendAnswered phase | extendFails phase =>
      left
      simp only [CallState.extensions, CallState.goto, phase, Iteration.inFlight,
        Iteration.extended, List.nil_append] at inFlight ⊢
      exact List.mem_append_right _ inFlight
  | extendsLate late =>
      left
      cases phase : before.phase <;>
        simp only [CallState.extensions, phase, List.mem_append] at inFlight ⊢ <;>
        grind [List.mem_of_mem_erase]

end Turns

theorem Setup.Move.held {setup : Setup Worker Handler} {state following : State Worker Handler}
    (move : setup.Move state action following) (call : Worker) :
    (following.calls call).held ⊆ (state.calls call).held ∨ ∃ now scan,
      (state.calls call).phase = .claiming now none ∧
        following.events =
          (setup.execute state call (.claimPendingBatch now scan)).events ∧
        (following.calls call).held =
          claimedRows setup.options state.events now scan := by
  have goes := move.goes call
  generalize following.calls call = after at goes
  cases goes with
  | stays => exact .inl (List.Subset.refl _)
  | acts turn _ _ events =>
      apply turn.held.imp_right
      intro found
      obtain ⟨now, scan, rfl, phase, held⟩ := found
      exact ⟨now, scan, phase, events, held⟩
  | routes phase => simp [CallState.held, CallState.goto, phase]

theorem Setup.Move.extensions {setup : Setup Worker Handler}
    {state following : State Worker Handler} (move : setup.Move state action following)
    {call : Worker} {extension : String × Nat}
    (inFlight : extension ∈ (following.calls call).extensions) :
    extension ∈ (state.calls call).extensions ∨ ∃ iteration stage,
      (state.calls call).phase = .iterating iteration stage ∧
        extension = (iteration.event.id, setup.clock call state.now) := by
  have goes := move.goes call
  generalize following.calls call = after at goes inFlight
  cases goes with
  | stays => exact .inl inFlight
  | acts turn => exact turn.extensions inFlight
  | routes phase =>
      left
      simpa [CallState.extensions, CallState.goto, phase] using inFlight

/-- Whoever holds a row after a step held it before, or has claimed it just now. -/
theorem Setup.Becomes.owned_before {setup : Setup Worker Handler}
    {state : State Worker Handler} {row after : OutboxRow Worker} {id : String}
    {holder : Worker} (becomes : setup.Becomes state row after)
    (held : owned id holder after = true) :
    (owned id holder row = true ∧ after.attempts = row.attempts ∧
        after.availableAt = row.availableAt) ∨
      ∃ now, (state.calls holder).phase = .claiming now none ∧
        claimable setup.options now row = true ∧
        after = (claimAssignment now holder).set row := by
  rcases becomes with rfl | ⟨call, statement, sends, rewrites⟩
  · exact .inl ⟨held, rfl, rfl⟩
  · rcases rewrites.owned_before held with before | ⟨now, scan, rfl, rfl, selected, rfl⟩
    · exact .inl before
    · cases sends with
      | claimPendingBatch scan phase => exact .inr ⟨now, phase, selected, rfl⟩

theorem Setup.Becomes.id_eq {setup : Setup Worker Handler} {state : State Worker Handler}
    {row after : OutboxRow Worker} (becomes : setup.Becomes state row after) :
    after.id = row.id := by
  rcases becomes with rfl | ⟨_, _, _, rewrites⟩
  · rfl
  · exact rewrites.id_eq

theorem Setup.Becomes.eventName_eq {setup : Setup Worker Handler} {state : State Worker Handler}
    {row after : OutboxRow Worker} (becomes : setup.Becomes state row after) :
    after.eventName = row.eventName := by
  rcases becomes with rfl | ⟨_, _, _, rewrites⟩
  · rfl
  · exact rewrites.eventName_eq

/-- Rows are never deleted. -/
theorem Setup.Move.ids {setup : Setup Worker Handler} {state following : State Worker Handler}
    (move : setup.Move state action following) {id : String}
    (present : id ∈ state.events.rows.map OutboxRow.id) :
    id ∈ following.events.rows.map OutboxRow.id := by
  obtain ⟨row, member, rfl⟩ := List.mem_map.mp present
  obtain ⟨after, member', becomes⟩ := move.row_after member
  exact List.mem_map.mpr ⟨after, member', becomes.id_eq⟩

end BackendFoundation.Outbox
