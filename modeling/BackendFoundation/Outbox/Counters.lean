/-
The counters that processPending returns, against the rows that the call has moved.

A step of a call executes at most one of its statements, so the rows that have come to
a status in the step are those that this call has moved.
-/

import BackendFoundation.Outbox.Handling

namespace BackendFoundation.Outbox

open Transition Database

/-- How many rows a call has moved to processed, and how many to pending or failed. -/
structure Moved where
  processed : Nat
  failed : Nat
deriving DecidableEq, Repr

def Moved.zero : Moved :=
  { processed := 0
    failed := 0 }

def Moved.add (first second : Moved) : Moved :=
  { processed := first.processed + second.processed
    failed := first.failed + second.failed }

variable {Worker Handler : Type}

def OutboxRow.isProcessed (row : OutboxRow Worker) : Bool :=
  decide (row.status = .processed)

def OutboxRow.isFailed (row : OutboxRow Worker) : Bool :=
  decide (row.status = .pending ∨ row.status = .failed)

def Moved.next (before after : OutboxEvents Worker) (moved : Moved) : Moved :=
  moved.add
    { processed := (before.entered after OutboxRow.isProcessed).length
      failed := (before.entered after OutboxRow.isFailed).length }

theorem Moved.next_self (table : OutboxEvents Worker) (moved : Moved) :
    moved.next table table = moved := by
  unfold next
  rw [table.entered_self, table.entered_self]
  rfl

theorem length_entered_of_unchanged {table : OutboxEvents Worker}
    {condition : OutboxRow Worker → Bool}
    {assignment : Assignment (OutboxRow.id : OutboxRow Worker → String)}
    {property : OutboxRow Worker → Bool}
    (unchanged : ∀ row, condition row = true → property (assignment.set row) = true →
      property row = true) :
    (table.entered (table.update condition assignment) property).length = 0 := by
  rw [Table.length_entered_update, Table.select, List.length_eq_zero_iff,
    List.filter_eq_nil_iff]
  intro row _ holds
  simp only [Bool.and_eq_true, Bool.not_eq_true'] at holds
  rw [unchanged row holds.1.1 holds.1.2] at holds
  exact Bool.noConfusion holds.2

theorem OutboxRow.not_moved_of_processing {row : OutboxRow Worker}
    (processing : row.status = .processing) : row.isProcessed = false ∧ row.isFailed = false := by
  unfold isProcessed isFailed
  rw [processing]
  exact ⟨rfl, rfl⟩

theorem failedAssignment_status (options : OutboxProcessorOptions) (now : Nat)
    (event row : OutboxRow Worker) :
    ((failedAssignment options now event).set row).isProcessed = false ∧
      ((failedAssignment options now event).set row).isFailed = true := by
  unfold OutboxRow.isProcessed OutboxRow.isFailed failedAssignment
  dsimp only
  split
  · exact ⟨rfl, rfl⟩
  · exact ⟨rfl, rfl⟩

/-- The row that a statement has moved whose reply has not arrived. -/
def Stage.unanswered : Stage Handler → Moved
  | .markingProcessed (some marked) =>
      { processed := marked.toNat
        failed := 0 }
  | .markingFailed _ (some marked) =>
      { processed := 0
        failed := marked.toNat }
  | .publishing _ | .markingProcessed none | .markingFailed _ none => Moved.zero

/-- The counters of a call while it runs, and those it returns. -/
def CallState.Tallied (call : CallState Worker Handler) (moved : Moved) : Prop :=
  match call.phase with
  | .ready | .claiming _ _ =>
      moved = Moved.zero ∧ call.result.processed = 0 ∧ call.result.failed = 0
  | .iterating iteration stage =>
      call.result.processed + stage.unanswered.processed = moved.processed ∧
        call.result.failed + stage.unanswered.failed = moved.failed ∧
          call.result.processed + call.result.failed + (iteration.rest.length + 1) ≤
            call.result.selected
  | .returned =>
      call.result.processed = moved.processed ∧ call.result.failed = moved.failed ∧
        call.result.processed + call.result.failed ≤ call.result.selected
  | .rejected | .crashed => True

theorem Setup.tallied_nextEvent (setup : Setup Worker Handler) (now : Nat)
    (events : List (OutboxRow Worker)) (late : List (String × Nat))
    {result : ProcessOutboxResult} {moved : Moved}
    (counted : result.processed = moved.processed ∧ result.failed = moved.failed)
    (left : result.processed + result.failed + events.length ≤ result.selected) :
    CallState.Tallied
      { phase := setup.nextEvent now events
        late := late
        result := result } moved := by
  cases events with
  | nil => exact ⟨counted.1, counted.2, left⟩
  | cons event rest => exact ⟨counted.1, counted.2, left⟩

variable [DecidableEq Worker]

/-- A conditional update of a row in processing moves it exactly when it reports so. -/
theorem length_entered_updateOwned (table : OutboxEvents Worker) (id : String) (worker : Worker)
    (assignment : Assignment (OutboxRow.id : OutboxRow Worker → String))
    {property : OutboxRow Worker → Bool}
    (lacks : ∀ row : OutboxRow Worker, row.status = .processing → property row = false)
    (gains : ∀ row, property (assignment.set row) = true) :
    (table.entered (updateOwned table id worker assignment).1 property).length =
      (updateOwned table id worker assignment).2.toNat := by
  have same : (fun row => owned id worker row && property (assignment.set row) && !property row) =
      owned id worker := by
    funext row
    cases held : owned id worker row with
    | false => rfl
    | true =>
        rw [gains row, lacks row (owned_iff.mp held).2.1]
        rfl
  have few : (table.select (owned id worker)).length ≤ 1 :=
    table.length_select_le_one fun _ _ first second =>
      (owned_iff.mp first).1.trans (owned_iff.mp second).1.symm
  unfold updateOwned
  rw [Table.length_entered_update, same]
  change (table.select (owned id worker)).length =
    ((table.select (owned id worker)).length == 1).toNat
  rcases Nat.le_one_iff_eq_zero_or_eq_one.mp few with none | one
  · rw [none]
    rfl
  · rw [one]
    rfl

/-- What a statement of a call moves. -/
def Setup.moves (setup : Setup Worker Handler) (state : State Worker Handler) (call : Worker) :
    Statement Worker → Moved
  | .claimPendingBatch _ _ | .extendLock _ _ => Moved.zero
  | .markProcessed id =>
      { processed := (markProcessed state.events id call).2.toNat
        failed := 0 }
  | .markFailed now event =>
      { processed := 0
        failed := (markFailed setup.options state.events now event call).2.toNat }

theorem Setup.next_execute (setup : Setup Worker Handler) (state : State Worker Handler)
    (call : Worker) (statement : Statement Worker) (moved : Moved) :
    moved.next state.events (setup.execute state call statement).events =
      moved.add (setup.moves state call statement) := by
  suffices counted :
      (state.events.entered (setup.execute state call statement).events
        OutboxRow.isProcessed).length = (setup.moves state call statement).processed ∧
      (state.events.entered (setup.execute state call statement).events
        OutboxRow.isFailed).length = (setup.moves state call statement).failed by
    unfold Moved.next
    rw [counted.1, counted.2]
  cases statement with
  | claimPendingBatch now scan =>
      exact ⟨length_entered_of_unchanged fun _ _ => nofun,
        length_entered_of_unchanged fun _ _ => nofun⟩
  | extendLock now id =>
      exact ⟨length_entered_of_unchanged fun _ _ kept => kept,
        length_entered_of_unchanged fun _ _ kept => kept⟩
  | markProcessed id =>
      constructor
      · apply length_entered_updateOwned
        · exact fun _ processing => (OutboxRow.not_moved_of_processing processing).1
        · exact fun _ => rfl
      · exact length_entered_of_unchanged fun _ _ => nofun
  | markFailed now event =>
      constructor
      · apply length_entered_of_unchanged
        intro row _ gained
        rw [(failedAssignment_status setup.options now event row).1] at gained
        cases gained
      · apply length_entered_updateOwned
        · exact fun _ processing => (OutboxRow.not_moved_of_processing processing).2
        · exact fun row => (failedAssignment_status setup.options now event row).2

/-- The reply to a markProcessed that has marked the event does not get lost on its way to the
call. -/
def Setup.Answered (call : Worker) (state : State Worker Handler) (action : Action Worker) :
    Prop :=
  ∀ iteration, (state.calls call).phase = .iterating iteration (.markingProcessed (some true)) →
    action ≠ .markFails call

def recordMoved (state : State Worker Handler) (action : Action Worker)
    (following : State Worker Handler) (moved : Worker → Moved) : Worker → Moved := fun call =>
  if action.actor = some call then (moved call).next state.events following.events
  else moved call

/-- The outbox with the rows that its calls have moved. -/
def Setup.counting (setup : Setup Worker Handler) :
    System (State Worker Handler × (Worker → Moved)) (Action Worker) :=
  setup.system.recording recordMoved fun _ => Moved.zero

section Tally

variable {setup : Setup Worker Handler} {state : State Worker Handler} {call : Worker}
  {action : Action Worker} {statement : Option (Statement Worker)}
  {before after : CallState Worker Handler} {iteration : Iteration Worker} {moved : Moved}

def Setup.movesOption (setup : Setup Worker Handler) (state : State Worker Handler)
    (call : Worker) : Option (Statement Worker) → Moved
  | none => Moved.zero
  | some statement => setup.moves state call statement

theorem Setup.next_executeOption (setup : Setup Worker Handler) (state : State Worker Handler)
    (call : Worker) (statement : Option (Statement Worker)) (moved : Moved) :
    moved.next state.events (setup.executeOption state call statement).events =
      moved.add (setup.movesOption state call statement) := by
  cases statement with
  | none => exact moved.next_self _
  | some statement => exact setup.next_execute state call statement moved

theorem Setup.Act.tallied (act : setup.Act state call before action statement after)
    (answered : ∀ iteration,
      before.phase = .iterating iteration (.markingProcessed (some true)) →
        action ≠ .markFails call)
    (tallied : before.Tallied moved) :
    after.Tallied (moved.add (setup.movesOption state call statement)) := by
  unfold CallState.Tallied at tallied
  cases act with
  | starts phase =>
      rw [phase] at tallied
      exact tallied
  | claims scan phase =>
      rw [phase] at tallied
      exact tallied
  | claimAnswered phase =>
      rw [phase] at tallied
      obtain ⟨rfl, processed, failed⟩ := tallied
      apply setup.tallied_nextEvent
      · exact ⟨processed, failed⟩
      · simp [processed, failed]
  | claimFails | markFailedFails | crashes | crashesInside => trivial
  | beats phase | renews phase | extendAnswered phase | extendFails phase | timesOut phase
  | resolves phase | rejects phase | routeRejects phase | unmatched phase =>
      rw [phase] at tallied
      exact tallied
  | extendsLate late => exact tallied
  | marksProcessed phase =>
      rw [phase] at tallied
      obtain ⟨processed, failed, left⟩ := tallied
      exact ⟨congrArg (· + _) processed, failed, left⟩
  | marksFailed phase =>
      rw [phase] at tallied
      obtain ⟨processed, failed, left⟩ := tallied
      exact ⟨processed, congrArg (· + _) failed, left⟩
  | processed phase =>
      rw [phase] at tallied
      obtain ⟨processed, failed, left⟩ := tallied
      apply setup.tallied_nextEvent
      · exact ⟨processed, failed⟩
      · dsimp only
        omega
  | @failed _ _ marked phase =>
      rw [phase] at tallied
      obtain ⟨processed, failed, left⟩ := tallied
      apply setup.tallied_nextEvent
      · cases marked with
        | false => exact ⟨processed, failed⟩
        | true => exact ⟨processed, failed⟩
      · split
        · dsimp only
          omega
        · omega
  | @markProcessedFails _ reply phase =>
      rw [phase] at tallied
      match reply with
      | none | some false => exact tallied
      | some true => exact absurd rfl (answered _ phase)

end Tally

def State.Tallied (call : Worker) (state : State Worker Handler) (moved : Worker → Moved) :
    Prop :=
  (state.calls call).Tallied (moved call)

theorem State.Tallied.step {setup : Setup Worker Handler} {call : Worker}
    {state following : State Worker Handler} {action : Action Worker} {moved : Worker → Moved}
    (tallied : state.Tallied call moved) (answered : Setup.Answered call state action)
    (stepped : setup.Stepped state action following) :
    following.Tallied call (recordMoved state action following moved) := by
  unfold Tallied recordMoved
  cases stepped with
  | advances | appends => exact tallied
  | @acts actor _ statement after act =>
      rw [act.actor]
      by_cases same : actor = call
      · subst same
        rw [if_pos rfl, State.update_calls_self]
        change after.Tallied
          ((moved actor).next state.events (setup.executeOption state actor statement).events)
        rw [setup.next_executeOption]
        exact act.tallied answered tallied
      · rw [if_neg fun equal => same (Option.some.inj equal),
          State.update_calls_other _ _ (Ne.symm same), Setup.executeOption_calls]
        exact tallied
  | @routes actor iteration resolved phase =>
      change CallState.Tallied _ (if some actor = some call then _ else _)
      by_cases same : actor = call
      · subst same
        rw [if_pos rfl, State.update_calls_self]
        change CallState.Tallied _ ((moved actor).next state.events state.events)
        rw [Moved.next_self]
        unfold Tallied CallState.Tallied at tallied
        rw [phase] at tallied
        have issued : (setup.afterRoute state actor iteration).unanswered = Moved.zero := by
          unfold Setup.afterRoute
          split <;> rfl
        unfold CallState.Tallied
        simp only [CallState.goto, issued]
        exact tallied
      · rw [if_neg fun equal => same (Option.some.inj equal),
          State.update_calls_other _ _ (Ne.symm same)]
        exact tallied

theorem Setup.tallied_of_reachable (setup : Setup Worker Handler) (call : Worker)
    {recorded : State Worker Handler × (Worker → Moved)}
    (reached : setup.counting.Reachable (fun recorded => Setup.Answered call recorded.1)
      recorded) : recorded.1.Tallied call recorded.2 := by
  apply System.Reachable.history (State.Tallied call) (fun _ _ => trivial) _ _ reached
  · intro start initial
    obtain ⟨_, calls, _⟩ := initial
    unfold State.Tallied
    rw [calls]
    exact ⟨rfl, rfl, rfl⟩
  · intro state moved action following _ tallied answered stepped
    exact tallied.step answered (setup.stepped stepped)

/-- The handler keeps the event until it settles, whatever the timer and the heartbeats do,
and the two statements and the counters that follow are what became of it. -/
theorem handlerTimeout (setup : Setup Worker Handler) (call : Worker) :
    (∀ recorded, setup.chronicling.Reachable (fun recorded => anyAction recorded.1) recorded →
      (∀ id, (recorded.2 call id).Handled) ∧
        ∀ statement, (recorded.1.calls call).Sends statement →
          statement.Issued (recorded.2 call)) ∧
    ∀ recorded, setup.counting.Reachable (fun recorded => Setup.Answered call recorded.1)
        recorded →
      (recorded.1.calls call).phase = .returned →
        (recorded.1.calls call).result.processed = (recorded.2 call).processed ∧
          (recorded.1.calls call).result.failed = (recorded.2 call).failed ∧
          (recorded.1.calls call).result.processed + (recorded.1.calls call).result.failed ≤
            (recorded.1.calls call).result.selected := by
  constructor
  · intro recorded reached
    have chronicled := setup.chronicled_of_reachable reached call
    exact ⟨chronicled.handled, fun _ sends => chronicled.issued sends⟩
  · intro recorded reached returned
    have tallied := setup.tallied_of_reachable call reached
    unfold State.Tallied CallState.Tallied at tallied
    rw [returned] at tallied
    exact tallied

end BackendFoundation.Outbox
