/-
No event is lost and none is marked done without being delivered, whatever
fails: an invariant that ties the rows to the copies the workers have claimed.
-/

import BackendFoundation.Outbox.Steps

namespace BackendFoundation.Outbox

open Transition Database

variable {Worker Handler : Type}

/-- Every handler that supports the event had resolved in one route call for it. -/
def Setup.Delivered (setup : Setup Worker Handler) (routed : List (Routed Worker Handler))
    (id eventName : String) : Prop :=
  ∃ record ∈ routed, record.id = id ∧
    ∀ handler ∈ setup.handlers, setup.supports handler eventName = true →
      handler ∈ record.resolved

inductive Situation
  | delivered
  | givenUp
  | retryable

def Setup.Situated (setup : Setup Worker Handler) (state : State Worker Handler)
    (row : OutboxRow Worker) : Situation → Prop
  | .delivered =>
      row.status = .processed ∧ setup.Delivered state.routed row.id row.eventName
  | .givenUp =>
      row.status = .failed ∧ row.attempts = setup.options.maxAttempts ∧
        state.failedMarks.count row.id = setup.options.maxAttempts
  | .retryable =>
      row.attempts < setup.options.maxAttempts ∧
        (row.status = .pending ∧
            (∀ now, row.availableAt ≤ now → claimable setup.options now row = true) ∨
          row.status = .processing ∧ ∃ lockedAt, row.lockedAt = some lockedAt ∧
            ∀ now, lockedAt + setup.options.lockTtlMs < now →
              claimable setup.options now row = true)

theorem Setup.Situated.unique {setup : Setup Worker Handler} {state : State Worker Handler}
    {row : OutboxRow Worker} {first second : Situation}
    (one : setup.Situated state row first) (two : setup.Situated state row second) :
    first = second := by
  cases first <;> cases second <;> grind [Situated]

/-- Within a route call the handlers are awaited in their order. -/
def Setup.RoutingSound (setup : Setup Worker Handler) (eventName : String) :
    Routing Handler → Prop
  | .awaiting pending resolved =>
      resolved ++ pending = setup.handlers.filter fun handler =>
        setup.supports handler eventName
  | .thrown => True

/-- What a call knows by itself: when it has read its clock, and which handlers have
resolved by the stage it is in. -/
def Setup.CallSound (setup : Setup Worker Handler) (call : Worker) (now : Nat)
    (routed : List (Routed Worker Handler)) (before : CallState Worker Handler) : Prop :=
  match before.phase with
  | .ready => before.late = []
  | .claiming date _ => before.late = [] ∧ date ≤ setup.clock call now
  | .iterating iteration (.publishing routing) =>
      setup.RoutingSound iteration.event.eventName routing
  | .iterating iteration (.markingProcessed _) =>
      setup.Delivered routed iteration.event.id iteration.event.eventName
  | _ => True

theorem Setup.Delivered.weaken {setup : Setup Worker Handler}
    {routed more : List (Routed Worker Handler)} {id eventName : String}
    (delivered : setup.Delivered routed id eventName) (grown : routed ⊆ more) :
    setup.Delivered more id eventName := by
  obtain ⟨record, member, found⟩ := delivered
  exact ⟨record, grown member, found⟩

theorem Setup.CallSound.weaken {setup : Setup Worker Handler} {call : Worker} {now later : Nat}
    {routed more : List (Routed Worker Handler)} {before : CallState Worker Handler}
    (sound : setup.CallSound call now routed before) (passed : now ≤ later)
    (grown : routed ⊆ more) : setup.CallSound call later more before := by
  obtain ⟨phase, late, result⟩ := before
  cases phase with
  | claiming date => exact ⟨sound.1, sound.2.trans (setup.clock_monotone call passed)⟩
  | iterating iteration stage =>
      cases stage with
      | publishing routing => exact sound
      | markingProcessed => exact Delivered.weaken sound grown
      | markingFailed => trivial
  | ready | returned | rejected | crashed => exact sound

theorem Setup.routingSound_route (setup : Setup Worker Handler) (eventName : String) :
    setup.RoutingSound eventName (route setup.handlers setup.supports eventName) := by
  unfold route
  split
  · rename_i empty
    rw [List.isEmpty_iff] at empty
    simp [RoutingSound, empty]
  · split
    · trivial
    · rfl

theorem Setup.callSound_nextEvent (setup : Setup Worker Handler) (call : Worker) (now : Nat)
    (routed : List (Routed Worker Handler)) (events : List (OutboxRow Worker))
    (late : List (String × Nat)) (result : ProcessOutboxResult) :
    setup.CallSound call now routed
      { phase := setup.nextEvent now events
        late := late
        result := result } := by
  cases events with
  | nil => trivial
  | cons event rest => exact setup.routingSound_route event.eventName

/-- What is known of a row in each status. -/
def Setup.RowSound (setup : Setup Worker Handler) (state : State Worker Handler)
    (row : OutboxRow Worker) : Prop :=
  match row.status with
  | .pending => row.attempts < setup.options.maxAttempts
  | .processing =>
      row.attempts < setup.options.maxAttempts ∧
        ∃ call lockedAt, row.lockedBy = some call ∧ row.lockedAt = some lockedAt ∧
          row.availableAt ≤ lockedAt ∧ row.availableAt ≤ setup.clock call state.now
  | .processed => setup.Delivered state.routed row.id row.eventName
  | .failed => row.attempts = setup.options.maxAttempts

theorem Setup.RowSound.weaken {setup : Setup Worker Handler}
    {state following : State Worker Handler} {row : OutboxRow Worker}
    (sound : setup.RowSound state row) (passed : state.now ≤ following.now)
    (grown : state.routed ⊆ following.routed) : setup.RowSound following row := by
  unfold RowSound at sound ⊢
  cases status : row.status with
  | pending | failed =>
      rw [status] at sound
      exact sound
  | processing =>
      rw [status] at sound
      obtain ⟨few, call, lockedAt, lockedBy, locked, available, read⟩ := sound
      exact ⟨few, call, lockedAt, lockedBy, locked, available,
        read.trans (setup.clock_monotone call passed)⟩
  | processed =>
      rw [status] at sound
      exact Delivered.weaken sound grown

variable [DecidableEq Worker] {action : Action Worker}

theorem Setup.Turn.callSound {setup : Setup Worker Handler} {state : State Worker Handler}
    {call : Worker} {before after : CallState Worker Handler}
    {statement : Option (Statement Worker)}
    (turn : setup.Turn state call before action statement after)
    (sound : setup.CallSound call state.now state.routed before) :
    setup.CallSound call state.now state.routed after := by
  unfold CallSound at sound
  cases turn with
  | starts phase =>
      rw [phase] at sound
      exact ⟨sound, Nat.le_refl _⟩
  | claims scan phase =>
      rw [phase] at sound
      exact sound
  | claimAnswered | finishes => exact setup.callSound_nextEvent _ _ _ _ _ _
  | claimFails | routeFails | marksFailed | notProcessed | notFailed | crashes | crashesInside
  | throws => trivial
  | @beats _ stage phase | @renews _ stage _ phase | @extendAnswered _ stage _ phase
  | @extendFails _ stage phase =>
      rw [phase] at sound
      cases stage <;> exact sound
  | marksProcessed phase =>
      rw [phase] at sound
      exact sound
  | extendsLate late =>
      obtain ⟨phase, late', result⟩ := before
      cases phase with
      | ready =>
          change late' = [] at sound
          simp [sound] at late
      | claiming =>
          change late' = [] ∧ _ at sound
          simp [sound.1] at late
      | iterating iteration stage => cases stage <;> exact sound
      | returned | rejected | crashed => trivial
  | timesOut phase =>
      rw [phase] at sound
      exact sound
  | resolves phase =>
      rw [phase] at sound
      exact (List.append_assoc _ _ _).trans sound

def Setup.CallsSound (setup : Setup Worker Handler) (state : State Worker Handler) : Prop :=
  ∀ call, setup.CallSound call state.now state.routed (state.calls call)

theorem Setup.callsSound_of_reachable (setup : Setup Worker Handler)
    {allowed : State Worker Handler → Action Worker → Prop} {state : State Worker Handler}
    (reached : setup.system.Reachable allowed state) : setup.CallsSound state := by
  apply reached.invariant
  · intro start initial call
    obtain ⟨_, calls, _, _, _⟩ := initial
    rw [calls]
    rfl
  · intro before action after sound _ stepped call
    have move := setup.moved stepped
    have kept := (sound call).weaken move.now_le move.routed_subset
    have goes := move.goes call
    generalize after.calls call = next at goes
    cases goes with
    | stays => exact kept
    | acts turn now routed =>
        rw [now, routed]
        exact turn.callSound (sound call)
    | routes phase follows settled =>
        rcases follows with rfl | rfl
        · have awaited := sound call
          simp only [CallSound, phase, RoutingSound, List.append_nil] at awaited
          refine ⟨_, settled, rfl, ?_⟩
          intro handler registered supported
          rw [awaited]
          exact List.mem_filter.mpr ⟨registered, supported⟩
        · trivial

/-- What ties the rows to the copies and the statements of the calls. A markFailed
writes the attempts of a copy, so a held row must not have moved on from it. -/
structure Setup.Accounted (setup : Setup Worker Handler) (state : State Worker Handler) :
    Prop where
  rows : ∀ row ∈ state.events.rows, setup.RowSound state row
  copies : ∀ call, ∀ event ∈ (state.calls call).held, ∀ row ∈ state.events.rows,
    owned event.id call row = true →
      row.attempts = event.attempts ∧ row.eventName = event.eventName
  extensions : ∀ call, ∀ extension ∈ (state.calls call).extensions,
    ∀ row ∈ state.events.rows, owned row.id call row = true → row.availableAt ≤ extension.2
  marks : ∀ id ∈ state.failedMarks, id ∈ state.events.rows.map OutboxRow.id
  counted : ∀ row ∈ state.events.rows, row.attempts = state.failedMarks.count row.id

theorem Setup.RowSound.attempts_lt {setup : Setup Worker Handler}
    {state : State Worker Handler} {id : String} {call : Worker} {row : OutboxRow Worker}
    (sound : setup.RowSound state row) (held : owned id call row = true) :
    row.attempts < setup.options.maxAttempts ∧
      row.availableAt ≤ setup.clock call state.now := by
  obtain ⟨_, status, lockedBy⟩ := owned_iff.mp held
  rw [RowSound, status] at sound
  obtain ⟨few, holder, lockedAt, lockedBy', _, _, read⟩ := sound
  rw [Option.some.inj (lockedBy.symm.trans lockedBy')]
  exact ⟨few, read⟩

/-- A statement in flight leaves a sound row. -/
theorem Setup.Accounted.rewritten {setup : Setup Worker Handler}
    {state : State Worker Handler} (accounted : setup.Accounted state)
    (calls : setup.CallsSound state) {call : Worker} {statement : Statement Worker}
    (sends : (state.calls call).Sends statement) {row after : OutboxRow Worker}
    (member : row ∈ state.events.rows)
    (rewrites : statement.Rewrites setup.options call row after) :
    setup.RowSound state after := by
  have sound := accounted.rows row member
  cases rewrites with
  | kept => exact sound
  | claimed scan selected =>
      have ⟨available, few, _⟩ := claimable_iff.mp selected
      have positive := setup.options.maxAttempts_pos
      cases sends with
      | claimPendingBatch scan phase =>
          have known := calls call
          rw [CallSound, phase] at known
          refine ⟨?_, call, _, rfl, rfl, available, available.trans known.2⟩
          change row.attempts < _
          omega
  | extended date held =>
      have ⟨few, read⟩ := sound.attempts_lt held
      have ⟨_, status, lockedBy⟩ := owned_iff.mp held
      have available := accounted.extensions call _ sends.extension row member
        (owned_iff.mpr ⟨rfl, status, lockedBy⟩)
      simp only [RowSound, extendAssignment, status]
      exact ⟨few, call, date, lockedBy, rfl, available, read⟩
  | processed held =>
      cases sends with
      | @markProcessed iteration phase =>
          have known := calls call
          rw [CallSound, phase] at known
          have copied := accounted.copies call iteration.event
            (by simp [CallState.held, phase]) row member held
          change setup.Delivered state.routed row.id row.eventName
          rw [copied.2, (owned_iff.mp held).1]
          exact known
  | failed now held =>
      cases sends with
      | @markFailed iteration _ phase =>
          have copied := accounted.copies call iteration.event
            (by simp [CallState.held, phase]) row member held
          have ⟨few, _⟩ := sound.attempts_lt held
          rw [copied.1] at few
          unfold RowSound failedAssignment
          by_cases last : setup.options.maxAttempts ≤ iteration.event.attempts + 1
          · simp only [last]
            exact Nat.le_antisymm few last
          · simp only [last]
            exact Nat.lt_of_not_le last

section Step

variable {setup : Setup Worker Handler} {state following : State Worker Handler}

theorem Setup.Accounted.rows_step (accounted : setup.Accounted state)
    (calls : setup.CallsSound state) (move : setup.Move state action following)
    {row : OutboxRow Worker} (member : row ∈ following.events.rows) :
    setup.RowSound following row := by
  rcases move.row_before member with ⟨before, present, becomes⟩ | ⟨status, none, _⟩
  · have sound : setup.RowSound state row := by
      rcases becomes with rfl | ⟨call, statement, sends, rewrites⟩
      · exact accounted.rows row present
      · exact accounted.rewritten calls sends present rewrites
    exact sound.weaken move.now_le move.routed_subset
  · simp only [RowSound, status, none]
    exact setup.options.maxAttempts_pos

theorem Setup.Accounted.copies_step (accounted : setup.Accounted state)
    (move : setup.Move state action following) {call : Worker} {event row : OutboxRow Worker}
    (held : event ∈ (following.calls call).held) (member : row ∈ following.events.rows)
    (owner : owned event.id call row = true) :
    row.attempts = event.attempts ∧ row.eventName = event.eventName := by
  rcases move.held call with subset | ⟨now, scan, phase, events, claims⟩
  · rcases move.row_before member with ⟨before, present, becomes⟩ | ⟨status, _⟩
    · rcases becomes.owned_before owner with ⟨owner, attempts, _⟩ | ⟨now, phase, _⟩
      · rw [attempts, becomes.eventName_eq]
        exact accounted.copies call event (subset held) before present owner
      · have none := subset held
        simp [CallState.held, phase] at none
    · rw [(owned_iff.mp owner).2.1] at status
      cases status
  · rw [claims] at held
    rw [events] at member
    obtain ⟨before, present, rewrites⟩ := Setup.row_before_execute member
    have same : event.id = before.id := (owned_iff.mp owner).1.symm.trans rewrites.id_eq
    cases state.events.unique (mem_claimedRows held).1 present same
    refine ⟨?_, rewrites.eventName_eq⟩
    cases rewrites <;> rfl

theorem Setup.Accounted.extensions_step (accounted : setup.Accounted state)
    (calls : setup.CallsSound state) (move : setup.Move state action following) {call : Worker}
    {extension : String × Nat} (inFlight : extension ∈ (following.calls call).extensions)
    {row : OutboxRow Worker} (member : row ∈ following.events.rows)
    (owner : owned row.id call row = true) : row.availableAt ≤ extension.2 := by
  rcases move.row_before member with ⟨before, present, becomes⟩ | ⟨status, _⟩
  · rcases becomes.owned_before owner with ⟨owner, _, available⟩ | ⟨now, phase, _⟩
    · rw [becomes.id_eq] at owner
      rw [available]
      rcases move.extensions inFlight with old | ⟨_, _, _, rfl⟩
      · exact accounted.extensions call extension old before present owner
      · exact ((accounted.rows before present).attempts_lt owner).2
    · have known := calls call
      rw [CallSound, phase] at known
      rcases move.extensions inFlight with old | ⟨iteration, stage, phase', _⟩
      · simp [CallState.extensions, phase, known.1] at old
      · rw [phase] at phase'
        cases phase'
  · rw [(owned_iff.mp owner).2.1] at status
    cases status

theorem Setup.Accounted.marks_step (accounted : setup.Accounted state)
    (move : setup.Move state action following) {id : String} (marked : id ∈ following.failedMarks) :
    id ∈ following.events.rows.map OutboxRow.id := by
  apply move.ids
  cases move with
  | advances | appends | routes => exact accounted.marks id marked
  | @acts call _ statement after turn =>
      rcases statement with _ | ⟨now, scan⟩ | ⟨now, other⟩ | other | ⟨now, event⟩
      · exact accounted.marks id marked
      · exact accounted.marks id marked
      · exact accounted.marks id marked
      · exact accounted.marks id marked
      · simp only [State.update_failedMarks, executeOption, execute] at marked
        split at marked
        · rename_i changed
          rcases List.mem_cons.mp marked with rfl | old
          · obtain ⟨row, member, owner⟩ := (updateOwned_changes_iff _ _ _ _).mp changed
            exact List.mem_map.mpr ⟨row, member, (owned_iff.mp owner).1⟩
          · exact accounted.marks id old
        · exact accounted.marks id marked

/-- The row that a markFailed changes is counted, and no other. -/
theorem Setup.Accounted.counted_markFailed (accounted : setup.Accounted state)
    {call : Worker} {now : Nat} {event row : OutboxRow Worker}
    (held : event ∈ (state.calls call).held)
    (member : row ∈ (setup.execute state call (.markFailed now event)).events.rows) :
    row.attempts =
      (setup.execute state call (.markFailed now event)).failedMarks.count row.id := by
  obtain ⟨before, present, rfl⟩ := Table.mem_update.mp member
  have known := accounted.counted before present
  have changed := updateOwned_changes_iff state.events event.id call
    (failedAssignment setup.options now event)
  simp only [execute, markFailed, changed]
  by_cases owner : owned event.id call before = true
  · have copied := (accounted.copies call event held before present owner).1
    have same := (owned_iff.mp owner).1
    rw [if_pos owner, if_pos ⟨before, present, owner⟩]
    simp only [failedAssignment]
    rw [← same, List.count_cons_self, ← known, copied]
  · rw [if_neg owner]
    split
    · rename_i exists_
      obtain ⟨other, present', owner'⟩ := exists_
      have different : before.id ≠ event.id := by
        intro same
        have equal := state.events.unique present present'
          (same.trans (owned_iff.mp owner').1.symm)
        exact owner (equal ▸ owner')
      rw [List.count_cons_of_ne different.symm]
      exact known
    · exact known

theorem Setup.Accounted.counted_step (accounted : setup.Accounted state)
    (move : setup.Move state action following) {row : OutboxRow Worker}
    (member : row ∈ following.events.rows) :
    row.attempts = following.failedMarks.count row.id := by
  cases move with
  | advances | routes => exact accounted.counted row member
  | appends stored =>
      rcases (Table.mem_insert stored row).mp member with rfl | old
      · refine (List.count_eq_zero.mpr ?_).symm
        intro marked
        obtain ⟨other, present, same⟩ := List.mem_map.mp (accounted.marks _ marked)
        exact Table.not_mem_of_insert stored other present same
      · exact accounted.counted row old
  | @acts call _ statement after turn =>
      cases statement with
      | none => exact accounted.counted row member
      | some statement =>
          by_cases failing : ∃ now event, statement = .markFailed now event
          · obtain ⟨now, event, rfl⟩ := failing
            refine accounted.counted_markFailed ?_ member
            cases turn.sends with
            | markFailed phase => simp [CallState.held, phase]
          · obtain ⟨before, present, rewrites⟩ := Setup.row_before_execute member
            have known := accounted.counted before present
            cases rewrites with
            | failed now => exact absurd ⟨now, _, rfl⟩ failing
            | kept =>
                rcases statement with _ | _ | _ | ⟨now, event⟩
                · exact known
                · exact known
                · exact known
                · exact absurd ⟨now, event, rfl⟩ failing
            | claimed | extended | processed => exact known

theorem Setup.Accounted.step (accounted : setup.Accounted state)
    (calls : setup.CallsSound state) (move : setup.Move state action following) :
    setup.Accounted following :=
  { rows := fun _ member => accounted.rows_step calls move member
    copies := fun _ _ held _ member owner => accounted.copies_step move held member owner
    extensions := fun _ _ inFlight _ member owner =>
      accounted.extensions_step calls move inFlight member owner
    marks := fun _ marked => accounted.marks_step move marked
    counted := fun _ member => accounted.counted_step move member }

end Step

theorem Setup.accounted_of_reachable (setup : Setup Worker Handler)
    {allowed : State Worker Handler → Action Worker → Prop} {state : State Worker Handler}
    (reached : setup.system.Reachable allowed state) : setup.Accounted state := by
  have known : ∀ before, setup.system.Reachable allowed before → setup.CallsSound before :=
    fun _ reached => setup.callsSound_of_reachable reached
  apply reached.invariant_using known
  · intro start initial
    obtain ⟨events, calls, _, _, failedMarks⟩ := initial
    constructor
    · simp [events, Table.empty]
    · simp [events, Table.empty]
    · simp [events, Table.empty]
    · simp [failedMarks]
    · simp [events, Table.empty]
  · intro before action after calls accounted _ stepped
    exact accounted.step calls (setup.moved stepped)

/-- An appended event stays in the table. -/
def State.Kept (state : State Worker Handler) : Prop :=
  ∀ id ∈ state.appended, id ∈ state.events.rows.map OutboxRow.id

theorem Setup.kept_of_reachable (setup : Setup Worker Handler)
    {allowed : State Worker Handler → Action Worker → Prop} {state : State Worker Handler}
    (reached : setup.system.Reachable allowed state) : state.Kept := by
  apply reached.invariant
  · intro start initial id member
    obtain ⟨_, _, appended, _, _⟩ := initial
    rw [appended] at member
    cases member
  · intro before action after kept _ stepped id member
    have move := setup.moved stepped
    have known : id ∈ before.appended → id ∈ after.events.rows.map OutboxRow.id :=
      fun old => move.ids (kept id old)
    cases move with
    | advances | routes => exact known member
    | acts => exact known (by simpa using member)
    | appends stored =>
        rcases List.mem_cons.mp member with rfl | old
        · exact List.mem_map.mpr ⟨_, (Table.mem_insert stored _).mpr (.inl rfl), rfl⟩
        · exact known old

/-- A sound row is in one of the three situations. -/
theorem Setup.Accounted.situated {setup : Setup Worker Handler}
    {state : State Worker Handler} (accounted : setup.Accounted state)
    {row : OutboxRow Worker} (member : row ∈ state.events.rows) :
    ∃ situation, setup.Situated state row situation := by
  have sound := accounted.rows row member
  have counted := accounted.counted row member
  unfold RowSound at sound
  cases status : row.status with
  | pending =>
      rw [status] at sound
      refine ⟨.retryable, sound, .inl ⟨status, ?_⟩⟩
      intro now available
      exact claimable_iff.mpr ⟨available, Nat.le_sub_one_of_lt sound, .inl status⟩
  | processing =>
      rw [status] at sound
      obtain ⟨few, _, lockedAt, _, locked, available, _⟩ := sound
      refine ⟨.retryable, few, .inr ⟨status, lockedAt, locked, ?_⟩⟩
      intro now expired
      refine claimable_iff.mpr ⟨by omega, Nat.le_sub_one_of_lt few, .inr ⟨status, ?_⟩⟩
      intro lockedAt' locked'
      cases locked.symm.trans locked'
      omega
  | processed =>
      rw [status] at sound
      exact ⟨.delivered, status, sound⟩
  | failed =>
      rw [status] at sound
      exact ⟨.givenUp, status, sound, counted.symm.trans sound⟩

/-- No interleaving, no fault and no crash loses an event or marks one as processed
that was not delivered. -/
theorem noEventLost (setup : Setup Worker Handler) {state : State Worker Handler}
    (reached : setup.system.Reachable anyAction state) :
    (∀ id ∈ state.appended, ∃ row ∈ state.events.rows, row.id = id) ∧
      ∀ row ∈ state.events.rows, ∃! situation, setup.Situated state row situation := by
  constructor
  · intro id member
    exact List.mem_map.mp (setup.kept_of_reachable reached id member)
  · intro row member
    obtain ⟨situation, holds⟩ := (setup.accounted_of_reachable reached).situated member
    exact ⟨situation, holds, fun other holds' => holds'.unique holds⟩

/-- The first call crashes with the event delivered and not yet marked. -/
theorem noEventLost_userRegistrations :
    ∃ state : State Bool Unit, state.appended = ["e1"] ∧
      (state.calls true).result.processed = 1 ∧
      ∀ row ∈ state.events.rows, ∃! situation, userRegistrations.Situated state row situation := by
  have executed :
      (userRegistrations.system.execute (fun _ _ => true) State.empty
        [.append "e1" "user.registered" "payload" 0 0, .start false, .claim false .plain,
          .claimAnswered false, .handlerResolves false, .routeSettles false, .crash false,
          .advance 300001, .start true, .claim true .plain, .claimAnswered true,
          .handlerResolves true, .routeSettles true, .mark true, .markAnswered true]).map
        (fun state => (state.appended, (state.calls true).result.processed)) =
      some (["e1"], 1) := by decide
  obtain ⟨state, run, facts⟩ := Option.map_eq_some_iff.mp executed
  simp only [Prod.mk.injEq] at facts
  have reached : userRegistrations.system.Reachable anyAction state :=
    .of_execute (fun _ _ _ => trivial) ⟨rfl, rfl, rfl, rfl, rfl⟩ run
  exact ⟨state, facts.1, facts.2, (noEventLost userRegistrations reached).2⟩

end BackendFoundation.Outbox
