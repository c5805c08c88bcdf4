/-
How often an event is dispatched. Beside the run it is recorded who has claimed the
event, how often a claim took it over from an earlier one that had not marked it, and
whose route call for it has begun.
-/

import BackendFoundation.Outbox.Batches
import BackendFoundation.Transition.History

namespace BackendFoundation.Outbox

open Transition Database

/-- lost: the claims that ended without a committed mark, for another one took over. -/
structure Dispatches (Worker : Type) where
  claims : List Worker
  lost : Nat
  routeCalls : List Worker
deriving DecidableEq, Repr

variable {Worker Handler : Type}

def Dispatches.none : Dispatches Worker :=
  { claims := []
    lost := 0
    routeCalls := [] }

/-- The call that claims the event in a step. -/
def Setup.claims (setup : Setup Worker Handler) (state : State Worker Handler) (id : String) :
    Action Worker → Option Worker
  | .claim call scan =>
      match (state.calls call).phase with
      | .claiming now .none =>
          if id ∈ (claimedRows setup.options state.events now scan).map OutboxRow.id then
            some call
          else Option.none
      | _ => Option.none
  | _ => Option.none

/-- The event has been claimed and not been marked since. -/
def State.inProcessing (state : State Worker Handler) (id : String) : Bool :=
  state.events.rows.any fun row => row.id == id && decide (row.status = .processing)

/-- The route call of a call for the event begins with the step. -/
def Setup.Begins (state following : State Worker Handler) (call : Worker) (id : String) : Prop :=
  (following.calls call).insideRoute = some id ∧ (state.calls call).insideRoute ≠ some id

instance (state following : State Worker Handler) (call : Worker) (id : String) :
    Decidable (Setup.Begins state following call id) :=
  inferInstanceAs (Decidable (_ ∧ _))

def Setup.routes (state following : State Worker Handler) (id : String)
    (action : Action Worker) : Option Worker :=
  action.actor.filter fun call => decide (Setup.Begins state following call id)

def Setup.recordDispatches (setup : Setup Worker Handler) (state : State Worker Handler)
    (action : Action Worker) (following : State Worker Handler)
    (dispatches : String → Dispatches Worker) : String → Dispatches Worker := fun id =>
  { claims := (setup.claims state id action).toList ++ (dispatches id).claims
    lost :=
      (dispatches id).lost +
        if (setup.claims state id action).isSome && state.inProcessing id then 1 else 0
    routeCalls := (Setup.routes state following id action).toList ++ (dispatches id).routeCalls }

/-- The call whose statement claims the event. -/
def Setup.claimsOption (setup : Setup Worker Handler) (state : State Worker Handler)
    (call : Worker) (id : String) : Option (Statement Worker) → Option Worker
  | some (.claimPendingBatch now scan) =>
      if id ∈ (claimedRows setup.options state.events now scan).map OutboxRow.id then some call
      else Option.none
  | _ => Option.none

theorem State.inProcessing_eq {state : State Worker Handler} {row : OutboxRow Worker}
    (member : row ∈ state.events.rows) :
    state.inProcessing row.id = decide (row.status = .processing) := by
  unfold inProcessing
  rw [Bool.eq_iff_iff, List.any_eq_true, decide_eq_true_iff]
  constructor
  · intro found
    obtain ⟨other, member', holds⟩ := found
    obtain ⟨same, processing⟩ := Bool.and_eq_true_iff.mp holds
    rw [state.events.unique member member' (beq_iff_eq.mp same).symm]
    exact of_decide_eq_true processing
  · intro processing
    refine ⟨row, member, ?_⟩
    rw [beq_self_eq_true, processing]
    rfl

/-- An event is claimed, or marked as processed, and no failure of this claim is counted. -/
def OutboxRow.open_ (row : OutboxRow Worker) : Nat :=
  if row.status = .processing ∨ row.status = .processed then 1 else 0

/-- Every claim was lost, has failed and is counted in the attempts, or is the last one. -/
structure State.Claimed (state : State Worker Handler) (dispatches : String → Dispatches Worker) :
    Prop where
  present : ∀ row ∈ state.events.rows, (dispatches row.id).claims.length =
    (dispatches row.id).lost + row.attempts + row.open_
  absent : ∀ id ∉ state.events.rows.map OutboxRow.id,
    (dispatches id).claims = [] ∧ (dispatches id).lost = 0

section Recording

variable {setup : Setup Worker Handler} {state following : State Worker Handler}
  {action : Action Worker} {dispatches : String → Dispatches Worker} {id : String} {call : Worker}

/-- A step that does not claim the event leaves its claims. -/
theorem Setup.record_unclaimed (unclaimed : setup.claims state id action = .none) :
    (setup.recordDispatches state action following dispatches id).claims =
        (dispatches id).claims ∧
      (setup.recordDispatches state action following dispatches id).lost =
        (dispatches id).lost := by
  unfold recordDispatches
  rw [unclaimed]
  exact ⟨rfl, rfl⟩

theorem Setup.record_claimed (claimed : setup.claims state id action = some call) :
    (setup.recordDispatches state action following dispatches id).claims =
        call :: (dispatches id).claims ∧
      (setup.recordDispatches state action following dispatches id).lost =
        (dispatches id).lost + if state.inProcessing id then 1 else 0 := by
  unfold recordDispatches
  rw [claimed]
  exact ⟨rfl, rfl⟩

theorem State.Claimed.absent_unclaimed (claimed : state.Claimed dispatches)
    (unclaimed : setup.claims state id action = .none)
    (outside : id ∉ state.events.rows.map OutboxRow.id) :
    (setup.recordDispatches state action following dispatches id).claims = [] ∧
      (setup.recordDispatches state action following dispatches id).lost = 0 := by
  obtain ⟨claims, lost⟩ := setup.record_unclaimed unclaimed
  rw [claims, lost]
  exact claimed.absent id outside

theorem State.Claimed.rows_kept (claimed : state.Claimed dispatches)
    (unclaimed : ∀ id, setup.claims state id action = .none)
    (rows : following.events = state.events) :
    following.Claimed (setup.recordDispatches state action following dispatches) := by
  constructor
  · intro row member
    obtain ⟨claims, lost⟩ := setup.record_unclaimed (unclaimed row.id)
    rw [claims, lost]
    exact claimed.present row (rows ▸ member)
  · intro id outside
    exact claimed.absent_unclaimed (unclaimed id) (rows ▸ outside)

theorem State.Claimed.append (claimed : state.Claimed dispatches)
    (unclaimed : ∀ id, setup.claims state id action = none) {eventName payload : String}
    {occurredAt availableAt createdAt : Nat}
    (stored : append state.events id eventName payload occurredAt availableAt createdAt =
      some following.events) :
    following.Claimed (setup.recordDispatches state action following dispatches) := by
  constructor
  · intro row member
    rcases (Table.mem_insert stored row).mp member with rfl | old
    · have fresh : id ∉ state.events.rows.map OutboxRow.id := by
        intro present
        obtain ⟨other, member', same⟩ := List.mem_map.mp present
        exact Table.not_mem_of_insert stored other member' same
      obtain ⟨claims, lost⟩ := claimed.absent_unclaimed (unclaimed id) fresh
      rw [claims, lost]
      rfl
    · obtain ⟨claims, lost⟩ := setup.record_unclaimed (unclaimed row.id)
      rw [claims, lost]
      exact claimed.present row old
  · intro other outside
    refine claimed.absent_unclaimed (unclaimed other) ?_
    intro present
    obtain ⟨row, member, rfl⟩ := List.mem_map.mp present
    exact outside (List.mem_map.mpr ⟨row, (Table.mem_insert stored row).mpr (.inr member), rfl⟩)

theorem Setup.routeCalls_eq (acts : action.actor = some call) (id : String) :
    (setup.recordDispatches state action following dispatches id).routeCalls =
      if Setup.Begins state following call id then call :: (dispatches id).routeCalls
      else (dispatches id).routeCalls := by
  unfold recordDispatches Setup.routes
  rw [acts, Option.filter_some]
  by_cases begins : Setup.Begins state following call id
  · rw [if_pos (decide_eq_true begins), if_pos begins]
    rfl
  · rw [if_neg fun holds => begins (of_decide_eq_true holds), if_neg begins]
    rfl

theorem Setup.claims_subset (id : String) :
    (dispatches id).claims ⊆
      (setup.recordDispatches state action following dispatches id).claims :=
  List.subset_append_right _ _

end Recording

/-- A call has not begun with the event yet: it has not claimed, or deals with an earlier
event of its batch. -/
def CallState.Awaits (before : CallState Worker Handler) (id : String) : Prop :=
  match before.phase with
  | .ready | .claiming _ _ => True
  | .iterating iteration _ => id ∈ iteration.rest.map OutboxRow.id
  | .returned | .rejected | .crashed => False

theorem CallState.Tidy.insideRoute_ne {before : CallState Worker Handler} (tidy : before.Tidy)
    {id : String} (awaited : before.Awaits id) : before.insideRoute ≠ some id := by
  unfold Awaits at awaited
  unfold insideRoute
  split
  · rename_i iteration routing phase
    rw [phase] at awaited
    intro same
    exact (tidy.rest phase).1 (Option.some.inj same ▸ awaited)
  · exact nofun

theorem Setup.finish_insideRoute {setup : Setup Worker Handler}
    {before : CallState Worker Handler} {now : Nat} {iteration : Iteration Worker}
    {result : ProcessOutboxResult} {id : String}
    (inside : (setup.finish now before iteration result).insideRoute = some id) :
    id ∈ iteration.rest.map OutboxRow.id := by
  cases rest : iteration.rest with
  | nil =>
      simp only [finish, rest, nextEvent, CallState.insideRoute] at inside
      cases inside
  | cons event others =>
      simp only [finish, rest, nextEvent, CallState.insideRoute] at inside
      rw [← Option.some.inj inside]
      exact List.mem_cons_self

theorem Setup.finish_awaits {setup : Setup Worker Handler}
    {before : CallState Worker Handler} {now : Nat} {iteration : Iteration Worker}
    {result : ProcessOutboxResult} {id : String}
    (awaited : (setup.finish now before iteration result).Awaits id) :
    id ∈ iteration.rest.map OutboxRow.id := by
  cases rest : iteration.rest with
  | nil =>
      simp only [finish, rest, nextEvent, CallState.Awaits] at awaited
  | cons event others =>
      simp only [finish, rest, nextEvent, CallState.Awaits] at awaited
      exact List.mem_cons_of_mem _ awaited

theorem CallState.held_of_insideRoute {before : CallState Worker Handler} {id : String}
    (inside : before.insideRoute = some id) : ∃ event ∈ before.held, event.id = id := by
  unfold insideRoute at inside
  split at inside
  · rename_i iteration routing phase
    refine ⟨iteration.event, ?_, Option.some.inj inside⟩
    rw [held, phase]
    exact List.mem_cons_self
  · cases inside

variable [DecidableEq Worker]

/-- The outbox with the dispatches of its events. -/
def Setup.dispatching (setup : Setup Worker Handler) :
    System (State Worker Handler × (String → Dispatches Worker)) (Action Worker) :=
  setup.system.recording setup.recordDispatches fun _ => Dispatches.none

/-- A processed event was claimed with attempts left. -/
def Setup.Processed (setup : Setup Worker Handler) (state : State Worker Handler) : Prop :=
  ∀ row ∈ state.events.rows, row.status = .processed →
    row.attempts < setup.options.maxAttempts

section Claims

variable {setup : Setup Worker Handler} {state following : State Worker Handler} {call : Worker}
  {action : Action Worker} {statement : Option (Statement Worker)}
  {after : CallState Worker Handler} {dispatches : String → Dispatches Worker}

theorem Setup.processed_step (processed : setup.Processed state)
    (accounted : setup.Accounted state) (move : setup.Move state action following) :
    setup.Processed following := by
  intro after member status
  rcases move.row_before member with ⟨row, present, becomes⟩ | ⟨pending, _⟩
  · rcases becomes with rfl | ⟨call, statement, sends, rewrites⟩
    · exact processed after present status
    · cases rewrites with
      | kept => exact processed _ present status
      | claimed => cases status
      | extended date held =>
          have processing := (owned_iff.mp held).2.1
          change _ = OutboxStatus.processed at status
          exact OutboxStatus.noConfusion (processing.symm.trans status)
      | processed held => exact ((accounted.rows row present).attempts_lt held).1
      | failed now held =>
          simp only [failedAssignment] at status
          split at status <;> cases status
  · rw [pending] at status
    cases status

/-- Only a claimPendingBatch that is executed claims. -/
theorem Setup.Act.claims_eq (act : setup.Act state call (state.calls call) action statement after)
    (id : String) : setup.claims state id action = setup.claimsOption state call id statement := by
  cases act with
  | claims scan phase =>
      simp only [Setup.claims, phase]
      rfl
  | starts | claimAnswered | claimFails | beats | renews | extendAnswered | extendFails
  | extendsLate | timesOut | resolves | rejects | routeRejects | marksProcessed | marksFailed
  | processed | unmatched | failed | markProcessedFails | markFailedFails | crashes
  | crashesInside => rfl

/-- A mark moves a claim from the open ones to the attempts, and no other statement but a
claim changes the two. -/
theorem Setup.Accounted.balanced (accounted : setup.Accounted state)
    {statement : Statement Worker} (sends : (state.calls call).Sends statement)
    (other : ∀ now scan, statement ≠ .claimPendingBatch now scan)
    {row after : OutboxRow Worker} (member : row ∈ state.events.rows)
    (rewrites : statement.Rewrites setup.options call row after) :
    after.attempts + after.open_ = row.attempts + row.open_ := by
  cases rewrites with
  | kept => rfl
  | claimed scan => exact absurd rfl (other _ scan)
  | extended => rfl
  | processed held =>
      have processing := (owned_iff.mp held).2.1
      simp only [OutboxRow.open_, processedAssignment, processing, or_true, true_or]
  | @failed now event _ held =>
      have processing := (owned_iff.mp held).2.1
      have copied : row.attempts = event.attempts := by
        cases sends with
        | @markFailed iteration _ phase =>
            exact (accounted.copies call iteration.event (by simp [CallState.held, phase]) row
              member held).1
      have closed : ((failedAssignment setup.options now event).set row).open_ = 0 := by
        unfold OutboxRow.open_ failedAssignment
        dsimp only
        split
        · rfl
        · rfl
      have opened : row.open_ = 1 := by
        simp only [OutboxRow.open_, processing, true_or, if_true]
      rw [closed, opened, copied]
      rfl

theorem Setup.ids_execute (setup : Setup Worker Handler) (state : State Worker Handler)
    (call : Worker) (statement : Statement Worker) :
    (setup.execute state call statement).events.rows.map OutboxRow.id =
      state.events.rows.map OutboxRow.id := by
  obtain ⟨condition, assignment, updated, _⟩ := setup.execute_events state call statement
  rw [updated]
  exact Table.map_update fun row _ _ => assignment.keepsKey row

/-- A claim opens a row, and closes the claim before it if that is still open. -/
theorem State.Claimed.claim (claimed : state.Claimed dispatches) {now : Nat} {scan : Scan}
    (executes : ∀ id, setup.claims state id action =
      setup.claimsOption state call id (some (.claimPendingBatch now scan)))
    (events : following.events =
      (setup.execute state call (.claimPendingBatch now scan)).events) :
    following.Claimed (setup.recordDispatches state action following dispatches) := by
  constructor
  · intro after member
    rw [events] at member
    obtain ⟨row, present, rfl⟩ := Table.mem_update.mp member
    have known := claimed.present row present
    by_cases selected : row.id ∈
        (claimedRows setup.options state.events now scan).map OutboxRow.id
    · rw [if_pos (List.contains_iff_mem.mpr selected)]
      change (setup.recordDispatches state action following dispatches row.id).claims.length =
        (setup.recordDispatches state action following dispatches row.id).lost +
          row.attempts + 1
      have claimable := (mem_claimedRows (mem_claimedRows_of_id present selected)).2
      obtain ⟨claims, lost⟩ := setup.record_claimed ((executes row.id).trans (if_pos selected))
      rw [claims, lost, State.inProcessing_eq present, List.length_cons, known]
      rcases (claimable_iff.mp claimable).2.2 with pending | ⟨processing, _⟩
      · rw [OutboxRow.open_, pending]
        rfl
      · rw [OutboxRow.open_, processing]
        simp
        omega
    · rw [if_neg fun found => selected (List.contains_iff_mem.mp found)]
      have unclaimed : setup.claims state row.id action = none :=
        (executes row.id).trans (if_neg selected)
      obtain ⟨claims, lost⟩ := setup.record_unclaimed unclaimed
      rw [claims, lost]
      exact known
  · intro id outside
    have absent : id ∉ state.events.rows.map OutboxRow.id := by
      rw [events] at outside
      exact (setup.ids_execute state call (.claimPendingBatch now scan)) ▸ outside
    have unclaimed : setup.claims state id action = none := by
      refine (executes id).trans (if_neg ?_)
      intro selected
      obtain ⟨row, member, rfl⟩ := List.mem_map.mp selected
      exact absent (List.mem_map.mpr ⟨row, (mem_claimedRows member).1, rfl⟩)
    exact claimed.absent_unclaimed unclaimed absent

theorem State.Claimed.unclaimed (claimed : state.Claimed dispatches)
    (accounted : setup.Accounted state) {statement : Statement Worker}
    (sends : (state.calls call).Sends statement)
    (other : ∀ now scan, statement ≠ .claimPendingBatch now scan)
    (executes : ∀ id, setup.claims state id action = none)
    (events : following.events = (setup.execute state call statement).events) :
    following.Claimed (setup.recordDispatches state action following dispatches) := by
  constructor
  · intro after member
    rw [events] at member
    obtain ⟨row, present, rewrites⟩ := Setup.row_before_execute member
    obtain ⟨claims, lost⟩ := setup.record_unclaimed (executes after.id)
    rw [claims, lost, rewrites.id_eq, claimed.present row present, Nat.add_assoc, Nat.add_assoc,
      accounted.balanced sends other present rewrites]
  · intro id outside
    rw [events, setup.ids_execute] at outside
    exact claimed.absent_unclaimed (executes id) outside

theorem State.Claimed.step (claimed : state.Claimed dispatches)
    (accounted : setup.Accounted state) (stepped : setup.Stepped state action following) :
    following.Claimed (setup.recordDispatches state action following dispatches) := by
  cases stepped with
  | advances | routes => exact claimed.rows_kept (fun _ => rfl) rfl
  | appends stored => exact claimed.append (fun _ => rfl) stored
  | @acts call _ statement after act =>
      have executes := act.claims_eq
      rcases statement with _ | statement
      · exact claimed.rows_kept executes rfl
      · by_cases claims : ∃ now scan, statement = .claimPendingBatch now scan
        · obtain ⟨now, scan, rfl⟩ := claims
          exact claimed.claim executes rfl
        · refine claimed.unclaimed accounted act.turn.sends
            (fun now scan same => claims ⟨now, scan, same⟩) ?_ rfl
          intro id
          rw [executes id]
          cases statement with
          | claimPendingBatch now scan => exact absurd ⟨now, scan, rfl⟩ claims
          | extendLock | markProcessed | markFailed => rfl

end Claims

/-- A call begins one route call at most for an event, and only for one it has claimed. -/
structure State.Started (state : State Worker Handler) (dispatches : String → Dispatches Worker) :
    Prop where
  fresh : ∀ call id, (state.calls call).Awaits id → call ∉ (dispatches id).routeCalls
  held : ∀ call, ∀ event ∈ (state.calls call).held, call ∈ (dispatches event.id).claims
  claimed : ∀ id, (dispatches id).routeCalls ⊆ (dispatches id).claims
  once : ∀ id, (dispatches id).routeCalls.Nodup

/-- What a step of a call must respect for its route calls to stay in order. -/
structure Setup.Orderly (setup : Setup Worker Handler) (state following : State Worker Handler)
    (call : Worker) (action : Action Worker) (dispatches : String → Dispatches Worker) :
    Prop where
  acts : action.actor = some call
  others : ∀ other, other ≠ call → following.calls other = state.calls other
  begins : ∀ id, Setup.Begins state following call id → (state.calls call).Awaits id
  awaits : ∀ id, (following.calls call).Awaits id → (state.calls call).Awaits id
  holds : ∀ event ∈ (following.calls call).held,
    call ∈ (setup.recordDispatches state action following dispatches event.id).claims

section Routes

variable {setup : Setup Worker Handler} {state following : State Worker Handler} {call : Worker}
  {action : Action Worker} {statement : Option (Statement Worker)}
  {before after : CallState Worker Handler} {dispatches : String → Dispatches Worker}

/-- An event whose route call a step begins has waited for it. -/
theorem Setup.Act.begins (act : setup.Act state call before action statement after) {id : String}
    (inside : after.insideRoute = some id) (outside : before.insideRoute ≠ some id) :
    before.Awaits id := by
  unfold CallState.Awaits
  cases act with
  | claimAnswered phase =>
      rw [phase]
      trivial
  | starts | claims | claimFails | crashes | crashesInside | marksProcessed | marksFailed
  | markFailedFails | routeRejects | unmatched | markProcessedFails => cases inside
  | extendsLate => exact absurd inside outside
  | processed phase | failed phase =>
      rw [phase]
      exact Setup.finish_insideRoute inside
  | @beats _ stage phase | @renews _ stage _ phase | @extendAnswered _ stage _ phase
  | @extendFails _ stage phase =>
      refine absurd ?_ outside
      rw [← inside, CallState.insideRoute, phase]
      cases stage <;> rfl
  | timesOut phase | resolves phase | rejects phase =>
      refine absurd ?_ outside
      rw [← inside, CallState.insideRoute, phase]
      rfl

/-- What waits after a step has waited before it. -/
theorem Setup.Act.awaits (act : setup.Act state call before action statement after) {id : String}
    (awaited : after.Awaits id) : before.Awaits id := by
  unfold CallState.Awaits at awaited ⊢
  cases act with
  | starts phase | claims scan phase | claimAnswered phase =>
      rw [phase]
      trivial
  | claimFails | crashes | crashesInside | markFailedFails => exact awaited.elim
  | extendsLate => exact awaited
  | processed phase | failed phase =>
      rw [phase]
      exact Setup.finish_awaits awaited
  | beats phase | renews phase | extendAnswered phase | extendFails phase | timesOut phase
  | resolves phase | rejects phase | routeRejects phase | marksProcessed phase
  | marksFailed phase | unmatched phase | markProcessedFails phase =>
      rw [phase]
      exact awaited

theorem Setup.Act.orderly (act : setup.Act state call (state.calls call) action statement after)
    (started : state.Started dispatches) :
    setup.Orderly state ((setup.executeOption state call statement).update call after) call action
      dispatches := by
  constructor
  · exact act.actor
  · intro other different
    rw [State.update_calls_other _ _ different, Setup.executeOption_calls]
  · intro id found
    obtain ⟨inside, outside⟩ := found
    rw [State.update_calls_self] at inside
    exact act.begins inside outside
  · intro id awaited
    rw [State.update_calls_self] at awaited
    exact act.awaits awaited
  · intro event member
    rw [State.update_calls_self] at member
    rcases act.turn.held with kept | ⟨now, scan, rfl, phase, claimed⟩
    · exact setup.claims_subset event.id (started.held call event (kept member))
    · rw [claimed] at member
      have selected : setup.claims state event.id action = some call :=
        (act.claims_eq event.id).trans (if_pos (List.mem_map_of_mem member))
      rw [(setup.record_claimed selected).1]
      exact List.mem_cons_self

theorem Setup.orderly_routes (started : state.Started dispatches) {iteration : Iteration Worker}
    {resolved : List Handler} {routed : List (Routed Worker Handler)}
    (phase : (state.calls call).phase =
      .iterating iteration (.publishing (.awaiting [] resolved))) :
    setup.Orderly state
      { state.update call ((state.calls call).goto
          (.iterating iteration (setup.afterRoute state call iteration))) with
        routed := routed } call (.routeSettles call) dispatches := by
  have goes : (state.update call ((state.calls call).goto
      (.iterating iteration (setup.afterRoute state call iteration)))).calls call =
        (state.calls call).goto
          (.iterating iteration (setup.afterRoute state call iteration)) :=
    State.update_calls_self _ _ _
  constructor
  · rfl
  · intro other different
    exact State.update_calls_other _ _ different
  · intro id found
    obtain ⟨inside, _⟩ := found
    rw [goes] at inside
    simp only [CallState.insideRoute, CallState.goto, Setup.afterRoute] at inside
    split at inside
    · rename_i following
      split at following <;> cases following
    · cases inside
  · intro id awaited
    rw [goes] at awaited
    unfold CallState.Awaits
    rw [phase]
    exact awaited
  · intro event member
    rw [goes] at member
    refine setup.claims_subset event.id (started.held call event ?_)
    rw [CallState.held, phase]
    exact member

theorem State.Started.step (started : state.Started dispatches) (tidy : following.AllTidy)
    (orderly : setup.Orderly state following call action dispatches) :
    following.Started (setup.recordDispatches state action following dispatches) := by
  constructor
  · intro other id awaited
    rw [Setup.routeCalls_eq orderly.acts]
    by_cases same : other = call
    · subst same
      split
      · rename_i begins
        exact absurd begins.1 ((tidy other).insideRoute_ne awaited)
      · exact started.fresh other id (orderly.awaits id awaited)
    · rw [orderly.others other same] at awaited
      have absent := started.fresh other id awaited
      split
      · exact fun member => absent ((List.mem_cons.mp member).resolve_left same)
      · exact absent
  · intro other event member
    by_cases same : other = call
    · subst same
      exact orderly.holds event member
    · rw [orderly.others other same] at member
      exact setup.claims_subset event.id (started.held other event member)
  · intro id starter member
    rw [Setup.routeCalls_eq orderly.acts] at member
    split at member
    · rename_i begins
      rcases List.mem_cons.mp member with rfl | old
      · obtain ⟨event, held, rfl⟩ := CallState.held_of_insideRoute begins.1
        exact orderly.holds event held
      · exact setup.claims_subset id (started.claimed id old)
    · exact setup.claims_subset id (started.claimed id member)
  · intro id
    rw [Setup.routeCalls_eq orderly.acts]
    split
    · rename_i begins
      exact List.nodup_cons.mpr
        ⟨started.fresh call id (orderly.begins id begins), started.once id⟩
    · exact started.once id

theorem State.Started.stepped (started : state.Started dispatches) (tidy : following.AllTidy)
    (stepped : setup.Stepped state action following) :
    following.Started (setup.recordDispatches state action following dispatches) := by
  cases stepped with
  | advances | appends => exact ⟨started.fresh, started.held, started.claimed, started.once⟩
  | acts call act => exact started.step tidy (act.orderly started)
  | routes call phase => exact started.step tidy (Setup.orderly_routes started phase)

end Routes

section Runs

variable {setup : Setup Worker Handler} {allowed : State Worker Handler → Action Worker → Prop}

theorem Setup.processed_of_reachable {state : State Worker Handler}
    (reached : setup.system.Reachable allowed state) : setup.Processed state := by
  have known : ∀ before, setup.system.Reachable allowed before → setup.Accounted before :=
    fun _ reached => setup.accounted_of_reachable reached
  apply reached.invariant_using known
  · intro start initial row member
    obtain ⟨rows, _⟩ := initial
    rw [rows] at member
    cases member
  · intro before action after accounted processed _ stepped
    exact Setup.processed_step processed accounted (setup.moved stepped)

variable {recorded : State Worker Handler × (String → Dispatches Worker)}

theorem Setup.claimed_of_reachable
    (reached : setup.dispatching.Reachable (fun recorded => allowed recorded.1) recorded) :
    recorded.1.Claimed recorded.2 := by
  have known : ∀ before, setup.system.Reachable allowed before → setup.Accounted before :=
    fun _ reached => setup.accounted_of_reachable reached
  apply System.Reachable.history State.Claimed known _ _ reached
  · intro start initial
    obtain ⟨rows, _⟩ := initial
    constructor
    · intro row member
      rw [rows] at member
      cases member
    · exact fun _ _ => ⟨rfl, rfl⟩
  · intro before dispatches action after accounted claimed _ stepped
    exact claimed.step accounted (setup.stepped stepped)

theorem Setup.started_of_reachable
    (reached : setup.dispatching.Reachable (fun recorded => allowed recorded.1) recorded) :
    recorded.1.Started recorded.2 := by
  apply System.Reachable.history State.Started (fun _ reached => reached) _ _ reached
  · intro start initial
    obtain ⟨_, calls, _⟩ := initial
    constructor
    · exact fun _ _ _ => List.not_mem_nil
    · intro call event member
      rw [calls] at member
      cases member
    · exact fun _ => List.nil_subset _
    · exact fun _ => List.nodup_nil
  · intro before dispatches action after earlier started permitted stepped
    exact started.stepped (setup.allTidy_of_reachable (earlier.next permitted stepped))
      (setup.stepped stepped)

/-- A failed claim has cost an attempt, and at most one claim is open. -/
theorem Setup.attempts_add_open_le {state : State Worker Handler}
    (reached : setup.system.Reachable allowed state) {row : OutboxRow Worker}
    (member : row ∈ state.events.rows) :
    row.attempts + row.open_ ≤ setup.options.maxAttempts := by
  have sound := (setup.accounted_of_reachable reached).rows row member
  unfold RowSound at sound
  cases status : row.status with
  | pending =>
      rw [status] at sound
      rw [OutboxRow.open_, status]
      exact Nat.le_of_lt sound
  | processing =>
      rw [status] at sound
      rw [OutboxRow.open_, status]
      exact sound.1
  | processed =>
      rw [OutboxRow.open_, status]
      exact Setup.processed_of_reachable reached row member status
  | failed =>
      rw [status] at sound
      rw [OutboxRow.open_, status]
      exact Nat.le_of_eq sound

/-- Every route call has its own claim. -/
theorem Setup.routeCalls_le
    (reached : setup.dispatching.Reachable (fun recorded => allowed recorded.1) recorded)
    (id : String) :
    (recorded.2 id).routeCalls.length ≤ setup.options.maxAttempts + (recorded.2 id).lost := by
  have started := Setup.started_of_reachable reached
  have claims : (recorded.2 id).routeCalls.length ≤ (recorded.2 id).claims.length :=
    (List.subperm_of_subset (started.once id) (started.claimed id)).length_le
  have claimed := Setup.claimed_of_reachable reached
  by_cases present : id ∈ recorded.1.events.rows.map OutboxRow.id
  · obtain ⟨row, member, rfl⟩ := List.mem_map.mp present
    have enough := Setup.attempts_add_open_le reached.unrecorded member
    have counted := claimed.present row member
    omega
  · rw [(claimed.absent id present).1] at claims
    exact claims.trans (Nat.zero_le _)

end Runs

end BackendFoundation.Outbox
