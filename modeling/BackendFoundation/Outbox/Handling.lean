/-
What one call of processPending does about one of its events, for every order in which
the handler, the time-out timer, the heartbeats and the replies come.

A chronicle records it beside the run: how the promise of the handler has settled, what
the timer and the heartbeats had done by then, and which statements were issued.
-/

import BackendFoundation.Outbox.Batches
import BackendFoundation.Transition.History

namespace BackendFoundation.Outbox

open Transition Database

/-- unmarked: the reply to markProcessed was not that the row had been changed. -/
structure Chronicle where
  settled : Option Bool
  timedOut : Bool
  lossReported : Bool
  processedIssued : Nat
  unmarked : Bool
  failedIssued : Nat
  cleared : Bool
deriving DecidableEq, Repr

def Chronicle.blank : Chronicle :=
  { settled := none
    timedOut := false
    lossReported := false
    processedIssued := 0
    unmarked := false
    failedIssued := 0
    cleared := false }

/-- No statement is issued and no heartbeat cleared before the handler has settled. Then
markProcessed is issued once if all went well, and markFailed once in every other case. -/
structure Chronicle.Handled (chronicle : Chronicle) : Prop where
  waits : chronicle.settled = none →
    chronicle.processedIssued = 0 ∧ chronicle.failedIssued = 0 ∧ chronicle.cleared = false
  processed : ∀ resolved, chronicle.settled = some resolved →
    chronicle.processedIssued =
      if resolved = true ∧ chronicle.timedOut = false ∧ chronicle.lossReported = false then 1
      else 0
  failed : ∀ resolved, chronicle.settled = some resolved →
    chronicle.failedIssued =
      if chronicle.processedIssued = 0 ∨ chronicle.unmarked = true then 1 else 0

inductive Mark
  | processed
  | failed
deriving DecidableEq, Repr

variable {Worker Handler : Type}

/-- The event whose heartbeat is set. -/
def CallState.current (call : CallState Worker Handler) : Option String :=
  match call.phase with
  | .iterating iteration _ => some iteration.event.id
  | _ => none

/-- Only the chronicle of the current event is written. -/
def CallState.write (call : CallState Worker Handler) (written chronicles : String → Chronicle) :
    String → Chronicle := fun id =>
  if call.current = some id then written id else chronicles id

/-- The mark statement that is issued and not answered. -/
def CallState.marking (call : CallState Worker Handler) : Option Mark :=
  match call.phase with
  | .iterating _ (.markingProcessed _) => some .processed
  | .iterating _ (.markingFailed _ _) => some .failed
  | _ => none

/-- Every handler that the route call awaited has resolved. -/
def CallState.routeResolved (call : CallState Worker Handler) : Bool :=
  match call.phase with
  | .iterating _ (.publishing (.awaiting [] _)) => true
  | _ => false

def Action.isRouteSettles : Action Worker → Bool
  | .routeSettles _ => true
  | _ => false

def Action.isTimeout : Action Worker → Bool
  | .timeout _ => true
  | _ => false

def Action.isCrash : Action Worker → Bool
  | .crash _ => true
  | _ => false

/-- The chronicle of the current event, by the stage that the call is in. -/
def Chronicle.At (chronicle : Chronicle) (iteration : Iteration Worker) :
    Stage Handler → Prop
  | .publishing _ =>
      chronicle =
        { Chronicle.blank with
          timedOut := iteration.handlerTimedOut
          lossReported := iteration.ownershipLost }
  | .markingProcessed _ =>
      chronicle =
        { Chronicle.blank with
          settled := some true
          processedIssued := 1 }
  | .markingFailed _ _ =>
      chronicle.Handled ∧ chronicle.settled.isSome = true ∧ chronicle.failedIssued = 1 ∧
        chronicle.cleared = false

/-- What the chronicles of a call say, by its phase. -/
def CallState.Chronicled (call : CallState Worker Handler) (chronicles : String → Chronicle) :
    Prop :=
  match call.phase with
  | .ready | .claiming _ _ => ∀ id, chronicles id = Chronicle.blank
  | .iterating iteration stage =>
      (chronicles iteration.event.id).At iteration stage ∧
        (∀ event ∈ iteration.rest, chronicles event.id = Chronicle.blank) ∧
          ∀ id, (chronicles id).Handled
  | .returned | .rejected | .crashed => ∀ id, (chronicles id).Handled

theorem Chronicle.handled_of_unsettled {chronicle : Chronicle}
    (unsettled : chronicle.settled = none)
    (waits : chronicle.processedIssued = 0 ∧ chronicle.failedIssued = 0 ∧
      chronicle.cleared = false) : chronicle.Handled := by
  constructor
  · exact fun _ => waits
  · intro resolved settled
    rw [unsettled] at settled
    cases settled
  · intro resolved settled
    rw [unsettled] at settled
    cases settled

theorem Chronicle.handled_blank : Chronicle.blank.Handled :=
  handled_of_unsettled rfl ⟨rfl, rfl, rfl⟩

theorem Chronicle.At.handled {chronicle : Chronicle} {iteration : Iteration Worker}
    {stage : Stage Handler} (holds : chronicle.At iteration stage) : chronicle.Handled := by
  cases stage with
  | publishing =>
      rw [holds]
      exact handled_of_unsettled rfl ⟨rfl, rfl, rfl⟩
  | markingProcessed =>
      rw [holds]
      constructor
      · intro unsettled
        cases unsettled
      · intro resolved settled
        cases settled
        rfl
      · intro resolved settled
        rfl
  | markingFailed => exact holds.1

/-- Once the handler has settled, the statements that are issued stay the same when the
heartbeat is cleared. -/
theorem Chronicle.Handled.clear {chronicle : Chronicle} (handled : chronicle.Handled)
    (settled : chronicle.settled.isSome = true) :
    ({ chronicle with cleared := true } : Chronicle).Handled := by
  constructor
  · intro unsettled
    change chronicle.settled = none at unsettled
    rw [unsettled] at settled
    cases settled
  · exact handled.processed
  · exact handled.failed

/-- A mark statement that the database may execute was issued, and once only. -/
def Statement.Issued (chronicles : String → Chronicle) : Statement Worker → Prop
  | .claimPendingBatch _ _ | .extendLock _ _ => True
  | .markProcessed id => (chronicles id).processedIssued = 1
  | .markFailed _ event => (chronicles event.id).failedIssued = 1

theorem CallState.Chronicled.issued {call : CallState Worker Handler}
    {chronicles : String → Chronicle} (chronicled : call.Chronicled chronicles)
    {statement : Statement Worker} (sends : call.Sends statement) :
    statement.Issued chronicles := by
  unfold Chronicled at chronicled
  cases sends with
  | claimPendingBatch | extendLock | lateExtendLock => trivial
  | markProcessed phase =>
      rw [phase] at chronicled
      change (chronicles _).processedIssued = 1
      rw [chronicled.1]
  | markFailed phase =>
      rw [phase] at chronicled
      exact chronicled.1.2.2.1

/-- The chronicle of an event that markFailed was issued for without a markProcessed. -/
theorem Chronicle.at_markingFailed {iteration : Iteration Worker} {now : Nat}
    {resolved timedOut lossReported : Bool}
    (unfit : ¬(resolved = true ∧ timedOut = false ∧ lossReported = false)) :
    ({ Chronicle.blank with
        settled := some resolved
        timedOut := timedOut
        lossReported := lossReported
        failedIssued := 1 } : Chronicle).At iteration
      (.markingFailed now none : Stage Handler) := by
  refine ⟨⟨nofun, ?_, fun _ _ => rfl⟩, rfl, rfl, rfl⟩
  intro same settled
  cases settled
  exact (if_neg unfit).symm

/-- The chronicle of an event that markProcessed did not mark. -/
theorem Chronicle.at_unmarked {iteration : Iteration Worker} {now : Nat} :
    ({ Chronicle.blank with
        settled := some true
        processedIssued := 1
        unmarked := true
        failedIssued := 1 } : Chronicle).At iteration
      (.markingFailed now none : Stage Handler) := by
  refine ⟨⟨nofun, ?_, fun _ _ => rfl⟩, rfl, rfl, rfl⟩
  intro resolved settled
  cases settled
  rfl

theorem CallState.Chronicled.handled {call : CallState Worker Handler}
    {chronicles : String → Chronicle} (chronicled : call.Chronicled chronicles) (id : String) :
    (chronicles id).Handled := by
  unfold Chronicled at chronicled
  cases phase : call.phase with
  | ready | claiming =>
      rw [phase] at chronicled
      rw [chronicled id]
      exact Chronicle.handled_blank
  | iterating =>
      rw [phase] at chronicled
      exact chronicled.2.2 id
  | returned | rejected | crashed =>
      rw [phase] at chronicled
      exact chronicled id

/-- The next iteration begins with a blank chronicle. -/
theorem Setup.chronicled_nextEvent (setup : Setup Worker Handler) (now : Nat)
    {events : List (OutboxRow Worker)} (late : List (String × Nat))
    (result : ProcessOutboxResult) {chronicles : String → Chronicle}
    (handled : ∀ id, (chronicles id).Handled)
    (untouched : ∀ event ∈ events, chronicles event.id = Chronicle.blank) :
    CallState.Chronicled
      { phase := setup.nextEvent now events
        late := late
        result := result } chronicles := by
  cases events with
  | nil => exact handled
  | cons event rest =>
      refine ⟨?_, ?_, handled⟩
      · exact untouched event List.mem_cons_self
      · intro other member
        exact untouched other (List.mem_cons_of_mem _ member)

section Write

variable {before after : CallState Worker Handler} {iteration following : Iteration Worker}
  {stage next : Stage Handler} {written chronicles : String → Chronicle}

theorem CallState.current_iterating (phase : before.phase = .iterating iteration stage) :
    before.current = some iteration.event.id := by
  unfold current
  rw [phase]

theorem CallState.write_idle (idle : before.current = none) :
    before.write written chronicles = chronicles := by
  funext id
  unfold write
  rw [idle]
  exact if_neg nofun

theorem CallState.write_same
    (same : ∀ id, before.current = some id → written id = chronicles id) :
    before.write written chronicles = chronicles := by
  funext id
  unfold write
  split
  · exact same id ‹_›
  · rfl

theorem CallState.write_current (phase : before.phase = .iterating iteration stage) :
    before.write written chronicles iteration.event.id = written iteration.event.id :=
  if_pos (current_iterating phase)

theorem CallState.write_other (phase : before.phase = .iterating iteration stage) {id : String}
    (different : id ≠ iteration.event.id) :
    before.write written chronicles id = chronicles id := by
  unfold write
  rw [current_iterating phase]
  exact if_neg fun same => different (Option.some.inj same).symm

theorem CallState.Chronicled.handled_write (chronicled : before.Chronicled chronicles)
    (phase : before.phase = .iterating iteration stage)
    (handled : (written iteration.event.id).Handled) (id : String) :
    (before.write written chronicles id).Handled := by
  by_cases same : id = iteration.event.id
  · rw [same, write_current phase]
    exact handled
  · rw [write_other phase same]
    exact chronicled.handled id

theorem CallState.Chronicled.rest_write (chronicled : before.Chronicled chronicles)
    (tidy : before.Tidy) (phase : before.phase = .iterating iteration stage) :
    ∀ event ∈ iteration.rest, before.write written chronicles event.id = Chronicle.blank := by
  intro event member
  have different : event.id ≠ iteration.event.id := by
    intro same
    exact (tidy.rest phase).1 (same ▸ List.mem_map.mpr ⟨event, member, rfl⟩)
  rw [write_other phase different]
  unfold Chronicled at chronicled
  rw [phase] at chronicled
  exact chronicled.2.1 event member

/-- The call goes on with the same event. -/
theorem CallState.Chronicled.stays (chronicled : before.Chronicled chronicles)
    (tidy : before.Tidy) (phase : before.phase = .iterating iteration stage)
    (phase' : after.phase = .iterating following next) (event : following.event = iteration.event)
    (rest : following.rest = iteration.rest)
    (holds : (written iteration.event.id).At following next) :
    after.Chronicled (before.write written chronicles) := by
  unfold Chronicled
  rw [phase']
  refine ⟨?_, ?_, ?_⟩
  · rw [event, write_current phase]
    exact holds
  · rw [rest]
    exact chronicled.rest_write tidy phase
  · exact chronicled.handled_write phase holds.handled

/-- The call goes on to the next event. -/
theorem CallState.Chronicled.finish (setup : Setup Worker Handler) (now : Nat)
    (result : ProcessOutboxResult) (chronicled : before.Chronicled chronicles)
    (tidy : before.Tidy) (phase : before.phase = .iterating iteration stage)
    (handled : (written iteration.event.id).Handled) :
    (setup.finish now before iteration result).Chronicled (before.write written chronicles) :=
  setup.chronicled_nextEvent now _ result (chronicled.handled_write phase handled)
    (chronicled.rest_write tidy phase)

/-- The iteration after this one is for another event, whose handler is awaited. -/
theorem CallState.Tidy.left (setup : Setup Worker Handler) (now : Nat)
    (result : ProcessOutboxResult) (tidy : before.Tidy)
    (phase : before.phase = .iterating iteration stage) :
    (setup.finish now before iteration result).marking = none ∧
      (setup.finish now before iteration result).current ≠ some iteration.event.id := by
  cases rest : iteration.rest with
  | nil =>
      simp only [Setup.finish, rest, Setup.nextEvent, marking, current]
      exact ⟨trivial, nofun⟩
  | cons event others =>
      simp only [Setup.finish, rest, Setup.nextEvent, marking, current]
      refine ⟨trivial, ?_⟩
      intro same
      exact tidy.next_ne phase rest (Option.some.inj same)

end Write

/-- A heartbeat of the current event completes, with false or with an error. -/
def Setup.reportsLoss (state : State Worker Handler) (call : Worker) : Action Worker → Bool
  | .extendLockAnswered _ =>
      match (state.calls call).phase with
      | .iterating iteration _ => decide (iteration.heartbeat = .executed false)
      | _ => false
  | .extendLockFails _ => true
  | _ => false

/-- markProcessed is answered with false or with an error. -/
def Setup.reportsUnmarked (state : State Worker Handler) (call : Worker) :
    Action Worker → Bool
  | .markAnswered _ =>
      match (state.calls call).phase with
      | .iterating _ (.markingProcessed (some marked)) => !marked
      | _ => false
  | .markFails _ => decide ((state.calls call).marking = some .processed)
  | _ => false

/-- The part of a step of a call that concerns its current event. -/
def Chronicle.next (state following : State Worker Handler) (call : Worker)
    (action : Action Worker) (id : String) (chronicle : Chronicle) : Chronicle :=
  let before := state.calls call
  let after := following.calls call
  let issues mark := decide (before.marking ≠ some mark ∧ after.marking = some mark)
  { settled :=
      if chronicle.settled.isNone && action.isRouteSettles then some before.routeResolved
      else chronicle.settled
    timedOut := chronicle.timedOut || (chronicle.settled.isNone && action.isTimeout)
    lossReported :=
      chronicle.lossReported ||
        (chronicle.settled.isNone && Setup.reportsLoss state call action)
    processedIssued := chronicle.processedIssued + (issues .processed).toNat
    unmarked := chronicle.unmarked || Setup.reportsUnmarked state call action
    failedIssued := chronicle.failedIssued + (issues .failed).toNat
    cleared := chronicle.cleared || (decide (after.current ≠ some id) && !action.isCrash) }

def recordChronicles [DecidableEq Worker] (state : State Worker Handler) (action : Action Worker)
    (following : State Worker Handler) (chronicles : Worker → String → Chronicle) :
    Worker → String → Chronicle := fun call =>
  if action.actor = some call then
    (state.calls call).write
      (fun id => (chronicles call id).next state following call action id) (chronicles call)
  else chronicles call

section Next

variable {setup : Setup Worker Handler} {state following : State Worker Handler} {call : Worker}
  {action : Action Worker} {statement : Option (Statement Worker)}
  {after : CallState Worker Handler} {iteration : Iteration Worker} {stage : Stage Handler}
  {chronicle : Chronicle} {chronicles : String → Chronicle}

/-- A step that concerns nothing that is recorded. -/
theorem Chronicle.next_quiet {id : String} (quiet : action.isRouteSettles = false ∧
      action.isTimeout = false ∧ Setup.reportsLoss state call action = false ∧
      Setup.reportsUnmarked state call action = false)
    (marking : ∀ mark, (following.calls call).marking = some mark →
      (state.calls call).marking = some mark)
    (current : (following.calls call).current = some id ∨ action.isCrash = true) :
    chronicle.next state following call action id = chronicle := by
  obtain ⟨settles, timeout, loss, unmarked⟩ := quiet
  have issues (mark : Mark) :
      ¬((state.calls call).marking ≠ some mark ∧ (following.calls call).marking = some mark) :=
    fun both => both.1 (marking mark both.2)
  have stays :
      (decide ((following.calls call).current ≠ some id) && !action.isCrash) = false := by
    rcases current with same | crash
    · simp [same]
    · simp [crash]
  simp only [next, settles, timeout, loss, unmarked, issues, stays, Bool.and_false,
    Bool.or_false, decide_false, Bool.toNat_false, Nat.add_zero, Bool.false_eq_true, if_false]

/-- A step that stays with its event, and of which nothing is recorded. -/
theorem CallState.Chronicled.quiet {later : Iteration Worker} {next : Stage Handler}
    (chronicled : (state.calls call).Chronicled chronicles) (tidy : (state.calls call).Tidy)
    (phase : (state.calls call).phase = .iterating iteration stage)
    (phase' : (following.calls call).phase = .iterating later next)
    (same : later.event = iteration.event ∧ later.rest = iteration.rest)
    (concerns : action.isRouteSettles = false ∧ action.isTimeout = false ∧
      Setup.reportsLoss state call action = false ∧
      Setup.reportsUnmarked state call action = false)
    (marking : ∀ mark, (following.calls call).marking = some mark →
      (state.calls call).marking = some mark)
    (holds : (chronicles iteration.event.id).At later next) :
    (following.calls call).Chronicled ((state.calls call).write
      (fun id => (chronicles id).next state following call action id) chronicles) := by
  have current := CallState.current_iterating phase'
  rw [same.1] at current
  refine chronicled.stays tidy phase phase' same.1 same.2 ?_
  rw [Chronicle.next_quiet concerns marking (.inl current)]
  exact holds

/-- The heartbeat of a current event is answered. -/
theorem Chronicle.At.extended (holds : chronicle.At iteration stage) (extended : Bool)
    (phase : (state.calls call).phase = .iterating iteration stage)
    (phase' : (following.calls call).phase = .iterating (iteration.extended extended) stage)
    (concerns : action.isRouteSettles = false ∧ action.isTimeout = false ∧
      Setup.reportsUnmarked state call action = false)
    (reported : Setup.reportsLoss state call action = !extended) :
    (chronicle.next state following call action iteration.event.id).At
      (iteration.extended extended) stage := by
  obtain ⟨settles, timeout, unmarked⟩ := concerns
  have current := CallState.current_iterating phase'
  change (following.calls call).current = some iteration.event.id at current
  cases stage with
  | publishing routing =>
      rw [holds]
      simp [Chronicle.At, Chronicle.next, Chronicle.blank, CallState.marking, phase, phase',
        current, settles, timeout, unmarked, reported, Iteration.extended]
  | markingProcessed =>
      rw [holds]
      simp [Chronicle.At, Chronicle.next, Chronicle.blank, CallState.marking, phase, phase',
        current, settles, timeout, unmarked]
  | markingFailed now =>
      have settled : chronicle.settled.isNone = false := by
        rw [← Option.not_isSome, holds.2.1]
        rfl
      have same : chronicle.next state following call action iteration.event.id = chronicle := by
        simp [Chronicle.next, CallState.marking, phase, phase', current, settles, timeout,
          unmarked, settled]
      rw [same]
      exact holds

/-- A mark statement that was answered leaves a chronicle whose heartbeat is cleared. -/
theorem Chronicle.Handled.answered (handled : chronicle.Handled)
    (settled : chronicle.settled.isSome = true) {id : String}
    (quiet : action.isRouteSettles = false ∧ Setup.reportsUnmarked state call action = false)
    (marking : (following.calls call).marking = none)
    (left : (following.calls call).current ≠ some id) (survives : action.isCrash = false) :
    (chronicle.next state following call action id).Handled := by
  have unsettled : chronicle.settled.isNone = false := by
    rw [← Option.not_isSome, settled]
    rfl
  have same : chronicle.next state following call action id =
      { chronicle with cleared := true } := by
    simp [next, unsettled, quiet.2, marking, left, survives]
  rw [same]
  exact handled.clear settled

section Settle

variable {routing : Routing Handler}
  (phase : (state.calls call).phase = .iterating iteration (.publishing routing))
  (concerns : action.isRouteSettles = true ∧ action.isTimeout = false ∧
    Setup.reportsLoss state call action = false ∧
    Setup.reportsUnmarked state call action = false)
include phase concerns

/-- The route call settles, and markFailed is issued at once. -/
theorem Chronicle.At.settlesBadly {now : Nat}
    (holds : chronicle.At iteration (.publishing routing))
    (phase' : (following.calls call).phase = .iterating iteration (.markingFailed now none))
    (unfit : ¬((state.calls call).routeResolved = true ∧ iteration.handlerTimedOut = false ∧
      iteration.ownershipLost = false)) :
    (chronicle.next state following call action iteration.event.id).At iteration
      (.markingFailed now none : Stage Handler) := by
  obtain ⟨settles, timeout, loss, unmarked⟩ := concerns
  have written : chronicle.next state following call action iteration.event.id =
      { Chronicle.blank with
        settled := some (state.calls call).routeResolved
        timedOut := iteration.handlerTimedOut
        lossReported := iteration.ownershipLost
        failedIssued := 1 } := by
    rw [holds]
    simp [Chronicle.next, Chronicle.blank, CallState.marking, CallState.current, phase, phase',
      settles, timeout, loss, unmarked]
  rw [written]
  exact at_markingFailed unfit

theorem Chronicle.At.settlesWell (holds : chronicle.At iteration (.publishing routing))
    (phase' : (following.calls call).phase = .iterating iteration (.markingProcessed none))
    (resolved : (state.calls call).routeResolved = true)
    (fit : iteration.handlerTimedOut = false ∧ iteration.ownershipLost = false) :
    (chronicle.next state following call action iteration.event.id).At iteration
      (.markingProcessed none : Stage Handler) := by
  obtain ⟨settles, timeout, loss, unmarked⟩ := concerns
  rw [holds]
  simp [Chronicle.At, Chronicle.next, Chronicle.blank, CallState.marking, CallState.current, phase,
    phase', settles, timeout, loss, unmarked, resolved, fit]

end Settle

/-- markProcessed was not answered with success, and markFailed is issued. -/
theorem Chronicle.At.unmarked {next : Iteration Worker} {now : Nat} {reply : Option Bool}
    (holds : chronicle.At iteration (.markingProcessed reply : Stage Handler))
    (phase : (state.calls call).phase = .iterating iteration (.markingProcessed reply))
    (phase' : (following.calls call).phase = .iterating iteration (.markingFailed now none))
    (reported : Setup.reportsUnmarked state call action = true) :
    (chronicle.next state following call action iteration.event.id).At next
      (.markingFailed now none : Stage Handler) := by
  have written : chronicle.next state following call action iteration.event.id =
      { Chronicle.blank with
        settled := some true
        processedIssued := 1
        unmarked := true
        failedIssued := 1 } := by
    rw [holds]
    simp [Chronicle.next, Chronicle.blank, CallState.marking, CallState.current, phase, phase',
      reported]
  rw [written]
  exact at_unmarked

theorem Setup.chronicled_routes {resolved : List Handler}
    (phase : (state.calls call).phase =
      .iterating iteration (.publishing (.awaiting [] resolved)))
    (reached : following.calls call =
      (state.calls call).goto (.iterating iteration (setup.afterRoute state call iteration)))
    (tidy : (state.calls call).Tidy) (chronicled : (state.calls call).Chronicled chronicles) :
    ((state.calls call).goto
        (.iterating iteration (setup.afterRoute state call iteration))).Chronicled
      ((state.calls call).write
        (fun id => (chronicles id).next state following call (.routeSettles call) id)
        chronicles) := by
  have known := chronicled
  unfold CallState.Chronicled at known
  rw [phase] at known
  refine chronicled.stays tidy phase rfl rfl rfl ?_
  cases bad : iteration.handlerTimedOut || iteration.ownershipLost with
  | true =>
      have stage : setup.afterRoute state call iteration =
          .markingFailed (setup.clock call state.now) none := by
        rw [afterRoute, bad, if_pos rfl]
      rw [stage] at reached ⊢
      apply known.1.settlesBadly phase ⟨rfl, rfl, rfl, rfl⟩ (by rw [reached]; rfl)
      intro found
      obtain ⟨_, timedOut, lost⟩ := found
      rw [timedOut, lost] at bad
      cases bad
  | false =>
      have stage : setup.afterRoute state call iteration = .markingProcessed none := by
        rw [afterRoute, bad]
        rfl
      rw [stage] at reached ⊢
      apply known.1.settlesWell phase ⟨rfl, rfl, rfl, rfl⟩ (by rw [reached]; rfl)
      · rw [CallState.routeResolved, phase]
      · exact Bool.or_eq_false_iff.mp bad

variable [DecidableEq Worker]

theorem Setup.Act.chronicled (act : setup.Act state call (state.calls call) action statement after)
    (reached : following.calls call = after) (tidy : (state.calls call).Tidy)
    (chronicled : (state.calls call).Chronicled chronicles) :
    after.Chronicled ((state.calls call).write
      (fun id => (chronicles id).next state following call action id) chronicles) := by
  have known := chronicled
  unfold CallState.Chronicled at known
  cases act with
  | starts phase =>
      rw [phase] at known
      rw [CallState.write_idle (by rw [CallState.current, phase])]
      exact known
  | claims scan phase =>
      rw [phase] at known
      rw [CallState.write_idle (by rw [CallState.current, phase])]
      exact known
  | claimAnswered phase =>
      rw [phase] at known
      rw [CallState.write_idle (by rw [CallState.current, phase])]
      exact setup.chronicled_nextEvent _ _ _ chronicled.handled fun event _ => known event.id
  | claimFails phase =>
      rw [CallState.write_idle (by rw [CallState.current, phase])]
      exact chronicled.handled
  | crashes idle =>
      have none : (state.calls call).current = none := by
        unfold CallState.current
        split
        · exact absurd ‹_› (idle _ _)
        · rfl
      rw [CallState.write_idle none]
      exact chronicled.handled
  | @beats iteration stage phase | @renews iteration stage _ phase =>
      rw [phase] at known
      rw [← reached]
      apply chronicled.quiet tidy phase (congrArg CallState.phase reached) ⟨rfl, rfl⟩
        ⟨rfl, rfl, rfl, rfl⟩
      · rw [reached]
        unfold CallState.marking
        rw [phase]
        cases stage <;> exact fun _ same => same
      · cases stage <;> exact known.1
  | @extendAnswered iteration stage extended phase executed =>
      rw [phase] at known
      refine chronicled.stays tidy phase rfl rfl rfl ?_
      refine known.1.extended extended phase (by rw [reached]; rfl) ⟨rfl, rfl, rfl⟩ ?_
      simp only [Setup.reportsLoss, phase, executed]
      cases extended <;> rfl
  | extendFails phase inProgress =>
      rw [phase] at known
      refine chronicled.stays tidy phase rfl rfl rfl ?_
      exact known.1.extended false phase (by rw [reached]; rfl) ⟨rfl, rfl, rfl⟩ rfl
  | extendsLate late =>
      rw [CallState.write_same]
      · exact chronicled
      · intro id current
        apply Chronicle.next_quiet ⟨rfl, rfl, rfl, rfl⟩
        · rw [reached]
          exact fun _ same => same
        · rw [reached]
          exact .inl current
  | timesOut phase enabled due =>
      rw [phase] at known
      refine chronicled.stays tidy phase rfl rfl rfl ?_
      rw [known.1]
      simp [Chronicle.At, Chronicle.next, Chronicle.blank, CallState.marking, CallState.current,
        CallState.goto, reached, phase, Action.isRouteSettles, Action.isTimeout,
        Setup.reportsLoss, Setup.reportsUnmarked]
  | resolves phase | rejects phase =>
      rw [phase] at known
      rw [← reached]
      apply chronicled.quiet tidy phase (congrArg CallState.phase reached) ⟨rfl, rfl⟩
        ⟨rfl, rfl, rfl, rfl⟩
      · rw [reached]
        intro _ impossible
        cases impossible
      · exact known.1
  | routeRejects phase =>
      rw [phase] at known
      refine chronicled.stays tidy phase rfl rfl rfl ?_
      apply known.1.settlesBadly phase ⟨rfl, rfl, rfl, rfl⟩ (by rw [reached]; rfl)
      rw [CallState.routeResolved, phase]
      intro found
      obtain ⟨impossible, _⟩ := found
      cases impossible
  | marksProcessed phase | marksFailed phase =>
      rw [phase] at known
      rw [← reached]
      apply chronicled.quiet tidy phase (congrArg CallState.phase reached) ⟨rfl, rfl⟩
        ⟨rfl, rfl, rfl, rfl⟩
      · rw [reached]
        unfold CallState.marking
        rw [phase]
        exact fun _ same => same
      · exact known.1
  | processed phase =>
      rw [phase] at known
      refine chronicled.finish setup _ _ tidy phase ?_
      obtain ⟨answered, left⟩ := tidy.left setup state.now
        { (state.calls call).result with
          processed := (state.calls call).result.processed + 1 } phase
      refine Chronicle.Handled.answered (chronicled.handled _) (by rw [known.1]; rfl) ⟨rfl, ?_⟩
        (reached ▸ answered) (reached ▸ left) rfl
      simp only [Setup.reportsUnmarked, phase]
      rfl
  | unmatched phase =>
      rw [phase] at known
      refine chronicled.stays tidy phase rfl rfl rfl ?_
      apply known.1.unmarked phase (by rw [reached]; rfl)
      simp only [Setup.reportsUnmarked, phase]
      rfl
  | failed phase =>
      rw [phase] at known
      refine chronicled.finish setup _ _ tidy phase ?_
      obtain ⟨answered, left⟩ := tidy.left setup state.now _ phase
      refine Chronicle.Handled.answered (chronicled.handled _) known.1.2.1 ⟨rfl, ?_⟩
        (reached ▸ answered) (reached ▸ left) rfl
      simp only [Setup.reportsUnmarked, phase]
  | markProcessedFails phase =>
      rw [phase] at known
      refine chronicled.stays tidy phase rfl rfl rfl ?_
      apply known.1.unmarked phase (by rw [reached]; rfl)
      simp only [Setup.reportsUnmarked, CallState.marking, phase, decide_true]
  | markFailedFails phase =>
      rw [phase] at known
      apply chronicled.handled_write phase
      refine Chronicle.Handled.answered (chronicled.handled _) known.1.2.1 ⟨rfl, ?_⟩
        (by rw [reached]; rfl) (by rw [reached]; intro impossible; cases impossible) rfl
      simp only [Setup.reportsUnmarked, CallState.marking, phase]
      rfl
  | crashesInside phase =>
      rw [CallState.write_same]
      · exact chronicled.handled
      · intro id current
        apply Chronicle.next_quiet ⟨rfl, rfl, rfl, rfl⟩
        · rw [reached]
          intro _ impossible
          cases impossible
        · exact .inr rfl

end Next

variable [DecidableEq Worker]

/-- The outbox with the chronicles of its calls. -/
def Setup.chronicling (setup : Setup Worker Handler) :
    System (State Worker Handler × (Worker → String → Chronicle)) (Action Worker) :=
  setup.system.recording recordChronicles fun _ _ => Chronicle.blank

def State.Chronicled (state : State Worker Handler)
    (chronicles : Worker → String → Chronicle) : Prop :=
  ∀ call, (state.calls call).Chronicled (chronicles call)

theorem State.Chronicled.step {setup : Setup Worker Handler}
    {state following : State Worker Handler} {action : Action Worker}
    {chronicles : Worker → String → Chronicle} (chronicled : state.Chronicled chronicles)
    (tidy : state.AllTidy) (stepped : setup.Stepped state action following) :
    following.Chronicled (recordChronicles state action following chronicles) := by
  intro call
  unfold recordChronicles
  cases stepped with
  | advances | appends => exact chronicled call
  | acts actor act =>
      rw [act.actor]
      by_cases same : actor = call
      · subst same
        rw [if_pos rfl, State.update_calls_self]
        exact act.chronicled (State.update_calls_self _ _ _) (tidy actor) (chronicled actor)
      · rw [if_neg fun equal => same (Option.some.inj equal),
          State.update_calls_other _ _ (Ne.symm same), Setup.executeOption_calls]
        exact chronicled call
  | routes actor phase =>
      change CallState.Chronicled _ (if some actor = some call then _ else _)
      by_cases same : actor = call
      · subst same
        rw [if_pos rfl, State.update_calls_self]
        exact setup.chronicled_routes phase (State.update_calls_self _ _ _) (tidy actor)
          (chronicled actor)
      · rw [if_neg fun equal => same (Option.some.inj equal),
          State.update_calls_other _ _ (Ne.symm same)]
        exact chronicled call

theorem Setup.chronicled_of_reachable (setup : Setup Worker Handler)
    {allowed : State Worker Handler → Action Worker → Prop}
    {recorded : State Worker Handler × (Worker → String → Chronicle)}
    (reached : setup.chronicling.Reachable (fun recorded => allowed recorded.1) recorded) :
    recorded.1.Chronicled recorded.2 := by
  have established : ∀ state, setup.system.Reachable allowed state → state.AllTidy :=
    fun _ reached => setup.allTidy_of_reachable reached
  apply System.Reachable.history State.Chronicled established _ _ reached
  · intro start initial call
    obtain ⟨_, calls, _⟩ := initial
    rw [calls]
    exact fun _ => rfl
  · intro state chronicles action following tidy chronicled _ stepped
    exact chronicled.step tidy (setup.stepped stepped)

end BackendFoundation.Outbox
