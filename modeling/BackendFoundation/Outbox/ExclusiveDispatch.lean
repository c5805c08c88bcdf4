/-
Two workers inside route for one event.

The lease is taken once for the whole batch and renewed for the event that is being published
only, so the lease on the next event may have run out, and may be another worker's, when its
turn comes. And a tick of the heartbeat is skipped as long as the extendLock before it has not
been answered. Dispatch is exclusive in every run in which each event is begun under a lease,
and the lease outlives the time in which the heartbeat cannot renew it.
-/

import BackendFoundation.Outbox.Batches
import BackendFoundation.Transition.History
import Mathlib.Data.Fintype.Sets

namespace BackendFoundation.Outbox

open Transition Database

variable {Worker Handler : Type}

def State.ExclusiveDispatch (state : State Worker Handler) : Prop :=
  ∀ first second id, (state.calls first).insideRoute = some id →
    (state.calls second).insideRoute = some id → first = second

def CallState.nextHeartbeat (call : CallState Worker Handler) : Option Nat :=
  match call.phase with
  | .iterating iteration _ => some iteration.nextHeartbeat
  | _ => none

/-- No worker crashes, every heartbeat timer fires on schedule and no extendLock fails. -/
def State.Scheduled (state : State Worker Handler) : Action Worker → Prop
  | .crash _ | .extendLockFails _ => False
  | .advance milliseconds =>
      ∀ call, ∀ beat ∈ (state.calls call).nextHeartbeat, state.now + milliseconds ≤ beat
  | _ => True

/-- An extendLock has been issued and not been answered. -/
def CallState.renewing (call : CallState Worker Handler) : Bool :=
  match call.phase with
  | .iterating iteration _ => decide (iteration.heartbeat ≠ .idle)
  | _ => false

/-- The event that a call begins to publish when the reply to its statement arrives. -/
def CallState.nextPublished (call : CallState Worker Handler) : Option (OutboxRow Worker) :=
  match call.phase with
  | .claiming _ (some rows) => rows.head?
  | .iterating iteration stage => if stage.finished then iteration.rest.head? else none
  | _ => none

/-- Whether the last tick of the heartbeat of a call was skipped, or there was none since the
call has begun with its event. -/
def Action.skips (before : CallState Worker Handler) (skipped : Bool) : Action Worker → Bool
  | .heartbeatTimer _ => before.renewing
  | .claimAnswered _ | .markAnswered _ => true
  | _ => skipped

/-- The timers of an iteration, seen from the lease taken at the given time. Unless its last
tick was skipped, the lease is as young as that tick, or its renewal is on its way. -/
structure Setup.Beating (setup : Setup Worker Handler) (now lockedAt : Nat) (skipped : Bool)
    (iteration : Iteration Worker) : Prop where
  unexpired : now ≤ lockedAt + setup.options.lockTtlMs
  scheduled : now ≤ iteration.nextHeartbeat
  kept : iteration.ownershipLost = false
  renewal :
    match iteration.heartbeat with
    | .sent date => lockedAt ≤ date ∧
        (skipped = false → iteration.nextHeartbeat ≤ date + setup.options.heartbeatIntervalMs)
    | .idle => skipped = false →
        iteration.nextHeartbeat ≤ lockedAt + setup.options.heartbeatIntervalMs
    | .executed extended => extended = true ∧ (skipped = false →
        iteration.nextHeartbeat ≤ lockedAt + setup.options.heartbeatIntervalMs)

/-- With one clock, no date is in the future. -/
structure State.Timely (state : State Worker Handler) : Prop where
  locks : ∀ row ∈ state.events.rows, ∀ lockedAt, row.lockedAt = some lockedAt →
    lockedAt ≤ state.now
  extensions : ∀ call, ∀ extension ∈ (state.calls call).extensions, extension.2 ≤ state.now

theorem Setup.CallsSound.date_le {setup : Setup Worker Handler} {state : State Worker Handler}
    (sound : setup.CallsSound state) (shared : ∀ worker now, setup.clock worker now = now)
    {call : Worker} {date : Nat} {reply : Option (List (OutboxRow Worker))}
    (phase : (state.calls call).phase = .claiming date reply) : date ≤ state.now := by
  have known := sound call
  rw [CallSound, phase, shared] at known
  exact known.2

theorem Setup.nextEvent_publishing {setup : Setup Worker Handler} {now : Nat}
    {events : List (OutboxRow Worker)} {iteration : Iteration Worker} {routing : Routing Handler}
    (inside : setup.nextEvent now events = .iterating iteration (.publishing routing)) :
    ∃ event rest, events = event :: rest ∧ iteration = setup.iteration now event rest := by
  cases events with
  | nil => cases inside
  | cons event rest =>
      cases inside
      exact ⟨event, rest, rfl, rfl⟩

section Beating

variable {setup : Setup Worker Handler} {now lockedAt : Nat} {skipped : Bool}
  {iteration : Iteration Worker}

theorem Setup.Beating.begins (setup : Setup Worker Handler) {now lockedAt : Nat}
    (event : OutboxRow Worker) (rest : List (OutboxRow Worker))
    (leased : now ≤ lockedAt + setup.options.lockTtlMs) :
    setup.Beating now lockedAt true (setup.iteration now event rest) :=
  { unexpired := leased
    scheduled := Nat.le_add_right _ _
    kept := rfl
    renewal := nofun }

/-- Time passes up to the next tick. Where the heartbeat may leave the lease to itself, the lease
is long enough by assumption. -/
theorem Setup.Beating.advances (beating : setup.Beating now lockedAt skipped iteration)
    (frequent : setup.options.heartbeatIntervalMs ≤ setup.options.lockTtlMs)
    {milliseconds : Nat} (onTime : now + milliseconds ≤ iteration.nextHeartbeat)
    (leased : iteration.heartbeat ≠ .idle ∨ skipped = true →
      now + milliseconds ≤ lockedAt + setup.options.lockTtlMs) :
    setup.Beating (now + milliseconds) lockedAt skipped iteration := by
  refine
    { beating with
      unexpired := ?_
      scheduled := onTime }
  by_cases exposed : iteration.heartbeat ≠ .idle ∨ skipped = true
  · exact leased exposed
  · obtain ⟨idle, ticked⟩ := not_or.mp exposed
    have renewal := beating.renewal
    rw [not_ne_iff.mp idle] at renewal
    have young := renewal (Bool.eq_false_iff.mpr ticked)
    omega

/-- A tick sends the renewal, or is skipped. -/
theorem Setup.Beating.beats (beating : setup.Beating now lockedAt skipped iteration)
    (past : lockedAt ≤ now) :
    setup.Beating now lockedAt (decide (iteration.heartbeat ≠ .idle))
      (iteration.beat setup.options now now) := by
  constructor
  · exact beating.unexpired
  · exact Nat.le_add_right _ _
  · exact beating.kept
  · have renewal := beating.renewal
    unfold Iteration.beat
    cases heartbeat : iteration.heartbeat with
    | idle =>
        simp only [beating.kept, ne_eq, not_true_eq_false, Bool.false_eq_true, or_self,
          if_false]
        exact ⟨past, fun _ => Nat.le_refl _⟩
    | sent date =>
        rw [heartbeat] at renewal
        simp only [ne_eq, reduceCtorEq, not_false_eq_true, true_or, if_true]
        exact ⟨renewal.1, nofun⟩
    | executed extended =>
        rw [heartbeat] at renewal
        simp only [ne_eq, reduceCtorEq, not_false_eq_true, true_or, if_true]
        exact ⟨renewal.1, nofun⟩

theorem Setup.Beating.renewed (beating : setup.Beating now lockedAt skipped iteration)
    {date : Nat} (sent : iteration.heartbeat = .sent date) :
    setup.Beating now date skipped { iteration with heartbeat := .executed true } := by
  have renewal := beating.renewal
  rw [sent] at renewal
  have unexpired := beating.unexpired
  exact
    { unexpired := by omega
      scheduled := beating.scheduled
      kept := beating.kept
      renewal := ⟨rfl, renewal.2⟩ }

theorem Setup.Beating.answered (beating : setup.Beating now lockedAt skipped iteration)
    {extended : Bool} (executed : iteration.heartbeat = .executed extended) :
    setup.Beating now lockedAt skipped (iteration.extended extended) := by
  have renewal := beating.renewal
  rw [executed] at renewal
  obtain ⟨rfl, young⟩ := renewal
  exact
    { unexpired := beating.unexpired
      scheduled := beating.scheduled
      kept := by simp [Iteration.extended, beating.kept]
      renewal := young }

end Beating

variable [DecidableEq Worker] {action : Action Worker}

def recordSkipped (state : State Worker Handler) (action : Action Worker)
    (_ : State Worker Handler) (skipped : Worker → Bool) : Worker → Bool := fun call =>
  if action.actor = some call then action.skips (state.calls call) (skipped call)
  else skipped call

/-- The outbox with the ticks that its heartbeats have skipped. -/
def Setup.ticking (setup : Setup Worker Handler) :
    System (State Worker Handler × (Worker → Bool)) (Action Worker) :=
  setup.system.recording recordSkipped fun _ => false

/-- The call holds a lease on the event that does not run out before the given time. -/
def Setup.Lease (setup : Setup Worker Handler) (state : State Worker Handler) (call : Worker)
    (id : String) (date : Nat) : Prop :=
  ∃ row ∈ state.events.rows, owned id call row = true ∧
    ∃ lockedAt ∈ row.lockedAt, date ≤ lockedAt + setup.options.lockTtlMs

/-- A call begins to publish an event under its lease. And the lease is not outlived before the
first tick of the heartbeat, while an extendLock has not been answered, and from a tick that
was skipped to the next. -/
def Setup.Leased (setup : Setup Worker Handler)
    (recorded : State Worker Handler × (Worker → Bool)) : Action Worker → Prop
  | .advance milliseconds =>
      ∀ call, (recorded.1.calls call).renewing = true ∨ recorded.2 call = true →
        ∀ id ∈ (recorded.1.calls call).insideRoute,
          setup.Lease recorded.1 call id (recorded.1.now + milliseconds)
  | .claimAnswered call | .markAnswered call =>
      ∀ event ∈ (recorded.1.calls call).nextPublished,
        setup.Lease recorded.1 call event.id recorded.1.now
  | _ => True

instance [Fintype Worker] (state : State Worker Handler) (action : Action Worker) :
    Decidable (state.Scheduled action) :=
  match action with
  | .crash _ | .extendLockFails _ => inferInstanceAs (Decidable False)
  | .advance milliseconds =>
      inferInstanceAs (Decidable (∀ call, ∀ beat ∈ (state.calls call).nextHeartbeat,
        state.now + milliseconds ≤ beat))
  | .append _ _ _ _ _ | .start _ | .claim _ _ | .claimAnswered _ | .claimFails _
  | .heartbeatTimer _ | .extendLock _ | .extendLockAnswered _ | .lateExtendLock _ _ _
  | .timeout _ | .handlerResolves _ | .handlerRejects _ | .routeSettles _ | .mark _
  | .markAnswered _ | .markFails _ =>
      inferInstanceAs (Decidable True)

instance (setup : Setup Worker Handler) (state : State Worker Handler) (call : Worker)
    (id : String) (date : Nat) : Decidable (setup.Lease state call id date) :=
  inferInstanceAs (Decidable (∃ row ∈ state.events.rows, owned id call row = true ∧
    ∃ lockedAt ∈ row.lockedAt, date ≤ lockedAt + setup.options.lockTtlMs))

instance [Fintype Worker] (setup : Setup Worker Handler)
    (recorded : State Worker Handler × (Worker → Bool)) (action : Action Worker) :
    Decidable (setup.Leased recorded action) :=
  match action with
  | .advance milliseconds =>
      inferInstanceAs (Decidable (∀ call,
        (recorded.1.calls call).renewing = true ∨ recorded.2 call = true →
          ∀ id ∈ (recorded.1.calls call).insideRoute,
            setup.Lease recorded.1 call id (recorded.1.now + milliseconds)))
  | .claimAnswered call | .markAnswered call =>
      inferInstanceAs (Decidable (∀ event ∈ (recorded.1.calls call).nextPublished,
        setup.Lease recorded.1 call event.id recorded.1.now))
  | .append _ _ _ _ _ | .start _ | .claim _ _ | .claimFails _ | .heartbeatTimer _
  | .extendLock _ | .extendLockAnswered _ | .extendLockFails _ | .lateExtendLock _ _ _
  | .timeout _ | .handlerResolves _ | .handlerRejects _ | .routeSettles _ | .mark _
  | .markFails _ | .crash _ =>
      inferInstanceAs (Decidable True)

/-- The call is the owner of the event it publishes, with its heartbeat going. -/
def Setup.Covered (setup : Setup Worker Handler) (state : State Worker Handler) (skipped : Bool)
    (call : Worker) (iteration : Iteration Worker) : Prop :=
  ∃ row ∈ state.events.rows, owned iteration.event.id call row = true ∧
    ∃ lockedAt, row.lockedAt = some lockedAt ∧
      setup.Beating state.now lockedAt skipped iteration

theorem Setup.timely_of_reachable (setup : Setup Worker Handler)
    (shared : ∀ worker now, setup.clock worker now = now)
    {allowed : State Worker Handler → Action Worker → Prop} {state : State Worker Handler}
    (reached : setup.system.Reachable allowed state) : state.Timely := by
  have known : ∀ before, setup.system.Reachable allowed before → setup.CallsSound before :=
    fun _ reached => setup.callsSound_of_reachable reached
  apply reached.invariant_using known
  · intro start initial
    obtain ⟨events, calls, _, _, _⟩ := initial
    constructor
    · simp [events, Table.empty]
    · simp [calls, CallState.fresh, CallState.extensions]
  · intro before action after sound timely _ stepped
    have move := setup.moved stepped
    constructor
    · intro row member lockedAt locked
      refine Nat.le_trans ?_ move.now_le
      rcases move.row_before member with ⟨before', present, rfl | becomes⟩ | ⟨_, _, none⟩
      · exact timely.locks row present lockedAt locked
      · obtain ⟨call, statement, sends, rewrites⟩ := becomes
        cases rewrites with
        | kept => exact timely.locks row present lockedAt locked
        | claimed scan selected =>
            cases locked
            cases sends with
            | claimPendingBatch _ phase => exact sound.date_le shared phase
        | extended date held =>
            cases locked
            exact timely.extensions call _ sends.extension
        | processed | failed => cases locked
      · rw [none] at locked
        cases locked
    · intro call extension inFlight
      refine Nat.le_trans ?_ move.now_le
      rcases move.extensions inFlight with old | ⟨_, _, _, rfl⟩
      · exact timely.extensions call extension old
      · exact Nat.le_of_eq (shared _ _)

section Covered

variable {setup : Setup Worker Handler} {state following : State Worker Handler}

/-- Nobody else can take a row under an unexpired lease. -/
theorem Setup.untouched_by_other (sound : setup.CallsSound state)
    (shared : ∀ worker now, setup.clock worker now = now) {call actor : Worker} {id : String}
    {row after : OutboxRow Worker} {lockedAt : Nat} {statement : Statement Worker}
    (different : call ≠ actor) (owner : owned id call row = true)
    (locked : row.lockedAt = some lockedAt)
    (unexpired : state.now ≤ lockedAt + setup.options.lockTtlMs)
    (sends : (state.calls actor).Sends statement)
    (rewrites : statement.Rewrites setup.options actor row after) : after = row := by
  have ⟨_, status, lockedBy⟩ := owned_iff.mp owner
  have foreign : ∀ other, owned other actor row = true → False := by
    intro other owner'
    exact different (Option.some.inj (lockedBy.symm.trans (owned_iff.mp owner').2.2))
  cases rewrites with
  | kept => rfl
  | claimed scan selected =>
      cases sends with
      | claimPendingBatch _ phase =>
          have past := sound.date_le shared phase
          rcases (claimable_iff.mp selected).2.2 with pending | ⟨_, expired⟩
          · exact absurd (status.symm.trans pending) nofun
          · have old := expired lockedAt locked
            omega
  | extended _ held | processed held | failed _ held => exact (foreign _ held).elim

/-- The statements about one event leave the rows of the others alone. -/
theorem Statement.Rewrites.other_event {options : OutboxProcessorOptions} {call : Worker}
    {statement : Statement Worker} {row after : OutboxRow Worker}
    (rewrites : statement.Rewrites options call row after)
    (other : match statement with
      | .claimPendingBatch _ _ => False
      | .extendLock _ id | .markProcessed id => row.id ≠ id
      | .markFailed _ event => row.id ≠ event.id) : after = row := by
  cases rewrites with
  | kept => rfl
  | claimed => exact other.elim
  | extended _ held | processed held | failed _ held =>
      exact absurd (owned_iff.mp held).1 other

/-- Every call inside route owns its event under a lease that is being renewed. -/
def Setup.AllCovered (setup : Setup Worker Handler) (state : State Worker Handler)
    (skipped : Worker → Bool) : Prop :=
  ∀ call iteration routing,
    (state.calls call).phase = .iterating iteration (.publishing routing) →
    setup.Covered state (skipped call) call iteration

/-- A call begins with an event under the lease that the condition asks for. -/
theorem Setup.covered_next {call : Worker} {event : OutboxRow Worker}
    (rest : List (OutboxRow Worker)) (lease : setup.Lease state call event.id state.now) :
    setup.Covered state true call (setup.iteration state.now event rest) := by
  obtain ⟨row, member, owner, lockedAt, locked, enough⟩ := lease
  exact ⟨row, member, owner, lockedAt, locked, .begins setup event rest enough⟩

/-- A covered call that stays with its event and its timers is covered. -/
theorem Setup.Covered.keep {call : Worker} {skipped skipped' : Bool}
    {before after : Iteration Worker} (covered : setup.Covered state skipped call before)
    (event : after.event = before.event)
    (beating : ∀ lockedAt, lockedAt ≤ state.now →
      setup.Beating state.now lockedAt skipped before →
        setup.Beating state.now lockedAt skipped' after)
    (timely : state.Timely) : setup.Covered state skipped' call after := by
  obtain ⟨row, member, owner, lockedAt, locked, beats⟩ := covered
  refine ⟨row, member, by rw [event]; exact owner, lockedAt, locked, beating lockedAt ?_ beats⟩
  exact timely.locks row member lockedAt locked

theorem Setup.Covered.renewed {call : Worker} {skipped : Bool} {iteration : Iteration Worker}
    {date : Nat} (covered : setup.Covered state skipped call iteration)
    (sent : iteration.heartbeat = .sent date) :
    setup.Covered (setup.execute state call (.extendLock date iteration.event.id)) skipped call
      { iteration with
        heartbeat :=
          .executed (extendLock state.events date iteration.event.id call).2 } := by
  obtain ⟨row, member, owner, lockedAt, locked, beats⟩ := covered
  have extended : (extendLock state.events date iteration.event.id call).2 = true :=
    (updateOwned_changes_iff _ _ _ _).mpr ⟨row, member, owner⟩
  rw [extended]
  exact ⟨(extendAssignment date).set row, Table.mem_update.mpr ⟨row, member, if_pos owner⟩,
    owner, date, rfl, beats.renewed sent⟩

theorem Setup.Act.covered {call : Worker} {after : CallState Worker Handler}
    {statement : Option (Statement Worker)} {skipped : Worker → Bool}
    (act : setup.Act state call (state.calls call) action statement after)
    (shared : ∀ worker now, setup.clock worker now = now) (timely : state.Timely)
    (tidy : (state.calls call).Tidy) (covered : setup.AllCovered state skipped)
    (scheduled : state.Scheduled action) (leased : setup.Leased (state, skipped) action)
    {iteration : Iteration Worker} {routing : Routing Handler}
    (inside : after.phase = .iterating iteration (.publishing routing)) :
    setup.Covered (setup.executeOption state call statement)
      (action.skips (state.calls call) (skipped call)) call iteration := by
  cases act with
  | starts | claims | claimFails | routeRejects | marksProcessed | marksFailed | unmatched
  | markProcessedFails | markFailedFails | crashes | crashesInside => cases inside
  | extendFails => exact scheduled.elim
  | claimAnswered phase =>
      obtain ⟨event, rest, claimed, rfl⟩ := Setup.nextEvent_publishing inside
      apply Setup.covered_next rest
      exact leased event (by simp [CallState.nextPublished, phase, claimed])
  | processed phase | failed phase =>
      obtain ⟨event, rest, next, rfl⟩ := Setup.nextEvent_publishing inside
      apply Setup.covered_next rest
      exact leased event (by simp [CallState.nextPublished, phase, Stage.finished, next])
  | beats phase due =>
      cases inside
      refine (covered call _ _ phase).keep rfl ?_ timely
      intro lockedAt past beats
      rw [shared]
      simp only [Action.skips, CallState.renewing, phase]
      exact beats.beats past
  | renews phase sent =>
      cases inside
      exact (covered call _ _ phase).renewed sent
  | extendAnswered phase executed =>
      cases inside
      exact (covered call _ _ phase).keep rfl (fun _ _ beats => beats.answered executed) timely
  | timesOut phase =>
      cases inside
      exact (covered call _ _ phase).keep rfl (fun _ _ beats => { beats with }) timely
  | resolves phase | rejects phase =>
      cases inside
      exact covered call _ _ phase
  | extendsLate late =>
      obtain ⟨row, member, owner, found⟩ := covered call _ _ inside
      refine ⟨row, setup.row_kept member ?_, owner, found⟩
      intro after rewrites
      apply rewrites.other_event
      intro same
      apply tidy.2 _ late
      change (state.calls call).phase = _ at inside
      simp only [CallState.held, inside, List.map_cons]
      rw [← same, (owned_iff.mp owner).1]
      exact List.mem_cons_self

/-- What the other calls do leaves a covered call covered. -/
theorem Setup.Covered.elsewhere {call actor : Worker} {skipped : Bool}
    {iteration : Iteration Worker} {after : CallState Worker Handler}
    {statement : Option (Statement Worker)}
    (covered : setup.Covered state skipped call iteration) (sound : setup.CallsSound state)
    (shared : ∀ worker now, setup.clock worker now = now) (different : call ≠ actor)
    (turn : setup.Turn state actor (state.calls actor) action statement after) :
    setup.Covered (setup.executeOption state actor statement) skipped call iteration := by
  cases statement with
  | none => exact covered
  | some statement =>
      obtain ⟨row, member, owner, lockedAt, locked, beats⟩ := covered
      refine ⟨row, setup.row_kept member ?_, owner, lockedAt, locked, ?_⟩
      · intro after rewrites
        exact Setup.untouched_by_other sound shared different owner locked beats.unexpired
          turn.sends rewrites
      · rw [setup.executeOption_now state actor (some statement)]
        exact beats

/-- Time passes under the lease of every published event. -/
theorem Setup.AllCovered.advances {skipped : Worker → Bool} {milliseconds : Nat}
    (covered : setup.AllCovered state skipped)
    (frequent : setup.options.heartbeatIntervalMs ≤ setup.options.lockTtlMs)
    (scheduled : state.Scheduled (.advance milliseconds))
    (leased : setup.Leased (state, skipped) (.advance milliseconds)) :
    setup.AllCovered { state with now := state.now + milliseconds } skipped := by
  intro call iteration routing inside
  change (state.calls call).phase = _ at inside
  obtain ⟨row, member, owner, lockedAt, locked, beats⟩ := covered call iteration routing inside
  refine ⟨row, member, owner, lockedAt, locked, beats.advances frequent ?_ ?_⟩
  · exact scheduled call _ (by simp [CallState.nextHeartbeat, inside])
  · intro exposed
    have renewing : (state.calls call).renewing = true ∨ skipped call = true := by
      apply exposed.imp_left
      intro busy
      simp only [CallState.renewing, inside]
      exact decide_eq_true busy
    obtain ⟨row', member', owner', lockedAt', locked', enough⟩ :=
      leased call renewing iteration.event.id (by simp [CallState.insideRoute, inside])
    have same := state.events.unique member member'
      ((owned_iff.mp owner).1.trans (owned_iff.mp owner').1.symm)
    subst same
    cases locked.symm.trans locked'
    exact enough

theorem Setup.AllCovered.step {skipped : Worker → Bool}
    (covered : setup.AllCovered state skipped)
    (shared : ∀ worker now, setup.clock worker now = now)
    (frequent : setup.options.heartbeatIntervalMs ≤ setup.options.lockTtlMs)
    (sound : setup.CallsSound state) (timely : state.Timely) (tidy : state.AllTidy)
    (scheduled : state.Scheduled action) (leased : setup.Leased (state, skipped) action)
    (stepped : setup.Stepped state action following) :
    setup.AllCovered following (recordSkipped state action following skipped) := by
  cases stepped with
  | advances => exact covered.advances frequent scheduled leased
  | appends stored =>
      intro call iteration routing inside
      obtain ⟨row, member, found⟩ := covered call iteration routing inside
      exact ⟨row, (Table.mem_insert stored row).mpr (.inr member), found⟩
  | acts actor act =>
      intro call iteration routing inside
      unfold recordSkipped
      rw [act.actor]
      by_cases same : actor = call
      · subst same
        rw [State.update_calls_self] at inside
        rw [if_pos rfl]
        exact act.covered shared timely (tidy actor) covered scheduled leased inside
      · rw [State.update_calls_other _ _ (Ne.symm same), Setup.executeOption_calls] at inside
        rw [if_neg fun equal => same (Option.some.inj equal)]
        exact (covered call iteration routing inside).elsewhere sound shared (Ne.symm same)
          act.turn
  | routes actor phase =>
      intro call iteration routing inside
      by_cases same : call = actor
      · subst same
        rw [State.update_calls_self] at inside
        simp only [CallState.goto, afterRoute] at inside
        split at inside <;> cases inside
      · rw [State.update_calls_other _ _ same] at inside
        have other : (Action.routeSettles actor).actor ≠ some call :=
          fun equal => same (Option.some.inj equal).symm
        unfold recordSkipped
        rw [if_neg other]
        exact covered call iteration routing inside

theorem Setup.AllCovered.exclusive {skipped : Worker → Bool}
    (covered : setup.AllCovered state skipped) : state.ExclusiveDispatch := by
  have owner : ∀ call id, (state.calls call).insideRoute = some id →
      ∃ row ∈ state.events.rows, row.id = id ∧ row.lockedBy = some call := by
    intro call id inside
    unfold CallState.insideRoute at inside
    split at inside
    · rename_i iteration routing phase
      cases inside
      obtain ⟨row, member, held, _⟩ := covered call iteration routing phase
      exact ⟨row, member, (owned_iff.mp held).1, (owned_iff.mp held).2.2⟩
    · cases inside
  intro first second id inside inside'
  obtain ⟨row, member, same, lockedBy⟩ := owner first id inside
  obtain ⟨other, member', same', lockedBy'⟩ := owner second id inside'
  cases state.events.unique member member' (same.trans same'.symm)
  exact Option.some.inj (lockedBy.symm.trans lockedBy')

end Covered

/-- Every run on schedule keeps dispatch exclusive as long as each event is begun under a
lease, and no lease is outlived while the heartbeat cannot renew it. -/
theorem exclusiveDispatch_of_leased (setup : Setup Worker Handler)
    (shared : ∀ worker now, setup.clock worker now = now)
    (frequent : 2 * setup.options.heartbeatIntervalMs ≤ setup.options.lockTtlMs)
    {recorded : State Worker Handler × (Worker → Bool)}
    (reached : setup.ticking.Reachable
      (fun before action => before.1.Scheduled action ∧ setup.Leased before action) recorded) :
    recorded.1.ExclusiveDispatch := by
  suffices covered : setup.AllCovered recorded.1 recorded.2 from covered.exclusive
  have known : ∀ before, setup.system.Reachable anyAction before →
      setup.CallsSound before ∧ before.Timely ∧ before.AllTidy :=
    fun _ reached => ⟨setup.callsSound_of_reachable reached,
      setup.timely_of_reachable shared reached, setup.allTidy_of_reachable reached⟩
  apply reached.tied setup.AllCovered known
  · intro start initial call iteration routing inside
    obtain ⟨_, calls, _, _, _⟩ := initial
    rw [calls] at inside
    cases inside
  · intro before skipped action after known covered permitted stepped
    exact covered.step shared (by omega) known.1 known.2.1 known.2.2 permitted.1 permitted.2
      (setup.stepped stepped)

/-- Two calls publish at the same time, each under a lease that is renewed in time. -/
theorem exclusiveDispatch_userRegistrations :
    ∃ state : State Bool Unit, (state.calls false).insideRoute = some "e2" ∧
      (state.calls true).insideRoute = some "e3" ∧ state.ExclusiveDispatch := by
  have executed :
      (userRegistrations.ticking.execute
        (fun before action =>
          decide (before.1.Scheduled action ∧ userRegistrations.Leased before action))
        (State.empty, fun _ => false)
        [.append "e1" "user.registered" "payload" 0 0, .advance 1,
          .append "e2" "user.registered" "payload" 0 0, .start false, .claim false .plain,
          .claimAnswered false, .advance 100000, .heartbeatTimer false, .extendLock false,
          .extendLockAnswered false, .handlerResolves false, .routeSettles false, .mark false,
          .markAnswered false, .append "e3" "user.registered" "payload" 0 0, .advance 100000,
          .heartbeatTimer false, .extendLock false, .advance 100000, .heartbeatTimer false,
          .extendLockAnswered false, .advance 1, .start true, .claim true .plain,
          .claimAnswered true]).map
        (fun recorded =>
          ((recorded.1.calls false).insideRoute, (recorded.1.calls true).insideRoute)) =
      some (some "e2", some "e3") := by decide
  obtain ⟨recorded, run, facts⟩ := Option.map_eq_some_iff.mp executed
  simp only [Prod.mk.injEq] at facts
  have reached : userRegistrations.ticking.Reachable
      (fun before action => before.1.Scheduled action ∧ userRegistrations.Leased before action)
      recorded :=
    .of_execute (fun _ _ holds => of_decide_eq_true holds)
      ⟨⟨rfl, rfl, rfl, rfl, rfl⟩, rfl⟩ run
  exact ⟨recorded.1, facts.1, facts.2,
    exclusiveDispatch_of_leased userRegistrations (fun _ _ => rfl) (by decide) reached⟩

/-- The lease on the second event of a batch runs out while the first is being published,
although its heartbeat is on time. A second worker claims the event and publishes it, and
so does the first when its turn comes. -/
theorem not_exclusiveDispatch :
    ¬∀ setup : Setup Bool Unit, (∀ worker now, setup.clock worker now = now) →
      2 * setup.options.heartbeatIntervalMs ≤ setup.options.lockTtlMs →
      1 ≤ setup.options.batchSize →
      ∀ state, setup.system.Reachable State.Scheduled state → state.ExclusiveDispatch := by
  intro claim
  have executed :
      (userRegistrations.system.execute (fun before action => decide (before.Scheduled action))
        State.empty
        [.append "e1" "user.registered" "payload" 0 0, .advance 1,
          .append "e2" "user.registered" "payload" 0 0, .start false, .claim false .plain,
          .claimAnswered false, .advance 100000, .heartbeatTimer false, .extendLock false,
          .extendLockAnswered false, .advance 100000, .heartbeatTimer false, .extendLock false,
          .extendLockAnswered false, .advance 100000, .heartbeatTimer false, .extendLock false,
          .extendLockAnswered false, .advance 1, .start true, .claim true .plain,
          .claimAnswered true, .handlerResolves false, .routeSettles false, .mark false,
          .markAnswered false]).map
        (fun state => ((state.calls false).insideRoute, (state.calls true).insideRoute)) =
      some (some "e2", some "e2") := by decide
  obtain ⟨state, run, facts⟩ := Option.map_eq_some_iff.mp executed
  simp only [Prod.mk.injEq] at facts
  have reached : userRegistrations.system.Reachable State.Scheduled state :=
    .of_execute (fun _ _ holds => of_decide_eq_true holds) ⟨rfl, rfl, rfl, rfl, rfl⟩ run
  have same := claim userRegistrations (fun _ _ => rfl) (by decide) (by decide) state reached
    false true "e2" facts.1 facts.2
  cases same

/-- A batch of one event, and the reply to its first extendLock is on its way for as long as the
lease that it has renewed. -/
example :
    (userRegistrations.system.execute (fun before action => decide (before.Scheduled action))
      State.empty
      [.append "e1" "user.registered" "payload" 0 0, .start false, .claim false .plain,
        .claimAnswered false, .advance 100000, .heartbeatTimer false, .extendLock false,
        .advance 100000, .heartbeatTimer false, .advance 100000, .heartbeatTimer false,
        .advance 100000, .heartbeatTimer false, .advance 1, .start true, .claim true .plain,
        .claimAnswered true]).map
      (fun state => ((state.calls false).insideRoute, (state.calls true).insideRoute)) =
    some (some "e1", some "e1") := by decide

end BackendFoundation.Outbox
