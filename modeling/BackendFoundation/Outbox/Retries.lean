/-
The delay between a failure of an event and its next claim. A markFailed that the
database has committed puts the event off, counted from the reading of the clock that
the statement carries; what becomes of the row afterwards never brings it forward.
-/

import BackendFoundation.Outbox.Attempts
import BackendFoundation.Outbox.RetryPolicy

namespace BackendFoundation.Outbox

open Transition Database

variable {Worker Handler : Type}

/-- The event is done with, or put off until the date, after a number of attempts. -/
structure OutboxRow.PutOff (row : OutboxRow Worker) (attempts date : Nat) : Prop where
  counted : attempts ≤ row.attempts
  later : row.status = .failed ∨ row.status = .processed ∨ date ≤ row.availableAt

theorem OutboxRow.PutOff.available {row : OutboxRow Worker} {attempts date : Nat}
    (putOff : row.PutOff attempts date) (unfinished : row.status = .pending ∨
      row.status = .processing) : date ≤ row.availableAt := by
  rcases putOff.later with failed | processed | later
  · rcases unfinished with status | status <;> cases failed.symm.trans status
  · rcases unfinished with status | status <;> cases processed.symm.trans status
  · exact later

theorem Setup.nextEvent_markingFailed {setup : Setup Worker Handler} {now date : Nat}
    {events : List (OutboxRow Worker)} {iteration : Iteration Worker} :
    setup.nextEvent now events ≠ .iterating iteration (.markingFailed date none) := by
  cases events with
  | nil => exact nofun
  | cons event rest => exact nofun

theorem Setup.claims_selected {setup : Setup Worker Handler} {state : State Worker Handler}
    {id : String} {action : Action Worker} {call : Worker}
    (claims : setup.claims state id action = some call) :
    ∃ now scan, (state.calls call).phase = .claiming now none ∧
      id ∈ (claimedRows setup.options state.events now scan).map OutboxRow.id := by
  unfold Setup.claims at claims
  split at claims
  · split at claims
    · rename_i now phase
      split at claims
      · cases claims
        exact ⟨now, _, phase, ‹_›⟩
      · cases claims
    · cases claims
  · cases claims

/-- Whoever claims an event does so with a date that is not before the one it was put off
to, and with attempts left. -/
theorem Setup.claims_of_putOff {setup : Setup Worker Handler} {state : State Worker Handler}
    {id : String} {attempts date : Nat}
    (putOff : ∃ row ∈ state.events.rows, row.id = id ∧ row.PutOff attempts date)
    {action : Action Worker} {call : Worker} (claims : setup.claims state id action = some call) :
    attempts < setup.options.maxAttempts ∧
      ∃ now, (state.calls call).phase = .claiming now none ∧ date ≤ now := by
  obtain ⟨row, member, rfl, putOff⟩ := putOff
  obtain ⟨now, scan, phase, selected⟩ := setup.claims_selected claims
  have claimable := (mem_claimedRows (mem_claimedRows_of_id member selected)).2
  obtain ⟨available, few, status⟩ := claimable_iff.mp claimable
  constructor
  · have counted := putOff.counted
    have positive := setup.options.maxAttempts_pos
    omega
  · exact ⟨now, phase, (putOff.available (status.imp_right And.left)).trans available⟩

variable [DecidableEq Worker]

/-- The date of the markFailed of a call that would put the event off. -/
def Setup.failureDate (setup : Setup Worker Handler) (state : State Worker Handler)
    (id : String) (call : Worker) : Option Nat :=
  match (state.calls call).phase with
  | .iterating iteration (.markingFailed now none) =>
      if iteration.event.id = id ∧
          (markFailed setup.options state.events now iteration.event call).2 = true then
        some now
      else none
  | _ => none

/-- The date of the markFailed for the event that the database commits in a step. -/
def Setup.marksFailed (setup : Setup Worker Handler) (state : State Worker Handler)
    (id : String) : Action Worker → Option Nat
  | .mark call => setup.failureDate state id call
  | _ => none

/-- The row of an event whose failure is being marked was available at that date. -/
def Setup.Dated (state : State Worker Handler) : Prop :=
  ∀ call iteration date,
    (state.calls call).phase =
        .iterating iteration (Stage.markingFailed date none : Stage Handler) →
      ∀ row ∈ state.events.rows, owned iteration.event.id call row = true →
        row.availableAt ≤ date

section Steps

variable {setup : Setup Worker Handler} {state following : State Worker Handler} {call : Worker}
  {action : Action Worker} {statement : Option (Statement Worker)}
  {before after : CallState Worker Handler}

/-- A call reads its clock when it turns to markFailed. -/
theorem Setup.Act.marking (act : setup.Act state call before action statement after)
    {iteration : Iteration Worker} {date : Nat}
    (phase : after.phase = .iterating iteration (.markingFailed date none)) :
    ∃ earlier stage, before.phase = .iterating earlier stage ∧
      earlier.event = iteration.event ∧
      (stage = .markingFailed date none ∨ date = setup.clock call state.now) := by
  cases act with
  | starts | claims | claimFails | crashes | crashesInside | marksProcessed | marksFailed
  | markFailedFails | timesOut | resolves | rejects => cases phase
  | claimAnswered | processed | failed => exact absurd phase Setup.nextEvent_markingFailed
  | extendsLate => exact ⟨_, _, phase, rfl, .inl rfl⟩
  | beats phase' | renews phase' | extendAnswered phase' | extendFails phase' =>
      cases phase
      exact ⟨_, _, phase', rfl, .inl rfl⟩
  | routeRejects phase' | unmatched phase' | markProcessedFails phase' =>
      cases phase
      exact ⟨_, _, phase', rfl, .inr rfl⟩

theorem Setup.Stepped.marking (stepped : setup.Stepped state action following) {call : Worker}
    {iteration : Iteration Worker} {date : Nat}
    (phase : (following.calls call).phase =
      .iterating iteration (.markingFailed date none)) :
    ∃ earlier stage, (state.calls call).phase = .iterating earlier stage ∧
      earlier.event = iteration.event ∧
      (stage = .markingFailed date none ∨ date = setup.clock call state.now) := by
  cases stepped with
  | advances | appends => exact ⟨_, _, phase, rfl, .inl rfl⟩
  | acts actor act =>
      by_cases same : call = actor
      · subst same
        rw [State.update_calls_self] at phase
        exact act.marking phase
      · rw [State.update_calls_other _ _ same, Setup.executeOption_calls] at phase
        exact ⟨_, _, phase, rfl, .inl rfl⟩
  | @routes actor earlier resolved phase' =>
      by_cases same : call = actor
      · subst same
        rw [State.update_calls_self] at phase
        simp only [CallState.goto, Setup.afterRoute] at phase
        split at phase
        · cases phase
          exact ⟨_, _, phase', rfl, .inr rfl⟩
        · cases phase
      · rw [State.update_calls_other _ _ same] at phase
        exact ⟨_, _, phase, rfl, .inl rfl⟩

theorem Setup.Dated.step (dated : Setup.Dated state) (accounted : setup.Accounted state)
    (stepped : setup.Stepped state action following) (move : setup.Move state action following) :
    Setup.Dated following := by
  intro call iteration date phase after member held
  obtain ⟨earlier, stage, phase', same, reading⟩ := stepped.marking phase
  rw [← same] at held
  rcases move.row_before member with ⟨row, present, becomes⟩ | ⟨pending, _⟩
  · rcases becomes.owned_before held with ⟨held', _, available⟩ | ⟨_, claiming, _⟩
    · rw [available]
      rcases reading with rfl | rfl
      · exact dated call earlier date phase' row present held'
      · exact ((accounted.rows row present).attempts_lt held').2
    · cases phase'.symm.trans claiming
  · cases pending.symm.trans (owned_iff.mp held).2.1

/-- No statement brings an event forward. -/
theorem OutboxRow.PutOff.step {row after : OutboxRow Worker} {attempts date : Nat}
    (putOff : row.PutOff attempts date) (accounted : setup.Accounted state)
    (dated : Setup.Dated state) (member : row ∈ state.events.rows)
    (becomes : setup.Becomes state row after) : after.PutOff attempts date := by
  rcases becomes with rfl | ⟨call, statement, sends, rewrites⟩
  · exact putOff
  · cases rewrites with
    | kept => exact putOff
    | claimed scan selected =>
        have status := (claimable_iff.mp selected).2.2
        exact ⟨putOff.counted, .inr (.inr (putOff.available (status.imp_right And.left)))⟩
    | extended now held => exact ⟨putOff.counted, putOff.later⟩
    | processed held => exact ⟨putOff.counted, .inr (.inl rfl)⟩
    | @failed now event _ held =>
        have available := putOff.available (.inr (owned_iff.mp held).2.1)
        cases sends with
        | @markFailed iteration _ phase =>
            have copied := (accounted.copies call iteration.event
              (by simp [CallState.held, phase]) row member held).1
            have read := dated call iteration now phase row member held
            constructor
            · exact putOff.counted.trans (copied ▸ Nat.le_succ _)
            · simp only [failedAssignment]
              split
              · exact .inl rfl
              · exact .inr (.inr ((available.trans read).trans (Nat.le_add_right _ _)))

theorem Setup.phase_of_failureDate {id : String} {date : Nat}
    (marks : setup.failureDate state id call = some date) :
    ∃ iteration, (state.calls call).phase = .iterating iteration (.markingFailed date none) ∧
      iteration.event.id = id ∧
      (markFailed setup.options state.events date iteration.event call).2 = true := by
  unfold failureDate at marks
  split at marks
  · rename_i iteration now phase
    split at marks
    · rename_i marked
      cases marks
      exact ⟨iteration, phase, marked⟩
    · cases marks
  · cases marks

theorem Setup.committed_markFailed (stepped : setup.step state action = some following)
    {id : String} {date : Nat} (marks : setup.marksFailed state id action = some date) :
    ∃ (call : Worker) (iteration : Iteration Worker), iteration.event.id = id ∧
      (markFailed setup.options state.events date iteration.event call).2 = true ∧
      following.events =
        (markFailed setup.options state.events date iteration.event call).1 := by
  unfold marksFailed at marks
  split at marks
  · rename_i call
    obtain ⟨iteration, phase, same, marked⟩ := setup.phase_of_failureDate marks
    simp only [step, phase] at stepped
    cases stepped
    exact ⟨call, iteration, same, marked, rfl⟩
  · cases marks

/-- What a committed markFailed leaves. -/
theorem Setup.putOff_of_marksFailed (accounted : setup.Accounted following)
    (stepped : setup.step state action = some following) {id : String} {date : Nat}
    (marks : setup.marksFailed state id action = some date) :
    ∃ row ∈ following.events.rows, row.id = id ∧
      row.PutOff (following.failedMarks.count id)
        (date + setup.options.retryDelaySeconds (following.failedMarks.count id) * 1000) := by
  obtain ⟨call, iteration, rfl, marked, events⟩ := setup.committed_markFailed stepped marks
  obtain ⟨row, member, held⟩ := (updateOwned_changes_iff _ _ _ _).mp marked
  have present : (failedAssignment setup.options date iteration.event).set row ∈
      following.events.rows := by
    rw [events]
    exact Table.mem_update.mpr ⟨row, member, if_pos held⟩
  have same : ((failedAssignment setup.options date iteration.event).set row).id =
      iteration.event.id := (owned_iff.mp held).1
  have counted : iteration.event.attempts + 1 =
      following.failedMarks.count iteration.event.id := by
    have counted := accounted.counted _ present
    rw [same] at counted
    exact counted
  refine ⟨_, present, same, ?_⟩
  rw [← counted]
  constructor
  · exact Nat.le_refl _
  · simp only [failedAssignment]
    split
    · exact .inl rfl
    · exact .inr (.inr (Nat.le_refl _))

end Steps

section Runs

variable {setup : Setup Worker Handler} {allowed : State Worker Handler → Action Worker → Prop}
  {state finish : State Worker Handler} {actions : List (Action Worker)} {id : String}

theorem Setup.dated_of_reachable (reached : setup.system.Reachable allowed state) :
    Setup.Dated state := by
  have known : ∀ before, setup.system.Reachable allowed before → setup.Accounted before :=
    fun _ reached => setup.accounted_of_reachable reached
  apply reached.invariant_using known
  · intro start initial call iteration date _ row member
    obtain ⟨rows, _⟩ := initial
    rw [rows] at member
    cases member
  · intro before action after accounted dated _ stepped
    exact dated.step accounted (setup.stepped stepped) (setup.moved stepped)

/-- An event that has been put off stays so over a run. -/
theorem Setup.putOff_of_run (reached : setup.system.Reachable allowed state)
    (run : setup.system.Run allowed state actions finish) {attempts date : Nat}
    (putOff : ∃ row ∈ state.events.rows, row.id = id ∧ row.PutOff attempts date) :
    ∃ row ∈ finish.events.rows, row.id = id ∧ row.PutOff attempts date := by
  induction run with
  | nil => exact putOff
  | snoc earlier permitted stepped ih =>
      obtain ⟨row, member, same, putOff⟩ := ih
      obtain ⟨after, present, becomes⟩ := (setup.moved stepped).row_after member
      have reached' := reached.extend earlier
      exact ⟨after, present, becomes.id_eq.trans same, putOff.step
        (setup.accounted_of_reachable reached') (Setup.dated_of_reachable reached') member
        becomes⟩

end Runs

/-- The k-th failure of an event that is committed puts it off by the k-th delay, counted
from the date of the statement, and the last one for good. -/
structure Setup.RetryPolicy (setup : Setup Worker Handler) (env : OutboxEnvMappingInput) :
    Prop where
  bounded : ∀ recorded,
    setup.dispatching.Reachable (fun recorded => anyAction recorded.1) recorded → ∀ id,
      (recorded.2 id).routeCalls.length ≤ env.outboxMaxAttempts.val + (recorded.2 id).lost
  accounted : ∀ recorded,
    setup.dispatching.Reachable (fun recorded => anyAction recorded.1) recorded →
      ∀ row ∈ recorded.1.events.rows, (recorded.2 row.id).claims.length =
        (recorded.2 row.id).lost + recorded.1.failedMarks.count row.id +
          if row.status = .processing ∨ row.status = .processed then 1 else 0
  delayed : ∀ state id action following date actions finish action' call,
    setup.system.Reachable anyAction state → setup.step state action = some following →
    setup.marksFailed state id action = some date →
    setup.system.Run anyAction following actions finish →
    setup.claims finish id action' = some call →
      following.failedMarks.count id < env.outboxMaxAttempts.val ∧
        ∃ now, (finish.calls call).phase = .claiming now none ∧
          date + min (2 ^ following.failedMarks.count id * env.outboxRetryBaseDelaySeconds.val)
            env.outboxRetryMaxDelaySeconds.val * 1000 ≤ now
  growing : ∀ attempt,
    min (2 ^ attempt * env.outboxRetryBaseDelaySeconds.val)
        env.outboxRetryMaxDelaySeconds.val ≤
      min (2 ^ (attempt + 1) * env.outboxRetryBaseDelaySeconds.val)
        env.outboxRetryMaxDelaySeconds.val
  between : ∀ attempt,
    env.outboxRetryBaseDelaySeconds.val ≤
        min (2 ^ attempt * env.outboxRetryBaseDelaySeconds.val)
          env.outboxRetryMaxDelaySeconds.val ∧
      min (2 ^ attempt * env.outboxRetryBaseDelaySeconds.val)
          env.outboxRetryMaxDelaySeconds.val ≤ env.outboxRetryMaxDelaySeconds.val

theorem retryPolicy {env : OutboxEnv} {fields : OutboxEnvMappingInput}
    (accepted : env.parse = some fields) (setup : Setup Worker Handler)
    (configured : setup.options = (mapOutboxEnvToOptions fields).toOutboxProcessorOptions) :
    setup.RetryPolicy fields := by
  constructor
  · intro recorded reached id
    have enough := Setup.routeCalls_le reached id
    rw [configured] at enough
    exact enough
  · intro recorded reached row member
    have claimed := (Setup.claimed_of_reachable reached).present row member
    rw [(setup.accounted_of_reachable reached.unrecorded).counted row member] at claimed
    exact claimed
  · intro state id action following date actions finish action' call reached stepped marks run
      claims
    have reached' : setup.system.Reachable anyAction following := reached.next trivial stepped
    have putOff := setup.putOff_of_run reached' run
      (setup.putOff_of_marksFailed (setup.accounted_of_reachable reached') stepped marks)
    have claimed := setup.claims_of_putOff putOff claims
    rw [configured] at claimed
    exact claimed
  · exact fun attempt => retryDelaySeconds_monotone fields (Nat.le_succ attempt)
  · exact fun attempt => ⟨le_retryDelaySeconds fields (env.checked accepted).2.1 attempt,
      retryDelaySeconds_le fields attempt⟩

theorem retryPolicy_default : ∃ fields, defaultOutboxEnv.parse = some fields ∧
    userRegistrations.RetryPolicy fields := by
  obtain ⟨fields, accepted, options⟩ := OutboxEnv.parse_default
  exact ⟨fields, accepted, retryPolicy accepted userRegistrations options.symm⟩

/-- The database takes a second to commit the first markFailed, and the event is claimed
again 59 seconds later. -/
theorem claimed_before_delay :
    ¬∀ (env : OutboxEnv) (fields : OutboxEnvMappingInput), env.parse = some fields →
      ∀ setup : Setup Bool Unit, (∀ worker now, setup.clock worker now = now) →
      setup.options = (mapOutboxEnvToOptions fields).toOutboxProcessorOptions →
      ∀ state id action following date actions finish action' call,
        setup.system.Reachable anyAction state → setup.step state action = some following →
        setup.marksFailed state id action = some date →
        following.failedMarks.count id < fields.outboxMaxAttempts.val →
        setup.system.Run anyAction following actions finish →
        setup.claims finish id action' = some call →
          state.now + min (2 ^ following.failedMarks.count id *
            fields.outboxRetryBaseDelaySeconds.val) fields.outboxRetryMaxDelaySeconds.val *
              1000 ≤ finish.now := by
  intro claim
  obtain ⟨fields, accepted, options⟩ := OutboxEnv.parse_default
  have attempts : fields.outboxMaxAttempts.val = 10 :=
    congrArg OutboxProcessorOptions.maxAttempts options
  have delay : min (2 ^ 1 * fields.outboxRetryBaseDelaySeconds.val)
      fields.outboxRetryMaxDelaySeconds.val = 60 :=
    congrArg (fun configured => OutboxProcessorOptions.retryDelaySeconds configured 1) options
  have executed :
      ((userRegistrations.system.execute (fun _ _ => true) State.empty
        [.append "e1" "user.registered" "payload" 0 0, .start false, .claim false .plain,
          .claimAnswered false, .handlerRejects false, .routeSettles false,
          .advance 1000]).bind fun state =>
        (userRegistrations.step state (.mark false)).bind fun following =>
          (userRegistrations.system.execute (fun _ _ => true) following
            [.advance 59000, .start true]).map fun finish =>
              (state.now, userRegistrations.marksFailed state "e1" (.mark false),
                following.failedMarks.count "e1",
                userRegistrations.claims finish "e1" (.claim true .plain), finish.now)) =
      some (1000, some 0, 1, some true, 60000) := by decide
  obtain ⟨state, earlier, executed⟩ := Option.bind_eq_some_iff.mp executed
  obtain ⟨following, stepped, executed⟩ := Option.bind_eq_some_iff.mp executed
  obtain ⟨finish, later, facts⟩ := Option.map_eq_some_iff.mp executed
  simp only [Prod.mk.injEq] at facts
  obtain ⟨committed, marks, count, claims, time⟩ := facts
  have reached : userRegistrations.system.Reachable anyAction state :=
    .of_execute (fun _ _ _ => trivial) ⟨rfl, rfl, rfl, rfl, rfl⟩ earlier
  have run : userRegistrations.system.Run anyAction following _ finish :=
    .of_execute (fun _ _ _ => trivial) later
  have early := claim defaultOutboxEnv fields accepted userRegistrations (fun _ _ => rfl)
    options.symm state "e1" (.mark false) following 0 _ finish (.claim true .plain) true reached
    stepped marks (by rw [count, attempts]; decide) run claims
  rw [count, delay, committed, time] at early
  exact absurd early (by decide)

end BackendFoundation.Outbox
