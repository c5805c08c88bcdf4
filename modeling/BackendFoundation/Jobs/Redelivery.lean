/-
Redeliveries that come late enough. A delivery that stops with its mail unsent and its key not
given back leaves a lease behind. Where every acquire that is executed later finds that lease
run out, and nobody stops between a refusal and the return of the refused call, no mail is
dropped: the key then never lies in the hands of a delivery that has stopped.
-/

import BackendFoundation.Jobs.NoSilentDrop
import BackendFoundation.Transition.History

namespace BackendFoundation.Jobs

open Transition Redis Redis.Slot

variable {Delivery : Type}

/-- Until when the leases run (history): leaseTtlSeconds from the SET or the last EXPIRE that
Redis has granted to the delivery, unless a release of its own has been executed. -/
abbrev Leases (Delivery : Type) : Type := Delivery → Option Nat

def Leases.Runs (leases : Leases Delivery) (now : Nat) (delivery : Delivery) : Prop :=
  ∃ deadline, leases delivery = some deadline ∧ now ≤ deadline

/-- An acquire is executed when the leases of all deliveries that have stopped have run out. And
while a refused delivery has not returned, no delivery crashes, releases the key, fails to
release it or outlives its lease, if its lease runs. Both are asked only as long as the mail
is unsent. -/
def Redelivered (recorded : State Delivery × Leases Delivery) : Action Delivery → Prop
  | .advance milliseconds => recorded.1.Waiting → recorded.1.sent = [] →
      ∀ holder, recorded.2.Runs recorded.1.now holder →
        recorded.2.Runs (recorded.1.now + milliseconds) holder
  | .command delivery =>
      match (recorded.1.deliveries delivery).phase with
      | .acquiring => recorded.1.sent = [] → ∀ stopped,
          (recorded.1.deliveries stopped).phase.ended = true →
            ¬recorded.2.Runs recorded.1.now stopped
      | .releasing _ => recorded.1.Waiting → recorded.1.sent = [] →
          ¬recorded.2.Runs recorded.1.now delivery
      | _ => True
  | .commandFails delivery _ =>
      match (recorded.1.deliveries delivery).phase with
      | .releasing _ => recorded.1.Waiting → recorded.1.sent = [] →
          ¬recorded.2.Runs recorded.1.now delivery
      | _ => True
  | .crash delivery => recorded.1.Waiting → recorded.1.sent = [] →
      ¬recorded.2.Runs recorded.1.now delivery
  | _ => True

/-- What the key holds runs as long as the lease of the delivery whose token it is. -/
def Setup.Dated (setup : Setup Delivery) (now : Nat) (key : Slot String)
    (leases : Leases Delivery) : Prop :=
  ∀ cell delivery, live now key = some cell → cell.value = setup.token delivery →
    ∃ deadline, leases delivery = some deadline ∧ cell.expireAt = some deadline

section Dated

variable {setup : Setup Delivery} {now : Nat} {key : Slot String} {leases : Leases Delivery}
  {delivery : Delivery}

theorem Setup.Dated.runs (dated : setup.Dated now key leases)
    (holds : get now key = some (setup.token delivery)) : leases.Runs now delivery := by
  obtain ⟨cell, alive, value⟩ := get_eq_some_iff.mp holds
  obtain ⟨deadline, lease, expiry⟩ := dated cell delivery alive value
  have unexpired := (live_some_iff.mp alive).2
  simp only [Cell.aliveAt, expiry, decide_eq_true_eq] at unexpired
  exact ⟨deadline, lease, unexpired⟩

theorem Setup.Dated.later {after : Nat} (dated : setup.Dated now key leases)
    (order : now ≤ after) : setup.Dated after key leases := by
  intro cell delivery alive value
  exact dated cell delivery (live_earlier order alive) value

end Dated

variable [DecidableEq Delivery]

/-- The pending command of the delivery has been executed. -/
def Setup.answered (setup : Setup Delivery) (state : State Delivery) (delivery : Delivery)
    (leases : Leases Delivery) : Leases Delivery :=
  match (state.deliveries delivery).phase with
  | .acquiring =>
      if (JobExecutionStore.acquire state.now state.key (setup.token delivery)
          setup.options.leaseTtlSeconds).2 then
        Function.update leases delivery
          (some (state.now + setup.options.leaseTtlSeconds * 1000))
      else leases
  | .releasing _ => Function.update leases delivery none
  | _ => leases

/-- The extend of its heartbeat has been executed. -/
def Setup.extended (setup : Setup Delivery) (state : State Delivery) (delivery : Delivery)
    (leases : Leases Delivery) : Leases Delivery :=
  if (JobExecutionStore.extend state.now state.key (setup.token delivery)
      setup.options.leaseTtlSeconds).2 then
    Function.update leases delivery (some (state.now + setup.options.leaseTtlSeconds * 1000))
  else leases

def Setup.recordLeases (setup : Setup Delivery) (state : State Delivery)
    (action : Action Delivery) (_ : State Delivery) (leases : Leases Delivery) :
    Leases Delivery :=
  match action with
  | .command delivery | .commandFails delivery true => setup.answered state delivery leases
  | .extend delivery | .extendFails delivery true => setup.extended state delivery leases
  | _ => leases

def Setup.recorded (setup : Setup Delivery) :
    Transition.System (State Delivery × Leases Delivery) (Action Delivery) :=
  setup.system.recording setup.recordLeases fun _ => none

section Written

variable {setup : Setup Delivery} {state : State Delivery} {leases : Leases Delivery}
  {delivery : Delivery}

/-- A granted SET or EXPIRE. -/
theorem Setup.Dated.granted (now : Nat) :
    setup.Dated now (setEx now (setup.token delivery) setup.options.leaseTtlSeconds)
      (Function.update leases delivery
        (some (now + setup.options.leaseTtlSeconds * 1000))) := by
  intro cell holder alive value
  have stored := (live_some_iff.mp alive).1
  cases stored
  obtain rfl := setup.token_injective value
  exact ⟨_, Function.update_self _ _ _, rfl⟩

omit [DecidableEq Delivery] in
theorem Setup.Dated.marked {now ttlSeconds : Nat} {marker : String} (leases : Leases Delivery)
    (foreign : ∀ holder, setup.token holder ≠ marker) :
    setup.Dated now (setEx now marker ttlSeconds) leases := by
  intro cell holder alive value
  have stored := (live_some_iff.mp alive).1
  cases stored
  exact absurd value.symm (foreign holder)

theorem Setup.Dated.answer (dated : setup.Dated state.now state.key leases) :
    setup.Dated state.now
      (setup.answer delivery state.now state.key (state.deliveries delivery)).1
      (setup.answered state delivery leases) := by
  unfold Setup.answered
  cases phase : (state.deliveries delivery).phase with
  | acquiring =>
      simp only [Setup.answer, phase]
      cases reply : (JobExecutionStore.acquire state.now state.key (setup.token delivery)
          setup.options.leaseTtlSeconds).2 with
      | true =>
          rw [JobExecutionStore.acquire_granted reply, if_pos rfl]
          exact .granted state.now
      | false =>
          rw [(JobExecutionStore.acquire_refused reply).1, if_neg Bool.false_ne_true]
          exact dated
  | completing =>
      obtain ⟨_, _, answers⟩ := setup.answer_completing delivery state.now state.key phase
      rw [answers]
      unfold JobExecutionStore.complete
      split
      · exact .marked _ fun holder => (setup.token_ne_marker holder).1
      · exact dated
  | marking reason =>
      simp only [Setup.answer, phase]
      exact .marked _ fun holder => (setup.token_ne_marker holder).2
  | releasing error =>
      simp only [Setup.answer, phase]
      intro cell holder alive value
      obtain ⟨before, foreign⟩ := JobExecutionStore.release_live alive
      have different : holder ≠ delivery := by
        rintro rfl
        exact foreign value
      rw [Function.update_of_ne different]
      exact dated cell holder before value
  | _ =>
      simp only [Setup.answer, phase]
      exact dated

theorem Setup.Dated.extend (dated : setup.Dated state.now state.key leases) :
    setup.Dated state.now
      (JobExecutionStore.extend state.now state.key (setup.token delivery)
        setup.options.leaseTtlSeconds).1
      (setup.extended state delivery leases) := by
  unfold Setup.extended
  cases reply : (JobExecutionStore.extend state.now state.key (setup.token delivery)
      setup.options.leaseTtlSeconds).2 with
  | true =>
      rw [(JobExecutionStore.extend_granted reply).2, if_pos rfl]
      exact .granted state.now
  | false =>
      rw [JobExecutionStore.extend_refused reply, if_neg Bool.false_ne_true]
      exact dated

/-- A lease is new only where the acquire has just been granted. -/
theorem Setup.answered_some {holder : Delivery} {deadline : Nat}
    (found : setup.answered state delivery leases holder = some deadline) :
    leases holder = some deadline ∨ (holder = delivery ∧
      (state.deliveries delivery).phase = .acquiring ∧
      (JobExecutionStore.acquire state.now state.key (setup.token delivery)
        setup.options.leaseTtlSeconds).2 = true) := by
  cases phase : (state.deliveries delivery).phase with
  | acquiring =>
      simp only [Setup.answered, phase] at found
      split at found
      · by_cases same : holder = delivery
        · exact .inr ⟨same, rfl, ‹_›⟩
        · rw [Function.update_of_ne same] at found
          exact .inl found
      · exact .inl found
  | releasing error =>
      simp only [Setup.answered, phase] at found
      by_cases same : holder = delivery
      · subst same
        rw [Function.update_self] at found
        cases found
      · rw [Function.update_of_ne same] at found
        exact .inl found
  | _ =>
      simp only [Setup.answered, phase] at found
      exact .inl found

theorem Setup.Dated.extended_some {holder : Delivery} {deadline : Nat}
    (dated : setup.Dated state.now state.key leases)
    (found : setup.extended state delivery leases holder = some deadline) :
    ∃ earlier, leases holder = some earlier := by
  unfold Setup.extended at found
  split at found
  · rename_i granted
    by_cases same : holder = delivery
    · subst same
      obtain ⟨earlier, lease, _⟩ := dated.runs (JobExecutionStore.extend_granted granted).1
      exact ⟨earlier, lease⟩
    · rw [Function.update_of_ne same] at found
      exact ⟨deadline, found⟩
  · exact ⟨deadline, found⟩

end Written

/-- The acquire of the delivery has been answered. -/
def Phase.begun (phase : Phase) : Bool := phase.executing || phase.ended

/-- Only a delivery that has asked for the key has a lease. -/
def Placed (state : State Delivery) (leases : Leases Delivery) : Prop :=
  ∀ delivery deadline, leases delivery = some deadline →
    (state.deliveries delivery).phase.begun = true

section Steps

variable {setup : Setup Delivery} {state following : State Delivery}
  {leases : Leases Delivery} {action : Action Delivery}

omit [DecidableEq Delivery] in
theorem Setup.Turn.begun {delivery : Delivery} {before after : DeliveryState}
    {key : Slot String} (turn : setup.Turn state delivery before action key after)
    (begun : before.phase.begun = true) : after.phase.begun = true := by
  cases turn with
  | starts phase | acquires phase =>
      rw [phase] at begun
      cases begun
  | completes _ next => rcases next with rfl | rfl <;> rfl
  | fails _ pending =>
      cases phase : before.phase <;> rw [phase] at pending <;> cases pending <;> rfl
  | proceeds _ next =>
      rcases next with rfl | rfl
      · rfl
      · simp only [DeliveryState.goto, Setup.beforeSend]
        split <;> rfl
  | beats | renews => exact begun
  | marks | releases | returns | throws | crashes => rfl

theorem Setup.Move.begun (move : setup.Move state action following) {delivery : Delivery}
    (begun : (state.deliveries delivery).phase.begun = true) :
    (following.deliveries delivery).phase.begun = true := by
  cases move with
  | advances => exact begun
  | acts actor turn =>
      by_cases same : delivery = actor
      · subst same
        change ((state.update delivery _).deliveries delivery).phase.begun = true
        rw [State.update_self]
        exact turn.begun begun
      · change ((state.update actor _).deliveries delivery).phase.begun = true
        rw [State.update_other _ _ same]
        exact begun
  | sends actor _ next =>
      by_cases same : delivery = actor
      · subst same
        change ((state.update delivery _).deliveries delivery).phase.begun = true
        rw [State.update_self]
        rcases next with rfl | rfl <;> rfl
      · change ((state.update actor _).deliveries delivery).phase.begun = true
        rw [State.update_other _ _ same]
        exact begun

theorem Setup.dated_step (dated : setup.Dated state.now state.key leases)
    (stepped : setup.step state action = some following) :
    setup.Dated following.now following.key
      (setup.recordLeases state action following leases) := by
  cases action with
  | advance milliseconds =>
      cases stepped
      exact dated.later (Nat.le_add_right _ _)
  | command delivery =>
      simp only [step] at stepped
      split at stepped
      · cases stepped
      · cases stepped
        exact dated.answer
  | commandFails delivery applied =>
      simp only [step] at stepped
      split at stepped
      · cases stepped
      · cases stepped
        cases applied with
        | true => exact dated.answer
        | false => exact dated
  | extend delivery =>
      simp only [step] at stepped
      split at stepped
      · cases stepped
        exact dated.extend
      · cases stepped
  | extendFails delivery applied =>
      simp only [step] at stepped
      split at stepped
      · cases stepped
        cases applied with
        | true => exact dated.extend
        | false => exact dated
      · cases stepped
  | start | renderFails | sendResolves | sendRejects | heartbeatTimer =>
      simp only [step] at stepped
      split at stepped
      · cases stepped
        exact dated
      · cases stepped
  | crash delivery =>
      simp only [step] at stepped
      split at stepped
      · cases stepped
      · cases stepped
        exact dated
  | proceed delivery =>
      obtain ⟨_, _, rfl⟩ := Option.map_eq_some_iff.mp stepped
      exact dated

theorem Setup.placed_step (dated : setup.Dated state.now state.key leases)
    (placed : Placed state leases) (stepped : setup.step state action = some following) :
    Placed following (setup.recordLeases state action following leases) := by
  intro delivery deadline found
  have kept {earlier : Nat} (lease : leases delivery = some earlier) :
      (following.deliveries delivery).phase.begun = true :=
    (setup.moved stepped).begun (placed delivery earlier lease)
  cases action with
  | command actor =>
      rcases setup.answered_some found with before | ⟨rfl, acquiring, granted⟩
      · exact kept before
      · simp only [step, acquiring, afterError, answer] at stepped
        cases stepped
        change ((state.update delivery _).deliveries delivery).phase.begun = true
        rw [State.update_self]
        simp only [DeliveryState.goto, granted]
        rfl
  | commandFails actor applied =>
      cases applied with
      | true =>
          rcases setup.answered_some found with before | ⟨rfl, acquiring, _⟩
          · exact kept before
          · simp only [step, acquiring, afterError] at stepped
            cases stepped
            change ((state.update delivery _).deliveries delivery).phase.begun = true
            rw [State.update_self]
            rfl
      | false => exact kept found
  | extend actor =>
      obtain ⟨earlier, lease⟩ := dated.extended_some found
      exact kept lease
  | extendFails actor applied =>
      cases applied with
      | true =>
          obtain ⟨earlier, lease⟩ := dated.extended_some found
          exact kept lease
      | false => exact kept found
  | _ => exact kept found

omit [DecidableEq Delivery] in
/-- A redelivery that comes late enough finds the key in the hands of a delivery that is still
executing. -/
theorem Setup.handed_of_redelivered (custody : setup.Custody state)
    (dated : setup.Dated state.now state.key leases) (placed : Placed state leases)
    (redelivered : Redelivered (state, leases) action) : setup.Handed state action := by
  cases action with
  | advance milliseconds =>
      intro waiting unsent
      cases found : get state.now state.key with
      | none =>
          have dead := live_none_later (Nat.le_add_right state.now milliseconds)
            (get_eq_none_iff.mp found)
          exact get_eq_none_iff.mpr dead
      | some value =>
          obtain ⟨cell, alive, rfl⟩ := get_eq_some_iff.mp found
          rcases custody.marked cell (live_some_iff.mp alive).1 with ⟨holder, token⟩ | sent
          · obtain ⟨deadline, lease, expiry⟩ := dated cell holder alive token
            have runs := dated.runs (get_eq_some_iff.mpr ⟨cell, alive, token⟩)
            obtain ⟨_, same, unexpired⟩ := redelivered waiting unsent holder runs
            cases lease.symm.trans same
            exact get_eq_some_iff.mpr ⟨cell, live_until alive expiry unexpired, rfl⟩
          · exact absurd unsent sent
  | command delivery =>
      cases phase : (state.deliveries delivery).phase with
      | acquiring =>
          simp only [Handed, phase]
          simp only [Redelivered, phase] at redelivered
          intro holder holds unsent
          have runs := dated.runs holds
          obtain ⟨deadline, lease, _⟩ := runs
          have begun := placed holder deadline lease
          rw [Phase.begun, Bool.or_eq_true] at begun
          refine begun.resolve_right ?_
          intro stopped
          exact redelivered unsent holder stopped (dated.runs holds)
      | releasing error =>
          simp only [Handed, phase]
          simp only [Redelivered, phase] at redelivered
          intro waiting unsent holds
          exact redelivered waiting unsent (dated.runs holds)
      | _ => simp only [Handed, phase]
  | commandFails delivery applied =>
      cases phase : (state.deliveries delivery).phase with
      | releasing error =>
          simp only [Handed, phase]
          simp only [Redelivered, phase] at redelivered
          intro waiting unsent holds
          exact redelivered waiting unsent (dated.runs holds)
      | _ => simp only [Handed, phase]
  | crash delivery =>
      intro waiting unsent holds
      exact redelivered waiting unsent (dated.runs holds)
  | _ => trivial

/-- What the run keeps, beside the stronger condition that it brings about. -/
structure Setup.Kept (setup : Setup Delivery) (recorded : State Delivery × Leases Delivery) :
    Prop where
  custody : setup.Custody recorded.1
  dated : setup.Dated recorded.1.now recorded.1.key recorded.2
  placed : Placed recorded.1 recorded.2

omit [DecidableEq Delivery] in
theorem Setup.kept_initial (setup : Setup Delivery) (initial : state.initial) :
    setup.Kept (state, fun _ => none) where
  custody := setup.custody_initial initial
  dated := by
    intro cell delivery alive
    obtain ⟨key, _⟩ := initial
    rw [key] at alive
    cases alive
  placed := by
    intro delivery deadline lease
    cases lease

theorem Setup.handed_of_reachable {recorded : State Delivery × Leases Delivery}
    (reached : setup.recorded.Reachable Redelivered recorded) :
    setup.recorded.Reachable (fun recorded => setup.Handed recorded.1) recorded ∧
      setup.Kept recorded := by
  apply reached.establishes
  · intro start initial
    obtain ⟨state, _⟩ := start
    obtain ⟨initial, rfl⟩ := initial
    exact setup.kept_initial initial
  · intro before action after kept redelivered stepped
    obtain ⟨following, stepped', rfl⟩ := Option.map_eq_some_iff.mp stepped
    have handed := setup.handed_of_redelivered kept.custody kept.dated kept.placed redelivered
    exact ⟨handed,
      { custody := kept.custody.step handed (setup.moved stepped')
        dated := setup.dated_step kept.dated stepped'
        placed := setup.placed_step kept.dated kept.placed stepped' }⟩

theorem Setup.noSilentDrop_of_redelivered (setup : Setup Delivery)
    {recorded : State Delivery × Leases Delivery} {action : Action Delivery}
    {following : State Delivery} (reached : setup.recorded.Reachable Redelivered recorded)
    (redelivered : Redelivered recorded action)
    (stepped : setup.system.step recorded.1 action = some following) :
    setup.Resolves recorded.1 following := by
  obtain ⟨handed, kept⟩ := setup.handed_of_reachable reached
  have last := setup.handed_of_redelivered kept.custody kept.dated kept.placed redelivered
  exact noSilentDrop_of_handed setup recorded.1 action following handed.unrecorded last stepped

end Steps

/-- A check for two deliveries: nobody stops and no time passes while a refusal is under way. -/
def lateEnough (recorded : State Bool × Leases Bool) : Action Bool → Bool
  | .command delivery =>
      match (recorded.1.deliveries delivery).phase with
      | .acquiring => [false, true].all fun stopped =>
          !(recorded.1.deliveries stopped).phase.ended ||
            (recorded.2 stopped).all fun deadline => decide (deadline < recorded.1.now)
      | .releasing _ => false
      | _ => true
  | .commandFails _ _ => false
  | .advance _ | .crash _ =>
      [false, true].all fun delivery => (recorded.1.deliveries delivery).phase != .replied false
  | _ => true

theorem redelivered_of_lateEnough (recorded : State Bool × Leases Bool) (action : Action Bool)
    (checked : lateEnough recorded action = true) : Redelivered recorded action := by
  have every : ∀ delivery : Bool, delivery ∈ [false, true] := by decide
  have calm (checked : [false, true].all
      (fun delivery => (recorded.1.deliveries delivery).phase != .replied false) = true) :
      ¬recorded.1.Waiting := by
    rintro ⟨delivery, refused⟩
    have other := List.all_eq_true.mp checked delivery (every delivery)
    rw [refused] at other
    cases other
  cases action with
  | advance => exact fun waiting => absurd waiting (calm checked)
  | crash => exact fun waiting => absurd waiting (calm checked)
  | command delivery =>
      cases phase : (recorded.1.deliveries delivery).phase with
      | acquiring =>
          simp only [Redelivered, phase]
          simp only [lateEnough, phase] at checked
          intro _ stopped ended runs
          obtain ⟨deadline, lease, unexpired⟩ := runs
          have late := List.all_eq_true.mp checked stopped (every stopped)
          rw [ended, lease, Option.all_some, Bool.not_true, Bool.false_or,
            decide_eq_true_eq] at late
          exact absurd unexpired (Nat.not_le.mpr late)
      | releasing =>
          simp only [lateEnough, phase] at checked
          cases checked
      | _ => simp only [Redelivered, phase]
  | commandFails => cases checked
  | _ => trivial

/-- The worker of the first delivery crashes before it has sent the mail. BullMQ delivers the
job again when the lease of five minutes has run out, and the mail is sent. -/
theorem redelivered_mail_sent :
    ∃ (recorded : State Bool × Leases Bool) (following : State Bool),
      welcomeMail.recorded.Reachable Redelivered recorded ∧
        (recorded.1.deliveries false).phase = .crashed ∧
        welcomeMail.system.step recorded.1 (.command true) = some following ∧
        welcomeMail.Resolves recorded.1 following := by
  have executed :
      (welcomeMail.recorded.execute lateEnough (State.empty, fun _ => none)
        [.start false, .command false, .proceed false, .crash false, .advance 300001,
          .start true, .command true, .proceed true, .proceed true, .sendResolves true]).map
        (fun recorded => ((recorded.1.deliveries false).phase,
          (recorded.1.deliveries true).phase)) =
      some (.crashed, .completing) := by decide
  obtain ⟨recorded, run, facts⟩ := Option.map_eq_some_iff.mp executed
  obtain ⟨crashed, completing⟩ := Prod.mk.inj facts
  have reached : welcomeMail.recorded.Reachable Redelivered recorded :=
    .of_execute redelivered_of_lateEnough ⟨⟨rfl, rfl, rfl⟩, rfl⟩ run
  have stepped : ∃ following, welcomeMail.system.step recorded.1 (.command true) =
      some following := by
    change ∃ following, welcomeMail.step recorded.1 (.command true) = some following
    simp only [Setup.step, completing, Setup.afterError]
    exact ⟨_, rfl⟩
  obtain ⟨following, stepped⟩ := stepped
  have redelivered : Redelivered recorded (.command true) := by
    simp only [Redelivered, completing]
  exact ⟨recorded, following, reached, crashed, stepped,
    welcomeMail.noSilentDrop_of_redelivered reached redelivered stepped⟩

end BackendFoundation.Jobs
