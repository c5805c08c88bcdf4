/-
A delivery that resolves makes BullMQ forget the job.

A delivery that finds the key taken resolves without a look at who has taken it.
That is sound as long as the key is never found in the hands of a delivery that
has stopped with its mail unsent, and the holder that was found does not stop
before the refused delivery has returned.
-/

import BackendFoundation.Jobs.Steps

namespace BackendFoundation.Jobs

open Transition Redis Redis.Slot

variable {Delivery : Type}

def Setup.Holds (setup : Setup Delivery) (state : State Delivery) (delivery : Delivery) : Prop :=
  get state.now state.key = some (setup.token delivery)

/-- The mail has been sent, or a delivery that is still executing holds the key. -/
def Setup.InHand (setup : Setup Delivery) (state : State Delivery)
    (among : Delivery → Prop) : Prop :=
  state.sent ≠ [] ∨ ∃ holder, among holder ∧
    (state.deliveries holder).phase.executing = true ∧ setup.Holds state holder

/-- An acquire has been refused and the delivery has not returned yet. -/
def State.Waiting (state : State Delivery) : Prop :=
  ∃ delivery, (state.deliveries delivery).phase = .replied false

/-- The delivery may stop or give the key back: its mail is sent, it does not hold the
key, or nobody is about to return on its account. -/
def Setup.MayStop (setup : Setup Delivery) (state : State Delivery) (delivery : Delivery) : Prop :=
  state.Waiting → state.sent = [] → ¬setup.Holds state delivery

/-- No acquire finds the key held by a delivery that has stopped with the mail unsent;
and while a refused delivery has not returned, the holder with its mail unsent does not
crash, release the key or lose its lease. -/
def Setup.Handed (setup : Setup Delivery) (state : State Delivery) : Action Delivery → Prop
  | .advance milliseconds =>
      state.Waiting → state.sent = [] →
        get (state.now + milliseconds) state.key = get state.now state.key
  | .command delivery =>
      match (state.deliveries delivery).phase with
      | .acquiring => ∀ holder, setup.Holds state holder → state.sent = [] →
          (state.deliveries holder).phase.executing = true
      | .releasing _ => setup.MayStop state delivery
      | _ => True
  | .commandFails delivery _ =>
      match (state.deliveries delivery).phase with
      | .releasing _ => setup.MayStop state delivery
      | _ => True
  | .crash delivery => setup.MayStop state delivery
  | _ => True

/-- Who can be in the key, what the late phases say about the mail, and who stands
behind a refusal. -/
structure Setup.Custody (setup : Setup Delivery) (state : State Delivery) : Prop where
  marked : ∀ cell, state.key = some cell →
    (∃ delivery, cell.value = setup.token delivery) ∨ state.sent ≠ []
  committed : ∀ delivery, (state.deliveries delivery).phase = .completing ∨
    (∃ reason, (state.deliveries delivery).phase = .marking reason) → state.sent ≠ []
  waiting : state.Waiting → setup.InHand state fun _ => True

section Steps

variable {setup : Setup Delivery} {state : State Delivery} {delivery : Delivery}
  {action : Action Delivery} {key : Slot String} {after : DeliveryState}

theorem Setup.Writes.marked {phase : Phase}
    (writes : setup.Writes state delivery phase key) (custody : setup.Custody state)
    (current : phase = (state.deliveries delivery).phase) {cell : Cell String}
    (stored : key = some cell) :
    (∃ holder, cell.value = setup.token holder) ∨ state.sent ≠ [] := by
  cases writes with
  | nothing => exact custody.marked cell stored
  | acquire =>
      rcases JobExecutionStore.acquire_cell stored with old | new
      · exact custody.marked cell old
      · exact .inl ⟨delivery, new⟩
  | complete completing => exact .inr (custody.committed delivery (.inl (current ▸ completing)))
  | markAmbiguousSent marking =>
      exact .inr (custody.committed delivery (.inr ⟨_, current ▸ marking⟩))
  | release => exact custody.marked cell (JobExecutionStore.release_cell stored)
  | extend =>
      obtain ⟨earlier, old, same⟩ := JobExecutionStore.extend_cell stored
      exact same ▸ custody.marked earlier old

/-- With the mail unsent, only the holder's own release takes the key from it. -/
theorem Setup.Writes.holds {phase : Phase} {holder : Delivery}
    (writes : setup.Writes state delivery phase key) (custody : setup.Custody state)
    (current : phase = (state.deliveries delivery).phase) (unsent : state.sent = [])
    (held : setup.Holds state holder)
    (keeps : ∀ error, phase = .releasing error → ¬setup.Holds state delivery) :
    get state.now key = some (setup.token holder) := by
  cases writes with
  | nothing => exact held
  | acquire => rw [JobExecutionStore.acquire_of_get held]; exact held
  | complete completing =>
      exact absurd unsent (custody.committed delivery (.inl (current ▸ completing)))
  | markAmbiguousSent marking =>
      exact absurd unsent (custody.committed delivery (.inr ⟨_, current ▸ marking⟩))
  | release releasing =>
      rw [JobExecutionStore.release_of_get held]
      · exact held
      · intro same
        exact keeps _ releasing (setup.token_injective same ▸ held)
  | extend => rw [JobExecutionStore.get_extend]; exact held

/-- Only its own turn can stop the holder, and that turn is excluded or has sent. -/
theorem Setup.Turn.executing
    (turn : setup.Turn state delivery (state.deliveries delivery) action key after)
    (custody : setup.Custody state) (handed : setup.Handed state action)
    (waiting : state.Waiting) (unsent : state.sent = []) (held : setup.Holds state delivery)
    (executing : (state.deliveries delivery).phase.executing = true) :
    after.phase.executing = true := by
  have committed := custody.committed delivery
  cases turn with
  | starts phase | acquires phase | returns phase =>
      rw [phase] at executing
      cases executing
  | completes phase => exact absurd unsent (committed (.inl phase))
  | marks phase => exact absurd unsent (committed (.inr ⟨_, phase⟩))
  | releases phase =>
      simp only [Handed, phase] at handed
      exact absurd held (handed waiting unsent)
  | fails applied pending writes =>
      cases phase : (state.deliveries delivery).phase with
      | completing => exact absurd unsent (committed (.inl phase))
      | marking reason => exact absurd unsent (committed (.inr ⟨_, phase⟩))
      | releasing error =>
          simp only [Handed, phase] at handed
          exact absurd held (handed waiting unsent)
      | acquiring =>
          rw [phase] at executing
          cases executing
      | _ =>
          rw [phase] at pending
          cases pending
  | proceeds _ following =>
      rcases following with rfl | rfl
      · rfl
      · simp only [DeliveryState.goto, beforeSend]
        split <;> rfl
  | throws => rfl
  | beats | renews => exact executing
  | crashes => exact absurd held (handed waiting unsent)

/-- While a refused delivery has not returned, the holder keeps the key. -/
theorem Setup.Turn.held
    (turn : setup.Turn state delivery (state.deliveries delivery) action key after)
    (custody : setup.Custody state) (handed : setup.Handed state action)
    (waiting : state.Waiting) (unsent : state.sent = []) {holder : Delivery}
    (held : setup.Holds state holder) : get state.now key = some (setup.token holder) := by
  cases turn with
  | renews writes =>
      rcases writes with rfl | rfl
      · exact held
      · rw [JobExecutionStore.get_extend]
        exact held
  | acquires phase => exact (Writes.acquire phase).holds custody rfl unsent held (by simp [phase])
  | completes phase => exact absurd unsent (custody.committed delivery (.inl phase))
  | marks phase => exact absurd unsent (custody.committed delivery (.inr ⟨_, phase⟩))
  | releases phase =>
      simp only [Handed, phase] at handed
      exact (Writes.release phase).holds custody rfl unsent held
        fun _ _ => handed waiting unsent
  | fails applied pending writes =>
      apply writes.holds custody rfl unsent held
      intro error releasing
      simp only [Handed, releasing] at handed
      exact handed waiting unsent
  | starts | returns | proceeds | throws | beats | crashes => exact held

/-- A refusal that has just been written stands on the delivery that holds the key. -/
theorem Setup.Turn.refused
    (turn : setup.Turn state delivery (state.deliveries delivery) action key after)
    (custody : setup.Custody state) (handed : setup.Handed state action)
    (fresh : (state.deliveries delivery).phase ≠ .replied false)
    (refused : after.phase = .replied false) :
    key = state.key ∧ (state.deliveries delivery).phase = .acquiring ∧
      setup.InHand state fun _ => True := by
  cases turn with
  | acquires phase =>
      have answer := JobExecutionStore.acquire_refused (Phase.replied.inj refused)
      refine ⟨answer.1, phase, ?_⟩
      obtain ⟨cell, alive⟩ := answer.2
      rcases custody.marked cell (live_some_iff.mp alive).1 with ⟨holder, marked⟩ | sent
      · by_cases sent : state.sent = []
        · have held : setup.Holds state holder := get_eq_some_iff.mpr ⟨cell, alive, marked⟩
          simp only [Handed, phase] at handed
          exact .inr ⟨holder, trivial, handed holder held sent, held⟩
        · exact .inl sent
      · exact .inl sent
  | completes _ following => rcases following with rfl | rfl <;> cases refused
  | proceeds _ following =>
      rcases following with rfl | rfl
      · cases refused
      · simp only [DeliveryState.goto, beforeSend] at refused
        split at refused <;> cases refused
  | fails _ pending =>
      cases phase : (state.deliveries delivery).phase <;> rw [phase] at pending <;>
        cases pending <;> cases refused
  | beats | renews => exact absurd refused fresh
  | starts | marks | releases | returns | throws | crashes => cases refused

theorem Setup.Turn.committed
    (turn : setup.Turn state delivery (state.deliveries delivery) action key after)
    (custody : setup.Custody state)
    (late : after.phase = .completing ∨ ∃ reason, after.phase = .marking reason) :
    state.sent ≠ [] := by
  have committed := custody.committed delivery
  cases turn with
  | completes phase => exact committed (.inl phase)
  | marks phase => exact committed (.inr ⟨_, phase⟩)
  | beats | renews => exact committed late
  | fails _ pending =>
      cases phase : (state.deliveries delivery).phase <;> rw [phase] at pending <;>
        cases pending <;> simp [DeliveryState.goto] at late
  | proceeds _ following =>
      rcases following with rfl | rfl
      · simp [DeliveryState.goto] at late
      · simp only [DeliveryState.goto, beforeSend] at late
        split at late <;> simp at late
  | starts | acquires | releases | returns | throws | crashes =>
      simp [DeliveryState.goto] at late

end Steps

variable [DecidableEq Delivery]

/-- If a delivery resolves in this step, the mail is sent or in other hands. -/
def Setup.Resolves (setup : Setup Delivery) (state following : State Delivery) : Prop :=
  ∀ delivery, (state.deliveries delivery).phase ≠ .resolved →
    (following.deliveries delivery).phase = .resolved →
    setup.InHand following fun other => other ≠ delivery

def Setup.NoSilentDrop (setup : Setup Delivery)
    (allowed : State Delivery → Action Delivery → Prop) : Prop :=
  ∀ state action following, setup.system.Reachable allowed state → allowed state action →
    setup.system.step state action = some following → setup.Resolves state following

section Invariant

variable {setup : Setup Delivery} {state following : State Delivery}
  {action : Action Delivery}

theorem Setup.Custody.waiting_step (custody : setup.Custody state)
    (handed : setup.Handed state action) {actor : Delivery} {key : Slot String}
    {after : DeliveryState}
    (turn : setup.Turn state actor (state.deliveries actor) action key after)
    (waiting : { state.update actor after with key := key }.Waiting) :
    setup.InHand { state.update actor after with key := key } fun _ => True := by
  by_cases sent : state.sent = []
  · by_cases earlier : state.Waiting
    · rcases custody.waiting earlier with committed | ⟨holder, _, executing, held⟩
      · exact absurd sent committed
      · refine .inr ⟨holder, trivial, ?_, turn.held custody handed earlier sent held⟩
        by_cases same : holder = actor
        · subst same
          simpa using turn.executing custody handed earlier sent held executing
        · change ((state.update actor after).deliveries holder).phase.executing = true
          rw [State.update_other _ _ same]
          exact executing
    · obtain ⟨delivery, refused⟩ := waiting
      have same : delivery = actor := by
        by_contra different
        change ((state.update actor after).deliveries delivery).phase = _ at refused
        rw [State.update_other _ _ different] at refused
        exact earlier ⟨delivery, refused⟩
      subst same
      obtain ⟨rfl, acquiring, inHand⟩ := turn.refused custody handed
        (fun phase => earlier ⟨delivery, phase⟩) (by simpa using refused)
      rcases inHand with committed | ⟨holder, _, executing, held⟩
      · exact absurd sent committed
      · refine .inr ⟨holder, trivial, ?_, held⟩
        have different : holder ≠ delivery := by
          intro equal
          subst equal
          rw [acquiring] at executing
          cases executing
        change ((state.update delivery after).deliveries holder).phase.executing = true
        rw [State.update_other _ _ different]
        exact executing
  · exact .inl sent

theorem Setup.Custody.step (custody : setup.Custody state)
    (handed : setup.Handed state action) (move : setup.Move state action following) :
    setup.Custody following := by
  cases move with
  | advances milliseconds =>
      refine
        { marked := custody.marked
          committed := custody.committed
          waiting := ?_ }
      intro waiting
      rcases custody.waiting waiting with sent | ⟨holder, _, executing, held⟩
      · exact .inl sent
      · by_cases sent : state.sent = []
        · exact .inr ⟨holder, trivial, executing, (handed waiting sent).trans held⟩
        · exact .inl sent
  | acts actor turn =>
      constructor
      · intro cell stored
        exact turn.writes.marked custody rfl stored
      · intro delivery late
        by_cases same : delivery = actor
        · subst same
          exact turn.committed custody (by simpa using late)
        · change ((state.update actor _).deliveries delivery).phase = _ ∨
            ∃ reason, ((state.update actor _).deliveries delivery).phase = _ at late
          rw [State.update_other _ _ same] at late
          exact custody.committed delivery late
      · exact custody.waiting_step handed turn
  | sends =>
      exact
        { marked := fun _ _ => .inr (List.cons_ne_nil _ _)
          committed := fun _ _ => List.cons_ne_nil _ _
          waiting := fun _ => .inl (List.cons_ne_nil _ _) }

end Invariant

omit [DecidableEq Delivery] in
theorem Setup.custody_initial (setup : Setup Delivery) {state : State Delivery}
    (initial : state.initial) : setup.Custody state := by
  obtain ⟨key, deliveries, _⟩ := initial
  constructor
  · simp [key]
  · simp [deliveries, DeliveryState.fresh]
  · intro given
    obtain ⟨delivery, refused⟩ := given
    simp [deliveries, DeliveryState.fresh] at refused

theorem Setup.custody_of_reachable (setup : Setup Delivery) {state : State Delivery}
    (reached : setup.system.Reachable setup.Handed state) : setup.Custody state := by
  apply reached.invariant
  · intro start initial
    exact setup.custody_initial initial
  · intro before action after custody handed stepped
    exact custody.step handed (setup.moved stepped)

theorem noSilentDrop_of_handed (setup : Setup Delivery) :
    setup.NoSilentDrop setup.Handed := by
  intro state action following reached _ stepped delivery running resolved
  have custody := setup.custody_of_reachable reached
  cases setup.moved stepped with
  | advances => exact absurd resolved running
  | sends => exact .inl (List.cons_ne_nil _ _)
  | acts actor turn =>
      by_cases same : delivery = actor
      · subst same
        simp only [State.update_self] at resolved
        cases turn with
        | completes phase => exact .inl (custody.committed delivery (.inl phase))
        | returns refused =>
            rcases custody.waiting ⟨delivery, refused⟩ with sent | ⟨holder, _, executing, held⟩
            · exact .inl sent
            · have different : holder ≠ delivery := by
                intro equal
                subst equal
                rw [refused] at executing
                cases executing
              refine .inr ⟨holder, different, ?_, held⟩
              change ((state.update delivery _).deliveries holder).phase.executing = true
              rw [State.update_other _ _ different]
              exact executing
        | proceeds _ following =>
            rcases following with rfl | rfl
            · cases resolved
            · simp only [DeliveryState.goto, Setup.beforeSend] at resolved
              split at resolved <;> cases resolved
        | fails _ pending =>
            cases phase : (state.deliveries delivery).phase <;> rw [phase] at pending <;>
              cases pending <;> cases resolved
        | beats | renews => exact absurd resolved running
        | starts | acquires | marks | releases | throws | crashes => cases resolved
      · change ((state.update actor _).deliveries delivery).phase = _ at resolved
        rw [State.update_other _ _ same] at resolved
        exact absurd resolved running

/-- The worker of the first delivery crashes before it has sent the mail. BullMQ delivers
the job again while the lease runs, and the second delivery resolves. -/
theorem not_noSilentDrop :
    ¬∀ setup : Setup Bool, setup.NoSilentDrop anyAction := by
  intro claim
  have executed :
      (welcomeMail.system.execute (fun _ _ => true) State.empty
        [.start false, .command false, .proceed false, .crash false, .start true,
          .command true]).map
        (fun state => ((state.deliveries false).phase, (state.deliveries true).phase,
          state.sent)) =
      some (.crashed, .replied false, []) := by decide
  obtain ⟨state, run, facts⟩ := Option.map_eq_some_iff.mp executed
  simp only [Prod.mk.injEq] at facts
  obtain ⟨crashed, refused, unsent⟩ := facts
  have reached : welcomeMail.system.Reachable anyAction state :=
    .of_execute (fun _ _ _ => trivial) ⟨rfl, rfl, rfl⟩ run
  have returned : welcomeMail.system.step state (.proceed true) =
      some (state.update true ((state.deliveries true).goto .resolved)) := by
    change (welcomeMail.local? (state.deliveries true)).map _ = _
    simp only [Setup.local?, refused]
    rfl
  have inHand := claim welcomeMail state (.proceed true) _ reached trivial returned true
    (by simp [refused]) (by rw [State.update_self]; rfl)
  rcases inHand with sent | ⟨holder, different, executing, _⟩
  · exact sent unsent
  · cases holder with
    | true => exact different rfl
    | false =>
        rw [State.update_other _ _ different, crashed] at executing
        cases executing

end BackendFoundation.Jobs
