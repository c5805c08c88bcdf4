/-
Whether a runWithLock call that loses its lock to another one learns of it. The only
source of that knowledge is the flag that heartbeats set; the reply to the release in the
finally clause is not looked at.
-/

import BackendFoundation.Locks.Ownership
import BackendFoundation.Transition.History

namespace BackendFoundation.Locks

open Transition Redis Redis.Slot

variable {Call Value : Type} [DecidableEq Call]

/-- A call that another one has overtaken rejects. -/
def State.Reports (state : State Call Value) : Prop :=
  ∀ call outcome, (state.calls call).phase = .returned outcome →
    state.overtaken call = true → ∃ error, outcome = .error error

def Setup.Reported (setup : Setup Call) (Value : Type)
    (allowed : State Call Value → Action Call Value → Prop) : Prop :=
  ∀ state : State Call Value, setup.system.Reachable allowed state → state.Reports

/-- What has come to a call (history): a heartbeat that was refused or failed, and another
runWithLock call that asked for the lock after the lease had run out. -/
structure Signs (Call : Type) where
  told : Call → Bool
  contested : Call → Bool

def Signs.blank : Signs Call :=
  { told := fun _ => false
    contested := fun _ => false }

def tellsLoss (call : Call) (before : CallState Value) : Action Call Value → Bool
  | .extendAnswered actor => actor == call && before.heartbeat == .answered false
  | .extendFails actor => actor == call
  | _ => false

def Setup.contests (setup : Setup Call) (lock : Lock Call) (call : Call) :
    Action Call Value → Bool
  | .acquire actor =>
      setup.entry actor == .runWithLock && actor != call && lock.lapsed call
  | _ => false

def Setup.recordSigns (setup : Setup Call) (state : State Call Value)
    (action : Action Call Value) (_ : State Call Value) (signs : Signs Call) : Signs Call :=
  { told := fun call => signs.told call || tellsLoss call (state.calls call) action
    contested := fun call => signs.contested call || setup.contests state.lock call action }

def Setup.recorded (setup : Setup Call) (Value : Type) :
    Transition.System (State Call Value × Signs Call) (Action Call Value) :=
  setup.system.recording setup.recordSigns Signs.blank

/-- No handler resolves after the lease of its call has run out and another runWithLock call
has asked for the lock, unless a heartbeat of the call has been refused or has failed. -/
def Informed (recorded : State Call Value × Signs Call) : Action Call Value → Prop
  | .handlerResolves call _ => recorded.1.lock.lapsed call = true →
      recorded.2.contested call = true → recorded.2.told call = true
  | _ => True

def Phase.outcome : Phase Value → Option (Except RunError Value)
  | .releasing outcome | .released outcome | .returned outcome => some outcome
  | _ => none

theorem Phase.outcome_of_underLock {phase : Phase Value} (under : phase.underLock = true) :
    phase.outcome = none := by
  cases phase with
  | answered | running => rfl
  | _ => cases under

theorem Phase.asked_of_underLock {phase : Phase Value} (under : phase.underLock = true) :
    phase ≠ .ready := by
  intro ready
  rw [ready] at under
  cases under

/-- An overtaken call: its lease has ended for good, and it rejects if it settles. -/
structure Signs.Lost (signs : Signs Call) (state : State Call Value) (call : Call) : Prop where
  asked : (state.calls call).phase ≠ .ready
  unleased : ¬state.lock.Leased call
  contested : signs.contested call = true
  rejects : ∀ outcome, (state.calls call).phase.outcome = some outcome →
    ∃ error, outcome = .error error

structure Signs.Tied (signs : Signs Call) (state : State Call Value) (call : Call) : Prop where
  begun : (state.calls call).phase.underLock = true →
    ∃ deadline, state.lock.deadline call = some deadline
  heard : signs.told call = true → (state.calls call).lockLost = true
  lost : state.overtaken call = true → signs.Lost state call

section Turn

variable {setup : Setup Call} {lock lock' : Lock Call} {call : Call}
  {before after : CallState Value} {action : Action Call Value}

theorem Setup.Turn.underLock (turn : setup.Turn lock call before action lock' after)
    (under : after.phase.underLock = true) :
    before.phase.underLock = true ∧
      (lock' = lock ∨ ∃ ttlMs, lock' = (lock.extend setup.token call ttlMs).1) := by
  cases turn with
  | fails | skips | holds | resolves | rejects | releases | returns | throws => cases under
  | starts phase => exact ⟨by rw [phase]; rfl, .inl rfl⟩
  | beats | learns | misses => exact ⟨under, .inl rfl⟩
  | extends_ => exact ⟨under, .inr ⟨_, rfl⟩⟩

/-- A heartbeat reply that tells of the loss sets the flag, and nothing resets it. -/
theorem Setup.Turn.lockLost_iff (turn : setup.Turn lock call before action lock' after) :
    after.lockLost = true ↔ before.lockLost = true ∨ tellsLoss call before action = true := by
  cases turn with
  | @learns extended heartbeat =>
      simp only [tellsLoss, heartbeat, beq_self_eq_true, Bool.true_and, Bool.or_eq_true,
        beq_iff_eq, Heartbeat.answered.injEq, Bool.not_eq_true']
  | misses => simp only [tellsLoss, beq_self_eq_true, or_true]
  | _ => simp only [tellsLoss, CallState.goto, Bool.false_eq_true, or_false]

theorem Setup.Turn.tells_other (turn : setup.Turn lock call before action lock' after)
    {other : Call} (different : other ≠ call) (known : CallState Value) :
    tellsLoss other known action = false := by
  cases turn with
  | learns | misses => simp only [tellsLoss, beq_false_of_ne different.symm, Bool.false_and]
  | _ => rfl

theorem Setup.Turn.asked (turn : setup.Turn lock call before action lock' after)
    (asked : before.phase ≠ .ready) : after.phase ≠ .ready := by
  cases turn with
  | beats | extends_ | learns | misses => exact asked
  | _ =>
      intro ready
      cases ready

theorem Setup.Turn.rejects_after (turn : setup.Turn lock call before action lock' after)
    (rejects : ∀ outcome, before.phase.outcome = some outcome → ∃ error, outcome = .error error)
    (aware : ∀ result, action = .handlerResolves call result → before.lockLost = true)
    (outcome : Except RunError Value) (settled : after.phase.outcome = some outcome) :
    ∃ error, outcome = .error error := by
  cases turn with
  | fails | skips | holds | starts => cases settled
  | beats | extends_ | learns | misses => exact rejects outcome settled
  | resolves =>
      cases settled
      rw [aware _ rfl, if_pos rfl]
      exact ⟨_, rfl⟩
  | rejects | throws =>
      cases settled
      exact ⟨_, rfl⟩
  | releases phase | returns phase =>
      apply rejects
      rw [phase]
      exact settled

end Turn

section Steps

variable {setup : Setup Call} {state : State Call Value} {signs : Signs Call} {call : Call}

omit [DecidableEq Call] in
theorem Signs.Lost.unmoved {signs' : Signs Call} {state' : State Call Value}
    (lost : signs.Lost state call) (same : state'.calls call = state.calls call)
    (contested : signs.contested call = true → signs'.contested call = true)
    (ended : ¬state.lock.Leased call → ¬state'.lock.Leased call) : signs'.Lost state' call where
  asked := by
    rw [same]
    exact lost.asked
  unleased := ended lost.unleased
  contested := contested lost.contested
  rejects := by
    rw [same]
    exact lost.rejects

omit [DecidableEq Call] in
/-- The signs of a call that does not move, and whose lease has ended no less. -/
theorem Signs.Tied.unmoved {signs' : Signs Call} {state' : State Call Value}
    (tied : signs.Tied state call) (same : state'.calls call = state.calls call)
    (deadline : (state.calls call).phase.underLock = true →
      state'.lock.deadline call = state.lock.deadline call)
    (told : signs'.told call = signs.told call)
    (lost : state'.overtaken call = true → signs'.Lost state' call) :
    signs'.Tied state' call where
  begun := by
    rw [same]
    intro under
    rw [deadline under]
    exact tied.begun under
  heard := by
    rw [told, same]
    exact tied.heard
  lost := lost

theorem Setup.acquire_overtaken (setup : Setup Call) (state : State Call Value)
    (actor call : Call) : (setup.acquire state actor).overtaken call =
      (state.overtaken call ||
        ((state.lock.acquire setup.token actor (setup.ttlMs actor)).2 &&
          setup.overtakes state actor call)) :=
  rfl

theorem Setup.recordSigns_told (setup : Setup Call) (state following : State Call Value)
    (action : Action Call Value) (signs : Signs Call) (call : Call) :
    (setup.recordSigns state action following signs).told call =
      (signs.told call || tellsLoss call (state.calls call) action) :=
  rfl

theorem Setup.recordSigns_contested (setup : Setup Call) (state following : State Call Value)
    (action : Action Call Value) (signs : Signs Call) (call : Call) :
    (setup.recordSigns state action following signs).contested call =
      (signs.contested call || setup.contests state.lock call action) :=
  rfl

/-- No lease runs where the lock is granted. -/
theorem Lock.Sound.unleased_of_granted {token : Call → String} {lock : Lock Call}
    {ttlMs : Nat} (sound : lock.Sound token) (granted : (lock.acquire token call ttlMs).2 = true)
    (owner : Call) : ¬lock.Leased owner := by
  intro leased
  rw [sound.acquire_refused leased] at granted
  cases granted

/-- The call that asks has not been overtaken before, and no heartbeat of it has been sent. -/
theorem Signs.Tied.asks (tied : signs.Tied state call)
    (phase : (state.calls call).phase = .ready) :
    (setup.recordSigns state (.acquire call) (setup.acquire state call) signs).Tied
      (setup.acquire state call) call := by
  have moved : (setup.acquire state call).calls call = (state.calls call).goto
      (.answered (state.lock.acquire setup.token call (setup.ttlMs call)).2) :=
    state.update_self call _
  constructor
  · rw [moved]
    intro under
    cases acquired : (state.lock.acquire setup.token call (setup.ttlMs call)).2 with
    | false =>
        rw [acquired] at under
        cases under
    | true => exact ⟨_, (Lock.acquire_granted acquired).2⟩
  · have untold : tellsLoss call (state.calls call) (.acquire call) = false := rfl
    rw [moved, setup.recordSigns_told, untold, Bool.or_false]
    exact tied.heard
  · intro overtaken
    have other : setup.overtakes state call call = false := by
      simp only [Setup.overtakes, bne_self_eq_false, Bool.and_false, Bool.false_and]
    rw [setup.acquire_overtaken, other, Bool.and_false, Bool.or_false] at overtaken
    exact absurd phase (tied.lost overtaken).asked

/-- Another call asks. Where it is granted the lock, the lease that it overtakes has lapsed. -/
theorem Signs.Tied.asked_by {actor : Call} (sound : state.lock.Sound setup.token)
    (tied : signs.Tied state call) (different : call ≠ actor) :
    (setup.recordSigns state (.acquire actor) (setup.acquire state actor) signs).Tied
      (setup.acquire state actor) call := by
  have unmoved : (setup.acquire state actor).calls call = state.calls call :=
    State.update_other state _ different
  have deadline : (setup.acquire state actor).lock.deadline call = state.lock.deadline call :=
    Lock.acquire_deadline different
  have now : state.lock.now ≤ (setup.acquire state actor).lock.now :=
    Nat.le_of_eq Lock.acquire_now.symm
  have ended : ¬state.lock.Leased call → ¬(setup.acquire state actor).lock.Leased call :=
    fun unleased leased => unleased (leased.of_deadline deadline.symm now)
  apply tied.unmoved unmoved (fun _ => deadline) (Bool.or_false _)
  rw [setup.acquire_overtaken, Bool.or_eq_true, Bool.and_eq_true]
  rintro (before | ⟨granted, rival⟩)
  · refine (tied.lost before).unmoved unmoved ?_ ended
    intro contested
    rw [setup.recordSigns_contested, contested, Bool.true_or]
  · simp only [Setup.overtakes, Bool.and_eq_true, beq_iff_eq, bne_iff_ne] at rival
    obtain ⟨⟨⟨entry, _⟩, _⟩, under⟩ := rival
    have unleased := sound.unleased_of_granted granted call
    obtain ⟨instant, begun⟩ := tied.begun under
    constructor
    · rw [unmoved]
      exact Phase.asked_of_underLock under
    · exact ended unleased
    · rw [setup.recordSigns_contested]
      simp only [Setup.contests, entry, beq_self_eq_true, bne_iff_ne.mpr different.symm,
        Lock.lapsed_of_unleased begun unleased, Bool.and_self, Bool.or_true]
    · intro outcome settled
      rw [unmoved, Phase.outcome_of_underLock under] at settled
      cases settled

/-- A call takes its turn. -/
theorem Signs.Tied.acts {action : Action Call Value} {lock : Lock Call}
    {after : CallState Value} (sound : state.lock.Sound setup.token)
    (tied : signs.Tied state call) (informed : Informed (state, signs) action)
    (turn : setup.Turn state.lock call (state.calls call) action lock after) :
    (setup.recordSigns state action { state.update call after with lock := lock } signs).Tied
      { state.update call after with lock := lock } call := by
  have moved : (state.update call after).calls call = after := state.update_self call after
  constructor
  · change ((state.update call after).calls call).phase.underLock = true → _
    rw [moved]
    intro under
    obtain ⟨before, same | ⟨ttlMs, extended⟩⟩ := turn.underLock under
    · rw [same]
      exact tied.begun before
    · rw [extended]
      exact Lock.extend_begun (tied.begun before)
  · change _ → ((state.update call after).calls call).lockLost = true
    rw [moved, setup.recordSigns_told, Bool.or_eq_true]
    rintro (told | tells)
    · exact turn.lockLost_iff.mpr (.inl (tied.heard told))
    · exact turn.lockLost_iff.mpr (.inr tells)
  · intro overtaken
    have lost := tied.lost overtaken
    constructor
    · change ((state.update call after).calls call).phase ≠ _
      rw [moved]
      exact turn.asked lost.asked
    · exact turn.served.unleased setup.token_injective sound lost.unleased
    · rw [setup.recordSigns_contested, lost.contested, Bool.true_or]
    · change ∀ outcome, ((state.update call after).calls call).phase.outcome = _ → _
      rw [moved]
      apply turn.rejects_after lost.rejects
      rintro result rfl
      -- What the run says of replies, the code has put into its flag.
      cases turn with
      | resolves phase =>
          obtain ⟨instant, begun⟩ := tied.begun (by rw [phase]; rfl)
          have lapsed := Lock.lapsed_of_unleased begun lost.unleased
          exact tied.heard (informed lapsed lost.contested)

/-- A command of another call, or of a handle. -/
theorem Signs.Tied.served {actor : Call} {action : Action Call Value} {state' : State Call Value}
    (sound : state.lock.Sound setup.token) (tied : signs.Tied state call)
    (served : state.lock.Served setup.token actor state'.lock)
    (unmoved : state'.calls call = state.calls call)
    (kept : state'.overtaken = state.overtaken)
    (different : (state.calls call).phase.underLock = true → call ≠ actor)
    (untold : tellsLoss call (state.calls call) action = false) :
    (setup.recordSigns state action state' signs).Tied state' call := by
  apply tied.unmoved unmoved
  · intro under
    exact served.deadline (different under)
  · rw [setup.recordSigns_told, untold, Bool.or_false]
  · rw [kept]
    intro overtaken
    apply (tied.lost overtaken).unmoved unmoved
    · intro contested
      rw [setup.recordSigns_contested, contested, Bool.true_or]
    · exact served.unleased setup.token_injective sound

theorem Signs.Tied.advance {milliseconds : Nat} (tied : signs.Tied state call) :
    (setup.recordSigns state (.advance milliseconds)
      { state with lock := state.lock.advance milliseconds } signs).Tied
      { state with lock := state.lock.advance milliseconds } call := by
  have same : ({ state with lock := state.lock.advance milliseconds } :
      State Call Value).calls call = state.calls call := rfl
  apply tied.unmoved same (fun _ => rfl) (Bool.or_false _)
  intro overtaken
  apply (tied.lost overtaken).unmoved same
  · intro contested
    rw [setup.recordSigns_contested, contested, Bool.true_or]
  · intro unleased leased
    exact unleased (leased.of_deadline rfl (Nat.le_add_right _ _))

theorem Signs.Tied.step {action : Action Call Value} {following : State Call Value}
    (sound : state.lock.Sound setup.token) (tied : ∀ call, signs.Tied state call)
    (informed : Informed (state, signs) action)
    (stepped : setup.step state action = some following) (call : Call) :
    (setup.recordSigns state action following signs).Tied following call := by
  cases setup.moved stepped with
  | advances milliseconds => exact (tied call).advance
  | @acquires actor phase =>
      by_cases same : call = actor
      · subst same
        exact (tied call).asks phase
      · exact (tied call).asked_by sound same
  | @acts _ actor lock after turn =>
      by_cases same : call = actor
      · subst same
        exact (tied call).acts sound informed turn
      · exact (tied call).served sound turn.served (state.update_other after same) rfl
          (fun _ => same) (turn.tells_other same _)
  | @extendsHandle actor ttlMs phase =>
      apply Signs.Tied.served sound (tied call) (.extend ttlMs)
      · rfl
      · rfl
      · rintro under rfl
        rw [phase] at under
        cases under
      · rfl
  | @releasesHandle actor phase =>
      apply Signs.Tied.served sound (tied call) .release
      · rfl
      · rfl
      · rintro under rfl
        rw [phase] at under
        cases under
      · rfl

end Steps

/-- The call goes on to a phase, and whoever was overtaken still is. -/
def Setup.Proceeds (setup : Setup Call) (state : State Call Value) (call : Call)
    (phase : Phase Value) : Prop :=
  ∃ action following, setup.system.step state action = some following ∧
    (following.calls call).phase = phase ∧ following.overtaken = state.overtaken

theorem Setup.proceeds_update {setup : Setup Call} {state following : State Call Value}
    {call : Call} {action : Action Call Value} {after : CallState Value}
    (stepped : setup.step state action = some following)
    (moved : following.calls = (state.update call after).calls)
    (kept : following.overtaken = state.overtaken) : setup.Proceeds state call after.phase := by
  refine ⟨action, following, stepped, ?_, kept⟩
  rw [moved, State.update_self]

theorem Setup.proceeds_resolves {setup : Setup Call} {state : State Call Value} {call : Call}
    (running : (state.calls call).phase = .running)
    (unaware : (state.calls call).lockLost = false) (result : Value) :
    setup.Proceeds state call (.releasing (.ok result)) := by
  have stepped : setup.step state (.handlerResolves call result) =
      some (state.update call ((state.calls call).goto (.releasing (.ok result)))) := by
    simp only [step, handlerSettles, running, unaware, Bool.false_eq_true, if_false,
      Option.map_some]
  exact setup.proceeds_update stepped rfl rfl

theorem Setup.proceeds_release {setup : Setup Call} {state : State Call Value} {call : Call}
    {outcome : Except RunError Value}
    (releasing : (state.calls call).phase = .releasing outcome) :
    setup.Proceeds state call (.released outcome) := by
  have stepped : setup.step state (.release call) =
      some { state.update call ((state.calls call).goto (.released outcome)) with
        lock := state.lock.release setup.token call } := by
    simp only [step, releasing]
  exact setup.proceeds_update stepped rfl rfl

theorem Setup.proceeds_returns {setup : Setup Call} {state : State Call Value} {call : Call}
    {outcome : Except RunError Value}
    (released : (state.calls call).phase = .released outcome) :
    setup.Proceeds state call (.returned outcome) := by
  have stepped : setup.step state (.releaseAnswered call) =
      some (state.update call ((state.calls call).goto (.returned outcome))) := by
    simp only [step, released]
  exact setup.proceeds_update stepped rfl rfl

/-- A call whose handler runs on unaware of its loss may fulfil. -/
theorem Setup.fulfils_of_unaware {setup : Setup Call} {state : State Call Value} {call : Call}
    (reached : setup.system.Reachable anyAction state)
    (running : (state.calls call).phase = .running)
    (unaware : (state.calls call).lockLost = false) (result : Value) :
    ∃ finish : State Call Value, setup.system.Reachable anyAction finish ∧
      (finish.calls call).phase = .returned (.ok result) ∧
      finish.overtaken = state.overtaken := by
  obtain ⟨_, first, resolves, releasing, kept⟩ := setup.proceeds_resolves running unaware result
  obtain ⟨_, second, releases, released, kept'⟩ := setup.proceeds_release releasing
  obtain ⟨_, third, returns, returned, kept''⟩ := setup.proceeds_returns released
  have settled := (reached.next trivial resolves).next trivial releases
  exact ⟨third, settled.next trivial returns, returned, kept''.trans (kept'.trans kept)⟩

section Exact

variable {setup : Setup Call} {state : State Call Value} {signs : Signs Call}

/-- Where all calls are runWithLock calls, the signs are those of an overtaken call. -/
structure Signs.Exact (signs : Signs Call) (state : State Call Value) : Prop where
  told : ∀ call, (state.calls call).lockLost = true → signs.told call = true
  fresh : ∀ call, (state.calls call).phase = .ready → state.lock.deadline call = none ∧
    signs.contested call = false
  rival : ∀ call owner, owner ≠ call → (state.calls call).phase.underLock = true →
    state.lock.Leased owner → state.overtaken call = true
  contested : ∀ call, (state.calls call).phase.underLock = true →
    signs.contested call = true → state.overtaken call = true

/-- A call that is under its lock after an acquire has just been granted the lock, was overtaken
by the one that has, or was under its lock before an acquire that is refused. -/
theorem Setup.underLock_of_acquire {actor : Call} (sound : state.lock.Sound setup.token)
    (only : ∀ call, setup.entry call = .runWithLock) {call : Call}
    (under : ((setup.acquire state actor).calls call).phase.underLock = true) :
    (call = actor ∧ ∀ owner, ¬state.lock.Leased owner) ∨
      (setup.acquire state actor).overtaken call = true ∨
        (state.lock.acquire setup.token actor (setup.ttlMs actor)).2 = false ∧
          (state.calls call).phase.underLock = true := by
  by_cases same : call = actor
  · subst same
    have moved : ((setup.acquire state call).calls call).phase =
        .answered (state.lock.acquire setup.token call (setup.ttlMs call)).2 :=
      congrArg CallState.phase (state.update_self call _)
    rw [moved] at under
    cases answer : (state.lock.acquire setup.token call (setup.ttlMs call)).2 with
    | true => exact .inl ⟨rfl, sound.unleased_of_granted answer⟩
    | false =>
        rw [answer] at under
        cases under
  · have unmoved : (setup.acquire state actor).calls call = state.calls call :=
      State.update_other state _ same
    rw [unmoved] at under
    right
    cases answer : (state.lock.acquire setup.token actor (setup.ttlMs actor)).2 with
    | true =>
        left
        simp only [setup.acquire_overtaken, answer, Setup.overtakes, only, beq_self_eq_true,
          bne_iff_ne.mpr same, under, Bool.and_self, Bool.or_true]
    | false => exact .inr ⟨rfl, under⟩

theorem Signs.Exact.acquire {actor : Call} (sound : state.lock.Sound setup.token)
    (only : ∀ call, setup.entry call = .runWithLock) (exact_ : signs.Exact state)
    (phase : (state.calls actor).phase = .ready) :
    (setup.recordSigns state (.acquire actor) (setup.acquire state actor) signs).Exact
      (setup.acquire state actor) := by
  have moved : (setup.acquire state actor).calls actor = (state.calls actor).goto
      (.answered (state.lock.acquire setup.token actor (setup.ttlMs actor)).2) :=
    state.update_self actor _
  have unmoved : ∀ call, call ≠ actor →
      (setup.acquire state actor).calls call = state.calls call :=
    fun call different => State.update_other state _ different
  have kept : ∀ call, state.overtaken call = true →
      (setup.acquire state actor).overtaken call = true := by
    intro call overtaken
    rw [setup.acquire_overtaken, overtaken, Bool.true_or]
  constructor
  · intro call lost
    rw [setup.recordSigns_told, Bool.or_eq_true]
    by_cases same : call = actor
    · subst same
      rw [moved] at lost
      exact .inl (exact_.told call lost)
    · rw [unmoved call same] at lost
      exact .inl (exact_.told call lost)
  · intro call ready
    have different : call ≠ actor := by
      rintro rfl
      rw [moved] at ready
      cases ready
    rw [unmoved call different] at ready
    obtain ⟨never, uncontested⟩ := exact_.fresh call ready
    refine ⟨(Lock.acquire_deadline different).trans never, ?_⟩
    rw [setup.recordSigns_contested, uncontested]
    simp only [Setup.contests, Lock.lapsed, never, Option.any_none, Bool.and_false, Bool.or_self]
  · intro call owner different under leased
    rcases setup.underLock_of_acquire sound only under with ⟨rfl, unleased⟩ | overtaken |
      ⟨refused, before⟩
    · have order : state.lock.now ≤ (setup.acquire state call).lock.now :=
        Nat.le_of_eq Lock.acquire_now.symm
      have earlier := leased.of_deadline (Lock.acquire_deadline different).symm order
      exact absurd earlier (unleased owner)
    · exact overtaken
    · rw [setup.acquire_lock, (sound.leased_of_refused refused).1] at leased
      exact kept call (exact_.rival call owner different before leased)
  · intro call under contested
    rw [setup.recordSigns_contested, Bool.or_eq_true] at contested
    rcases setup.underLock_of_acquire sound only under with ⟨rfl, _⟩ | overtaken |
      ⟨refused, before⟩
    · rw [(exact_.fresh call phase).2] at contested
      simp only [Setup.contests, bne_self_eq_false, Bool.and_false, Bool.false_and,
        Bool.false_eq_true, or_self] at contested
    · exact overtaken
    · rcases contested with earlier | now
      · exact kept call (exact_.contested call before earlier)
      · simp only [Setup.contests, Bool.and_eq_true] at now
        obtain ⟨_, owner, leased⟩ := sound.leased_of_refused refused
        have different : owner ≠ call := by
          rintro rfl
          rw [leased.not_lapsed] at now
          exact Bool.false_ne_true now.2
        exact kept call (exact_.rival call owner different before leased)

omit [DecidableEq Call] in
theorem Signs.Exact.later {signs' : Signs Call} {state' : State Call Value}
    (exact_ : signs.Exact state)
    (told : ∀ call, (state'.calls call).lockLost = true →
      (state.calls call).lockLost = true ∨ signs'.told call = true)
    (kept : ∀ call, signs.told call = true → signs'.told call = true)
    (fresh : ∀ call, (state'.calls call).phase = .ready → (state.calls call).phase = .ready)
    (never : ∀ call, state.lock.deadline call = none → state'.lock.deadline call = none)
    (under : ∀ call, (state'.calls call).phase.underLock = true →
      (state.calls call).phase.underLock = true)
    (ended : ∀ call, ¬state.lock.Leased call → ¬state'.lock.Leased call)
    (contested : signs'.contested = signs.contested)
    (overtaken : state'.overtaken = state.overtaken) : signs'.Exact state' where
  told := by
    intro call lost
    rcases told call lost with before | now
    · exact kept call (exact_.told call before)
    · exact now
  fresh := by
    intro call phase
    rw [contested]
    exact ⟨never call (exact_.fresh call (fresh call phase)).1,
      (exact_.fresh call (fresh call phase)).2⟩
  rival := by
    intro call owner different under' leased
    rw [overtaken]
    have before : state.lock.Leased owner := by
      by_contra unleased
      exact ended owner unleased leased
    exact exact_.rival call owner different (under call under') before
  contested := by
    intro call under'
    rw [contested, overtaken]
    exact exact_.contested call (under call under')

theorem Setup.Turn.contests_nothing {lock lock' : Lock Call} {call : Call}
    {before after : CallState Value} {action : Action Call Value}
    (turn : setup.Turn lock call before action lock' after) (other : Call) :
    setup.contests lock other action = false := by
  cases turn <;> rfl

theorem Signs.Exact.acts {actor : Call} {action : Action Call Value} {lock : Lock Call}
    {after : CallState Value} (sound : state.lock.Sound setup.token) (exact_ : signs.Exact state)
    (turn : setup.Turn state.lock actor (state.calls actor) action lock after) :
    (setup.recordSigns state action { state.update actor after with lock := lock } signs).Exact
      { state.update actor after with lock := lock } := by
  apply exact_.later
  · intro call
    change ((state.update actor after).calls call).lockLost = true → _
    rw [setup.recordSigns_told, Bool.or_eq_true]
    by_cases same : call = actor
    · subst same
      rw [State.update_self]
      intro lost
      exact (turn.lockLost_iff.mp lost).imp_right .inr
    · rw [state.update_other after same]
      exact .inl
  · intro call told
    rw [setup.recordSigns_told, told, Bool.true_or]
  · intro call
    change ((state.update actor after).calls call).phase = .ready → _
    by_cases same : call = actor
    · subst same
      rw [State.update_self]
      exact not_imp_not.mp turn.asked
    · rw [state.update_other after same]
      exact id
  · intro call
    exact turn.served.deadline_none setup.token_injective sound
  · intro call
    change ((state.update actor after).calls call).phase.underLock = true → _
    by_cases same : call = actor
    · subst same
      rw [State.update_self]
      exact fun under => (turn.underLock under).1
    · rw [state.update_other after same]
      exact id
  · intro call
    exact turn.served.unleased setup.token_injective sound
  · funext call
    rw [setup.recordSigns_contested, turn.contests_nothing, Bool.or_false]
  · rfl

/-- A step that moves no call. -/
theorem Signs.Exact.serves {action : Action Call Value} {lock : Lock Call}
    (exact_ : signs.Exact state)
    (never : ∀ call, state.lock.deadline call = none → lock.deadline call = none)
    (ended : ∀ call, ¬state.lock.Leased call → ¬lock.Leased call)
    (uncontested : ∀ call, setup.contests state.lock call action = false) :
    (setup.recordSigns state action { state with lock := lock } signs).Exact
      { state with lock := lock } := by
  apply exact_.later
  · exact fun _ => .inl
  · intro call told
    rw [setup.recordSigns_told, told, Bool.true_or]
  · exact fun _ => id
  · exact never
  · exact fun _ => id
  · exact ended
  · funext call
    rw [setup.recordSigns_contested, uncontested, Bool.or_false]
  · rfl

theorem Signs.Exact.step {action : Action Call Value} {following : State Call Value}
    (sound : state.lock.Sound setup.token) (only : ∀ call, setup.entry call = .runWithLock)
    (exact_ : signs.Exact state) (stepped : setup.step state action = some following) :
    (setup.recordSigns state action following signs).Exact following := by
  have serves {actor : Call} {lock : Lock Call}
      (served : state.lock.Served setup.token actor lock)
      (uncontested : ∀ call, setup.contests state.lock call action = false) :=
    exact_.serves (fun _ => served.deadline_none setup.token_injective sound)
      (fun _ => served.unleased setup.token_injective sound) uncontested
  cases setup.moved stepped with
  | advances milliseconds =>
      apply exact_.serves
      · exact fun _ => id
      · intro call unleased leased
        exact unleased (leased.of_deadline rfl (Nat.le_add_right _ _))
      · exact fun _ => rfl
  | acquires phase => exact exact_.acquire sound only phase
  | acts turn => exact exact_.acts sound turn
  | extendsHandle => exact serves (.extend _) fun _ => rfl
  | releasesHandle => exact serves .release fun _ => rfl

theorem Setup.exact_of_reachable {recorded : State Call Value × Signs Call}
    (only : ∀ call, setup.entry call = .runWithLock)
    (reached : (setup.recorded Value).Reachable anyAction recorded) :
    recorded.2.Exact recorded.1 := by
  apply reached.tied (fun state signs => Signs.Exact signs state)
    (fun _ => setup.sound_of_reachable)
  · intro state initial
    obtain ⟨_, deadline, calls, _⟩ := initial
    constructor
    · intro call lost
      rw [calls] at lost
      cases lost
    · intro call _
      rw [deadline]
      exact ⟨rfl, rfl⟩
    · intro call owner _ under
      rw [calls] at under
      cases under
    · intro call _ contested
      cases contested
  · intro state signs action following sound exact_ _ stepped
    exact exact_.step sound only stepped

/-- Among runWithLock calls, a handler that resolves where the condition forbids it ends a call
that was overtaken, and that may fulfil: the condition leaves out only what reaches the
defect. -/
theorem Setup.unreported_of_uninformed {recorded : State Call Value × Signs Call} {call : Call}
    {result : Value} (only : ∀ call, setup.entry call = .runWithLock)
    (reached : (setup.recorded Value).Reachable anyAction recorded)
    (running : (recorded.1.calls call).phase = .running)
    (uninformed : ¬Informed recorded (.handlerResolves call result)) :
    ∃ finish : State Call Value, setup.system.Reachable anyAction finish ∧
      (finish.calls call).phase = .returned (.ok result) ∧ finish.overtaken call = true := by
  have exact_ := setup.exact_of_reachable only reached
  simp only [Informed, Classical.not_imp] at uninformed
  obtain ⟨_, contested, untold⟩ := uninformed
  have unaware : (recorded.1.calls call).lockLost = false := by
    by_contra lost
    rw [Bool.not_eq_false] at lost
    exact untold (exact_.told call lost)
  have overtaken := exact_.contested call (by rw [running]; rfl) contested
  obtain ⟨finish, later, returned, kept⟩ :=
    setup.fulfils_of_unaware reached.forgotten running unaware result
  exact ⟨finish, later, returned, by rw [kept, overtaken]⟩

end Exact

def informed (recorded : State Call Value × Signs Call) : Action Call Value → Bool
  | .handlerResolves call _ =>
      !recorded.1.lock.lapsed call || !recorded.2.contested call || recorded.2.told call
  | _ => true

end BackendFoundation.Locks
