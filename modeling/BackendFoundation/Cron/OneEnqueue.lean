/-
How far apart the replicas' ticks call queues.add. runWithLock gives the lock back when
queues.add has settled, not when its TTL has elapsed. So two ticks have to fire far enough
apart, or the second one while the lock is still held.
-/

import BackendFoundation.Cron.OutboxSchedule
import BackendFoundation.Transition.History

namespace BackendFoundation.Cron

open Transition

variable {Replica : Type} [DecidableEq Replica]

/-- In every time window of that length at most one tick calls queues.add. -/
def State.OneEnqueue (state : State Replica) (windowMs : Nat) : Prop :=
  ∀ tick tick' moment moment' start, state.Enqueued tick moment →
    state.Enqueued tick' moment' → start ≤ moment → moment < start + windowMs →
    start ≤ moment' → moment' < start + windowMs → tick = tick' ∧ moment = moment'

def Setup.OneEnqueue (setup : Setup Replica)
    (allowed : State Replica → Action Replica → Prop) : Prop :=
  ∀ state, setup.system.Reachable allowed state →
    state.OneEnqueue setup.options.cronLockTtlMs

/-- When the ticks fired, and since when they hold the lock (history): since the SET or the
last PEXPIRE that Redis has granted, until the release is executed. -/
structure Timeline (Replica : Type) where
  firedAt : Replica × Nat → Nat
  heldSince : Replica × Nat → Option Nat

def Timeline.blank : Timeline Replica :=
  { firedAt := fun _ => 0
    heldSince := fun _ => none }

/-- The acquire was granted, and its reply was not lost. -/
def wasGranted {Value : Type} : Locks.Phase Value → Bool
  | .answered acquired => acquired
  | phase => phase.started

def heldSince (now : Nat) (after : Locks.State (Replica × Nat) Unit)
    (held : Replica × Nat → Option Nat) :
    Locks.Action (Replica × Nat) Unit → Replica × Nat → Option Nat
  | .acquire tick =>
      if wasGranted (after.calls tick).phase then Function.update held tick (some now) else held
  | .extend tick =>
      if (after.calls tick).heartbeat = .answered true then
        Function.update held tick (some now)
      else held
  | .release tick => Function.update held tick none
  | _ => held

/-- The interval of a replica fires for the tick that it counts next. -/
def recordTimeline (state : State Replica) (action : Action Replica)
    (following : State Replica) (timeline : Timeline Replica) : Timeline Replica :=
  match action with
  | .interval replica =>
      { timeline with
        firedAt := Function.update timeline.firedAt
          (replica, (state.replicas replica).ticks) state.locks.lock.now }
  | .run inner =>
      { timeline with
        heldSince := heldSince state.locks.lock.now following.locks timeline.heldSince inner }
  | _ => timeline

def Setup.recorded (setup : Setup Replica) :
    Transition.System (State Replica × Timeline Replica) (Action Replica) :=
  setup.system.recording recordTimeline Timeline.blank

/-- The lock has not been given back, and less than its TTL has passed. -/
def Timeline.Holds (timeline : Timeline Replica) (ttlMs now : Nat) (tick : Replica × Nat) :
    Prop :=
  ∃ since, timeline.heldSince tick = some since ∧ now ≤ since + ttlMs

/-- The offsets of the ticks. A tick asks for the lock while it is held, or a TTL and the
latency after every other tick that was granted it had fired; and queues.add is called no
later than the latency after its tick has fired. -/
def Setup.Offset (setup : Setup Replica) (latencyMs : Nat)
    (recorded : State Replica × Timeline Replica) : Action Replica → Prop
  | .run (.acquire tick) =>
      (∃ holder, recorded.2.Holds setup.options.cronLockTtlMs recorded.1.locks.lock.now holder) ∨
        ∀ other, other ≠ tick → wasGranted (recorded.1.locks.calls other).phase = true →
          recorded.2.firedAt other + setup.options.cronLockTtlMs + latencyMs ≤
            recorded.2.firedAt tick
  | .run (.proceed tick) => (recorded.1.locks.calls tick).phase = .answered true →
      recorded.1.locks.lock.now ≤ recorded.2.firedAt tick + latencyMs
  | _ => True

/-- What the history says of the lock and of the calls: the lock is kept for its TTL, the
handlers start within the latency, and the ticks that were granted it fired far apart. -/
structure Kept (ttlMs latencyMs : Nat) (timeline : Timeline Replica)
    (locks : Locks.State (Replica × Nat) Unit) : Prop where
  past : ∀ tick, timeline.firedAt tick ≤ locks.lock.now
  unheld : ∀ tick, (locks.calls tick).phase ≠ .held
  held : ∀ tick since, timeline.heldSince tick = some since →
    locks.lock.deadline tick = some (since + ttlMs)
  prompt : ∀ tick, ∀ moment ∈ (locks.calls tick).handlerStarts,
    (locks.calls tick).phase.started = true ∧ timeline.firedAt tick ≤ moment ∧
      moment ≤ timeline.firedAt tick + latencyMs
  apart : ∀ tick other, tick ≠ other → wasGranted (locks.calls tick).phase = true →
    wasGranted (locks.calls other).phase = true →
      timeline.firedAt tick + ttlMs + latencyMs ≤ timeline.firedAt other ∨
        timeline.firedAt other + ttlMs + latencyMs ≤ timeline.firedAt tick

section Calls

variable {ttlMs latencyMs : Nat} {timeline : Timeline Replica}
  {locks : Locks.State (Replica × Nat) Unit} {tick : Replica × Nat}
  {setup : Locks.Setup (Replica × Nat)}

theorem wasGranted_of_started {Value : Type} {phase : Locks.Phase Value}
    (started : phase.started = true) : wasGranted phase = true := by
  cases phase with
  | answered => cases started
  | _ => exact started

theorem asked_of_granted {Value : Type} {phase : Locks.Phase Value}
    (granted : wasGranted phase = true) : phase ≠ .ready := by
  intro ready
  rw [ready] at granted
  cases granted

theorem turn_granted {Call Value : Type} [DecidableEq Call] {setup : Locks.Setup Call}
    {lock lock' : Locks.Lock Call} {call : Call} {before after : Locks.CallState Value}
    {action : Locks.Action Call Value}
    (turn : setup.Turn lock call before action lock' after)
    (granted : wasGranted after.phase = true) : wasGranted before.phase = true := by
  cases turn with
  | fails | skips | holds => cases granted
  | starts phase | resolves phase | rejects phase | releases phase | returns phase =>
      rw [phase]
      rfl
  | beats | extends_ | learns | misses => exact granted
  | throws phase => rcases phase with phase | phase <;> rw [phase] <;> rfl

/-- The turn of a call starts its handler, or leaves the moments of its starts alone. -/
theorem turn_starts {Call Value : Type} [DecidableEq Call] {setup : Locks.Setup Call}
    {lock lock' : Locks.Lock Call} {call : Call} {before after : Locks.CallState Value}
    {action : Locks.Action Call Value}
    (turn : setup.Turn lock call before action lock' after) :
    (after.handlerStarts = before.handlerStarts ∧
        (before.phase.started = true → after.phase.started = true)) ∨
      (action = .proceed call ∧ before.phase = .answered true ∧
        after.phase.started = true ∧ after.handlerStarts = lock.now :: before.handlerStarts) := by
  cases turn with
  | starts phase => exact .inr ⟨rfl, phase, rfl, rfl⟩
  | fails pending =>
      refine .inl ⟨rfl, fun started => ?_⟩
      rcases pending with phase | ⟨_, phase⟩ <;> rw [phase] at started <;> cases started
  | skips phase | holds phase =>
      refine .inl ⟨rfl, fun started => ?_⟩
      rw [phase] at started
      cases started
  | beats | extends_ | learns | misses => exact .inl ⟨rfl, id⟩
  | resolves | rejects | releases | returns | throws => exact .inl ⟨rfl, fun _ => rfl⟩

theorem turn_unheld {Call Value : Type} [DecidableEq Call] {setup : Locks.Setup Call}
    {lock lock' : Locks.Lock Call} {call : Call} {before after : Locks.CallState Value}
    {action : Locks.Action Call Value}
    (turn : setup.Turn lock call before action lock' after)
    (entry : setup.entry call = .runWithLock) (unheld : before.phase ≠ .held) :
    after.phase ≠ .held := by
  cases turn with
  | holds _ direct =>
      rw [entry] at direct
      cases direct
  | beats | extends_ | learns | misses => exact unheld
  | _ =>
      intro impossible
      cases impossible

/-- A call begins with its acquire. -/
theorem turn_asks {Call Value : Type} [DecidableEq Call] {setup : Locks.Setup Call}
    {lock lock' : Locks.Lock Call} {call : Call} {before after : Locks.CallState Value}
    {action : Locks.Action Call Value}
    (turn : setup.Turn lock call before action lock' after) (ready : before.phase = .ready)
    (asked : after.phase ≠ .ready) : action = .acquireFails call := by
  cases turn with
  | fails => rfl
  | beats | extends_ | learns | misses => exact absurd ready asked
  | throws phase => rcases phase with phase | phase <;> rw [phase] at ready <;> cases ready
  | skips phase | holds phase | starts phase | resolves phase | rejects phase | releases phase
  | returns phase =>
      rw [phase] at ready
      cases ready

theorem asks_of_step {Call Value : Type} [DecidableEq Call] {setup : Locks.Setup Call}
    {locks locks' : Locks.State Call Value} {call : Call} {action : Locks.Action Call Value}
    (stepped : setup.step locks action = some locks') (ready : (locks.calls call).phase = .ready)
    (asked : (locks'.calls call).phase ≠ .ready) :
    action = .acquire call ∨ action = .acquireFails call := by
  cases setup.moved stepped with
  | advances | extendsHandle | releasesHandle => exact absurd ready asked
  | @acquires actor phase =>
      by_cases same : call = actor
      · subst same
        exact .inl rfl
      · have unmoved : (setup.acquire locks actor).calls call = locks.calls call :=
          locks.update_other _ same
        rw [unmoved] at asked
        exact absurd ready asked
  | @acts _ actor _ after turn =>
      by_cases same : call = actor
      · subst same
        have moved : (locks.update call after).calls call = after := locks.update_self call after
        change ((locks.update call after).calls call).phase ≠ _ at asked
        rw [moved] at asked
        exact .inr (turn_asks turn ready asked)
      · have unmoved : (locks.update actor after).calls call = locks.calls call :=
          locks.update_other after same
        change ((locks.update actor after).calls call).phase ≠ _ at asked
        rw [unmoved] at asked
        exact absurd ready asked

theorem acquire_moved (setup : Locks.Setup (Replica × Nat)) (tick : Replica × Nat) :
    (setup.acquire locks tick).calls tick = (locks.calls tick).goto
      (.answered (locks.lock.acquire setup.token tick (setup.ttlMs tick)).2) :=
  locks.update_self tick _

theorem acquire_unmoved (setup : Locks.Setup (Replica × Nat)) {tick other : Replica × Nat}
    (different : other ≠ tick) :
    (setup.acquire locks tick).calls other = locks.calls other :=
  Locks.State.update_other locks _ different

omit [DecidableEq Replica] in
theorem Kept.leased (kept : Kept ttlMs latencyMs timeline locks)
    (holds : timeline.Holds ttlMs locks.lock.now tick) : locks.lock.Leased tick := by
  obtain ⟨since, held, unexpired⟩ := holds
  exact ⟨_, kept.held tick since held, unexpired⟩

theorem heldSince_acquire (held : Replica × Nat → Option Nat) :
    heldSince locks.lock.now (setup.acquire locks tick) held (.acquire tick) =
      if (locks.lock.acquire setup.token tick (setup.ttlMs tick)).2 then
        Function.update held tick (some locks.lock.now)
      else held := by
  have answer : wasGranted ((setup.acquire locks tick).calls tick).phase =
      (locks.lock.acquire setup.token tick (setup.ttlMs tick)).2 := by
    rw [acquire_moved]
    rfl
  rw [heldSince, answer]

/-- An expiry that Redis sets is a TTL after the moment that the history writes down. -/
theorem held_update {held deadline deadline' : Replica × Nat → Option Nat} {now : Nat}
    (kept : ∀ other since, held other = some since → deadline other = some (since + ttlMs))
    (set : deadline' tick = some (now + ttlMs))
    (frame : ∀ other, other ≠ tick → deadline' other = deadline other)
    (other : Replica × Nat) (since : Nat)
    (found : Function.update held tick (some now) other = some since) :
    deadline' other = some (since + ttlMs) := by
  by_cases same : other = tick
  · subst same
    rw [Function.update_self] at found
    cases found
    exact set
  · rw [Function.update_of_ne same] at found
    rw [frame other same]
    exact kept other since found

theorem Kept.held_acquire (kept : Kept ttlMs latencyMs timeline locks)
    (sound : locks.lock.Sound setup.token) (lasts : setup.ttlMs tick = ttlMs)
    (other : Replica × Nat) (since : Nat)
    (found : heldSince locks.lock.now (setup.acquire locks tick) timeline.heldSince
      (.acquire tick) other = some since) :
    (setup.acquire locks tick).lock.deadline other = some (since + ttlMs) := by
  rw [heldSince_acquire] at found
  cases answer : (locks.lock.acquire setup.token tick (setup.ttlMs tick)).2 with
  | true =>
      rw [answer, if_pos rfl] at found
      have set := (Locks.Lock.acquire_granted answer).2
      rw [lasts] at set
      rw [setup.acquire_lock, lasts]
      exact held_update kept.held set (fun _ => Locks.Lock.acquire_deadline) other since found
  | false =>
      rw [answer, if_neg Bool.false_ne_true] at found
      rw [setup.acquire_lock, (sound.leased_of_refused answer).1]
      exact kept.held other since found

/-- A tick that is granted the lock fired far from all that were granted it before. -/
theorem Kept.acquire (kept : Kept ttlMs latencyMs timeline locks)
    (sound : locks.lock.Sound setup.token) (lasts : setup.ttlMs tick = ttlMs)
    (phase : (locks.calls tick).phase = .ready)
    (offset : (∃ holder, timeline.Holds ttlMs locks.lock.now holder) ∨
      ∀ other, other ≠ tick → wasGranted (locks.calls other).phase = true →
        timeline.firedAt other + ttlMs + latencyMs ≤ timeline.firedAt tick) :
    Kept ttlMs latencyMs
      { timeline with
        heldSince := heldSince locks.lock.now (setup.acquire locks tick) timeline.heldSince
          (.acquire tick) }
      (setup.acquire locks tick) := by
  have now : (setup.acquire locks tick).lock.now = locks.lock.now := Locks.Lock.acquire_now
  have far (granted : wasGranted ((setup.acquire locks tick).calls tick).phase = true)
      (other : Replica × Nat) (different : other ≠ tick)
      (before : wasGranted (locks.calls other).phase = true) :
      timeline.firedAt other + ttlMs + latencyMs ≤ timeline.firedAt tick := by
    rw [acquire_moved] at granted
    rcases offset with ⟨holder, holds⟩ | far
    · have acquired : (locks.lock.acquire setup.token tick (setup.ttlMs tick)).2 = true := granted
      rw [sound.acquire_refused (kept.leased holds)] at acquired
      cases acquired
    · exact far other different before
  constructor
  · intro other
    rw [now]
    exact kept.past other
  · intro other
    by_cases same : other = tick
    · subst same
      rw [acquire_moved]
      intro impossible
      cases impossible
    · rw [acquire_unmoved setup same]
      exact kept.unheld other
  · exact kept.held_acquire sound lasts
  · intro other moment member
    by_cases same : other = tick
    · subst same
      rw [acquire_moved] at member
      have started := (kept.prompt other moment member).1
      rw [phase] at started
      cases started
    · rw [acquire_unmoved setup same] at member ⊢
      exact kept.prompt other moment member
  · intro one two different granted granted'
    by_cases same : one = tick
    · subst same
      rw [acquire_unmoved setup different.symm] at granted'
      exact .inr (far granted two different.symm granted')
    · rw [acquire_unmoved setup same] at granted
      by_cases same' : two = tick
      · subst same'
        exact .inl (far granted' one same granted)
      · rw [acquire_unmoved setup same'] at granted'
        exact kept.apart one two different granted granted'

theorem heldSince_extend (held : Replica × Nat → Option Nat) (now : Nat)
    (lock : Locks.Lock (Replica × Nat)) (after : Locks.CallState Unit) :
    heldSince now { locks.update tick after with lock := lock } held (.extend tick) =
      if after.heartbeat = .answered true then Function.update held tick (some now)
      else held := by
  have moved : ({ locks.update tick after with lock := lock } :
      Locks.State (Replica × Nat) Unit).calls tick = after := locks.update_self tick after
  rw [heldSince, moved]

omit [DecidableEq Replica] in
/-- An interval that fires for a tick that has not asked. -/
theorem Kept.fires {firedAt : Replica × Nat → Nat} (kept : Kept ttlMs latencyMs timeline locks)
    (past : ∀ tick, firedAt tick ≤ locks.lock.now)
    (same : ∀ tick, (locks.calls tick).phase ≠ .ready → firedAt tick = timeline.firedAt tick) :
    Kept ttlMs latencyMs { timeline with firedAt := firedAt } locks where
  past := past
  unheld := kept.unheld
  held := kept.held
  prompt := by
    intro tick moment member
    obtain ⟨started, bounds⟩ := kept.prompt tick moment member
    have unchanged := same tick (asked_of_granted (wasGranted_of_started started))
    refine ⟨started, ?_⟩
    change firedAt tick ≤ moment ∧ moment ≤ firedAt tick + latencyMs
    rw [unchanged]
    exact bounds
  apart := by
    intro tick other different granted granted'
    change firedAt tick + ttlMs + latencyMs ≤ firedAt other ∨
      firedAt other + ttlMs + latencyMs ≤ firedAt tick
    rw [same tick (asked_of_granted granted), same other (asked_of_granted granted')]
    exact kept.apart tick other different granted granted'

theorem Kept.held_acts {lock : Locks.Lock (Replica × Nat)} {after : Locks.CallState Unit}
    {action : Locks.Action (Replica × Nat) Unit} (kept : Kept ttlMs latencyMs timeline locks)
    (lasts : setup.ttlMs tick = ttlMs)
    (turn : setup.Turn locks.lock tick (locks.calls tick) action lock after)
    (other : Replica × Nat) (since : Nat)
    (found : heldSince locks.lock.now { locks.update tick after with lock := lock }
      timeline.heldSince action other = some since) :
    lock.deadline other = some (since + ttlMs) := by
  cases turn with
  | extends_ =>
      rw [heldSince_extend] at found
      cases answer : (locks.lock.extend setup.token tick (setup.ttlMs tick)).2 with
      | true =>
          rw [answer, if_pos rfl] at found
          have set := Locks.Lock.extend_granted answer
          rw [lasts] at set ⊢
          exact held_update kept.held set (fun _ => Locks.Lock.extend_deadline) other since found
      | false =>
          have refused : Locks.Heartbeat.answered false ≠ .answered true := by decide
          rw [answer, if_neg refused] at found
          rw [Locks.Lock.extend_refused answer]
          exact kept.held other since found
  | releases =>
      by_cases same : other = tick
      · subst same
        rw [heldSince, Function.update_self] at found
        cases found
      · rw [heldSince, Function.update_of_ne same] at found
        rw [Locks.Lock.release_deadline same]
        exact kept.held other since found
  | _ => exact kept.held other since found

theorem Kept.acts {lock : Locks.Lock (Replica × Nat)} {after : Locks.CallState Unit}
    {action : Locks.Action (Replica × Nat) Unit} (kept : Kept ttlMs latencyMs timeline locks)
    (lasts : setup.ttlMs tick = ttlMs) (entry : setup.entry tick = .runWithLock)
    (turn : setup.Turn locks.lock tick (locks.calls tick) action lock after)
    (offset : action = .proceed tick → (locks.calls tick).phase = .answered true →
      locks.lock.now ≤ timeline.firedAt tick + latencyMs) :
    Kept ttlMs latencyMs
      { timeline with
        heldSince := heldSince locks.lock.now { locks.update tick after with lock := lock }
          timeline.heldSince action }
      { locks.update tick after with lock := lock } := by
  have moved : (locks.update tick after).calls tick = after := locks.update_self tick after
  have unmoved : ∀ other, other ≠ tick →
      (locks.update tick after).calls other = locks.calls other :=
    fun other different => locks.update_other after different
  have granted : ∀ other, wasGranted ((locks.update tick after).calls other).phase = true →
      wasGranted (locks.calls other).phase = true := by
    intro other
    by_cases same : other = tick
    · subst same
      rw [moved]
      exact turn_granted turn
    · rw [unmoved other same]
      exact id
  constructor
  · intro other
    change _ ≤ lock.now
    rw [turn.served.now]
    exact kept.past other
  · intro other
    change ((locks.update tick after).calls other).phase ≠ .held
    by_cases same : other = tick
    · subst same
      rw [moved]
      exact turn_unheld turn entry (kept.unheld other)
    · rw [unmoved other same]
      exact kept.unheld other
  · exact kept.held_acts lasts turn
  · intro other moment
    change moment ∈ ((locks.update tick after).calls other).handlerStarts →
      ((locks.update tick after).calls other).phase.started = true ∧ _
    by_cases same : other = tick
    · subst same
      rw [moved]
      intro member
      rcases turn_starts turn with ⟨starts, started⟩ | ⟨proceeds, phase, started, starts⟩
      · rw [starts] at member
        obtain ⟨before, bounds⟩ := kept.prompt other moment member
        exact ⟨started before, bounds⟩
      · rw [starts] at member
        rcases List.mem_cons.mp member with rfl | earlier
        · exact ⟨started, kept.past other, offset proceeds phase⟩
        · exact ⟨started, (kept.prompt other moment earlier).2⟩
    · rw [unmoved other same]
      exact kept.prompt other moment
  · intro one two different granted₁ granted₂
    exact kept.apart one two different (granted one granted₁) (granted two granted₂)

end Calls

theorem State.ticks_update (state : State Replica) {replica : Replica} {after : ReplicaState}
    (counts : (state.replicas replica).ticks ≤ after.ticks) (other : Replica) :
    (state.replicas other).ticks ≤ ((state.update replica after).replicas other).ticks := by
  change _ ≤ (Function.update state.replicas replica after other).ticks
  by_cases same : other = replica
  · subst same
    rw [Function.update_self]
    exact counts
  · exact Nat.le_of_eq (congrArg ReplicaState.ticks (Function.update_of_ne same _ _).symm)

omit [DecidableEq Replica] in
theorem ReplicaState.ticks_runTickSafely (replica : ReplicaState) :
    replica.ticks ≤ replica.runTickSafely.ticks := by
  unfold runTickSafely
  split
  · exact Nat.le_refl _
  · exact Nat.le_succ _

/-- A step is one of runWithLock, or leaves the lock and its calls alone. The ticks are
counted up. -/
theorem Setup.step_cases {setup : Setup Replica} {state following : State Replica}
    {action : Action Replica} (stepped : setup.step state action = some following) :
    (∃ inner, action = .run inner ∧ state.permits inner = true ∧
      setup.calls.step state.locks inner = some following.locks ∧
        following.replicas = state.replicas) ∨
    ((∀ inner, action ≠ .run inner) ∧ following.locks = state.locks ∧
      ∀ replica, (state.replicas replica).ticks ≤ (following.replicas replica).ticks) := by
  cases action with
  | run inner =>
      simp only [step] at stepped
      split at stepped
      · obtain ⟨locks, moved, rfl⟩ := Option.map_eq_some_iff.mp stepped
        exact .inl ⟨inner, rfl, ‹_›, moved, rfl⟩
      · cases stepped
  | onModuleDestroy replica =>
      cases stepped
      exact .inr ⟨nofun, rfl, state.ticks_update (Nat.le_refl _)⟩
  | jobRemoved =>
      cases stepped
      exact .inr ⟨nofun, rfl, fun _ => Nat.le_refl _⟩
  | onModuleInit | tickEnds =>
      simp only [step] at stepped
      split at stepped
      · cases stepped
        exact .inr ⟨nofun, rfl, state.ticks_update (Nat.le_refl _)⟩
      · cases stepped
  | interval replica =>
      simp only [step] at stepped
      split at stepped
      · cases stepped
      · split at stepped
        · cases stepped
          exact .inr ⟨nofun, rfl,
            state.ticks_update (state.replicas replica).ticks_runTickSafely⟩
        · cases stepped

theorem Setup.calls_of_reachable {setup : Setup Replica} {state : State Replica}
    {allowed : State Replica → Action Replica → Prop}
    (reached : setup.system.Reachable allowed state) :
    setup.calls.system.Reachable anyAction state.locks := by
  obtain ⟨start, actions, initial, run⟩ := reached
  have each : ∀ state action following, allowed state action →
      setup.system.step state action = some following →
      following.locks = state.locks ∨ ∃ inner, anyAction state.locks inner ∧
        setup.calls.system.step state.locks inner = some following.locks := by
    intro state action following _ stepped
    rcases setup.step_cases stepped with ⟨inner, _, _, moved, _⟩ | ⟨_, same, _⟩
    · exact .inr ⟨inner, trivial, moved⟩
    · exact .inl same
  obtain ⟨inners, inner⟩ := run.projects each
  exact ⟨start.locks, inners, initial.1, inner⟩

/-- Only a tick that has fired asks for the lock. -/
structure Setup.Timed (setup : Setup Replica) (latencyMs : Nat) (state : State Replica)
    (timeline : Timeline Replica) : Prop where
  begun : ∀ tick, (state.locks.calls tick).phase ≠ .ready →
    tick.2 < (state.replicas tick.1).ticks
  kept : Kept setup.options.cronLockTtlMs latencyMs timeline state.locks

section Steps

variable {setup : Setup Replica} {latencyMs : Nat} {state following : State Replica}
  {timeline : Timeline Replica} {action : Action Replica}

/-- The interval of a replica fires for a tick that has not asked for the lock. -/
theorem Setup.Timed.replicas (timed : setup.Timed latencyMs state timeline)
    (outside : ∀ inner, action ≠ .run inner) (same : following.locks = state.locks)
    (counts : ∀ replica, (state.replicas replica).ticks ≤ (following.replicas replica).ticks) :
    setup.Timed latencyMs following (recordTimeline state action following timeline) := by
  have begun : ∀ tick, (following.locks.calls tick).phase ≠ .ready →
      tick.2 < (following.replicas tick.1).ticks := by
    intro tick asked
    rw [same] at asked
    exact Nat.lt_of_lt_of_le (timed.begun tick asked) (counts tick.1)
  refine ⟨begun, ?_⟩
  rw [same]
  cases action with
  | interval replica =>
      apply timed.kept.fires
      · intro tick
        by_cases now : tick = (replica, (state.replicas replica).ticks)
        · subst now
          exact Nat.le_of_eq (Function.update_self _ _ _)
        · rw [Function.update_of_ne now]
          exact timed.kept.past tick
      · intro tick asked
        apply Function.update_of_ne
        rintro rfl
        exact absurd (timed.begun _ asked) (Nat.lt_irrefl _)
  | run inner => exact absurd rfl (outside inner)
  | onModuleInit | onModuleDestroy | tickEnds | jobRemoved => exact timed.kept

theorem Setup.Timed.run {inner : Locks.Action (Replica × Nat) Unit}
    (timed : setup.Timed latencyMs state timeline) (sound : state.locks.lock.Sound setup.token)
    (offset : setup.Offset latencyMs (state, timeline) (.run inner))
    (permitted : state.permits inner = true)
    (moved : setup.calls.step state.locks inner = some following.locks)
    (same : following.replicas = state.replicas) :
    setup.Timed latencyMs following (recordTimeline state (.run inner) following timeline) := by
  refine ⟨?_, ?_⟩
  · intro tick asked
    rw [same]
    by_cases before : (state.locks.calls tick).phase = .ready
    · have current : state.Current tick := by
        rcases asks_of_step moved before asked with rfl | rfl
        · exact of_decide_eq_true permitted
        · exact of_decide_eq_true permitted
      exact Nat.lt_of_succ_le (Nat.le_of_eq current.2)
    · exact timed.begun tick before
  · change Kept _ _ { timeline with
      heldSince := heldSince state.locks.lock.now following.locks timeline.heldSince inner } _
    generalize following.locks = locks at moved ⊢
    cases setup.calls.moved moved with
    | advances milliseconds =>
        exact
          { past := fun tick => Nat.le_trans (timed.kept.past tick) (Nat.le_add_right _ _)
            unheld := timed.kept.unheld
            held := timed.kept.held
            prompt := timed.kept.prompt
            apart := timed.kept.apart }
    | acquires phase => exact timed.kept.acquire sound rfl phase offset
    | acts turn =>
        apply timed.kept.acts rfl rfl turn
        rintro rfl
        exact offset
    | extendsHandle phase => exact absurd phase (timed.kept.unheld _)
    | releasesHandle phase => exact absurd phase (timed.kept.unheld _)

theorem Setup.timed_of_reachable {recorded : State Replica × Timeline Replica}
    (reached : setup.recorded.Reachable (setup.Offset latencyMs) recorded) :
    setup.Timed latencyMs recorded.1 recorded.2 := by
  apply reached.tied (setup.Timed latencyMs)
    (fun _ reached => Locks.Setup.sound_of_reachable (setup.calls_of_reachable reached))
  · intro state initial
    obtain ⟨⟨_, _, calls, _⟩, _⟩ := initial
    have fresh : ∀ tick, state.locks.calls tick = .fresh := fun tick => congrFun calls tick
    refine ⟨?_, ?_, ?_, ?_, ?_, ?_⟩
    · intro tick asked
      rw [fresh] at asked
      exact absurd rfl asked
    · exact fun _ => Nat.zero_le _
    · intro tick
      rw [fresh]
      intro impossible
      cases impossible
    · intro tick since impossible
      cases impossible
    · intro tick moment member
      rw [fresh] at member
      cases member
    · intro tick other _ granted
      rw [fresh] at granted
      cases granted
  · intro state timeline action following sound timed offset stepped
    rcases setup.step_cases stepped with
      ⟨inner, rfl, permitted, moved, same⟩ | ⟨outside, same, counts⟩
    · exact timed.run sound offset permitted moved same
    · exact timed.replicas outside same counts

end Steps

/-- In every run with such offsets, two ticks that have called queues.add fired far enough
apart. -/
theorem Setup.oneEnqueue_of_offset (setup : Setup Replica) {latencyMs : Nat}
    {recorded : State Replica × Timeline Replica}
    (reached : setup.recorded.Reachable (setup.Offset latencyMs) recorded) :
    recorded.1.OneEnqueue setup.options.cronLockTtlMs := by
  intro tick tick' moment moment' start enqueued enqueued' after before after' before'
  have kept := (setup.timed_of_reachable reached).kept
  obtain ⟨started, fired, prompt⟩ := kept.prompt tick moment enqueued
  obtain ⟨started', fired', prompt'⟩ := kept.prompt tick' moment' enqueued'
  have same : tick = tick' := by
    by_contra different
    rcases kept.apart tick tick' different (wasGranted_of_started started)
      (wasGranted_of_started started') with apart | apart <;> omega
  subst same
  refine ⟨rfl, ?_⟩
  have coherent := setup.calls.coherent_of_reachable
    (setup.calls_of_reachable reached.forgotten) tick
  obtain ⟨instant, once⟩ := coherent.once started
  rw [State.Enqueued, once] at enqueued enqueued'
  exact (List.mem_singleton.mp enqueued).trans (List.mem_singleton.mp enqueued').symm

def replicaToken (tick : Bool × Nat) : String :=
  String.ofList ((if tick.1 then 'b' else 'a') :: List.replicate tick.2 '+')

theorem replicaToken_injective : Function.Injective replicaToken := by
  intro first second same
  obtain ⟨replica, number⟩ := first
  obtain ⟨replica', number'⟩ := second
  obtain ⟨letter, rest⟩ := List.cons.inj (String.ofList_injective same)
  have numbers : number = number' := by
    have lengths := congrArg List.length rest
    rwa [List.length_replicate, List.length_replicate] at lengths
  cases replica <;> cases replica' <;> simp_all

/-- Two cron processes under the default options. -/
def twoReplicas : Setup Bool :=
  { options :=
      { pollIntervalMs := 60000
        cronLockTtlMs := 55000
        cronLockTtlMs_pos := Nat.succ_pos 54999
        cronLockTtlMs_lt := Nat.lt_add_of_pos_right (Nat.succ_pos 4999) }
    token := replicaToken
    token_injective := replicaToken_injective }

def State.fired (state : State Bool) : List (Bool × Nat) :=
  [false, true].flatMap fun replica =>
    (List.range (state.replicas replica).ticks).map fun number => (replica, number)

theorem State.mem_fired {state : State Bool} {tick : Bool × Nat}
    (counted : tick.2 < (state.replicas tick.1).ticks) : tick ∈ state.fired := by
  obtain ⟨replica, number⟩ := tick
  apply List.mem_flatMap.mpr
  refine ⟨replica, ?_, List.mem_map.mpr ⟨number, List.mem_range.mpr counted, rfl⟩⟩
  cases replica <;> decide

/-- The offsets, checked for the ticks that have fired. -/
def offsetOf (latencyMs : Nat) (recorded : State Bool × Timeline Bool) : Action Bool → Bool
  | .run (.acquire tick) =>
      (recorded.1.fired.any fun holder => (recorded.2.heldSince holder).any fun since =>
          decide (recorded.1.locks.lock.now ≤ since + twoReplicas.options.cronLockTtlMs)) ||
        recorded.1.fired.all fun other => other == tick ||
          !wasGranted (recorded.1.locks.calls other).phase ||
          decide (recorded.2.firedAt other + twoReplicas.options.cronLockTtlMs + latencyMs ≤
            recorded.2.firedAt tick)
  | .run (.proceed tick) =>
      decide (recorded.1.locks.lock.now ≤ recorded.2.firedAt tick + latencyMs)
  | _ => true

theorem offset_of_offsetOf {latencyMs : Nat} (recorded : State Bool × Timeline Bool)
    (action : Action Bool)
    (reached : twoReplicas.recorded.Reachable (twoReplicas.Offset latencyMs) recorded)
    (checked : offsetOf latencyMs recorded action = true) :
    twoReplicas.Offset latencyMs recorded action := by
  cases action with
  | run inner =>
      cases inner with
      | acquire tick =>
          simp only [offsetOf, Bool.or_eq_true] at checked
          rcases checked with holds | far
          · obtain ⟨holder, _, holds⟩ := List.any_eq_true.mp holds
            obtain ⟨since, held, unexpired⟩ := (Option.any_eq_true _ _).mp holds
            exact .inl ⟨holder, since, held, of_decide_eq_true unexpired⟩
          · refine .inr fun other different granted => ?_
            have begun := (twoReplicas.timed_of_reachable reached).begun other
              (asked_of_granted granted)
            have fired := List.all_eq_true.mp far other (State.mem_fired begun)
            simp only [beq_false_of_ne different, granted, Bool.not_true, Bool.or_self,
              Bool.false_or] at fired
            exact of_decide_eq_true fired
      | proceed tick => exact fun _ => of_decide_eq_true checked
      | _ => trivial
  | _ => trivial

/-- The second process ticks while the first one holds the lock, and again a minute later. -/
theorem replicas_apart :
    ∃ recorded : State Bool × Timeline Bool,
      twoReplicas.recorded.Reachable (twoReplicas.Offset 100) recorded ∧
        recorded.1.Enqueued (false, 0) 60001 ∧ recorded.1.Enqueued (true, 1) 120002 ∧
        recorded.1.OneEnqueue twoReplicas.options.cronLockTtlMs := by
  have executed :
      (twoReplicas.recorded.execute (offsetOf 100) (State.empty, Timeline.blank)
        [.onModuleInit false, .run (.advance 2), .onModuleInit true, .run (.advance 59998),
          .interval false, .run (.acquire (false, 0)), .run (.advance 1),
          .run (.proceed (false, 0)), .run (.advance 1), .interval true,
          .run (.acquire (true, 0)), .run (.proceed (true, 0)), .tickEnds true,
          .run (.handlerResolves (false, 0) ()), .run (.release (false, 0)),
          .run (.releaseAnswered (false, 0)), .tickEnds false, .onModuleDestroy false,
          .run (.advance 60000), .interval true, .run (.acquire (true, 1)),
          .run (.proceed (true, 1))]).map
        (fun recorded => ((recorded.1.locks.calls (false, 0)).handlerStarts,
          (recorded.1.locks.calls (true, 1)).handlerStarts)) =
      some ([60001], [120002]) := by decide +kernel
  obtain ⟨recorded, run, facts⟩ := Option.map_eq_some_iff.mp executed
  obtain ⟨first, second⟩ := Prod.mk.inj facts
  have initially : twoReplicas.recorded.Reachable (twoReplicas.Offset 100)
      (State.empty, Timeline.blank) :=
    ⟨_, [], ⟨⟨⟨rfl, rfl, rfl, rfl⟩, rfl⟩, rfl⟩, .nil⟩
  have reached := initially.execute offset_of_offsetOf run
  refine ⟨recorded, reached, ?_, ?_, twoReplicas.oneEnqueue_of_offset reached⟩
  · rw [State.Enqueued, first]
    exact List.mem_singleton.mpr rfl
  · rw [State.Enqueued, second]
    exact List.mem_singleton.mpr rfl

/-- The second process was started two milliseconds after the first one, and its tick
finds the lock given back. -/
theorem not_oneEnqueue : ¬∀ setup : Setup Bool, setup.OneEnqueue anyAction := by
  intro claim
  have executed :
      (twoReplicas.system.execute (fun _ _ => true) State.empty
        [.onModuleInit false, .run (.advance 2), .onModuleInit true, .run (.advance 59998),
          .interval false, .run (.acquire (false, 0)), .run (.proceed (false, 0)),
          .run (.advance 1), .run (.handlerResolves (false, 0) ()),
          .run (.release (false, 0)), .run (.releaseAnswered (false, 0)), .tickEnds false,
          .run (.advance 1), .interval true, .run (.acquire (true, 0)),
          .run (.proceed (true, 0))]).map
        (fun state => ((state.locks.calls (false, 0)).handlerStarts,
          (state.locks.calls (true, 0)).handlerStarts)) =
      some ([60000], [60002]) := by decide +kernel
  obtain ⟨state, run, facts⟩ := Option.map_eq_some_iff.mp executed
  obtain ⟨first, second⟩ := Prod.mk.inj facts
  have reached : twoReplicas.system.Reachable anyAction state :=
    .of_execute (fun _ _ _ => trivial) ⟨⟨rfl, rfl, rfl, rfl⟩, rfl⟩ run
  have enqueued : state.Enqueued (false, 0) 60000 := by
    rw [State.Enqueued, first]
    exact List.mem_singleton.mpr rfl
  have enqueued' : state.Enqueued (true, 0) 60002 := by
    rw [State.Enqueued, second]
    exact List.mem_singleton.mpr rfl
  have same := claim twoReplicas state reached _ _ _ _ 60000 enqueued enqueued'
    (by decide) (by decide) (by decide) (by decide)
  exact absurd same.2 (by decide)

end BackendFoundation.Cron
