/-
The key of one job under any calls of RedisJobExecutionStore: workers acquire, extend,
complete and release with tokens that they hold or held once, and mark the job as sent,
in any order and at any time.
-/

import BackendFoundation.Jobs.EmailProcessor

namespace BackendFoundation.Jobs.JobExecutionStore

open Transition Redis Redis.Slot Redis.RedisService

/-- Each acquire draws its own randomUUID. -/
structure Workers (Call : Type) where
  token : Call → String
  token_injective : Function.Injective token
  token_ne_marker : ∀ call, token call ≠ completed ∧ token call ≠ sentAmbiguous

/-- The acquires that were granted are history. -/
structure KeyState (Call : Type) where
  now : Nat
  key : Slot String
  called : Call → Bool
  granted : Call → Bool

inductive KeyAction (Call : Type)
  | advance (milliseconds : Nat)
  | acquire (call : Call) (ttlSeconds : Nat)
  | extend (owner : Call) (ttlSeconds : Nat)
  | complete (owner : Call) (ttlSeconds : Nat)
  | release (owner : Call)
  | markAmbiguousSent (ttlSeconds : Nat)
deriving DecidableEq, Repr

variable {Call : Type}

/-- EX and EXPIRE want a positive TTL. -/
def KeyAction.ttlPositive : KeyAction Call → Bool
  | .acquire _ ttlSeconds | .extend _ ttlSeconds | .complete _ ttlSeconds
  | .markAmbiguousSent ttlSeconds => decide (0 < ttlSeconds)
  | .advance _ | .release _ => true

/-- The write that one call makes to the key. -/
def Workers.written (workers : Workers Call) (now : Nat) (key : Slot String) :
    KeyAction Call → Slot String
  | .advance _ => key
  | .acquire call ttlSeconds =>
      (JobExecutionStore.acquire now key (workers.token call) ttlSeconds).1
  | .extend owner ttlSeconds =>
      (JobExecutionStore.extend now key (workers.token owner) ttlSeconds).1
  | .complete owner ttlSeconds =>
      (JobExecutionStore.complete now key (workers.token owner) ttlSeconds).1
  | .release owner => JobExecutionStore.release now key (workers.token owner)
  | .markAmbiguousSent ttlSeconds => JobExecutionStore.markAmbiguousSent now ttlSeconds

/-- An acquire draws a fresh token, so each is called once. -/
def Workers.step [DecidableEq Call] (workers : Workers Call) (state : KeyState Call)
    (action : KeyAction Call) : Option (KeyState Call) :=
  if action.ttlPositive then
    let key := workers.written state.now state.key action
    match action with
    | .advance milliseconds => some { state with now := state.now + milliseconds }
    | .acquire call ttlSeconds =>
        if state.called call then none
        else
          let (_, acquired) :=
            JobExecutionStore.acquire state.now state.key (workers.token call) ttlSeconds
          some { state with
            key := key
            called := Function.update state.called call true
            granted := Function.update state.granted call acquired }
    | _ => some { state with key := key }
  else none

def KeyState.initial (state : KeyState Call) : Prop :=
  state.key = none ∧ state.called = (fun _ => false) ∧ state.granted = fun _ => false

def Workers.system [DecidableEq Call] (workers : Workers Call) :
    Transition.System (KeyState Call) (KeyAction Call) :=
  { initial := KeyState.initial
    step := workers.step }

def isMarker (value : String) : Prop :=
  value = completed ∨ value = sentAmbiguous

/-- The job is completed or sent, and the retention of that marker has not elapsed. -/
def KeyState.Marked (state : KeyState Call) (cell : Cell String) : Prop :=
  live state.now state.key = some cell ∧ isMarker cell.value

/-- Time does not pass the expiry of the key. -/
def Retained (state : KeyState Call) (action : KeyAction Call) : Prop :=
  ∀ milliseconds cell deadline, action = .advance milliseconds → state.key = some cell →
    cell.expireAt = some deadline → state.now + milliseconds ≤ deadline

/-- The cell that markAmbiguousSent writes, in a call with the given TTL. -/
def sentCell (now ttlSeconds : Nat) : Cell String :=
  { value := sentAmbiguous
    expireAt := some (now + ttlSeconds * 1000) }

/-- The job-execution key state machine. -/
structure Workers.KeyMachine [DecidableEq Call] (workers : Workers Call) : Prop where
  states : ∀ state, workers.system.Reachable anyAction state → ∀ value,
    get state.now state.key = some value →
      isMarker value ∨ ∃ call, state.granted call = true ∧ value = workers.token call
  oneHolder : ∀ state, workers.system.Reachable anyAction state → ∀ first second,
    get state.now state.key = some (workers.token first) →
      get state.now state.key = some (workers.token second) → first = second
  foreign : ∀ state, workers.system.Reachable anyAction state → ∀ owner ttlSeconds,
    get state.now state.key ≠ some (workers.token owner) →
      complete state.now state.key (workers.token owner) ttlSeconds = (state.key, false) ∧
        extend state.now state.key (workers.token owner) ttlSeconds = (state.key, false) ∧
          release state.now state.key (workers.token owner) = state.key
  absorbing : ∀ state cell, workers.system.Reachable anyAction state → state.Marked cell →
    ∀ action following, workers.system.step state action = some following →
      following.key = some cell ∨ ∃ ttlSeconds, action = .markAmbiguousSent ttlSeconds ∧
        following.key = some (sentCell state.now ttlSeconds)
  final : ∀ start cell, workers.system.Reachable anyAction start → start.Marked cell →
    ∀ actions finish, workers.system.Run Retained start actions finish →
      ∃ after, finish.Marked after ∧
        (after = cell ∨ ∃ moment ttlSeconds,
          .markAmbiguousSent ttlSeconds ∈ actions ∧ after = sentCell moment ttlSeconds) ∧
        (∀ call ttlSeconds,
          acquire finish.now finish.key (workers.token call) ttlSeconds =
            (finish.key, false)) ∧
        (cell.value = sentAmbiguous → after.value = sentAmbiguous)

theorem Workers.marker_ne_token (workers : Workers Call) {value : String}
    (marker : isMarker value) (call : Call) : value ≠ workers.token call := by
  obtain ⟨notCompleted, notSent⟩ := workers.token_ne_marker call
  rcases marker with rfl | rfl
  · exact notCompleted.symm
  · exact notSent.symm

/-- Only markAmbiguousSent writes over a marker. -/
theorem Workers.written_of_marked {workers : Workers Call} {state : KeyState Call}
    {cell : Cell String} (marked : state.Marked cell) (action : KeyAction Call) :
    workers.written state.now state.key action = some cell ∨
      ∃ ttlSeconds, action = .markAmbiguousSent ttlSeconds ∧
        workers.written state.now state.key action =
          some (sentCell state.now ttlSeconds) := by
  obtain ⟨found, marker⟩ := marked
  have stored : state.key = some cell := (live_some_iff.mp found).1
  have value : get state.now state.key = some cell.value :=
    get_eq_some_iff.mpr ⟨cell, found, rfl⟩
  have foreign := workers.marker_ne_token marker
  cases action with
  | advance => exact .inl stored
  | acquire call ttlSeconds => exact .inl ((acquire_of_get value).trans stored)
  | extend owner ttlSeconds =>
      exact .inl ((congrArg Prod.fst (extend_of_get value (foreign owner))).trans stored)
  | complete owner ttlSeconds =>
      exact .inl ((congrArg Prod.fst (complete_of_get value (foreign owner))).trans stored)
  | release owner => exact .inl ((release_of_get value (foreign owner)).trans stored)
  | markAmbiguousSent ttlSeconds => exact .inr ⟨ttlSeconds, rfl, rfl⟩

/-- What a write leaves in the key was there before, or is new. -/
theorem Workers.written_cell {workers : Workers Call} {state : KeyState Call}
    {action : KeyAction Call} {cell : Cell String}
    (stored : workers.written state.now state.key action = some cell) :
    (∃ earlier, state.key = some earlier ∧ earlier.value = cell.value) ∨
      isMarker cell.value ∨
      ∃ call ttlSeconds, action = .acquire call ttlSeconds ∧
        (acquire state.now state.key (workers.token call) ttlSeconds).2 = true ∧
          cell.value = workers.token call := by
  cases action with
  | advance => exact .inl ⟨cell, stored, rfl⟩
  | acquire call ttlSeconds =>
      cases found : live state.now state.key with
      | none =>
          simp only [written, acquire, setExNx, found] at stored
          cases stored
          refine .inr (.inr ⟨call, ttlSeconds, rfl, ?_, rfl⟩)
          simp only [acquire, setExNx, found]
      | some earlier =>
          simp only [written, acquire, setExNx, found] at stored
          exact .inl ⟨cell, stored, rfl⟩
  | extend owner ttlSeconds => exact .inl (extend_cell stored)
  | complete owner ttlSeconds =>
      simp only [written, complete] at stored
      split at stored
      · cases stored
        exact .inr (.inl (.inl rfl))
      · exact .inl ⟨cell, stored, rfl⟩
  | release owner => exact .inl ⟨cell, release_cell stored, rfl⟩
  | markAmbiguousSent ttlSeconds =>
      cases stored
      exact .inr (.inl (.inr rfl))

theorem Workers.marked_write {workers : Workers Call} {state following : KeyState Call}
    {cell : Cell String} {action : KeyAction Call} (marked : state.Marked cell)
    (now : following.now = state.now)
    (key : following.key = workers.written state.now state.key action) :
    following.Marked cell ∨ ∃ ttlSeconds, action = .markAmbiguousSent ttlSeconds ∧
      following.Marked (sentCell state.now ttlSeconds) := by
  unfold KeyState.Marked
  rw [now, key]
  rcases workers.written_of_marked marked action with kept | ⟨ttlSeconds, same, sent⟩
  · exact .inl ⟨live_some_iff.mpr ⟨kept, (live_some_iff.mp marked.1).2⟩, marked.2⟩
  · refine .inr ⟨ttlSeconds, same, live_some_iff.mpr ⟨sent, ?_⟩, .inr rfl⟩
    exact aliveAt_of_le rfl (Nat.le_add_right _ _)

section Steps

variable [DecidableEq Call] {workers : Workers Call}

/-- The inversion of a step. -/
theorem Workers.step_cases {state following : KeyState Call} {action : KeyAction Call}
    (stepped : workers.step state action = some following) :
    (∃ milliseconds, action = .advance milliseconds ∧
      following = { state with now := state.now + milliseconds }) ∨
    (∃ call ttlSeconds, action = .acquire call ttlSeconds ∧ state.called call = false ∧
      following =
        { state with
          key := workers.written state.now state.key action
          called := Function.update state.called call true
          granted := Function.update state.granted call
            (acquire state.now state.key (workers.token call) ttlSeconds).2 }) ∨
    (∀ call ttlSeconds, action ≠ .acquire call ttlSeconds) ∧
      following = { state with key := workers.written state.now state.key action } := by
  unfold step at stepped
  split at stepped
  · cases action with
    | advance milliseconds => exact .inl ⟨milliseconds, rfl, (Option.some.inj stepped).symm⟩
    | acquire call ttlSeconds =>
        simp only at stepped
        split at stepped
        · cases stepped
        · rename_i fresh
          exact .inr (.inl ⟨call, ttlSeconds, rfl, Bool.eq_false_iff.mpr fresh,
            (Option.some.inj stepped).symm⟩)
    | extend | complete | release | markAmbiguousSent =>
        exact .inr (.inr ⟨nofun, (Option.some.inj stepped).symm⟩)
  · cases stepped

theorem Workers.step_key {state following : KeyState Call} {action : KeyAction Call}
    (stepped : workers.step state action = some following) :
    following.key = workers.written state.now state.key action := by
  rcases workers.step_cases stepped with ⟨_, rfl, rfl⟩ | ⟨_, _, rfl, _, rfl⟩ | ⟨_, rfl⟩ <;> rfl

/-- Every value of the key expires, and is a marker or the token of a granted acquire. -/
structure Workers.Known (workers : Workers Call) (state : KeyState Call) : Prop where
  asked : ∀ call, state.granted call = true → state.called call = true
  value : ∀ cell, state.key = some cell →
    isMarker cell.value ∨ ∃ call, state.granted call = true ∧ cell.value = workers.token call

theorem Workers.known_step {state following : KeyState Call} {action : KeyAction Call}
    (known : workers.Known state) (stepped : workers.step state action = some following) :
    workers.Known following := by
  have kept : ∀ call, state.granted call = true → following.granted call = true := by
    intro call granted
    rcases workers.step_cases stepped with
      ⟨_, rfl, rfl⟩ | ⟨actor, _, rfl, fresh, rfl⟩ | ⟨_, rfl⟩
    · exact granted
    · have different : call ≠ actor := by
        intro equal
        subst equal
        rw [known.asked call granted] at fresh
        cases fresh
      exact (Function.update_of_ne different _ _).trans granted
    · exact granted
  constructor
  · intro call granted
    rcases workers.step_cases stepped with
      ⟨_, rfl, rfl⟩ | ⟨actor, _, rfl, fresh, rfl⟩ | ⟨_, rfl⟩
    · exact known.asked call granted
    · by_cases same : call = actor
      · subst same
        exact Function.update_self _ _ _
      · have before := (Function.update_of_ne same _ state.granted).symm.trans granted
        exact (Function.update_of_ne same _ _).trans (known.asked call before)
    · exact known.asked call granted
  · intro cell stored
    rw [workers.step_key stepped] at stored
    rcases workers.written_cell stored with
      ⟨earlier, before, value⟩ | marker | ⟨call, ttlSeconds, rfl, granted, value⟩
    · rw [← value]
      exact (known.value earlier before).imp_right fun ⟨call, granted, value⟩ =>
        ⟨call, kept call granted, value⟩
    · exact .inl marker
    · refine .inr ⟨call, ?_, value⟩
      rcases workers.step_cases stepped with
        ⟨_, impossible, _⟩ | ⟨actor, _, same, fresh, rfl⟩ | ⟨other, _⟩
      · cases impossible
      · cases same
        exact (Function.update_self _ _ _).trans granted
      · exact absurd rfl (other call ttlSeconds)

theorem Workers.known_of_reachable {allowed : KeyState Call → KeyAction Call → Prop}
    {state : KeyState Call} (reached : workers.system.Reachable allowed state) :
    workers.Known state := by
  apply reached.invariant
  · intro state initial
    obtain ⟨key, _, granted⟩ := initial
    refine ⟨fun call impossible => ?_, fun cell stored => ?_⟩
    · rw [granted] at impossible
      cases impossible
    · rw [key] at stored
      cases stored
  · intro state action following known _ stepped
    exact workers.known_step known stepped

/-- A marker stays until its retention elapses, or is written anew as sent-ambiguous. -/
theorem Workers.marked_step {state following : KeyState Call} {cell : Cell String}
    {action : KeyAction Call} (marked : state.Marked cell) (retained : Retained state action)
    (stepped : workers.step state action = some following) :
    following.Marked cell ∨ ∃ ttlSeconds, action = .markAmbiguousSent ttlSeconds ∧
      following.Marked (sentCell state.now ttlSeconds) := by
  rcases workers.step_cases stepped with
    ⟨milliseconds, rfl, rfl⟩ | ⟨_, _, rfl, _, rfl⟩ | ⟨_, rfl⟩
  · refine .inl ⟨?_, marked.2⟩
    obtain ⟨stored, _⟩ := live_some_iff.mp marked.1
    refine live_some_iff.mpr ⟨stored, ?_⟩
    cases expiry : cell.expireAt with
    | none => simp only [Cell.aliveAt, expiry]
    | some deadline =>
        exact aliveAt_of_le expiry (retained milliseconds cell deadline rfl stored expiry)
  · exact workers.marked_write marked rfl rfl
  · exact workers.marked_write marked rfl rfl

/-- What a marker can have become while its retention lasts. -/
theorem Workers.marked_run {start finish : KeyState Call} {cell : Cell String}
    {actions : List (KeyAction Call)} (marked : start.Marked cell)
    (run : workers.system.Run Retained start actions finish) :
    ∃ after, finish.Marked after ∧ (after = cell ∨ ∃ moment ttlSeconds,
      .markAmbiguousSent ttlSeconds ∈ actions ∧ after = sentCell moment ttlSeconds) := by
  induction run with
  | nil => exact ⟨cell, marked, .inl rfl⟩
  | @snoc actions action middle finish _ retained stepped ih =>
      obtain ⟨before, marked', origin⟩ := ih
      rcases workers.marked_step marked' retained stepped with kept | ⟨ttlSeconds, rfl, sent⟩
      · refine ⟨before, kept, origin.imp_right ?_⟩
        intro found
        obtain ⟨moment, ttlSeconds, member, same⟩ := found
        exact ⟨moment, ttlSeconds, List.mem_append_left _ member, same⟩
      · exact ⟨_, sent, .inr ⟨middle.now, ttlSeconds,
          List.mem_append_right _ (List.mem_singleton.mpr rfl), rfl⟩⟩

theorem Workers.keyMachine (workers : Workers Call) : workers.KeyMachine where
  states := by
    intro state reached value stored
    obtain ⟨cell, found, rfl⟩ := get_eq_some_iff.mp stored
    exact (workers.known_of_reachable reached).value cell (live_some_iff.mp found).1
  oneHolder := by
    intro state _ first second held held'
    exact workers.token_injective (Option.some.inj (held.symm.trans held'))
  foreign := by
    intro state _ owner ttlSeconds foreign
    have unheld : holds state.now state.key (workers.token owner) = false :=
      beq_eq_false_iff_ne.mpr foreign
    simp only [complete, extend, compareAndExpire, release, compareAndDelete, unheld,
      Bool.false_eq_true, if_false, and_self]
  absorbing := by
    intro state cell _ marked action following stepped
    rw [workers.step_key stepped]
    exact workers.written_of_marked marked action
  final := by
    intro start cell _ marked actions finish run
    obtain ⟨after, marked', origin⟩ := workers.marked_run marked run
    refine ⟨after, marked', origin, fun call ttlSeconds => ?_, fun sent => ?_⟩
    · simp only [acquire, setExNx, marked'.1]
    · rcases origin with rfl | ⟨moment, ttlSeconds, _, rfl⟩
      · exact sent
      · rfl

end Steps

def mailWorkers : Workers Bool :=
  { token := mailTokens
    token_injective := mailTokens_injective
    token_ne_marker := mailTokens_ne_marker }

def noCalls : KeyState Bool :=
  { now := 0
    key := none
    called := fun _ => false
    granted := fun _ => false }

/-- The first worker outlives its lease, and the second one takes the job. -/
def lostLease : List (KeyAction Bool) :=
  [.acquire false 300, .advance 300001, .acquire true 300]

/-- What the first worker calls then changes nothing. -/
theorem keyMachine_lostLease :
    ∃ state, mailWorkers.system.Reachable anyAction state ∧ state.granted false = true ∧
      complete state.now state.key (mailTokens false) 2592000 = (state.key, false) ∧
        extend state.now state.key (mailTokens false) 300 = (state.key, false) ∧
          release state.now state.key (mailTokens false) = state.key := by
  have executed : (mailWorkers.system.execute (fun _ _ => true) noCalls lostLease).map
      (fun state => (state.granted false, get state.now state.key)) =
      some (true, some (mailTokens true)) := by
    rfl
  obtain ⟨state, run, facts⟩ := Option.map_eq_some_iff.mp executed
  obtain ⟨granted, held⟩ := Prod.mk.inj facts
  have reached : mailWorkers.system.Reachable anyAction state :=
    .of_execute (fun _ _ _ => trivial) ⟨rfl, rfl, rfl⟩ run
  have foreign : get state.now state.key ≠ some (mailWorkers.token false) := by
    rw [held]
    decide
  have machine := mailWorkers.keyMachine
  obtain ⟨completes, _, releases⟩ := machine.foreign state reached false 2592000 foreign
  exact ⟨state, reached, granted, completes, (machine.foreign state reached false 300 foreign).2.1,
    releases⟩

end BackendFoundation.Jobs.JobExecutionStore
