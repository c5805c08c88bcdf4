/-
Who owns the lock: one stored token, no grant while a lease runs, no effect of a handle
that is not stored, and handlers that exclude one another as long as no runWithLock call
loses its lease.
-/

import BackendFoundation.Locks.Steps

namespace BackendFoundation.Locks

open Transition Redis Redis.Slot

variable {Call Value : Type} [DecidableEq Call]

/-- From the acquire that took the lock to the release. -/
def Phase.owning : Phase Value → Bool
  | .answered true | .running | .releasing _ => true
  | _ => false

/-- No lease of a runWithLock call runs out before its release. -/
def Setup.Kept (setup : Setup Call) (state : State Call Value) : Action Call Value → Prop
  | .advance milliseconds => ∀ call, setup.entry call = .runWithLock →
      (state.calls call).phase.owning = true → (state.lock.advance milliseconds).Leased call
  | _ => True

/-- The step is neither the call's own release nor the end of its lease. -/
def Unended (call : Call) (state : State Call Value) (action : Action Call Value) : Prop :=
  action ≠ .release call ∧ action ≠ .releaseHandle call ∧
    ∀ milliseconds deadline, action = .advance milliseconds →
      state.lock.deadline call = some deadline → state.lock.now + milliseconds ≤ deadline

/-- Lock ownership safety. -/
structure Setup.OwnershipSafe (setup : Setup Call) (Value : Type) : Prop where
  oneToken : ∀ state : State Call Value, setup.system.Reachable anyAction state →
    ∀ value, get state.lock.now state.lock.key = some value →
      ∃ call, value = setup.token call ∧
        ∀ other, state.lock.Stores setup.token other → other = call
  exclusive : ∀ (before after : State Call Value) (call : Call),
    setup.system.Reachable anyAction before →
    setup.step before (.acquire call) = some after →
    (after.calls call).phase = .answered true →
    ∀ actions middle, setup.system.Run (Unended call) after actions middle →
      middle.lock.Stores setup.token call ∧
        ∀ other finish, setup.step middle (.acquire other) = some finish →
          (finish.calls other).phase = .answered false ∧ finish.lock = middle.lock
  foreign : ∀ state : State Call Value, setup.system.Reachable anyAction state →
    ∀ call, ¬state.lock.Stores setup.token call → ∀ ttlMs,
      RedisDistributedLock.extend state.lock.now state.lock.key (setup.token call) ttlMs =
          (state.lock.key, false) ∧
        RedisDistributedLock.release state.lock.now state.lock.key (setup.token call) =
          state.lock.key
  disjoint : ∀ state : State Call Value, setup.system.Reachable setup.Kept state →
    ∀ call other, (state.calls call).phase = .running →
      (state.calls other).phase = .running → call = other
  ranOnce : ∀ state : State Call Value, setup.system.Reachable anyAction state →
    ∀ call value, (state.calls call).phase = .returned (.ok value) →
      ∃ instant, (state.calls call).handlerStarts = [instant]

theorem Setup.acquire_phase (setup : Setup Call) (state : State Call Value) (call : Call) :
    ((setup.acquire state call).calls call).phase =
      .answered (state.lock.acquire setup.token call (setup.ttlMs call)).2 := by
  change ((state.update call _).calls call).phase = _
  rw [State.update_self]
  rfl

theorem Setup.acquire_lock (setup : Setup Call) (state : State Call Value) (call : Call) :
    (setup.acquire state call).lock =
      (state.lock.acquire setup.token call (setup.ttlMs call)).1 :=
  rfl

/-- An acquire that Redis grants starts a lease. -/
theorem Setup.acquire_leased {setup : Setup Call} {state : State Call Value} {call : Call}
    (granted : ((setup.acquire state call).calls call).phase = .answered true) :
    (setup.acquire state call).lock.Leased call := by
  rw [setup.acquire_phase] at granted
  have deadline := (Lock.acquire_granted (Phase.answered.inj granted)).2
  refine ⟨_, deadline, ?_⟩
  rw [setup.acquire_lock, Lock.acquire_now]
  exact Nat.le_add_right _ _

theorem Setup.acquire_keeps {setup : Setup Call} {state : State Call Value}
    {call other : Call} (sound : state.lock.Sound setup.token)
    (leased : state.lock.Leased other) : (setup.acquire state call).lock = state.lock := by
  rw [setup.acquire_lock, sound.acquire_refused leased]

theorem Setup.acquire_of_step {setup : Setup Call} {state following : State Call Value}
    {call : Call} (stepped : setup.step state (.acquire call) = some following) :
    following = setup.acquire state call := by
  simp only [step] at stepped
  split at stepped
  · exact (Option.some.inj stepped).symm
  · cases stepped

/-- A lease ends with the call's own release, or when it runs out. -/
theorem Setup.leased_of_unended {setup : Setup Call} {state following : State Call Value}
    {action : Action Call Value} {call : Call} (sound : state.lock.Sound setup.token)
    (unended : Unended call state action) (leased : state.lock.Leased call)
    (stepped : setup.step state action = some following) : following.lock.Leased call := by
  obtain ⟨unreleased, unreleasedHandle, unexpired⟩ := unended
  cases setup.moved stepped with
  | advances milliseconds =>
      obtain ⟨deadline, stored, _⟩ := leased
      exact ⟨deadline, stored, unexpired milliseconds deadline rfl stored⟩
  | acquires phase =>
      rw [setup.acquire_keeps sound leased]
      exact leased
  | @acts action actor lock after turn =>
      by_cases same : call = actor
      · subst same
        cases turn with
        | extends_ => exact sound.extend_leased leased
        | releases => exact absurd rfl unreleased
        | fails | skips | holds | starts | beats | learns | misses | resolves | rejects | returns
        | throws => exact leased
      · exact turn.served.leased same leased
  | @extendsHandle actor ttlMs phase =>
      by_cases same : call = actor
      · subst same
        exact sound.extend_leased leased
      · have served : state.lock.Served setup.token actor _ := .extend ttlMs
        exact served.leased same leased
  | @releasesHandle actor phase =>
      have different : call ≠ actor := by
        intro equal
        subst equal
        exact unreleasedHandle rfl
      have served : state.lock.Served setup.token actor _ := .release
      exact served.leased different leased

/-- In a kept run the lease of a runWithLock call runs until its release. -/
def Setup.Owned (setup : Setup Call) (state : State Call Value) : Prop :=
  ∀ call, setup.entry call = .runWithLock → (state.calls call).phase.owning = true →
    state.lock.Leased call

/-- A call that owns the lock after its turn owned it before, and has not released it. -/
theorem Setup.Turn.owning {setup : Setup Call} {lock after : Lock Call} {call : Call}
    {before next : CallState Value} {action : Action Call Value}
    (turn : setup.Turn lock call before action after next)
    (owning : next.phase.owning = true) :
    before.phase.owning = true ∧
      (after = lock ∨ ∃ ttlMs, after = (lock.extend setup.token call ttlMs).1) := by
  cases turn with
  | fails | skips | holds | releases | returns | throws => cases owning
  | starts phase | resolves phase | rejects phase => exact ⟨by rw [phase]; rfl, .inl rfl⟩
  | beats | learns | misses => exact ⟨owning, .inl rfl⟩
  | extends_ => exact ⟨owning, .inr ⟨_, rfl⟩⟩

theorem Setup.owned_step {setup : Setup Call} {state following : State Call Value}
    {action : Action Call Value} (sound : state.lock.Sound setup.token)
    (owned : setup.Owned state) (kept : setup.Kept state action)
    (stepped : setup.step state action = some following) : setup.Owned following := by
  intro call entry owning
  cases setup.moved stepped with
  | advances milliseconds => exact kept call entry owning
  | @acquires actor phase =>
      by_cases same : call = actor
      · subst same
        have granted : ((setup.acquire state call).calls call).phase = .answered true := by
          rw [setup.acquire_phase] at owning ⊢
          cases acquired : (state.lock.acquire setup.token call (setup.ttlMs call)).2 with
          | true => rfl
          | false =>
              rw [acquired] at owning
              cases owning
        exact setup.acquire_leased granted
      · have unmoved : (setup.acquire state actor).calls call = state.calls call :=
          State.update_other state _ same
        rw [unmoved] at owning
        have leased := owned call entry owning
        rw [setup.acquire_keeps sound leased]
        exact leased
  | @acts _ actor lock after turn =>
      by_cases same : call = actor
      · subst same
        have moved : (state.update call after).calls call = after := state.update_self call after
        obtain ⟨before, lock⟩ := turn.owning (by rw [← moved]; exact owning)
        have leased := owned call entry before
        rcases lock with rfl | ⟨ttlMs, rfl⟩
        · exact leased
        · exact sound.extend_leased leased
      · have unmoved : (state.update actor after).calls call = state.calls call :=
          state.update_other after same
        have before : (state.calls call).phase.owning = true := by
          rw [← unmoved]
          exact owning
        exact turn.served.leased same (owned call entry before)
  | @extendsHandle actor ttlMs phase =>
      have different : call ≠ actor := by
        intro equal
        subst equal
        rw [phase] at owning
        cases owning
      have served : state.lock.Served setup.token actor _ := .extend ttlMs
      exact served.leased different (owned call entry owning)
  | @releasesHandle actor phase =>
      have different : call ≠ actor := by
        intro equal
        subst equal
        rw [phase] at owning
        cases owning
      have served : state.lock.Served setup.token actor _ := .release
      exact served.leased different (owned call entry owning)

theorem Setup.owned_of_reachable {setup : Setup Call} {state : State Call Value}
    (reached : setup.system.Reachable setup.Kept state) : setup.Owned state := by
  refine reached.invariant_using (fun _ => setup.sound_of_reachable) ?_ ?_
  · intro state initial call _ owning
    obtain ⟨_, _, calls, _⟩ := initial
    rw [calls] at owning
    cases owning
  · intro state action following sound owned kept stepped
    exact setup.owned_step sound owned kept stepped

/-- Only runWithLock calls a handler. -/
def Setup.Handles (setup : Setup Call) (call : Call) (known : CallState Value) : Prop :=
  known.phase.started = true → setup.entry call = .runWithLock

theorem Setup.Turn.handles {setup : Setup Call} {lock lock' : Lock Call} {call : Call}
    {before after : CallState Value} {action : Action Call Value}
    (turn : setup.Turn lock call before action lock' after)
    (handles : setup.Handles call before) : setup.Handles call after := by
  intro started
  cases turn with
  | fails | skips | holds => cases started
  | starts _ entry => exact entry
  | beats | extends_ | learns | misses => exact handles started
  | resolves phase | rejects phase | releases phase | returns phase =>
      exact handles (by rw [phase]; rfl)
  | throws phase => exact handles (by rcases phase with phase | phase <;> rw [phase] <;> rfl)

theorem Setup.handles_of_reachable {setup : Setup Call} {state : State Call Value}
    {allowed : State Call Value → Action Call Value → Prop}
    (reached : setup.system.Reachable allowed state) (call : Call) :
    setup.Handles call (state.calls call) := by
  revert call
  apply reached.invariant
  · intro state initial call started
    obtain ⟨_, _, calls, _⟩ := initial
    rw [calls] at started
    cases started
  · intro state action following handles _ stepped
    cases setup.moved stepped with
    | advances | extendsHandle | releasesHandle => exact handles
    | acquires => exact State.update_all handles (by intro started; cases started)
    | acts turn => exact State.update_all handles (turn.handles (handles _))

theorem Setup.ownershipSafe (setup : Setup Call) (Value : Type) :
    setup.OwnershipSafe Value where
  oneToken := by
    intro state reached value stored
    obtain ⟨cell, found, rfl⟩ := get_eq_some_iff.mp stored
    obtain ⟨call, deadline, _, rfl⟩ := (setup.sound_of_reachable reached).stored cell found
    exact ⟨call, rfl, fun other stores =>
      Lock.stores_unique setup.token_injective stores stored⟩
  exclusive := by
    intro before after call reached stepped granted actions middle run
    have acquired := setup.acquire_of_step stepped
    subst acquired
    have acquires : setup.system.step before (.acquire call) =
        some (setup.acquire before call) := stepped
    have reached := reached.next trivial acquires
    have sound : middle.lock.Sound setup.token :=
      setup.sound_of_reachable
        (reached.extend (run.weaken fun _ _ _ => trivial))
    have leased : middle.lock.Leased call := by
      have kept := run.preserves
        (fun state action following inside unended stepped =>
          And.intro (System.Reachable.next inside.1 trivial stepped)
            (setup.leased_of_unended (setup.sound_of_reachable inside.1) unended inside.2
              stepped))
        ⟨reached, setup.acquire_leased granted⟩
      exact kept.2
    refine ⟨sound.stores leased, fun other finish stepped => ?_⟩
    have acquired := setup.acquire_of_step stepped
    subst acquired
    refine ⟨?_, setup.acquire_keeps sound leased⟩
    rw [setup.acquire_phase, sound.acquire_refused leased]
  foreign := by
    intro state _ call foreign ttlMs
    have unheld := Lock.holds_foreign foreign
    simp only [RedisDistributedLock.extend, RedisDistributedLock.release,
      RedisService.compareAndDelete, unheld, Bool.false_eq_true, if_false, and_self]
  disjoint := by
    intro state reached call other running running'
    have owned := setup.owned_of_reachable reached
    have sound := setup.sound_of_reachable reached
    have leased : ∀ actor, (state.calls actor).phase = .running → state.lock.Leased actor :=
      fun actor running => owned actor
        (setup.handles_of_reachable reached actor (by rw [running]; rfl)) (by rw [running]; rfl)
    exact sound.leased_unique setup.token_injective (leased call running)
      (leased other running')
  ranOnce := by
    intro state reached call value returned
    exact (setup.coherent_of_reachable reached call).once (by rw [returned]; rfl)

end BackendFoundation.Locks
