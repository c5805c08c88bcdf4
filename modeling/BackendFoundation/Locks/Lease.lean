/-
RedisDistributedLock.acquire, extend and release on the key of one lock. Each is one
command or one script. A lease is what the replies tell the caller of its handle: it
runs for ttlMs from the acquire or the last extend that Redis has granted, and ends
with the handle's own release.
-/

import BackendFoundation.Redis.RedisService

namespace BackendFoundation.Locks

open Redis Redis.Slot Redis.RedisService

namespace RedisDistributedLock

/-- The token is the randomUUID that the call draws. -/
def acquire (now : Nat) (key : Slot String) (token : String) (ttlMs : Nat) :
    Slot String × Bool :=
  setPxNx now key token ttlMs

def extend (now : Nat) (key : Slot String) (token : String) (ttlMs : Nat) :
    Slot String × Bool :=
  if holds now key token then pexpire now key ttlMs else (key, false)

/-- The count of deleted keys is not looked at. -/
def release (now : Nat) (key : Slot String) (token : String) : Slot String :=
  (compareAndDelete now key token).1

end RedisDistributedLock

/-- The key under Redis' clock. The deadlines are history. -/
structure Lock (Call : Type) where
  now : Nat
  key : Slot String
  deadline : Call → Option Nat

namespace Lock

variable {Call : Type} {token : Call → String} {lock : Lock Call} {call other : Call}
  {ttlMs : Nat}

/-- The lease of a call has neither run out nor been given back. -/
def Leased (lock : Lock Call) (call : Call) : Prop :=
  ∃ deadline, lock.deadline call = some deadline ∧ lock.now ≤ deadline

/-- It has run out, and has not been given back. -/
def lapsed (lock : Lock Call) (call : Call) : Bool :=
  (lock.deadline call).any fun deadline => decide (deadline < lock.now)

def Stores (token : Call → String) (lock : Lock Call) (call : Call) : Prop :=
  get lock.now lock.key = some (token call)

def advance (lock : Lock Call) (milliseconds : Nat) : Lock Call :=
  { lock with now := lock.now + milliseconds }

/-- What the key holds is what some lease says, and the key holds every lease. -/
structure Sound (token : Call → String) (lock : Lock Call) : Prop where
  stored : ∀ cell, live lock.now lock.key = some cell → ∃ call deadline,
    lock.deadline call = some deadline ∧
      cell = { value := token call, expireAt := some deadline }
  held : ∀ call deadline, lock.deadline call = some deadline → lock.now ≤ deadline →
    live lock.now lock.key = some { value := token call, expireAt := some deadline }

theorem Sound.unheld (now : Nat) :
    Sound token { now := now, key := none, deadline := fun _ => none } where
  stored := fun _ found => by cases found
  held := fun _ _ leased => by cases leased

theorem Sound.stores (sound : lock.Sound token) (leased : lock.Leased call) :
    lock.Stores token call := by
  obtain ⟨deadline, until_, unexpired⟩ := leased
  exact get_eq_some_iff.mpr ⟨_, sound.held call deadline until_ unexpired, rfl⟩

/-- A lease is a matter of its deadline. -/
theorem Leased.of_deadline {after : Lock Call} (leased : lock.Leased call)
    (deadline : after.deadline call = lock.deadline call) (order : after.now ≤ lock.now) :
    after.Leased call := by
  obtain ⟨instant, until_, unexpired⟩ := leased
  exact ⟨instant, deadline.trans until_, Nat.le_trans order unexpired⟩

theorem Leased.not_lapsed (leased : lock.Leased call) : lock.lapsed call = false := by
  obtain ⟨deadline, until_, unexpired⟩ := leased
  simp only [lapsed, until_, Option.any_some, decide_eq_false_iff_not, Nat.not_lt]
  exact unexpired

theorem lapsed_of_unleased {deadline : Nat} (begun : lock.deadline call = some deadline)
    (unleased : ¬lock.Leased call) : lock.lapsed call = true := by
  simp only [lapsed, begun, Option.any_some, decide_eq_true_eq]
  by_contra unexpired
  exact unleased ⟨deadline, begun, Nat.le_of_not_lt unexpired⟩

/-- Tokens are fresh, so the key names one holder. -/
theorem stores_unique (distinct : Function.Injective token) (first : lock.Stores token call)
    (second : lock.Stores token other) : call = other :=
  distinct (Option.some.inj (first.symm.trans second))

theorem holds_foreign (foreign : ¬lock.Stores token call) :
    holds lock.now lock.key (token call) = false :=
  beq_eq_false_iff_ne.mpr foreign

theorem Sound.leased_of_stores (distinct : Function.Injective token) (sound : lock.Sound token)
    (stores : lock.Stores token call) : lock.Leased call := by
  obtain ⟨cell, found, value⟩ := get_eq_some_iff.mp stores
  obtain ⟨owner, deadline, until_, rfl⟩ := sound.stored cell found
  obtain rfl := distinct value
  have unexpired := (live_some_iff.mp found).2
  simp only [Cell.aliveAt, decide_eq_true_eq] at unexpired
  exact ⟨deadline, until_, unexpired⟩

theorem Sound.leased_unique (distinct : Function.Injective token) (sound : lock.Sound token)
    (first : lock.Leased call) (second : lock.Leased other) : call = other :=
  stores_unique distinct (sound.stores first) (sound.stores second)

theorem Sound.advance (sound : lock.Sound token) (milliseconds : Nat) :
    (lock.advance milliseconds).Sound token where
  stored := fun cell found =>
    sound.stored cell (live_earlier (Nat.le_add_right _ milliseconds) found)
  held := by
    intro call deadline until_ unexpired
    have earlier : lock.now ≤ deadline := Nat.le_trans (Nat.le_add_right _ _) unexpired
    exact live_until (sound.held call deadline until_ earlier) rfl unexpired

section Commands

variable [DecidableEq Call]

def acquire (token : Call → String) (lock : Lock Call) (call : Call) (ttlMs : Nat) :
    Lock Call × Bool :=
  match RedisDistributedLock.acquire lock.now lock.key (token call) ttlMs with
  | (key, true) =>
      ({ lock with
          key := key
          deadline := Function.update lock.deadline call (some (lock.now + ttlMs)) }, true)
  | (key, false) => ({ lock with key := key }, false)

def extend (token : Call → String) (lock : Lock Call) (call : Call) (ttlMs : Nat) :
    Lock Call × Bool :=
  match RedisDistributedLock.extend lock.now lock.key (token call) ttlMs with
  | (key, true) =>
      ({ lock with
          key := key
          deadline := Function.update lock.deadline call (some (lock.now + ttlMs)) }, true)
  | (key, false) => ({ lock with key := key }, false)

def release (token : Call → String) (lock : Lock Call) (call : Call) : Lock Call :=
  { lock with
    key := RedisDistributedLock.release lock.now lock.key (token call)
    deadline := Function.update lock.deadline call none }

theorem acquire_free (free : live lock.now lock.key = none) :
    lock.acquire token call ttlMs =
      ({ lock with
          key := setPx lock.now (token call) ttlMs
          deadline := Function.update lock.deadline call (some (lock.now + ttlMs)) },
        true) := by
  simp only [acquire, RedisDistributedLock.acquire, setPxNx, free]

theorem acquire_taken {cell : Cell String} (taken : live lock.now lock.key = some cell) :
    lock.acquire token call ttlMs = (lock, false) := by
  simp only [acquire, RedisDistributedLock.acquire, setPxNx, taken]

theorem extend_stored {cell : Cell String} (found : live lock.now lock.key = some cell)
    (own : cell.value = token call) :
    lock.extend token call ttlMs =
      ({ lock with
          key := setPx lock.now (token call) ttlMs
          deadline := Function.update lock.deadline call (some (lock.now + ttlMs)) },
        true) := by
  have held : get lock.now lock.key = some (token call) :=
    get_eq_some_iff.mpr ⟨cell, found, own⟩
  simp only [extend, RedisDistributedLock.extend, holds, held, beq_self_eq_true, if_true,
    pexpire, found, own, setPx]

theorem extend_foreign (foreign : ¬lock.Stores token call) :
    lock.extend token call ttlMs = (lock, false) := by
  simp only [extend, RedisDistributedLock.extend, holds_foreign foreign, Bool.false_eq_true,
    if_false]

theorem release_stored (own : lock.Stores token call) :
    lock.release token call =
      { lock with
        key := none
        deadline := Function.update lock.deadline call none } := by
  simp only [release, RedisDistributedLock.release, compareAndDelete_of_holds own, del]

theorem release_foreign (foreign : ¬lock.Stores token call) :
    lock.release token call =
      { lock with deadline := Function.update lock.deadline call none } := by
  simp only [release, RedisDistributedLock.release, compareAndDelete,
    holds_foreign foreign, Bool.false_eq_true, if_false]

/-- A grant or a renewal: the key and the lease of the call both run for the TTL. -/
theorem Sound.granted
    (alone : ∀ owner, lock.Leased owner → owner = call) :
    Sound token
      { lock with
        key := setPx lock.now (token call) ttlMs
        deadline := Function.update lock.deadline call (some (lock.now + ttlMs)) } where
  stored := by
    intro cell found
    rw [live_setPx_now] at found
    cases found
    exact ⟨call, lock.now + ttlMs, Function.update_self _ _ _, rfl⟩
  held := by
    intro owner deadline until_ unexpired
    by_cases same : owner = call
    · subst same
      cases (Function.update_self owner _ lock.deadline).symm.trans until_
      exact live_setPx_now _ _ _
    · have kept := (Function.update_of_ne same _ lock.deadline).symm.trans until_
      exact absurd (alone owner ⟨deadline, kept, unexpired⟩) same

theorem Sound.acquire (sound : lock.Sound token) :
    (lock.acquire token call ttlMs).1.Sound token := by
  cases found : live lock.now lock.key with
  | none =>
      rw [acquire_free found]
      refine Sound.granted fun owner leased => ?_
      have stores := sound.stores leased
      rw [Stores, get_eq_none_iff.mpr found] at stores
      cases stores
  | some cell =>
      rw [acquire_taken found]
      exact sound

theorem Sound.extend (distinct : Function.Injective token) (sound : lock.Sound token) :
    (lock.extend token call ttlMs).1.Sound token := by
  by_cases own : lock.Stores token call
  · obtain ⟨cell, found, value⟩ := get_eq_some_iff.mp own
    rw [extend_stored found value]
    exact Sound.granted fun owner leased =>
      stores_unique distinct (sound.stores leased) own
  · rw [extend_foreign own]
    exact sound

theorem Sound.release (distinct : Function.Injective token) (sound : lock.Sound token) :
    (lock.release token call).Sound token := by
  by_cases own : lock.Stores token call
  · rw [release_stored own]
    refine ⟨fun cell found => (by cases found), fun owner deadline until_ unexpired => ?_⟩
    by_cases same : owner = call
    · subst same
      cases (Function.update_self owner _ lock.deadline).symm.trans until_
    · have kept := (Function.update_of_ne same _ lock.deadline).symm.trans until_
      have leased : lock.Leased owner := ⟨deadline, kept, unexpired⟩
      exact absurd (stores_unique distinct (sound.stores leased) own) same
  · rw [release_foreign own]
    refine ⟨fun cell found => ?_, fun owner deadline until_ unexpired => ?_⟩
    · obtain ⟨owner, deadline, until_, rfl⟩ := sound.stored cell found
      have different : owner ≠ call := by
        intro equal
        subst equal
        exact own (get_eq_some_iff.mpr ⟨_, found, rfl⟩)
      exact ⟨owner, deadline, (Function.update_of_ne different _ _).trans until_, rfl⟩
    · by_cases same : owner = call
      · subst same
        cases (Function.update_self owner _ lock.deadline).symm.trans until_
      · have kept := (Function.update_of_ne same _ lock.deadline).symm.trans until_
        exact sound.held owner deadline kept unexpired

/-- While a lease runs, no acquire is granted. -/
theorem Sound.acquire_refused (sound : lock.Sound token) (leased : lock.Leased other) :
    lock.acquire token call ttlMs = (lock, false) := by
  obtain ⟨deadline, until_, unexpired⟩ := leased
  exact acquire_taken (sound.held other deadline until_ unexpired)

theorem acquire_granted (granted : (lock.acquire token call ttlMs).2 = true) :
    live lock.now lock.key = none ∧
      (lock.acquire token call ttlMs).1.deadline call = some (lock.now + ttlMs) := by
  cases found : live lock.now lock.key with
  | none =>
      rw [acquire_free found]
      exact ⟨rfl, Function.update_self _ _ _⟩
  | some cell =>
      rw [acquire_taken found] at granted
      cases granted

/-- Where an acquire is refused, some lease runs. -/
theorem Sound.leased_of_refused (sound : lock.Sound token)
    (refused : (lock.acquire token call ttlMs).2 = false) :
    (lock.acquire token call ttlMs).1 = lock ∧ ∃ owner, lock.Leased owner := by
  cases found : live lock.now lock.key with
  | none =>
      rw [acquire_free found] at refused
      cases refused
  | some cell =>
      obtain ⟨owner, deadline, until_, rfl⟩ := sound.stored cell found
      have unexpired := (live_some_iff.mp found).2
      simp only [Cell.aliveAt, decide_eq_true_eq] at unexpired
      rw [acquire_taken found]
      exact ⟨rfl, owner, deadline, until_, unexpired⟩

theorem acquire_deadline (different : other ≠ call) :
    (lock.acquire token call ttlMs).1.deadline other = lock.deadline other := by
  cases found : live lock.now lock.key with
  | none =>
      rw [acquire_free found]
      exact Function.update_of_ne different _ _
  | some cell => rw [acquire_taken found]

theorem extend_deadline (different : other ≠ call) :
    (lock.extend token call ttlMs).1.deadline other = lock.deadline other := by
  by_cases own : lock.Stores token call
  · obtain ⟨cell, found, value⟩ := get_eq_some_iff.mp own
    rw [extend_stored found value]
    exact Function.update_of_ne different _ _
  · rw [extend_foreign own]

theorem extend_granted (granted : (lock.extend token call ttlMs).2 = true) :
    (lock.extend token call ttlMs).1.deadline call = some (lock.now + ttlMs) := by
  by_cases own : lock.Stores token call
  · obtain ⟨cell, found, value⟩ := get_eq_some_iff.mp own
    rw [extend_stored found value]
    exact Function.update_self _ _ _
  · rw [extend_foreign own] at granted
    cases granted

theorem extend_refused (refused : (lock.extend token call ttlMs).2 = false) :
    (lock.extend token call ttlMs).1 = lock := by
  by_cases own : lock.Stores token call
  · obtain ⟨cell, found, value⟩ := get_eq_some_iff.mp own
    rw [extend_stored found value] at refused
    cases refused
  · rw [extend_foreign own]

theorem extend_begun (begun : ∃ deadline, lock.deadline call = some deadline) :
    ∃ deadline, (lock.extend token call ttlMs).1.deadline call = some deadline := by
  by_cases own : lock.Stores token call
  · obtain ⟨cell, found, value⟩ := get_eq_some_iff.mp own
    rw [extend_stored found value]
    exact ⟨_, Function.update_self _ _ _⟩
  · rw [extend_foreign own]
    exact begun

theorem release_deadline (different : other ≠ call) :
    (lock.release token call).deadline other = lock.deadline other :=
  Function.update_of_ne different _ _

@[simp] theorem acquire_now : (lock.acquire token call ttlMs).1.now = lock.now := by
  cases found : live lock.now lock.key with
  | none => rw [acquire_free found]
  | some cell => rw [acquire_taken found]

@[simp] theorem extend_now : (lock.extend token call ttlMs).1.now = lock.now := by
  by_cases own : lock.Stores token call
  · obtain ⟨cell, found, value⟩ := get_eq_some_iff.mp own
    rw [extend_stored found value]
  · rw [extend_foreign own]

/-- A holder whose lease runs keeps it when it asks for more time. -/
theorem Sound.extend_leased (sound : lock.Sound token) (leased : lock.Leased call) :
    (lock.extend token call ttlMs).1.Leased call := by
  obtain ⟨cell, found, value⟩ := get_eq_some_iff.mp (sound.stores leased)
  rw [extend_stored found value]
  exact ⟨lock.now + ttlMs, Function.update_self _ _ _, Nat.le_add_right _ _⟩

/-- What a command other than acquire makes of the lock. -/
inductive Served (token : Call → String) (lock : Lock Call) (call : Call) : Lock Call → Prop
  | nothing : Served token lock call lock
  | extend (ttlMs : Nat) : Served token lock call (lock.extend token call ttlMs).1
  | release : Served token lock call (lock.release token call)

theorem Served.sound {after : Lock Call} (distinct : Function.Injective token)
    (served : lock.Served token call after) (sound : lock.Sound token) :
    after.Sound token := by
  cases served with
  | nothing => exact sound
  | extend ttlMs => exact sound.extend distinct
  | release => exact sound.release distinct

theorem Served.now {after : Lock Call} (served : lock.Served token call after) :
    after.now = lock.now := by
  cases served with
  | nothing | release => rfl
  | extend ttlMs => exact extend_now

theorem Served.deadline {after : Lock Call} (served : lock.Served token call after)
    (different : other ≠ call) : after.deadline other = lock.deadline other := by
  cases served with
  | nothing => rfl
  | extend ttlMs => exact extend_deadline different
  | release => exact release_deadline different

omit [DecidableEq Call] in
theorem unleased_of_none (never : lock.deadline call = none) : ¬lock.Leased call := by
  rintro ⟨deadline, begun, _⟩
  rw [never] at begun
  cases begun

/-- A lease that has ended does not come back. -/
theorem Served.unleased {after : Lock Call} (distinct : Function.Injective token)
    (served : lock.Served token call after) (sound : lock.Sound token)
    (unleased : ¬lock.Leased other) : ¬after.Leased other := by
  intro leased
  by_cases same : other = call
  · subst same
    cases served with
    | nothing => exact unleased leased
    | extend ttlMs =>
        have foreign : ¬lock.Stores token other :=
          fun own => unleased (sound.leased_of_stores distinct own)
        rw [extend_foreign foreign] at leased
        exact unleased leased
    | release =>
        obtain ⟨deadline, until_, _⟩ := leased
        change Function.update lock.deadline other none other = some deadline at until_
        rw [Function.update_self] at until_
        cases until_
  · have now : lock.now ≤ after.now := Nat.le_of_eq served.now.symm
    exact unleased (leased.of_deadline (served.deadline same).symm now)

theorem Served.deadline_none {after : Lock Call} (distinct : Function.Injective token)
    (served : lock.Served token call after) (sound : lock.Sound token)
    (never : lock.deadline other = none) : after.deadline other = none := by
  cases begun : after.deadline other with
  | none => rfl
  | some deadline =>
      have same : other = call := by
        by_contra different
        rw [served.deadline different, never] at begun
        cases begun
      subst same
      cases served with
      | nothing => exact begun.symm.trans never
      | extend ttlMs =>
          have foreign : ¬lock.Stores token other :=
            fun own => unleased_of_none never (sound.leased_of_stores distinct own)
          rw [extend_foreign foreign] at begun
          exact begun.symm.trans never
      | release =>
          change Function.update lock.deadline other none other = some deadline at begun
          rw [Function.update_self] at begun
          exact begun.symm

/-- A lease outlasts the commands of other calls. -/
theorem Served.leased {after : Lock Call} (served : lock.Served token call after)
    (different : other ≠ call) (leased : lock.Leased other) : after.Leased other :=
  leased.of_deadline (served.deadline different) (Nat.le_of_eq served.now)

end Commands

end Lock

end BackendFoundation.Locks
