/-
RateLimiterGuard under the settings that the environment schema accepts, on the routes of
the controllers: whether every counter expires.
-/

import BackendFoundation.RateLimiter.Decorators
import BackendFoundation.Transition.System

namespace BackendFoundation.RateLimiter

open Transition Redis Redis.Slot

/-- A variable of the environment as Number() reads it. -/
inductive EnvNumber
  | undefined
  | notFinite
  | finite (value : Rat)
deriving DecidableEq

/-- z.coerce.number().positive().default(fallback) -/
def positiveNumber (fallback : Rat) : EnvNumber → Option Rat
  | .undefined => some fallback
  | .notFinite => none
  | .finite value => if 0 < value then some value else none

structure RateLimitEnv where
  rateLimitTtl : EnvNumber
  rateLimitMax : EnvNumber
  rateLimitAuthTtl : EnvNumber
  rateLimitAuthMax : EnvNumber

/-- What envSchema accepts, as InfrastructureConfigModule hands it to the guard. -/
def RateLimitEnv.options (env : RateLimitEnv) : Option RateLimiterModuleOptions := do
  let ttl ← positiveNumber 60 env.rateLimitTtl
  let max ← positiveNumber 100 env.rateLimitMax
  let authTtl ← positiveNumber 60 env.rateLimitAuthTtl
  let authMax ← positiveNumber 5 env.rateLimitAuthMax
  return { max := max, ttl := ttl, authMax := authMax, authTtl := authTtl }

/-- The guard's options, and the last reading of Redis' clock in the runs considered. -/
structure Limiter where
  options : RateLimiterModuleOptions
  exactly : Bool
  lastMs : Nat

structure Counters where
  now : Nat
  keys : String → Slot Nat

inductive Traffic
  | advance (milliseconds : Nat)
  | request (request : Request) (checkedAt answeredAt : Nat)
deriving DecidableEq, Repr

/-- EXPIRE accepts the TTL at any reading of the clock. -/
def Expirable (lastMs : Nat) (ttlSeconds : Rat) : Prop :=
  ttlSeconds.den = 1 ∧ lastMs + ttlSeconds.num.toNat * 1000 ≤ maxExpireAt

namespace Limiter

def step (limiter : Limiter) (counters : Counters) : Traffic → Option Counters
  | .advance milliseconds =>
      if counters.now + milliseconds ≤ limiter.lastMs then
        some { counters with now := counters.now + milliseconds }
      else none
  | .request request checkedAt answeredAt =>
      let (written, _) := canActivate limiter.options limiter.exactly counters.now
        (counters.keys request.key) request checkedAt answeredAt
      some { counters with keys := Function.update counters.keys request.key written }

def system (limiter : Limiter) : Transition.System Counters Traffic :=
  { initial := fun counters =>
      counters.now ≤ limiter.lastMs ∧ counters.keys = fun _ => none
    step := limiter.step }

end Limiter

/-- Requests come for the routes of the controllers. -/
def Counters.Routed (_ : Counters) : Traffic → Prop
  | .advance _ => True
  | .request request _ _ => request.Routed

/-- Nobody asks for the key. -/
def Counters.Quiet (key : String) (counters : Counters) (traffic : Traffic) : Prop :=
  counters.Routed traffic ∧
    ∀ request checkedAt answeredAt, traffic = .request request checkedAt answeredAt →
      request.key ≠ key

namespace Limiter

/-- No client is locked out for good: a counter expires within the TTL of the requests that
it counts, and a client that has paused for that long is counted from 1. -/
structure NoLockOut (limiter : Limiter) : Prop where
  expires : ∀ counters, limiter.system.Reachable Counters.Routed counters →
    ∀ key cell, live (readAt limiter.exactly counters.now) (counters.keys key) = some cell →
      (∃ request : Request, request.Routed ∧ request.key = key) ∧
        ∃ deadline, cell.expireAt = some deadline ∧
          ∀ request : Request, request.Routed → request.key = key →
            (deadline : Rat) ≤ counters.now + limiter.options.ttlSeconds request * 1000
  restarts : ∀ counters, limiter.system.Reachable Counters.Routed counters →
    ∀ request : Request, request.Routed →
      ∀ traffic later, limiter.system.Run (Counters.Quiet request.key) counters traffic later →
        (counters.now : Rat) + limiter.options.ttlSeconds request * 1000 <
          readAt limiter.exactly later.now →
        (incrementWithTtl limiter.exactly later.now (later.keys request.key)
          (limiter.options.ttlSeconds request)).2.map Incremented.count = some 1

/-- EXPIRE accepts the TTLs of the settings and the longest one that a route has of its own. -/
structure Expiring (limiter : Limiter) : Prop where
  ttl_pos : 0 < limiter.options.ttl
  authTtl_pos : 0 < limiter.options.authTtl
  ttl : Expirable limiter.lastMs limiter.options.ttl
  authTtl : Expirable limiter.lastMs limiter.options.authTtl
  own : limiter.lastMs + 3600 * 1000 ≤ maxExpireAt

end Limiter

theorem canActivate_key (options : RateLimiterModuleOptions) (exactly : Bool) (now : Nat)
    (key : Slot Nat) (request : Request) (checkedAt answeredAt : Nat) :
    (canActivate options exactly now key request checkedAt answeredAt).1 =
      (incrementWithTtl exactly now key (options.ttlSeconds request)).1 := by
  unfold canActivate check
  cases incremented : incrementWithTtl exactly now key (options.ttlSeconds request) with
  | mk written reply =>
      cases reply with
      | none => rfl
      | some reply =>
          simp only [Option.map_some]
          split <;> rfl

theorem expiryOf_of_expirable {lastMs now : Nat} {ttlSeconds : Rat}
    (expirable : Expirable lastMs ttlSeconds) (order : now ≤ lastMs) :
    expiryOf now ttlSeconds = some (now + ttlSeconds.num.toNat * 1000) := by
  have range : now + ttlSeconds.num.toNat * 1000 ≤ maxExpireAt :=
    Nat.le_trans (Nat.add_le_add_right order _) expirable.2
  exact if_pos ⟨expirable.1, range⟩

theorem expiryOf_of_not_expirable {now : Nat} {ttlSeconds : Rat}
    (rejected : ¬Expirable now ttlSeconds) : expiryOf now ttlSeconds = none :=
  if_neg rejected

namespace Limiter

variable {limiter : Limiter} {counters : Counters}

/-- What a request writes: its own counter. -/
theorem step_request (limiter : Limiter) (counters : Counters) (request : Request)
    (checkedAt answeredAt : Nat) :
    limiter.step counters (.request request checkedAt answeredAt) =
      some { counters with
        keys := Function.update counters.keys request.key
          (incrementWithTtl limiter.exactly counters.now (counters.keys request.key)
            (limiter.options.ttlSeconds request)).1 } := by
  rw [← canActivate_key _ _ _ _ _ checkedAt answeredAt]
  rfl

/-- Each TTL that a request can bring is one of its route's own or one of the two
settings. -/
theorem Expiring.expirable {request : Request} (expiring : limiter.Expiring)
    (routed : request.Routed) :
    Expirable limiter.lastMs (limiter.options.ttlSeconds request) := by
  unfold RateLimiterModuleOptions.ttlSeconds
  split
  · rename_i own found
    have bound := Nat.mul_le_mul_right 1000 (routed.own found).2
    refine ⟨Rat.den_natCast own, ?_⟩
    rw [Rat.num_natCast, Int.toNat_natCast]
    exact Nat.le_trans (Nat.add_le_add_left bound _) expiring.own
  · split
    · exact expiring.authTtl
    · exact expiring.ttl

/-- Every counter counts something, and expires within the TTL of a request for it. -/
def Bounded (limiter : Limiter) (counters : Counters) : Prop :=
  counters.now ≤ limiter.lastMs ∧ ∀ key cell, counters.keys key = some cell →
    0 < cell.value ∧ ∃ (request : Request) (deadline : Nat), request.Routed ∧
      request.key = key ∧ cell.expireAt = some deadline ∧
        deadline ≤
          counters.now + (limiter.options.ttlSeconds request).num.toNat * 1000

theorem bounded_step {following : Counters} {traffic : Traffic}
    (expiring : limiter.Expiring) (bounded : limiter.Bounded counters)
    (routed : counters.Routed traffic)
    (stepped : limiter.step counters traffic = some following) : limiter.Bounded following := by
  obtain ⟨order, bounds⟩ := bounded
  cases traffic with
  | advance milliseconds =>
      simp only [step] at stepped
      split at stepped
      · rename_i within
        cases stepped
        refine ⟨within, fun key cell stored => ?_⟩
        obtain ⟨counted, request, deadline, routed, same, expiry, bound⟩ :=
          bounds key cell stored
        refine ⟨counted, request, deadline, routed, same, expiry, Nat.le_trans bound ?_⟩
        exact Nat.add_le_add_right (Nat.le_add_right _ _) _
      · cases stepped
  | request request checkedAt answeredAt =>
      rw [step_request] at stepped
      cases stepped
      refine ⟨order, fun key cell stored => ?_⟩
      by_cases same : key = request.key
      · subst same
        have written := (Function.update_self request.key _ counters.keys).symm.trans stored
        have accepted := expiryOf_of_expirable (expiring.expirable routed) order
        cases found : live (readAt limiter.exactly counters.now)
            (counters.keys request.key) with
        | none =>
            rw [incrementWithTtl_free found accepted] at written
            cases written
            exact ⟨Nat.one_pos, request, _, routed, rfl, rfl, Nat.le_refl _⟩
        | some earlier =>
            obtain ⟨counted, bound⟩ := bounds request.key earlier (live_some_iff.mp found).1
            rw [incrementWithTtl_found _ found counted] at written
            cases written
            exact ⟨Nat.succ_pos _, bound⟩
      · exact bounds key cell ((Function.update_of_ne same _ counters.keys).symm.trans stored)

theorem Expiring.bounded (expiring : limiter.Expiring)
    (reached : limiter.system.Reachable Counters.Routed counters) :
    limiter.Bounded counters := by
  apply reached.invariant
  · intro counters initial
    obtain ⟨order, keys⟩ := initial
    refine ⟨order, fun key cell stored => ?_⟩
    rw [keys] at stored
    cases stored
  · intro counters traffic following bounded routed stepped
    exact bounded_step expiring bounded routed stepped

theorem natCast_of_expirable {lastMs : Nat} {ttlSeconds : Rat}
    (expirable : Expirable lastMs ttlSeconds) (positive : 0 < ttlSeconds) :
    ((ttlSeconds.num.toNat : Nat) : Rat) = ttlSeconds := by
  have nonneg : 0 ≤ ttlSeconds.num := Rat.num_nonneg.mpr (Rat.le_of_lt positive)
  refine Rat.ext ?_ ?_
  · rw [Rat.num_natCast, Int.toNat_of_nonneg nonneg]
  · rw [Rat.den_natCast, expirable.1]

theorem Expiring.ttlSeconds_pos {request : Request} (expiring : limiter.Expiring)
    (routed : request.Routed) : 0 < limiter.options.ttlSeconds request := by
  unfold RateLimiterModuleOptions.ttlSeconds
  split
  · rename_i own found
    exact Rat.natCast_pos.mpr (routed.own found).1
  · split
    · exact expiring.authTtl_pos
    · exact expiring.ttl_pos

/-- The bound of a counter's expiry, in seconds of its TTL. -/
theorem expiry_le {lastMs now deadline : Nat} {ttlSeconds : Rat}
    (expirable : Expirable lastMs ttlSeconds) (positive : 0 < ttlSeconds)
    (bound : deadline ≤ now + ttlSeconds.num.toNat * 1000) :
    (deadline : Rat) ≤ now + ttlSeconds * 1000 := by
  have cast_ : ((now + ttlSeconds.num.toNat * 1000 : Nat) : Rat) = now + ttlSeconds * 1000 := by
    rw [Rat.natCast_add, Rat.natCast_mul, natCast_of_expirable expirable positive]
    rfl
  rw [← cast_]
  exact Rat.natCast_le_natCast.mpr bound

/-- The expiry of a counter is within the TTL of each request that it counts. -/
theorem Expiring.deadline_le {request : Request} {cell : Cell Nat} {deadline : Nat}
    (expiring : limiter.Expiring) (bounded : limiter.Bounded counters)
    (routed : request.Routed) (stored : counters.keys request.key = some cell)
    (expiry : cell.expireAt = some deadline) :
    (deadline : Rat) ≤ counters.now + limiter.options.ttlSeconds request * 1000 := by
  obtain ⟨_, other, deadline', routed', same, expiry', bound⟩ := bounded.2 request.key cell stored
  cases expiry.symm.trans expiry'
  rw [routed.ttlSeconds_eq limiter.options routed' same.symm]
  exact expiry_le (expiring.expirable routed') (expiring.ttlSeconds_pos routed') bound

theorem quiet_run {key : String} {traffic : List Traffic} {later : Counters}
    (run : limiter.system.Run (Counters.Quiet key) counters traffic later) :
    later.keys key = counters.keys key := by
  induction run with
  | nil => rfl
  | @snoc _ traffic middle following _ quiet stepped ih =>
      rw [← ih]
      cases traffic with
      | advance milliseconds =>
          change (if _ then _ else none) = _ at stepped
          split at stepped
          · cases stepped
            rfl
          · cases stepped
      | request request checkedAt answeredAt =>
          have different := quiet.2 request checkedAt answeredAt rfl
          have stepped := (step_request limiter middle request checkedAt answeredAt).symm.trans
            stepped
          cases stepped
          exact Function.update_of_ne (Ne.symm different) _ _

/-- A route whose TTL EXPIRE does not accept locks its clients out. -/
theorem not_noLockOut_of_rejected (request : Request) (routed : request.Routed)
    (rejected : ¬Expirable limiter.lastMs (limiter.options.ttlSeconds request)) :
    ¬limiter.NoLockOut := by
  intro noLockOut
  obtain ⟨start, same⟩ : ∃ start : Counters, start =
      { now := limiter.lastMs
        keys := fun _ => none } := ⟨_, rfl⟩
  have initial : limiter.system.initial start := by
    rw [same]
    exact ⟨Nat.le_refl _, rfl⟩
  have stepped := step_request limiter start request 0 0
  have free : live (readAt limiter.exactly start.now) (start.keys request.key) = none := by
    rw [same]
    rfl
  rw [incrementWithTtl_rejected free
    (by rw [same]; exact expiryOf_of_not_expirable rejected)] at stepped
  have asked : Counters.Routed start (.request request 0 0) := routed
  have reached : limiter.system.Reachable Counters.Routed _ :=
    System.Reachable.next ⟨start, [], initial, .nil⟩ asked stepped
  obtain ⟨_, deadline, expiry, _⟩ := noLockOut.expires _ reached request.key
    { value := 1
      expireAt := none } (by
        rw [live_some_iff]
        exact ⟨Function.update_self _ _ _, rfl⟩)
  cases expiry

theorem Expiring.noLockOut (expiring : limiter.Expiring) : limiter.NoLockOut where
  expires := by
    intro counters reached key cell found
    have bounded := expiring.bounded reached
    have stored := (live_some_iff.mp found).1
    obtain ⟨_, request, deadline, routed, same, expiry, _⟩ := bounded.2 key cell stored
    refine ⟨⟨request, routed, same⟩, deadline, expiry, fun other routed' same' => ?_⟩
    exact expiring.deadline_le bounded routed' (same' ▸ stored) expiry
  restarts := by
    intro counters reached request routed traffic later run paused
    have reached' : limiter.system.Reachable Counters.Routed later :=
      reached.extend (run.weaken fun _ _ quiet => quiet.1)
    have order := (expiring.bounded reached').1
    have free : live (readAt limiter.exactly later.now) (later.keys request.key) = none := by
      rw [quiet_run run]
      cases found : live (readAt limiter.exactly later.now) (counters.keys request.key) with
      | none => rfl
      | some cell =>
          obtain ⟨stored, alive⟩ := live_some_iff.mp found
          have bounded := expiring.bounded reached
          obtain ⟨_, _, deadline, _, _, expiry, _⟩ := bounded.2 request.key cell stored
          simp only [Cell.aliveAt, expiry, decide_eq_true_eq] at alive
          have unexpired := Rat.le_trans (Rat.natCast_le_natCast.mpr alive)
            (expiring.deadline_le bounded routed stored expiry)
          exact absurd paused (Rat.not_lt.mpr unexpired)
    rw [incrementWithTtl_free free (expiryOf_of_expirable (expiring.expirable routed) order)]
    rfl

end Limiter

theorem positive_of_positiveNumber {fallback value : Rat} {read : EnvNumber}
    (fallback_pos : 0 < fallback) (accepted : positiveNumber fallback read = some value) :
    0 < value := by
  cases read with
  | undefined =>
      cases accepted
      exact fallback_pos
  | notFinite => cases accepted
  | finite read =>
      simp only [positiveNumber] at accepted
      split at accepted
      · rename_i positive
        cases accepted
        exact positive
      · cases accepted

theorem RateLimitEnv.ttls_pos {env : RateLimitEnv} {options : RateLimiterModuleOptions}
    (accepted : env.options = some options) : 0 < options.ttl ∧ 0 < options.authTtl := by
  obtain ⟨ttl, first, accepted⟩ := Option.bind_eq_some_iff.mp accepted
  obtain ⟨max, _, accepted⟩ := Option.bind_eq_some_iff.mp accepted
  obtain ⟨authTtl, third, accepted⟩ := Option.bind_eq_some_iff.mp accepted
  obtain ⟨authMax, _, accepted⟩ := Option.bind_eq_some_iff.mp accepted
  cases accepted
  exact ⟨positive_of_positiveNumber (by decide) first,
    positive_of_positiveNumber (by decide) third⟩

/-- A request without a decorator, one for a route without a TTL of its own, and one for the
route with the longest TTL. -/
def plainRequest : Request :=
  { decoratorOptions := none
    ip := "127.0.0.1" }

def loginRequest : Request :=
  { decoratorOptions := some AuthController.login
    ip := "127.0.0.1" }

def forgotPasswordRequest : Request :=
  { decoratorOptions := some AuthController.forgotPassword
    ip := "127.0.0.1" }

theorem plainRequest_routed : plainRequest.Routed :=
  List.mem_cons_self

theorem loginRequest_routed : loginRequest.Routed :=
  List.mem_of_elem_eq_true rfl

theorem forgotPasswordRequest_routed : forgotPasswordRequest.Routed :=
  List.mem_of_elem_eq_true rfl

/-- Counters expire exactly with TTLs that EXPIRE accepts. -/
theorem noLockOut_iff (env : RateLimitEnv) (options : RateLimiterModuleOptions)
    (accepted : env.options = some options) (exactly : Bool) (lastMs : Nat) :
    Limiter.NoLockOut { options := options, exactly := exactly, lastMs := lastMs } ↔
      Expirable lastMs options.ttl ∧ Expirable lastMs options.authTtl ∧
        lastMs + 3600 * 1000 ≤ maxExpireAt := by
  obtain ⟨positive, positive'⟩ := RateLimitEnv.ttls_pos accepted
  constructor
  · intro noLockOut
    refine ⟨?_, ?_, ?_⟩
    · by_contra rejected
      refine Limiter.not_noLockOut_of_rejected plainRequest plainRequest_routed ?_ noLockOut
      exact rejected
    · by_contra rejected
      refine Limiter.not_noLockOut_of_rejected loginRequest loginRequest_routed ?_ noLockOut
      exact rejected
    · by_contra rejected
      refine Limiter.not_noLockOut_of_rejected forgotPasswordRequest
        forgotPasswordRequest_routed ?_ noLockOut
      intro found
      exact rejected found.2
  · intro found
    obtain ⟨ttl, authTtl, own⟩ := found
    exact Limiter.Expiring.noLockOut
      { ttl_pos := positive
        authTtl_pos := positive'
        ttl := ttl
        authTtl := authTtl
        own := own }

/-- An environment that sets RATE_LIMIT_AUTH_TTL alone. -/
def authTtlEnv (authTtl : EnvNumber) : RateLimitEnv :=
  { rateLimitTtl := .undefined
    rateLimitMax := .undefined
    rateLimitAuthTtl := authTtl
    rateLimitAuthMax := .undefined }

def authTtlOptions (authTtl : Rat) : RateLimiterModuleOptions :=
  { max := 100
    ttl := 60
    authMax := 5
    authTtl := authTtl }

theorem noLockOut_iff_defaults :
    Limiter.NoLockOut
        { options := authTtlOptions 60
          exactly := false
          lastMs := 2000000000000 } ↔
      Expirable 2000000000000 60 ∧ Expirable 2000000000000 60 ∧
        2000000000000 + 3600 * 1000 ≤ maxExpireAt :=
  noLockOut_iff (authTtlEnv .undefined) (authTtlOptions 60) rfl false 2000000000000

/-- RATE_LIMIT_AUTH_TTL=1.5 is accepted, and the first login leaves a counter behind that
nothing expires. -/
theorem not_noLockOut :
    ¬∀ (env : RateLimitEnv) (options : RateLimiterModuleOptions),
      env.options = some options →
        Limiter.NoLockOut
          { options := options
            exactly := false
            lastMs := 2000000000000 } := by
  intro claim
  have positive : (0 : Rat) < 3 / 2 := by decide +kernel
  have accepted : (authTtlEnv (.finite (3 / 2))).options = some (authTtlOptions (3 / 2)) := by
    simp only [RateLimitEnv.options, authTtlEnv, positiveNumber, positive, if_true]
    rfl
  refine Limiter.not_noLockOut_of_rejected loginRequest loginRequest_routed ?_
    (claim _ _ accepted)
  intro found
  obtain ⟨integer, _⟩ := found
  have fraction : (3 / 2 : Rat).den ≠ 1 := by decide +kernel
  exact fraction integer

end BackendFoundation.RateLimiter
