/-
RedisService.incrementWithTtl, RedisRateLimiter.check and RateLimiterGuard on the counter
of one key. Limits and TTLs that come from the environment are any positive numbers, so
they may have a fraction.
-/

import BackendFoundation.Redis.Slot
import Mathlib.Algebra.Order.Ring.Unbundled.Rat

namespace BackendFoundation.RateLimiter

open Redis Redis.Slot

/-- The last millisecond that Redis can store as an expiry. -/
def maxExpireAt : Nat := 9223372036854775807

/-- The expiry that EXPIRE stores. It raises an error for a TTL that is not an integer,
and for one with which the expiry would overflow. -/
def expiryOf (now : Nat) (ttlSeconds : Rat) : Option Nat :=
  let deadline := now + ttlSeconds.num.toNat * 1000
  if ttlSeconds.den = 1 ∧ deadline ≤ maxExpireAt then some deadline else none

/-- The instant that a command compares with an expiry. Redis compares its millisecond
clock with >, so that a key still answers in the millisecond of its expiry; exact time is
one millisecond ahead of it there. -/
def readAt (exactly : Bool) (now : Nat) : Nat :=
  if exactly then now + 1 else now

/-- INCR -/
def incr (exactly : Bool) (now : Nat) (key : Slot Nat) : Cell Nat :=
  match live (readAt exactly now) key with
  | some cell => { cell with value := cell.value + 1 }
  | none =>
      { value := 1
        expireAt := none }

/-- TTL, on a key that exists. -/
def ttlReply (now : Nat) (cell : Cell Nat) : Int :=
  match cell.expireAt with
  | none => -1
  | some deadline => ((deadline - now + 500) / 1000 : Nat)

structure Incremented where
  count : Nat
  ttl : Int
deriving DecidableEq, Repr

/-- An error of EXPIRE aborts the script, and the INCR before it stays. -/
def incrementWithTtl (exactly : Bool) (now : Nat) (key : Slot Nat) (ttlSeconds : Rat) :
    Slot Nat × Option Incremented :=
  let counted := incr exactly now key
  if counted.value = 1 then
    match expiryOf now ttlSeconds with
    | none => (some counted, none)
    | some deadline =>
        let expiring := { counted with expireAt := some deadline }
        (some expiring,
          some
            { count := expiring.value
              ttl := ttlReply now expiring })
  else
    (some counted,
      some
        { count := counted.value
          ttl := ttlReply now counted })

/-- The limiter's clock is that of the API process. -/
structure CheckResult where
  allowed : Bool
  remaining : Rat
  resetAt : Int
deriving DecidableEq

def checkResult (limit : Rat) (clientNow : Nat) (reply : Incremented) : CheckResult :=
  { allowed := decide ((reply.count : Rat) ≤ limit)
    remaining := max (limit - reply.count) 0
    resetAt := clientNow + reply.ttl * 1000 }

/-- No result: the script's error rejects the check. -/
def check (exactly : Bool) (now : Nat) (key : Slot Nat) (limit ttlSeconds : Rat)
    (clientNow : Nat) : Slot Nat × Option CheckResult :=
  let (written, reply) := incrementWithTtl exactly now key ttlSeconds
  (written, reply.map (checkResult limit clientNow))

structure RateLimiterModuleOptions where
  max : Rat
  ttl : Rat
  authMax : Rat
  authTtl : Rat

/-- The options of @RateLimit. The numbers written there are natural. -/
structure RateLimitOptions where
  keyPrefix : String
  limit : Option Nat
  ttlSeconds : Option Nat
deriving DecidableEq, Repr

structure Request where
  decoratorOptions : Option RateLimitOptions
  ip : String
deriving DecidableEq, Repr

namespace Request

def keyPrefix (request : Request) : String :=
  (request.decoratorOptions.map RateLimitOptions.keyPrefix).getD "rate"

def isAuthEndpoint (request : Request) : Bool :=
  "auth:".toList.isPrefixOf request.keyPrefix.toList

def key (request : Request) : String :=
  request.keyPrefix ++ ":" ++ request.ip

end Request

namespace RateLimiterModuleOptions

def limit (options : RateLimiterModuleOptions) (request : Request) : Rat :=
  match request.decoratorOptions.bind RateLimitOptions.limit with
  | some limit => limit
  | none => if request.isAuthEndpoint then options.authMax else options.max

def ttlSeconds (options : RateLimiterModuleOptions) (request : Request) : Rat :=
  match request.decoratorOptions.bind RateLimitOptions.ttlSeconds with
  | some ttlSeconds => ttlSeconds
  | none => if request.isAuthEndpoint then options.authTtl else options.ttl

end RateLimiterModuleOptions

structure RateLimitHeaders where
  limit : Rat
  remaining : Rat
  reset : Int
deriving DecidableEq

structure HttpException where
  statusCode : Nat
  error : String
  message : String
  retryAfterSeconds : Int
deriving DecidableEq, Repr

inductive Verdict
  | activates (headers : RateLimitHeaders)
  | throws (headers : RateLimitHeaders) (retryAfter : Int) (exception : HttpException)
  | rejects
deriving DecidableEq

/-- Math.ceil of a number of milliseconds over 1000. -/
def ceilSeconds (milliseconds : Int) : Int :=
  -(-milliseconds / 1000)

/-- Date.now() is read by the check, and again for Retry-After. -/
def canActivate (options : RateLimiterModuleOptions) (exactly : Bool) (now : Nat)
    (key : Slot Nat) (request : Request) (checkedAt answeredAt : Nat) :
    Slot Nat × Verdict :=
  let limit := options.limit request
  match check exactly now key limit (options.ttlSeconds request) checkedAt with
  | (written, none) => (written, .rejects)
  | (written, some result) =>
      let headers : RateLimitHeaders :=
        { limit := limit
          remaining := result.remaining
          reset := ceilSeconds result.resetAt }
      if result.allowed then (written, .activates headers)
      else
        let retryAfterSeconds := max (ceilSeconds (result.resetAt - answeredAt)) 1
        (written,
          .throws headers retryAfterSeconds
            { statusCode := 429
              error := "Too Many Requests"
              message := "Too many requests"
              retryAfterSeconds := retryAfterSeconds })

theorem expiryOf_natCast {now ttlSeconds : Nat}
    (range : now + ttlSeconds * 1000 ≤ maxExpireAt) :
    expiryOf now (ttlSeconds : Rat) = some (now + ttlSeconds * 1000) := by
  unfold expiryOf
  rw [Rat.num_natCast, Rat.den_natCast, Int.toNat_natCast]
  exact if_pos ⟨rfl, range⟩

/-- A call that creates a counter. -/
theorem incrementWithTtl_free {exactly : Bool} {now deadline : Nat} {key : Slot Nat}
    {ttlSeconds : Rat} (free : live (readAt exactly now) key = none)
    (accepted : expiryOf now ttlSeconds = some deadline) :
    incrementWithTtl exactly now key ttlSeconds =
      (some
        { value := 1
          expireAt := some deadline },
        some
          { count := 1
            ttl := ttlReply now
              { value := 1
                expireAt := some deadline } }) := by
  simp only [incrementWithTtl, incr, free, if_true, accepted]

/-- A call whose counter EXPIRE does not accept: the counter is created all the same. -/
theorem incrementWithTtl_rejected {exactly : Bool} {now : Nat} {key : Slot Nat}
    {ttlSeconds : Rat} (free : live (readAt exactly now) key = none)
    (rejected : expiryOf now ttlSeconds = none) :
    incrementWithTtl exactly now key ttlSeconds =
      (some
        { value := 1
          expireAt := none }, none) := by
  simp only [incrementWithTtl, incr, free, if_true, rejected]

/-- A call that finds its counter. -/
theorem incrementWithTtl_found {exactly : Bool} {now : Nat} {key : Slot Nat}
    {cell : Cell Nat} (ttlSeconds : Rat)
    (found : live (readAt exactly now) key = some cell) (counted : 0 < cell.value) :
    incrementWithTtl exactly now key ttlSeconds =
      (some { cell with value := cell.value + 1 },
        some
          { count := cell.value + 1
            ttl := ttlReply now { cell with value := cell.value + 1 } }) := by
  have again : cell.value + 1 ≠ 1 := by omega
  simp only [incrementWithTtl, incr, found, again, if_false]

end BackendFoundation.RateLimiter
