/-
The routes behind RateLimiterGuard. No key prefix runs into another one, so the key of a
counter tells the decorator that it counts for.
-/

import BackendFoundation.RateLimiter.RedisRateLimiter

namespace BackendFoundation.RateLimiter

namespace SessionsController

def list : RateLimitOptions :=
  { keyPrefix := "sessions:list"
    limit := some 30
    ttlSeconds := some 60 }

def revokeOthers : RateLimitOptions :=
  { keyPrefix := "sessions:delete"
    limit := some 10
    ttlSeconds := some 60 }

def revokeAll : RateLimitOptions :=
  { keyPrefix := "sessions:delete"
    limit := some 10
    ttlSeconds := some 60 }

def revokeOne : RateLimitOptions :=
  { keyPrefix := "sessions:delete"
    limit := some 10
    ttlSeconds := some 60 }

end SessionsController

/-- A decorator with a key prefix alone: the guard's options give the rest. -/
def RateLimitOptions.plain (keyPrefix : String) : RateLimitOptions :=
  { keyPrefix := keyPrefix
    limit := none
    ttlSeconds := none }

namespace GoogleAuthController

def start : RateLimitOptions := .plain "auth:google"

def callback : RateLimitOptions := .plain "auth:google-callback"

end GoogleAuthController

namespace AuthController

def register : RateLimitOptions := .plain "auth:register"

def login : RateLimitOptions := .plain "auth:login"

def logout : RateLimitOptions := .plain "auth:logout"

def refresh : RateLimitOptions :=
  { keyPrefix := "auth:refresh"
    limit := some 10
    ttlSeconds := some 60 }

def me : RateLimitOptions :=
  { keyPrefix := "auth:me"
    limit := some 3
    ttlSeconds := some 300 }

def changePassword : RateLimitOptions := .plain "auth:change-password"

def forgotPassword : RateLimitOptions :=
  { keyPrefix := "auth:forgot-password"
    limit := some 3
    ttlSeconds := some 3600 }

def resetPassword : RateLimitOptions :=
  { keyPrefix := "auth:reset-password"
    limit := some 5
    ttlSeconds := some 900 }

end AuthController

def rateLimits : List RateLimitOptions :=
  [SessionsController.list, SessionsController.revokeOthers, SessionsController.revokeAll,
    SessionsController.revokeOne, GoogleAuthController.start, GoogleAuthController.callback,
    AuthController.register, AuthController.login, AuthController.logout,
    AuthController.refresh, AuthController.me, AuthController.changePassword,
    AuthController.forgotPassword, AuthController.resetPassword]

/-- What the guard can read of a route: a decorator of the controllers, or none. -/
def readings : List (Option RateLimitOptions) :=
  none :: rateLimits.map some

namespace Request

def Routed (request : Request) : Prop :=
  request.decoratorOptions ∈ readings

/-- The part of the key that the route decides. -/
def stem (decoratorOptions : Option RateLimitOptions) : List Char :=
  ((decoratorOptions.map RateLimitOptions.keyPrefix).getD "rate" ++ ":").toList

theorem toList_key (request : Request) :
    request.key.toList = stem request.decoratorOptions ++ request.ip.toList :=
  String.toList_append

theorem stems_apart : ∀ reading ∈ readings, ∀ other ∈ readings,
    stem reading <+: stem other → reading = other := by
  decide +kernel

/-- Requests for one key are for one route's decorator. -/
theorem Routed.decoratorOptions_eq {request other : Request} (routed : request.Routed)
    (routed' : other.Routed) (same : request.key = other.key) :
    request.decoratorOptions = other.decoratorOptions := by
  have stems : stem request.decoratorOptions ++ request.ip.toList =
      stem other.decoratorOptions ++ other.ip.toList := by
    rw [← toList_key, ← toList_key, same]
  rcases List.prefix_or_prefix_of_prefix (List.prefix_append _ request.ip.toList)
      (stems ▸ List.prefix_append _ other.ip.toList) with first | second
  · exact stems_apart _ routed _ routed' first
  · exact (stems_apart _ routed' _ routed second).symm

/-- So the key fixes the TTL. -/
theorem Routed.ttlSeconds_eq {request other : Request} (options : RateLimiterModuleOptions)
    (routed : request.Routed) (routed' : other.Routed) (same : request.key = other.key) :
    options.ttlSeconds request = options.ttlSeconds other := by
  have reading := routed.decoratorOptions_eq routed' same
  cases request
  cases other
  cases reading
  rfl

/-- The TTLs that the controllers write are between a minute and an hour. -/
theorem Routed.own {request : Request} {own : Nat} (routed : request.Routed)
    (found : request.decoratorOptions.bind RateLimitOptions.ttlSeconds = some own) :
    0 < own ∧ own ≤ 3600 := by
  have bounds : ∀ reading ∈ readings, ∀ own ∈ reading.bind RateLimitOptions.ttlSeconds,
      0 < own ∧ own ≤ 3600 := by
    decide
  exact bounds _ routed own found

end Request

end BackendFoundation.RateLimiter
