/-
RedisSessionStore and what SessionAuthTokenService does with it, at the level of
single Redis commands, together with the rate limiter and the other features that
write to the same keyspace.

Keys are the logical ones; the key builder puts one fixed prefix before all of them.
A stored string is represented by what JSON.parse makes of it.
-/

import BackendFoundation.Redis.Keyspace
import BackendFoundation.Transition.System

namespace BackendFoundation.Sessions

open Redis

inductive Json
  | null
  | boolean (value : Bool)
  | number (value : Int)
  | string (value : String)
  | array (elements : List Json)
  | object (fields : List (String × Json))

/-- A property of a parsed value; only objects have any. -/
def Json.field (json : Json) (name : String) : Option Json :=
  match json with
  | .object fields => fields.lookup name
  | _ => none

/-- No value stands for a text that JSON.parse rejects. -/
abbrev Text := Option Json

structure SessionRecord where
  userId : String
  authVersion : Int
  createdAt : String
  lastActivityAt : String
  ip : Option String
  userAgent : Option String
deriving DecidableEq, Repr

def nullable : Option String → Json
  | none => .null
  | some value => .string value

/-- JSON.stringify(record) -/
def SessionRecord.toJson (record : SessionRecord) : Json :=
  .object
    [("userId", .string record.userId),
      ("authVersion", .number record.authVersion),
      ("createdAt", .string record.createdAt),
      ("lastActivityAt", .string record.lastActivityAt),
      ("ip", nullable record.ip),
      ("userAgent", nullable record.userAgent)]

def legacyCreatedAtFallback : String := "1970-01-01T00:00:00.000Z"

def nonEmptyString (field : Option Json) (fallback : String) : String :=
  match field with
  | some (.string value) => if value.isEmpty then fallback else value
  | _ => fallback

def stringOrNull : Option Json → Option String
  | some (.string value) => some value
  | _ => none

def normalizeRecord (raw : Json) : Option SessionRecord :=
  match raw.field "userId", raw.field "authVersion" with
  | some (.string userId), some (.number authVersion) =>
      let createdAt := nonEmptyString (raw.field "createdAt") legacyCreatedAtFallback
      some
        { userId := userId
          authVersion := authVersion
          createdAt := createdAt
          lastActivityAt := nonEmptyString (raw.field "lastActivityAt") createdAt
          ip := stringOrNull (raw.field "ip")
          userAgent := stringOrNull (raw.field "userAgent") }
  | _, _ => none

/-- What get makes of the reply to GET. -/
def parseRecord (raw : Option Text) : Option SessionRecord :=
  raw.bind fun text => text.bind normalizeRecord

def sessionKey (sessionId : String) : String := "sessions:" ++ sessionId

def userIndexKey (userId : String) : String := "sessions:user:" ++ userId

structure SessionListEntry where
  id : String
  record : SessionRecord
  expiresAt : Nat
deriving DecidableEq, Repr

structure CreateInput where
  record : SessionRecord
  ttlSeconds : Nat
  positive : 0 < ttlSeconds

/-- The keyPrefix values of the controllers, and the default of the guard. -/
inductive KeyPrefix
  | sessionsList
  | sessionsDelete
  | authRegister
  | authLogin
  | authLogout
  | authRefresh
  | authMe
  | authChangePassword
  | authForgotPassword
  | authResetPassword
  | authGoogle
  | authGoogleCallback
  | rate
deriving DecidableEq, Repr

def KeyPrefix.value : KeyPrefix → String
  | sessionsList => "sessions:list"
  | sessionsDelete => "sessions:delete"
  | authRegister => "auth:register"
  | authLogin => "auth:login"
  | authLogout => "auth:logout"
  | authRefresh => "auth:refresh"
  | authMe => "auth:me"
  | authChangePassword => "auth:change-password"
  | authForgotPassword => "auth:forgot-password"
  | authResetPassword => "auth:reset-password"
  | authGoogle => "auth:google"
  | authGoogleCallback => "auth:google-callback"
  | rate => "rate"

/-- The key of RateLimiterGuard. -/
def KeyPrefix.counterKey (keyPrefix : KeyPrefix) (ip : String) : String :=
  keyPrefix.value ++ ":" ++ ip

/-- The keys of the other features. -/
inductive FeatureKey
  | idempotencyResult (scope key : String)
  | idempotencyLock (scope key : String)
  | idempotencyFence (scope key : String)
  | jobExecution (key : String)
  | distributedLock (key : String)
  | passwordResetToken (tokenHash : String)
  | passwordResetUser (userId : String)
  | googleOAuthState (state : String)
  | refreshToken (tokenId : String)
  | refreshFamily (familyId : String)
  | userFamilyIndex (userId : String)
  | revokedAccessToken (tokenId : String)
deriving DecidableEq, Repr

def FeatureKey.key : FeatureKey → String
  | idempotencyResult scope key => "idem:" ++ scope ++ ":" ++ key ++ ":result"
  | idempotencyLock scope key => "idem:" ++ scope ++ ":" ++ key ++ ":lock"
  | idempotencyFence scope key => "idem:" ++ scope ++ ":" ++ key ++ ":fence"
  | jobExecution key => "job-execution:" ++ key
  | distributedLock key => "lock:" ++ key
  | passwordResetToken tokenHash => "password-reset:token:" ++ tokenHash
  | passwordResetUser userId => "password-reset:user:" ++ userId
  | googleOAuthState state => "google-sso:state:" ++ state
  | refreshToken tokenId => "auth:refresh-token:" ++ tokenId
  | refreshFamily familyId => "auth:refresh-family:" ++ familyId
  | userFamilyIndex userId => "auth:refresh-families:user:" ++ userId
  | revokedAccessToken tokenId => "auth:revoked-access-token:" ++ tokenId

/-- RedisRateLimiter.check, one script; INCR fails on anything but a number. -/
def incrementWithTtl (now : Nat) (keys : Keyspace Text) (key : String) (ttlSeconds : Nat) :
    Keyspace Text :=
  match Slot.live now (keys key) with
  | none =>
      Function.update keys key (Slot.setEx now (.text (some (.number 1))) ttlSeconds)
  | some cell =>
      match cell.value with
      | .text (some (.number value)) =>
          let count := value + 1
          Function.update keys key (some
            { value := .text (some (.number count))
              expireAt :=
                if count = 1 then some (now + ttlSeconds * 1000) else cell.expireAt })
      | _ => keys

inductive Operation
  | create (input : CreateInput)
  | get (sessionId : String)
  | delete (sessionId : String)
  | revoke (sessionId : String)
  | listByUserId (userId : String)
  | revokeAllForUser (userId : String)

inductive Reply
  | created (sessionId : String)
  | record (found : Option SessionRecord)
  | entries (entries : List SessionListEntry)
  | done
deriving DecidableEq, Repr

/-- The pending Redis command of a call. A call that deletes has the ids still to come. -/
inductive Phase
  | ready
  | setting (input : CreateInput)
  | adding (input : CreateInput)
  | askingIndexTtl (input : CreateInput)
  | expiring (input : CreateInput) (indexTtlSeconds : Nat)
  | getting (sessionId : String)
  | listing (userId : String)
  | visiting (userId sessionId : String) (rest : List String)
      (entries : List SessionListEntry)
  | pruning (userId sessionId : String) (rest : List String)
      (entries : List SessionListEntry)
  | askingSessionTtl (userId sessionId : String) (record : SessionRecord)
      (rest : List String) (entries : List SessionListEntry)
  | reading (sessionId : String) (rest : List String)
  | deleting (sessionId : String) (record : Option SessionRecord) (rest : List String)
  | removing (sessionId : String) (record : SessionRecord) (rest : List String)
  | returned (reply : Reply)
  | rejected

/-- Each create draws its own randomUUID, and a UUID has no colon. -/
structure Setup (Call : Type) where
  operation : Call → Operation
  sessionId : Call → String
  sessionId_injective : Function.Injective sessionId
  sessionId_plain : ∀ call, ':' ∉ (sessionId call).toList

structure State (Call : Type) where
  now : Nat
  keys : Keyspace Text
  calls : Call → Phase

inductive Action (Call : Type)
  | advance (milliseconds : Nat)
  | start (call : Call)
  | command (call : Call)
  | check (keyPrefix : KeyPrefix) (ip : String) (ttlSeconds : Nat)
  | other (feature : FeatureKey) (slot : Slot (Stored Text))

variable {Call : Type}

def deleteEach : List String → Phase
  | [] => .returned .done
  | sessionId :: rest => .reading sessionId rest

def Operation.start : Operation → Phase
  | create input => .setting input
  | get sessionId => .getting sessionId
  | delete sessionId => deleteEach [sessionId]
  | revoke sessionId => if sessionId.isEmpty then .returned .done else deleteEach [sessionId]
  | listByUserId userId => .listing userId
  | revokeAllForUser userId => .listing userId

/-- What becomes of the entries once every member has been visited. -/
def Operation.listed (operation : Operation) (entries : List SessionListEntry) : Phase :=
  match operation with
  | .revokeAllForUser _ => deleteEach (entries.map SessionListEntry.id)
  | _ => .returned (.entries entries)

def Operation.visit (operation : Operation) (userId : String) (members : List String)
    (entries : List SessionListEntry) : Phase :=
  match members with
  | [] => operation.listed entries
  | sessionId :: rest => .visiting userId sessionId rest entries

/-- TTL answers below zero for a key without expiry and for a missing one. -/
def nextIndexTtl (currentIndexTtl : Int) (ttlSeconds : Nat) : Nat :=
  if currentIndexTtl < 0 then ttlSeconds else max currentIndexTtl.toNat ttlSeconds

def expiresAt (now : Nat) (ttlSeconds : Int) : Nat :=
  if 0 < ttlSeconds then now + ttlSeconds.toNat * 1000 else now

/-- A command that fails on the type of its key rejects the call. -/
def orRejected {Result : Type} (keys : Keyspace Text) (reply : Except WrongType Result)
    (next : Result → Keyspace Text × Phase) : Keyspace Text × Phase :=
  match reply with
  | .error _ => (keys, .rejected)
  | .ok result => next result

/-- The pending command takes effect, and the call goes on with its reply. -/
def Setup.answer (setup : Setup Call) (call : Call) (now : Nat) (keys : Keyspace Text) :
    Phase → Option (Keyspace Text × Phase)
  | .setting input =>
      some (keys.setEx now (sessionKey (setup.sessionId call)) (some input.record.toJson)
        input.ttlSeconds, .adding input)
  | .adding input =>
      some (orRejected keys
        (keys.sadd now (userIndexKey input.record.userId) (setup.sessionId call))
        fun keys => (keys, .askingIndexTtl input))
  | .askingIndexTtl input =>
      some (keys, .expiring input (nextIndexTtl
        (keys.ttl now (userIndexKey input.record.userId)) input.ttlSeconds))
  | .expiring input indexTtlSeconds =>
      some (keys.expire now (userIndexKey input.record.userId) indexTtlSeconds,
        .returned (.created (setup.sessionId call)))
  | .getting sessionId =>
      some (orRejected keys (keys.get now (sessionKey sessionId)) fun raw =>
        (keys, .returned (.record (parseRecord raw))))
  | .listing userId =>
      some (orRejected keys (keys.smembers now (userIndexKey userId)) fun members =>
        (keys, (setup.operation call).visit userId members []))
  | .visiting userId sessionId rest entries =>
      some (orRejected keys (keys.get now (sessionKey sessionId)) fun raw =>
        match parseRecord raw with
        | none => (keys, .pruning userId sessionId rest entries)
        | some record => (keys, .askingSessionTtl userId sessionId record rest entries))
  | .pruning userId sessionId rest entries =>
      some (orRejected keys (keys.srem now (userIndexKey userId) sessionId) fun keys =>
        (keys, (setup.operation call).visit userId rest entries))
  | .askingSessionTtl userId sessionId record rest entries =>
      some (keys, (setup.operation call).visit userId rest (entries ++
        [{ id := sessionId
           record := record
           expiresAt := expiresAt now (keys.ttl now (sessionKey sessionId)) }]))
  | .reading sessionId rest =>
      some (orRejected keys (keys.get now (sessionKey sessionId)) fun raw =>
        (keys, .deleting sessionId (parseRecord raw) rest))
  | .deleting sessionId record rest =>
      some (keys.del (sessionKey sessionId),
        match record with
        | none => deleteEach rest
        | some record => .removing sessionId record rest)
  | .removing sessionId record rest =>
      some (orRejected keys (keys.srem now (userIndexKey record.userId) sessionId) fun keys =>
        (keys, deleteEach rest))
  | _ => none

variable [DecidableEq Call]

def State.goto (state : State Call) (call : Call) (phase : Phase) : State Call :=
  { state with calls := Function.update state.calls call phase }

def Setup.step (setup : Setup Call) (state : State Call) : Action Call → Option (State Call)
  | .advance milliseconds => some { state with now := state.now + milliseconds }
  | .start call =>
      match state.calls call with
      | .ready => some (state.goto call (setup.operation call).start)
      | _ => none
  | .command call =>
      (setup.answer call state.now state.keys (state.calls call)).map fun (keys, phase) =>
        { state.goto call phase with keys := keys }
  | .check keyPrefix ip ttlSeconds =>
      some { state with keys :=
        incrementWithTtl state.now state.keys (keyPrefix.counterKey ip) ttlSeconds }
  | .other feature slot =>
      some { state with keys := Function.update state.keys feature.key slot }

def State.initial (state : State Call) : Prop :=
  state.keys = Keyspace.empty ∧ state.calls = fun _ => .ready

def Setup.system (setup : Setup Call) :
    Transition.System (State Call) (Action Call) :=
  { initial := State.initial
    step := setup.step }

end BackendFoundation.Sessions
