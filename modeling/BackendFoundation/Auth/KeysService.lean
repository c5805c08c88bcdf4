/-
JwtAuthTokenService over the keys of one Redis, where the other features of the application
write their keys at any time.

A script that fails on the type of a key rejects the call that has sent it.
-/

import BackendFoundation.Auth.StoreRefinement
import BackendFoundation.Auth.TokenService
import BackendFoundation.Sessions.SessionStore

namespace BackendFoundation.Auth

open Redis Transition

def getRevokedAccessTokenKey (tokenId : String) : String :=
  "auth:revoked-access-token:" ++ tokenId

/-- The texts that the keys of the token store begin with. -/
def storePrefixes : List String :=
  [getRefreshTokenPrefix, familyMarker, "auth:refresh-families:user:",
    "auth:revoked-access-token:"]

def storeKey (builder : RedisKeyBuilder) (key : List UInt8) : Bool :=
  storePrefixes.any fun front => (physicalKey builder front).isPrefixOf key

/-- What the other features write: sessions, counters, and the rest. -/
inductive OtherKey
  | session (sessionId : String)
  | sessionIndex (userId : String)
  | counter (keyPrefix : Sessions.KeyPrefix) (ip : String)
  | idempotencyResult (scope key : String)
  | idempotencyLock (scope key : String)
  | idempotencyFence (scope key : String)
  | jobExecution (key : String)
  | distributedLock (key : String)
  | passwordResetToken (tokenHash : String)
  | passwordResetUser (userId : String)
  | googleOAuthState (state : String)
deriving DecidableEq, Repr

def OtherKey.key : OtherKey → String
  | session sessionId => Sessions.sessionKey sessionId
  | sessionIndex userId => Sessions.userIndexKey userId
  | counter keyPrefix ip => keyPrefix.counterKey ip
  | idempotencyResult scope key => (Sessions.FeatureKey.idempotencyResult scope key).key
  | idempotencyLock scope key => (Sessions.FeatureKey.idempotencyLock scope key).key
  | idempotencyFence scope key => (Sessions.FeatureKey.idempotencyFence scope key).key
  | jobExecution key => (Sessions.FeatureKey.jobExecution key).key
  | distributedLock key => (Sessions.FeatureKey.distributedLock key).key
  | passwordResetToken tokenHash => (Sessions.FeatureKey.passwordResetToken tokenHash).key
  | passwordResetUser userId => (Sessions.FeatureKey.passwordResetUser userId).key
  | googleOAuthState state => (Sessions.FeatureKey.googleOAuthState state).key

structure KeysSetup (Call : Type) where
  service : Setup Call
  builder : RedisKeyBuilder
  codec : RecordCodec

/-- A call whose command Redis has answered with an error is rejected with it. -/
inductive KeysPhase
  | running (phase : Phase)
  | rejected (error : WrongType)
deriving DecidableEq

/-- The last three fields are those of the service's own history. -/
structure KeysState (Call : Type) where
  now : Nat
  keys : PhysicalKeys
  calls : Call → KeysPhase
  issued : List ParsedRefreshToken
  rotated : List String
  revoked : List String

inductive KeysAction (Call : Type)
  | service (action : Action Call)
  | other (key : List UInt8) (slot : Slot (Stored String))

variable {Call : Type}

namespace KeysSetup

variable (setup : KeysSetup Call)

def tokenKey (tokenId : String) : List UInt8 :=
  physicalKey setup.builder (getRefreshTokenKey tokenId)

def familyKey (familyId : String) : List UInt8 :=
  physicalKey setup.builder (getRefreshFamilyKey familyId)

def indexKey (userId : String) : List UInt8 :=
  physicalKey setup.builder (getUserFamilyIndexKey userId)

def accessKey (tokenId : String) : List UInt8 :=
  physicalKey setup.builder (getRevokedAccessTokenKey tokenId)

/-- What a call does once its script has answered. -/
def answered (outcome : PhysicalKeys × Except WrongType Nat) (reply : Nat → Progress) :
    PhysicalKeys × Except WrongType Progress :=
  (outcome.1, outcome.2.map reply)

/-- One command on the keys, and its reply. -/
def next (now : Nat) (keys : PhysicalKeys) :
    Progress → Option (PhysicalKeys × Except WrongType Progress)
  | .saving input =>
      some (answered (saveRefreshToken setup.builder setup.codec.stringify now keys input)
        fun _ => .returned .done)
  | .rotating input =>
      some (answered (rotateRefreshToken setup.builder setup.codec.stringify now keys input)
        fun result => .returned (.rotated (result == 1)))
  | .revokingFamily familyId =>
      some (answered (revokeRefreshTokenFamily setup.builder setup.codec.userId now keys familyId)
        fun _ => .returned .done)
  | .listing userId =>
      some (keys, (keys.smembers now (setup.indexKey userId)).map fun familyIds =>
        .revokingEach userId familyIds)
  | .revokingEach userId [] => some (keys.del (setup.indexKey userId), .ok (.returned .done))
  | .revokingEach userId (familyId :: pending) =>
      some (answered (revokeRefreshTokenFamily setup.builder setup.codec.userId now keys familyId)
        fun _ => .revokingEach userId pending)
  | .denylisting tokenId ttlSeconds =>
      some (keys.setEx now (setup.accessKey tokenId) "1" ttlSeconds, .ok (.returned .done))
  | .returned _ => none

end KeysSetup

variable [DecidableEq Call]

def KeysState.goto (state : KeysState Call) (call : Call) (phase : KeysPhase) : KeysState Call :=
  { state with calls := Function.update state.calls call phase }

/-- Redis has executed the command of a call, and the call goes on with the reply. -/
def KeysState.receive (state : KeysState Call) (setup : KeysSetup Call) (call : Call)
    (await : Await) (sent : Progress) (keys : PhysicalKeys) :
    Except WrongType Progress → KeysState Call
  | .error error =>
      { state.goto call (.rejected error) with keys := keys }
  | .ok left =>
      let phase := setup.service.proceed state.now call await left
      { state.goto call (.running phase) with
        keys := keys
        issued := (if phase = .returned then setup.service.signed call else []) ++ state.issued
        rotated := sent.spent left ++ state.rotated
        revoked := sent.revokes ++ state.revoked }

def KeysSetup.step (setup : KeysSetup Call) (state : KeysState Call) :
    KeysAction Call → Option (KeysState Call)
  | .service (.advance milliseconds) => some { state with now := state.now + milliseconds }
  | .service (.start call) =>
      match state.calls call with
      | .running .ready =>
          some (state.goto call (.running (setup.service.start state.issued call)))
      | _ => none
  | .service (.command call) =>
      match state.calls call with
      | .running (.awaiting await progress) =>
          (setup.next state.now state.keys progress).map fun (keys, reply) =>
            state.receive setup call await progress keys reply
      | _ => none
  | .other key slot =>
      if storeKey setup.builder key then none
      else some { state with keys := Function.update state.keys key slot }

/-- A Redis without keys of the token store, at any time. -/
def KeysSetup.initial (setup : KeysSetup Call) (state : KeysState Call) : Prop :=
  (∀ key, storeKey setup.builder key = true → state.keys key = none) ∧
    state.calls = (fun _ => .running .ready) ∧ state.issued = [] ∧ state.rotated = [] ∧
    state.revoked = []

def KeysSetup.system (setup : KeysSetup Call) : System (KeysState Call) (KeysAction Call) :=
  { initial := setup.initial
    step := setup.step }

end BackendFoundation.Auth
