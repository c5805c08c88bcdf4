/-
RedisJwtTokenStore on the keys of Redis: which KEYS its calls send, and what the scripts do
there. The script of revokeRefreshTokenFamily is sent one key and makes the others itself.

A script that fails keeps what it has written.
-/

import BackendFoundation.Auth.JwtTokenStore
import BackendFoundation.Lua.Strings
import BackendFoundation.Redis.PhysicalKeys
import BackendFoundation.Redis.RedisKeyBuilder
import BackendFoundation.Redis.Utf8

namespace BackendFoundation.Auth

open Redis Lua

def getRefreshTokenPrefix : String := "auth:refresh-token:"

def getRefreshTokenKey (tokenId : String) : String :=
  getRefreshTokenPrefix ++ tokenId

def getRefreshFamilyKey (familyId : String) : String :=
  "auth:refresh-family:" ++ familyId

def getUserFamilyIndexKey (userId : String) : String :=
  "auth:refresh-families:user:" ++ userId

/-- buildIndexTtlRefreshScript -/
def refreshIndexTtlAt (now : Nat) (keys : PhysicalKeys) (indexKey : List UInt8)
    (ttlSeconds : Nat) : PhysicalKeys :=
  let currentIndexTtl := Slot.ttl now (keys indexKey)
  let indexTtl := if currentIndexTtl > ttlSeconds then currentIndexTtl.toNat else ttlSeconds
  Function.update keys indexKey (Slot.expire now (keys indexKey) indexTtl).1

/-- How saving and rotating end. -/
def indexFamilyAt (now : Nat) (keys : PhysicalKeys) (indexKey : List UInt8) (familyId : String)
    (ttlSeconds : Nat) : PhysicalKeys × Except WrongType Nat :=
  match keys.sadd now indexKey familyId with
  | .error error => (keys, .error error)
  | .ok indexed => (refreshIndexTtlAt now indexed indexKey ttlSeconds, .ok 1)

def saveScript (now : Nat) (keys : PhysicalKeys) (tokenKey familyKey indexKey : List UInt8)
    (record : String) (ttlSeconds : Nat) (tokenId familyId : String) :
    PhysicalKeys × Except WrongType Nat :=
  let stored := keys.setEx now tokenKey record ttlSeconds
  let pointed := stored.setEx now familyKey tokenId ttlSeconds
  indexFamilyAt now pointed indexKey familyId ttlSeconds

def rotateScript (now : Nat) (keys : PhysicalKeys)
    (currentTokenKey nextTokenKey familyKey indexKey : List UInt8)
    (currentTokenId nextRecord : String) (ttlSeconds : Nat) (nextTokenId familyId : String) :
    PhysicalKeys × Except WrongType Nat :=
  match keys.get now currentTokenKey with
  | .error error => (keys, .error error)
  | .ok none => (keys, .ok 0)
  | .ok (some _) =>
      match keys.get now familyKey with
      | .error error => (keys, .error error)
      | .ok none => (keys, .ok 0)
      | .ok (some activeFamilyTokenId) =>
          if activeFamilyTokenId ≠ currentTokenId then (keys, .ok 0)
          else
            let spent := keys.del currentTokenKey
            let stored := spent.setEx now nextTokenKey nextRecord ttlSeconds
            let pointed := stored.setEx now familyKey nextTokenId ttlSeconds
            indexFamilyAt now pointed indexKey familyId ttlSeconds

/-- The revocation script behind its cut, which names a token's key and a user's index key. Of a
stored text it takes the userId, where cjson.decode gives a table that has it as a string. -/
def revokeAt (userIdOf : String → Option String) (now : Nat) (keys : PhysicalKeys)
    (familyKey : List UInt8) (tokenKey indexKey : String → List UInt8) (familyId : String) :
    PhysicalKeys × Except WrongType Nat :=
  match keys.get now familyKey with
  | .error error => (keys, .error error)
  | .ok none => (keys.del familyKey, .ok 1)
  | .ok (some currentTokenId) =>
      match keys.get now (tokenKey currentTokenId) with
      | .error error => (keys, .error error)
      | .ok rawRecord =>
          let spent := keys.del (tokenKey currentTokenId)
          match rawRecord.bind userIdOf with
          | none => (spent.del familyKey, .ok 1)
          | some userId =>
              if userId = "" then (spent.del familyKey, .ok 1)
              else
                match spent.srem now (indexKey userId) familyId with
                | .error error => (spent, .error error)
                | .ok unindexed => (unindexed.del familyKey, .ok 1)

def familyMarker : String := "auth:refresh-family:"

/-- The prefix that the script cuts out of KEYS[1]. -/
def scriptPrefix (familyKey : List UInt8) : Option (List UInt8) :=
  (find familyKey (utf8 familyMarker)).map fun markerStart => sub familyKey 1 (markerStart - 1)

def scriptTokenKey (keyPrefix : List UInt8) (currentTokenId : String) : List UInt8 :=
  keyPrefix ++ utf8 "auth:refresh-token:" ++ utf8 currentTokenId

def scriptIndexKey (keyPrefix : List UInt8) (userId : String) : List UInt8 :=
  keyPrefix ++ utf8 "auth:refresh-families:user:" ++ utf8 userId

def revokeScript (userIdOf : String → Option String) (now : Nat) (keys : PhysicalKeys)
    (familyKey : List UInt8) (familyId : String) : PhysicalKeys × Except WrongType Nat :=
  match scriptPrefix familyKey with
  | none => (keys.del familyKey, .ok 0)
  | some keyPrefix =>
      revokeAt userIdOf now keys familyKey (scriptTokenKey keyPrefix)
        (scriptIndexKey keyPrefix) familyId

/-- The KEYS that RedisService.eval sends for a logical key. -/
def physicalKey (builder : RedisKeyBuilder) (logicalKey : String) : List UInt8 :=
  utf8 (builder.toPhysicalKey logicalKey)

section Calls

variable (builder : RedisKeyBuilder) (stringify : RefreshTokenRecord → String)
  (userIdOf : String → Option String) (now : Nat) (keys : PhysicalKeys)

def saveRefreshToken (input : SaveRefreshTokenInput) : PhysicalKeys × Except WrongType Nat :=
  saveScript now keys (physicalKey builder (getRefreshTokenKey input.tokenId))
    (physicalKey builder (getRefreshFamilyKey input.familyId))
    (physicalKey builder (getUserFamilyIndexKey input.record.userId))
    (stringify input.record) input.ttlSeconds input.tokenId input.familyId

def rotateRefreshToken (input : RotateRefreshTokenInput) : PhysicalKeys × Except WrongType Nat :=
  rotateScript now keys (physicalKey builder (getRefreshTokenKey input.currentTokenId))
    (physicalKey builder (getRefreshTokenKey input.nextTokenId))
    (physicalKey builder (getRefreshFamilyKey input.familyId))
    (physicalKey builder (getUserFamilyIndexKey input.nextRecord.userId))
    input.currentTokenId (stringify input.nextRecord) input.ttlSeconds input.nextTokenId
    input.familyId

def revokeRefreshTokenFamily (familyId : String) : PhysicalKeys × Except WrongType Nat :=
  revokeScript userIdOf now keys (physicalKey builder (getRefreshFamilyKey familyId)) familyId

end Calls

end BackendFoundation.Auth
