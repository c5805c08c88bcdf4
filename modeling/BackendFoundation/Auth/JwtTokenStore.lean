/-
RedisJwtTokenStore. Every script is one atomic command; revokeAllRefreshTokenFamilies
is a sequence of commands, between which other calls run.

Keys are named here by the id they are derived from.
-/

import BackendFoundation.Redis.SetSlot
import Mathlib.Logic.Function.Basic

namespace BackendFoundation.Auth

open Redis

structure RefreshTokenRecord where
  userId : String
  familyId : String
deriving DecidableEq, Repr

structure SaveRefreshTokenInput where
  tokenId : String
  familyId : String
  record : RefreshTokenRecord
  ttlSeconds : Nat
  positive : 0 < ttlSeconds
deriving DecidableEq

structure RotateRefreshTokenInput where
  currentTokenId : String
  nextTokenId : String
  familyId : String
  nextRecord : RefreshTokenRecord
  ttlSeconds : Nat
  positive : 0 < ttlSeconds
deriving DecidableEq

/-- The keys auth:refresh-token:, auth:refresh-family:, auth:refresh-families:user: and
auth:revoked-access-token:. -/
structure JwtStore where
  token : String → Slot RefreshTokenRecord
  family : String → Slot String
  index : String → Slot (List String)
  revokedAccess : String → Slot String

def JwtStore.empty : JwtStore :=
  { token := fun _ => none
    family := fun _ => none
    index := fun _ => none
    revokedAccess := fun _ => none }

/-- The TTL of the default JWT_REFRESH_EXPIRES_IN, 7d. -/
theorem sevenDays_pos : 0 < 604800 := by decide

/-- The TTL that the refresh script gives to the index. -/
def indexTtl (now : Nat) (slot : Slot (List String)) (ttlSeconds : Nat) : Nat :=
  if slot.ttl now > ttlSeconds then (slot.ttl now).toNat else ttlSeconds

/-- buildIndexTtlRefreshScript -/
def refreshIndexTtl (now : Nat) (slot : Slot (List String)) (ttlSeconds : Nat) :
    Slot (List String) :=
  (slot.expire now (indexTtl now slot ttlSeconds)).1

/-- How saving and rotating end: SADD and the refresh of the TTL. -/
def indexFamily (now : Nat) (slot : Slot (List String)) (familyId : String)
    (ttlSeconds : Nat) : Slot (List String) :=
  refreshIndexTtl now (slot.sadd now familyId) ttlSeconds

namespace JwtStore

def saveRefreshToken (now : Nat) (store : JwtStore) (input : SaveRefreshTokenInput) :
    JwtStore :=
  { store with
    token := Function.update store.token input.tokenId
      (.setEx now input.record input.ttlSeconds)
    family := Function.update store.family input.familyId
      (.setEx now input.tokenId input.ttlSeconds)
    index := Function.update store.index input.record.userId
      (indexFamily now (store.index input.record.userId) input.familyId input.ttlSeconds) }

/-- The three tests at the head of the rotation script. -/
def rotates (now : Nat) (store : JwtStore) (input : RotateRefreshTokenInput) : Bool :=
  ((store.token input.currentTokenId).get now).isSome &&
    (store.family input.familyId).get now == some input.currentTokenId

/-- The rest of the rotation script. -/
def replaceToken (now : Nat) (store : JwtStore) (input : RotateRefreshTokenInput) : JwtStore :=
  { store with
    token := Function.update (Function.update store.token input.currentTokenId .del)
      input.nextTokenId (.setEx now input.nextRecord input.ttlSeconds)
    family := Function.update store.family input.familyId
      (.setEx now input.nextTokenId input.ttlSeconds)
    index := Function.update store.index input.nextRecord.userId
      (indexFamily now (store.index input.nextRecord.userId) input.familyId input.ttlSeconds) }

def rotateRefreshToken (now : Nat) (store : JwtStore) (input : RotateRefreshTokenInput) :
    JwtStore × Bool :=
  if store.rotates now input then (store.replaceToken now input, true) else (store, false)

/-- The index is found through the record of the family's current token. -/
def unindexFamily (now : Nat) (store : JwtStore) (tokenId familyId : String) :
    String → Slot (List String) :=
  match (store.token tokenId).get now with
  | none => store.index
  | some record =>
      if record.userId = "" then store.index
      else Function.update store.index record.userId
        ((store.index record.userId).srem now familyId)

def revokeRefreshTokenFamily (now : Nat) (store : JwtStore) (familyId : String) : JwtStore :=
  match (store.family familyId).get now with
  | none => { store with family := Function.update store.family familyId .del }
  | some currentTokenId =>
      { store with
        token := Function.update store.token currentTokenId .del
        index := store.unindexFamily now currentTokenId familyId
        family := Function.update store.family familyId .del }

def clearIndex (store : JwtStore) (userId : String) : JwtStore :=
  { store with index := Function.update store.index userId .del }

def denylist (now : Nat) (store : JwtStore) (tokenId : String) (ttlSeconds : Nat) : JwtStore :=
  { store with
    revokedAccess := Function.update store.revokedAccess tokenId (.setEx now "1" ttlSeconds) }

def isAccessTokenRevoked (now : Nat) (store : JwtStore) (tokenId : String) : Bool :=
  (store.revokedAccess tokenId).present now

end JwtStore

inductive StoreCall
  | saveRefreshToken (input : SaveRefreshTokenInput)
  | rotateRefreshToken (input : RotateRefreshTokenInput)
  | revokeRefreshTokenFamily (familyId : String)
  | revokeAllRefreshTokenFamilies (userId : String)
  | revokeAccessToken (tokenId : String) (ttlSeconds : Nat)
deriving DecidableEq

inductive Reply
  | done
  | rotated (success : Bool)
deriving DecidableEq, Repr

/-- Before each command of a call: what it is about to send. -/
inductive Progress
  | saving (input : SaveRefreshTokenInput)
  | rotating (input : RotateRefreshTokenInput)
  | revokingFamily (familyId : String)
  | listing (userId : String)
  | revokingEach (userId : String) (pending : List String)
  | denylisting (tokenId : String) (ttlSeconds : Nat)
  | returned (reply : Reply)
deriving DecidableEq

def StoreCall.start : StoreCall → Progress
  | saveRefreshToken input => .saving input
  | rotateRefreshToken input => .rotating input
  | revokeRefreshTokenFamily familyId => .revokingFamily familyId
  | revokeAllRefreshTokenFamilies userId => .listing userId
  | revokeAccessToken tokenId ttlSeconds =>
      if ttlSeconds = 0 then .returned .done else .denylisting tokenId ttlSeconds

/-- Time passes, a call starts, or a call sends its next command. -/
inductive Action (Call : Type)
  | advance (milliseconds : Nat)
  | start (call : Call)
  | command (call : Call)
deriving DecidableEq, Repr

/-- One command and its reply. -/
def Progress.next (now : Nat) (store : JwtStore) : Progress → Option (JwtStore × Progress)
  | saving input => some (store.saveRefreshToken now input, .returned .done)
  | rotating input =>
      let (store, rotated) := store.rotateRefreshToken now input
      some (store, .returned (.rotated rotated))
  | revokingFamily familyId =>
      some (store.revokeRefreshTokenFamily now familyId, .returned .done)
  | listing userId => some (store, .revokingEach userId ((store.index userId).smembers now))
  | revokingEach userId [] => some (store.clearIndex userId, .returned .done)
  | revokingEach userId (familyId :: pending) =>
      some (store.revokeRefreshTokenFamily now familyId, .revokingEach userId pending)
  | denylisting tokenId ttlSeconds =>
      some (store.denylist now tokenId ttlSeconds, .returned .done)
  | returned _ => none

theorem le_indexTtl (now : Nat) (slot : Slot (List String)) (ttlSeconds : Nat) :
    ttlSeconds ≤ indexTtl now slot ttlSeconds := by
  unfold indexTtl
  split
  · omega
  · exact Nat.le_refl _

theorem ttl_le_indexTtl (now : Nat) (slot : Slot (List String)) (ttlSeconds : Nat) :
    slot.ttl now ≤ indexTtl now slot ttlSeconds := by
  unfold indexTtl
  split
  · omega
  · omega

/-- An index that SADD creates has no TTL yet, and a missing one has none either. -/
theorem indexTtl_sadd (now : Nat) (slot : Slot (List String)) (familyId : String)
    (ttlSeconds : Nat) :
    indexTtl now (slot.sadd now familyId) ttlSeconds = indexTtl now slot ttlSeconds := by
  obtain ⟨cell, added, _, expiry, _⟩ := Slot.live_sadd now slot familyId
  unfold indexTtl Slot.ttl
  rw [added]
  cases found : Slot.live now slot with
  | none =>
      rw [found] at expiry
      simp only [expiry, Option.bind_none]
      rw [if_neg (by omega), if_neg (by omega)]
  | some before =>
      rw [found] at expiry
      simp only [expiry, Option.bind_some]

/-- The index afterwards: it has the family and those of before, and expires with the
refreshed TTL. -/
theorem indexFamily_eq (now : Nat) (slot : Slot (List String)) (familyId : String)
    (ttlSeconds : Nat) :
    ∃ cell, indexFamily now slot familyId ttlSeconds = some cell ∧ familyId ∈ cell.value ∧
      cell.expireAt = some (now + indexTtl now slot ttlSeconds * 1000) ∧
      ∀ before, slot.live now = some before → ∀ other ∈ before.value, other ∈ cell.value := by
  obtain ⟨cell, added, inside, _, kept⟩ := Slot.live_sadd now slot familyId
  unfold indexFamily refreshIndexTtl Slot.expire
  rw [indexTtl_sadd, added]
  exact ⟨_, rfl, inside, rfl, kept⟩

theorem holds_indexFamily {now : Nat} {slot : Slot (List String)} {added familyId : String}
    {ttlSeconds : Nat} (held : (indexFamily now slot added ttlSeconds).Holds familyId) :
    slot.Holds familyId ∨ familyId = added :=
  Slot.holds_sadd (Slot.holds_expire held)

namespace JwtStore

variable {now : Nat} {store : JwtStore}

theorem rotates_iff {input : RotateRefreshTokenInput} :
    store.rotates now input = true ↔
      (∃ record, (store.token input.currentTokenId).get now = some record) ∧
        (store.family input.familyId).get now = some input.currentTokenId := by
  unfold rotates
  rw [Bool.and_eq_true, Option.isSome_iff_exists, beq_iff_eq]

/-- Without a live pointer to its current token a family cannot be rotated. -/
theorem not_rotates_of_dead {input : RotateRefreshTokenInput}
    (dead : (store.family input.familyId).live now = none) :
    store.rotates now input = false := by
  apply Bool.eq_false_iff.mpr
  intro rotates
  have pointer := (rotates_iff.mp rotates).2
  rw [Slot.get_eq_none_iff.mpr dead] at pointer
  cases pointer

theorem family_revoke (familyId : String) :
    (store.revokeRefreshTokenFamily now familyId).family =
      Function.update store.family familyId .del := by
  unfold revokeRefreshTokenFamily
  split <;> rfl

theorem dead_of_revoke (familyId : String) :
    ((store.revokeRefreshTokenFamily now familyId).family familyId).live now = none := by
  rw [family_revoke, Function.update_self]
  rfl

theorem dead_revoke (revoked : String) {familyId : String}
    (dead : (store.family familyId).live now = none) :
    ((store.revokeRefreshTokenFamily now revoked).family familyId).live now = none := by
  rw [family_revoke]
  by_cases same : familyId = revoked
  · rw [same, Function.update_self]
    rfl
  · rw [Function.update_of_ne same]
    exact dead

/-- Revoking stores no token. -/
theorem token_revoke {familyId id : String} {cell : Cell RefreshTokenRecord}
    (stored : (store.revokeRefreshTokenFamily now familyId).token id = some cell) :
    store.token id = some cell := by
  unfold revokeRefreshTokenFamily at stored
  split at stored
  · exact stored
  · rename_i currentTokenId _
    by_cases same : id = currentTokenId
    · subst same
      simp [Slot.del] at stored
    · simpa [Function.update_of_ne same] using stored

theorem revokedAccess_revoke {familyId : String} :
    (store.revokeRefreshTokenFamily now familyId).revokedAccess = store.revokedAccess := by
  unfold revokeRefreshTokenFamily
  split <;> rfl

theorem index_unindex (tokenId familyId userId : String) :
    store.unindexFamily now tokenId familyId userId = store.index userId ∨
      store.unindexFamily now tokenId familyId userId =
        (store.index userId).srem now familyId := by
  unfold unindexFamily
  cases (store.token tokenId).get now with
  | none => exact .inl rfl
  | some record =>
      by_cases unnamed : record.userId = ""
      · simp only [if_pos unnamed, true_or]
      · simp only [if_neg unnamed]
        by_cases same : userId = record.userId
        · subst same
          exact .inr (Function.update_self _ _ _)
        · exact .inl (Function.update_of_ne same _ _)

/-- Revoking takes at most the family out of an index. -/
theorem index_revoke (familyId userId : String) :
    (store.revokeRefreshTokenFamily now familyId).index userId = store.index userId ∨
      (store.revokeRefreshTokenFamily now familyId).index userId =
        (store.index userId).srem now familyId := by
  unfold revokeRefreshTokenFamily
  split
  · exact .inl rfl
  · exact index_unindex _ _ _

end JwtStore

end BackendFoundation.Auth
