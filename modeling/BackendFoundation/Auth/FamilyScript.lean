/-
The keys that the script of revokeRefreshTokenFamily makes are the keys that the store writes,
under every prefix that does not have the marker in it.

The marker is unbordered, so no occurrence of it can begin inside the prefix and end behind it.
-/

import BackendFoundation.Auth.PhysicalStore

namespace BackendFoundation.Auth

open Redis Lua

theorem unbordered_familyMarker : Unbordered (utf8 familyMarker) := by
  unfold Unbordered
  decide +kernel

theorem utf8_familyMarker : ∃ rest, utf8 familyMarker = (97 : UInt8) :: rest :=
  ⟨_, rfl⟩

section Prefix

variable {builder : RedisKeyBuilder}

/-- The text of the prefix and its bytes have the marker or do not have it together. -/
theorem unmarked_utf8 (unmarked : ¬familyMarker.toList <:+: builder.keyPrefix.toList) :
    ¬utf8 familyMarker <:+: utf8 builder.keyPrefix := by
  obtain ⟨rest, starts⟩ := utf8_familyMarker
  exact fun occurs => unmarked (infix_of_utf8 starts (by decide) occurs)

theorem physicalKey_family (familyId : String) :
    physicalKey builder (getRefreshFamilyKey familyId) =
      utf8 builder.keyPrefix ++ (utf8 familyMarker ++ utf8 familyId) := by
  unfold physicalKey RedisKeyBuilder.toPhysicalKey getRefreshFamilyKey
  rw [utf8_append, utf8_append]
  rfl

theorem scriptPrefix_family (unmarked : ¬familyMarker.toList <:+: builder.keyPrefix.toList)
    (familyId : String) :
    scriptPrefix (physicalKey builder (getRefreshFamilyKey familyId)) =
      some (utf8 builder.keyPrefix) := by
  unfold scriptPrefix
  rw [physicalKey_family, find_append unbordered_familyMarker (unmarked_utf8 unmarked),
    Option.map_some, Nat.add_sub_cancel, sub_append]

theorem scriptTokenKey_eq (tokenId : String) :
    scriptTokenKey (utf8 builder.keyPrefix) tokenId =
      physicalKey builder (getRefreshTokenKey tokenId) := by
  unfold scriptTokenKey physicalKey RedisKeyBuilder.toPhysicalKey getRefreshTokenKey
    getRefreshTokenPrefix
  rw [utf8_append, utf8_append, List.append_assoc]

theorem scriptIndexKey_eq (userId : String) :
    scriptIndexKey (utf8 builder.keyPrefix) userId =
      physicalKey builder (getUserFamilyIndexKey userId) := by
  unfold scriptIndexKey physicalKey RedisKeyBuilder.toPhysicalKey getUserFamilyIndexKey
  rw [utf8_append, utf8_append, List.append_assoc]

/-- So the call works on the very keys that saving and rotating have written. -/
theorem revokeRefreshTokenFamily_eq
    (unmarked : ¬familyMarker.toList <:+: builder.keyPrefix.toList)
    (userIdOf : String → Option String) (now : Nat) (keys : PhysicalKeys) (familyId : String) :
    revokeRefreshTokenFamily builder userIdOf now keys familyId =
      revokeAt userIdOf now keys (physicalKey builder (getRefreshFamilyKey familyId))
        (fun tokenId => physicalKey builder (getRefreshTokenKey tokenId))
        (fun userId => physicalKey builder (getUserFamilyIndexKey userId)) familyId := by
  have tokenKeys : scriptTokenKey (utf8 builder.keyPrefix) =
      fun tokenId => physicalKey builder (getRefreshTokenKey tokenId) :=
    funext scriptTokenKey_eq
  have indexKeys : scriptIndexKey (utf8 builder.keyPrefix) =
      fun userId => physicalKey builder (getUserFamilyIndexKey userId) :=
    funext scriptIndexKey_eq
  unfold revokeRefreshTokenFamily revokeScript
  rw [scriptPrefix_family unmarked, ← tokenKeys, ← indexKeys]

end Prefix

/-- The two ways to the keys of a family agree. -/
structure FamilyKeysAgree (builder : RedisKeyBuilder) : Prop where
  cut : ∀ familyId, scriptPrefix (physicalKey builder (getRefreshFamilyKey familyId)) =
    some (utf8 builder.keyPrefix)
  tokenKey : ∀ tokenId, scriptTokenKey (utf8 builder.keyPrefix) tokenId =
    physicalKey builder (getRefreshTokenKey tokenId)
  indexKey : ∀ userId, scriptIndexKey (utf8 builder.keyPrefix) userId =
    physicalKey builder (getUserFamilyIndexKey userId)
  revokes : ∀ userIdOf now keys familyId,
    revokeRefreshTokenFamily builder userIdOf now keys familyId =
      revokeAt userIdOf now keys (physicalKey builder (getRefreshFamilyKey familyId))
        (fun tokenId => physicalKey builder (getRefreshTokenKey tokenId))
        (fun userId => physicalKey builder (getUserFamilyIndexKey userId)) familyId
  /-- No occurrence of the marker begins inside the prefix. -/
  noStraddle : ∀ familyId start,
    OccursAt (utf8 familyMarker) (physicalKey builder (getRefreshFamilyKey familyId)) start →
      (utf8 builder.keyPrefix).length ≤ start

theorem family_keys_agree (builder : RedisKeyBuilder)
    (unmarked : ¬familyMarker.toList <:+: builder.keyPrefix.toList) :
    FamilyKeysAgree builder := by
  constructor
  · exact scriptPrefix_family unmarked
  · exact scriptTokenKey_eq
  · exact scriptIndexKey_eq
  · exact revokeRefreshTokenFamily_eq unmarked
  · intro familyId start occurs
    rw [physicalKey_family] at occurs
    apply Nat.le_of_not_lt
    intro inside
    exact unmarked_utf8 unmarked (infix_of_occursAt unbordered_familyMarker inside occurs)

theorem family_keys_agree_app : FamilyKeysAgree (.ofKeyPrefix (some "app")) :=
  family_keys_agree (.ofKeyPrefix (some "app")) (by decide +kernel)

end BackendFoundation.Auth
