/-
The scripts on the keys of Redis do what the token store under ids does. So the store may be
looked at by ids, and what is shown of it there holds of the keys.
-/

import BackendFoundation.Auth.FamilyScript
import BackendFoundation.Json.StringLiteral

namespace BackendFoundation.Auth

open Redis

section Names

theorem append_ne {first second : String} {position : Nat} {left right : Char}
    (atFirst : first.toList[position]? = some left)
    (atSecond : second.toList[position]? = some right) (different : left ≠ right)
    (rest other : String) : first ++ rest ≠ second ++ other := by
  intro same
  have letters := congrArg (fun text => text.toList[position]?) same
  have insideFirst := (List.getElem?_eq_some_iff.mp atFirst).1
  have insideSecond := (List.getElem?_eq_some_iff.mp atSecond).1
  simp only [String.toList_append] at letters
  rw [List.getElem?_append_left insideFirst, List.getElem?_append_left insideSecond, atFirst,
    atSecond] at letters
  exact different (Option.some.inj letters)

theorem token_ne_family (tokenId familyId : String) :
    getRefreshTokenKey tokenId ≠ getRefreshFamilyKey familyId :=
  @append_ne _ _ 13 't' 'f' (by decide) (by decide) (by decide) tokenId familyId

theorem token_ne_index (tokenId userId : String) :
    getRefreshTokenKey tokenId ≠ getUserFamilyIndexKey userId :=
  @append_ne _ _ 13 't' 'f' (by decide) (by decide) (by decide) tokenId userId

theorem family_ne_index (familyId userId : String) :
    getRefreshFamilyKey familyId ≠ getUserFamilyIndexKey userId :=
  @append_ne _ _ 18 'y' 'i' (by decide) (by decide) (by decide) familyId userId

theorem physicalKey_injective {builder : RedisKeyBuilder} {first second : String}
    (same : physicalKey builder first = physicalKey builder second) : first = second :=
  RedisKeyBuilder.toPhysicalKey_injective (utf8_injective same)

theorem getRefreshTokenKey_injective {first second : String}
    (same : getRefreshTokenKey first = getRefreshTokenKey second) : first = second :=
  (String.append_right_inj _).mp same

theorem getRefreshFamilyKey_injective {first second : String}
    (same : getRefreshFamilyKey first = getRefreshFamilyKey second) : first = second :=
  (String.append_right_inj _).mp same

theorem getUserFamilyIndexKey_injective {first second : String}
    (same : getUserFamilyIndexKey first = getUserFamilyIndexKey second) : first = second :=
  (String.append_right_inj _).mp same

end Names

/-- How a record is written, and how a script that decodes it finds the userId. -/
structure RecordCodec where
  stringify : RefreshTokenRecord → String
  userId : String → Option String
  userId_stringify : ∀ record, userId (stringify record) = some record.userId

section Json

def userIdMember : List Char := "\x7b\"userId\":".toList

def familyIdMember : List Char := ",\"familyId\":".toList

def stringifyRecord (record : RefreshTokenRecord) : String :=
  String.ofList (userIdMember ++ (Json.quote record.userId.toList ++
    (familyIdMember ++ (Json.quote record.familyId.toList ++ "\x7d".toList))))

/-- The userId of a text that stringifyRecord writes. -/
def decodeUserId (text : String) : Option String :=
  if userIdMember ++ [Json.quotation] <+: text.toList then
    (Json.readString .plain (text.toList.drop (userIdMember.length + 1))).map fun read =>
      String.ofList read.1
  else none

theorem decodeUserId_stringifyRecord (record : RefreshTokenRecord) :
    decodeUserId (stringifyRecord record) = some record.userId := by
  have text (rest : List Char) : userIdMember ++ (Json.quote record.userId.toList ++ rest) =
      (userIdMember ++ [Json.quotation]) ++
        (record.userId.toList.flatMap Json.escape ++ Json.quotation :: rest) := by
    simp only [Json.quote, List.append_assoc, List.cons_append, List.nil_append]
  have behind (rest : List Char) :
      ((userIdMember ++ [Json.quotation]) ++ rest).drop (userIdMember.length + 1) = rest :=
    List.drop_left' (by rw [List.length_append, List.length_singleton])
  unfold decodeUserId stringifyRecord
  rw [String.toList_ofList, text, if_pos (List.prefix_append _ _), behind,
    Json.readString_quoted, Option.map_some, String.ofList_toList]

instance : Inhabited RecordCodec where
  default :=
    { stringify := stringifyRecord
      userId := decodeUserId
      userId_stringify := decodeUserId_stringifyRecord }

end Json

/-- The keys of the store under ids, as Redis holds them. -/
structure Represents (builder : RedisKeyBuilder) (codec : RecordCodec) (keys : PhysicalKeys)
    (store : JwtStore) : Prop where
  token : keys.Holds (fun tokenId => physicalKey builder (getRefreshTokenKey tokenId))
    (fun record => .text (codec.stringify record)) store.token
  family : keys.Holds (fun familyId => physicalKey builder (getRefreshFamilyKey familyId))
    (fun tokenId => .text tokenId) store.family
  index : keys.Holds (fun userId => physicalKey builder (getUserFamilyIndexKey userId)) .set
    store.index

namespace Represents

variable {builder : RedisKeyBuilder} {codec : RecordCodec} {keys : PhysicalKeys}
  {store : JwtStore}

theorem setToken (represents : Represents builder codec keys store) (tokenId : String)
    (slot : Slot RefreshTokenRecord) :
    Represents builder codec
      (Function.update keys (physicalKey builder (getRefreshTokenKey tokenId))
        (slot.storedAs fun record => .text (codec.stringify record)))
      { store with token := Function.update store.token tokenId slot } where
  token := represents.token.update
    (fun _ _ same => getRefreshTokenKey_injective (physicalKey_injective same)) tokenId slot
  family := represents.family.update_other
    (fun familyId same => token_ne_family tokenId familyId (physicalKey_injective same).symm) _
  index := represents.index.update_other
    (fun userId same => token_ne_index tokenId userId (physicalKey_injective same).symm) _

theorem setFamily (represents : Represents builder codec keys store) (familyId : String)
    (slot : Slot String) :
    Represents builder codec
      (Function.update keys (physicalKey builder (getRefreshFamilyKey familyId))
        (slot.storedAs fun tokenId => .text tokenId))
      { store with family := Function.update store.family familyId slot } where
  token := represents.token.update_other
    (fun tokenId same => token_ne_family tokenId familyId (physicalKey_injective same)) _
  family := represents.family.update
    (fun _ _ same => getRefreshFamilyKey_injective (physicalKey_injective same)) familyId slot
  index := represents.index.update_other
    (fun userId same => family_ne_index familyId userId (physicalKey_injective same).symm) _

theorem setIndex (represents : Represents builder codec keys store) (userId : String)
    (slot : Slot (List String)) :
    Represents builder codec
      (Function.update keys (physicalKey builder (getUserFamilyIndexKey userId))
        (slot.storedAs .set))
      { store with index := Function.update store.index userId slot } where
  token := represents.token.update_other
    (fun tokenId same => token_ne_index tokenId userId (physicalKey_injective same)) _
  family := represents.family.update_other
    (fun familyId same => family_ne_index familyId userId (physicalKey_injective same)) _
  index := represents.index.update
    (fun _ _ same => getUserFamilyIndexKey_injective (physicalKey_injective same)) userId slot

theorem delToken (represents : Represents builder codec keys store) (tokenId : String) :
    Represents builder codec (keys.del (physicalKey builder (getRefreshTokenKey tokenId)))
      { store with token := Function.update store.token tokenId .del } :=
  represents.setToken tokenId .del

theorem delFamily (represents : Represents builder codec keys store) (familyId : String) :
    Represents builder codec (keys.del (physicalKey builder (getRefreshFamilyKey familyId)))
      { store with family := Function.update store.family familyId .del } :=
  represents.setFamily familyId .del

variable {now : Nat}

theorem get_family (represents : Represents builder codec keys store) (familyId : String) :
    keys.get now (physicalKey builder (getRefreshFamilyKey familyId)) =
      .ok (Slot.get now (store.family familyId)) := by
  rw [represents.family.get familyId, Option.map_id']

theorem get_token (represents : Represents builder codec keys store) (tokenId : String) :
    keys.get now (physicalKey builder (getRefreshTokenKey tokenId)) =
      .ok ((Slot.get now (store.token tokenId)).map codec.stringify) :=
  represents.token.get tokenId

/-- How saving and rotating end. -/
theorem indexed (represents : Represents builder codec keys store) (userId familyId : String)
    (ttlSeconds : Nat) :
    ∃ following, indexFamilyAt now keys (physicalKey builder (getUserFamilyIndexKey userId))
        familyId ttlSeconds = (following, .ok 1) ∧
      Represents builder codec following
        { store with
          index := Function.update store.index userId
            (indexFamily now (store.index userId) familyId ttlSeconds) } := by
  have added := @PhysicalKeys.Holds.changeSet now _ _ _ represents.index userId
    fun slot => slot.sadd now familyId
  have result := represents.setIndex userId
    (indexFamily now (store.index userId) familyId ttlSeconds)
  refine ⟨_, ?_, result⟩
  unfold indexFamilyAt PhysicalKeys.sadd
  rw [added]
  simp only [refreshIndexTtlAt, Function.update_self, Function.update_idem,
    Slot.ttl_storedAs, Slot.expire_storedAs]
  rfl

theorem save (represents : Represents builder codec keys store) (input : SaveRefreshTokenInput) :
    ∃ following, saveRefreshToken builder codec.stringify now keys input = (following, .ok 1) ∧
      Represents builder codec following (store.saveRefreshToken now input) := by
  have stored := represents.setToken input.tokenId (.setEx now input.record input.ttlSeconds)
  have pointed := stored.setFamily input.familyId (.setEx now input.tokenId input.ttlSeconds)
  exact pointed.indexed input.record.userId input.familyId input.ttlSeconds

theorem rotate (represents : Represents builder codec keys store)
    (input : RotateRefreshTokenInput) :
    ∃ following, rotateRefreshToken builder codec.stringify now keys input =
        (following, .ok (if store.rotates now input then 1 else 0)) ∧
      Represents builder codec following (store.rotateRefreshToken now input).1 := by
  unfold rotateRefreshToken rotateScript JwtStore.rotateRefreshToken JwtStore.rotates
  rw [represents.get_token, represents.get_family]
  cases (store.token input.currentTokenId).get now with
  | none => exact ⟨keys, rfl, represents⟩
  | some record =>
      cases (store.family input.familyId).get now with
      | none => exact ⟨keys, rfl, represents⟩
      | some activeFamilyTokenId =>
          by_cases active : activeFamilyTokenId = input.currentTokenId
          · have spent := represents.delToken input.currentTokenId
            have stored := spent.setToken input.nextTokenId
              (.setEx now input.nextRecord input.ttlSeconds)
            have pointed := stored.setFamily input.familyId
              (.setEx now input.nextTokenId input.ttlSeconds)
            obtain ⟨following, indexed, result⟩ := @indexed _ _ _ _ now pointed
              input.nextRecord.userId input.familyId input.ttlSeconds
            refine ⟨following, ?_, ?_⟩
            · simp only [Option.map_some, active, ne_eq, not_true_eq_false, if_false,
                Option.isSome_some, beq_self_eq_true, Bool.and_self, if_true]
              exact indexed
            · simp only [active, Option.isSome_some, beq_self_eq_true, Bool.and_self, if_true]
              exact result
          · have refused : (some activeFamilyTokenId == some input.currentTokenId) = false :=
              beq_eq_false_iff_ne.mpr fun same => active (Option.some.inj same)
            refine ⟨keys, ?_, ?_⟩
            · simp only [Option.map_some, ne_eq, active, not_false_eq_true, if_true, refused,
                Bool.and_false, Bool.false_eq_true, if_false]
            · simp only [refused, Bool.and_false, Bool.false_eq_true, if_false]
              exact represents

/-- The revocation, where the script has to make the keys itself. -/
theorem revoke (represents : Represents builder codec keys store)
    (unmarked : ¬familyMarker.toList <:+: builder.keyPrefix.toList) (familyId : String) :
    ∃ following, revokeRefreshTokenFamily builder codec.userId now keys familyId =
        (following, .ok 1) ∧
      Represents builder codec following (store.revokeRefreshTokenFamily now familyId) := by
  rw [revokeRefreshTokenFamily_eq unmarked]
  unfold revokeAt JwtStore.revokeRefreshTokenFamily JwtStore.unindexFamily
  rw [represents.get_family]
  cases (store.family familyId).get now with
  | none => exact ⟨_, rfl, represents.delFamily familyId⟩
  | some currentTokenId =>
      have spent := represents.delToken currentTokenId
      simp only [represents.get_token]
      cases (store.token currentTokenId).get now with
      | none => exact ⟨_, rfl, spent.delFamily familyId⟩
      | some record =>
          simp only [Option.map_some, Option.bind_some, codec.userId_stringify]
          by_cases unnamed : record.userId = ""
          · simp only [if_pos unnamed]
            exact ⟨_, rfl, spent.delFamily familyId⟩
          · have removed := @PhysicalKeys.Holds.changeSet now _ _ _ spent.index record.userId
              fun slot => slot.srem now familyId
            have unindexed := spent.setIndex record.userId
              ((store.index record.userId).srem now familyId)
            simp only [if_neg unnamed]
            refine ⟨_, ?_, unindexed.delFamily familyId⟩
            unfold PhysicalKeys.srem
            rw [removed]

end Represents

end BackendFoundation.Auth
