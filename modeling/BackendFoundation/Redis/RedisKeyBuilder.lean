/-
The key builder: the text that stands in front of every key of an application, and the way
from the logical keys of its code to the physical keys of Redis and back.
-/

import BackendFoundation.Users.User
import Mathlib.Data.List.TakeWhile

namespace BackendFoundation.Redis

open Users (trim isSpace)

/-- REDIS_KEY_PREFIX as envSchema reads it. -/
def redisKeyPrefix (env : Option String) : String :=
  env.getD "app"

def normalizePrefix (keyPrefix : Option String) : String :=
  let trimmed := trim (keyPrefix.getD "")
  if trimmed = "" then ""
  else if trimmed.toList.getLast? = some ':' then trimmed
  else trimmed ++ ":"

structure RedisKeyBuilder where
  keyPrefix : String
  normal : keyPrefix = "" ∨ keyPrefix.toList.getLast? = some ':'

theorem normalizePrefix_normal (keyPrefix : Option String) :
    normalizePrefix keyPrefix = "" ∨
      (normalizePrefix keyPrefix).toList.getLast? = some ':' := by
  unfold normalizePrefix
  dsimp only
  split
  · exact .inl rfl
  · split
    · rename_i closed
      exact .inr closed
    · right
      rw [String.toList_append]
      exact List.getLast?_concat

namespace RedisKeyBuilder

/-- The constructor. -/
def ofKeyPrefix (keyPrefix : Option String) : RedisKeyBuilder :=
  { keyPrefix := normalizePrefix keyPrefix
    normal := normalizePrefix_normal keyPrefix }

def toPhysicalKey (builder : RedisKeyBuilder) (logicalKey : String) : String :=
  builder.keyPrefix ++ logicalKey

def toPhysicalPattern (builder : RedisKeyBuilder) (logicalPattern : String) : String :=
  builder.keyPrefix ++ logicalPattern

def toLogicalKey (builder : RedisKeyBuilder) (physicalKey : String) : String :=
  if builder.keyPrefix = "" then physicalKey
  else if builder.keyPrefix.toList.isPrefixOf physicalKey.toList then
    String.ofList (physicalKey.toList.drop builder.keyPrefix.toList.length)
  else physicalKey

@[simp] theorem keyPrefix_ofKeyPrefix (keyPrefix : Option String) :
    (ofKeyPrefix keyPrefix).keyPrefix = normalizePrefix keyPrefix := rfl

theorem toLogicalKey_toPhysicalKey (builder : RedisKeyBuilder) (logicalKey : String) :
    builder.toLogicalKey (builder.toPhysicalKey logicalKey) = logicalKey := by
  unfold toLogicalKey toPhysicalKey
  split
  · rename_i unnamed
    rw [unnamed, String.empty_append]
  · have within : builder.keyPrefix.toList.isPrefixOf (builder.keyPrefix ++ logicalKey).toList =
        true := by
      rw [String.toList_append, List.isPrefixOf_iff_prefix]
      exact List.prefix_append _ _
    rw [if_pos within, String.toList_append, List.drop_left, String.ofList_toList]

/-- A key of another namespace is taken as it is. -/
theorem toLogicalKey_outside {builder : RedisKeyBuilder} {physicalKey : String}
    (outside : ¬builder.keyPrefix.toList <+: physicalKey.toList) :
    builder.toLogicalKey physicalKey = physicalKey := by
  unfold toLogicalKey
  split
  · rfl
  · rw [if_neg (List.isPrefixOf_iff_prefix.not.mpr outside)]

/-- One builder does not take two keys to one. -/
theorem toPhysicalKey_injective {builder : RedisKeyBuilder} {first second : String}
    (same : builder.toPhysicalKey first = builder.toPhysicalKey second) : first = second := by
  rw [← builder.toLogicalKey_toPhysicalKey first, same, toLogicalKey_toPhysicalKey]

end RedisKeyBuilder

section Normalization

theorem mem_dropWhile {Item : Type} {drop : Item → Bool} {item : Item}
    (stays : drop item = false) (items : List Item) :
    item ∈ items.dropWhile drop ↔ item ∈ items := by
  constructor
  · exact fun member => (List.dropWhile_sublist drop).subset member
  · intro member
    rw [← @List.takeWhile_append_dropWhile _ drop items, List.mem_append] at member
    rcases member with dropped | kept
    · have impossible := List.mem_takeWhile_imp dropped
      rw [stays] at impossible
      cases impossible
    · exact kept

theorem mem_trim {character : Char} (visible : isSpace character = false) (value : String) :
    character ∈ (trim value).toList ↔ character ∈ value.toList := by
  unfold trim
  rw [String.toList_ofList, List.mem_reverse, mem_dropWhile visible, List.mem_reverse,
    mem_dropWhile visible]

theorem mem_normalizePrefix {character : Char} (visible : isSpace character = false)
    (other : character ≠ ':') (keyPrefix : String) :
    character ∈ (normalizePrefix (some keyPrefix)).toList ↔ character ∈ keyPrefix.toList := by
  rw [← mem_trim visible keyPrefix]
  unfold normalizePrefix
  simp only [Option.getD_some]
  split
  · rename_i empty
    rw [empty]
  · split
    · rfl
    · rw [String.toList_append, List.mem_append]
      constructor
      · intro member
        rcases member with inside | colon
        · exact inside
        · exact absurd (List.mem_singleton.mp colon) other
      · exact .inl

end Normalization

end BackendFoundation.Redis
