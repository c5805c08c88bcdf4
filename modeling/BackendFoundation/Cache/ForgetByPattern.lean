/-
RedisCacheGateway.forgetByPattern: it removes every key under the prefix that matches, and no
other key, exactly when the prefix has no character of a glob pattern.

The prefix and the pattern are joined before Redis reads them, so a prefix with such a
character is itself a pattern, and the keys that match no longer all begin with it.
-/

import BackendFoundation.Redis.Glob
import BackendFoundation.Redis.RedisKeyBuilder
import BackendFoundation.Redis.ScanUnlink

namespace BackendFoundation.Cache

open Redis Transition

/-- The batches of scanKeys carry logical keys, which unlink makes physical again. -/
def forgetByPattern (builder : RedisKeyBuilder) (pattern : String) :
    System (ScanState String String) (ScanAction String) :=
  scanUnlink (stringmatch (builder.toPhysicalPattern pattern)) builder.toLogicalKey
    builder.toPhysicalKey

/-- The keys of other clients come and go; these were there throughout the call. -/
def Complete (builder : RedisKeyBuilder) (pattern : String)
    (state : ScanState String String) : Prop :=
  ∀ key, stringmatch pattern key = true → builder.keyPrefix ++ key ∈ state.stable →
    builder.keyPrefix ++ key ∈ state.removed

def Confined (builder : RedisKeyBuilder) (pattern : String)
    (state : ScanState String String) : Prop :=
  ∀ name ∈ state.removed, ∃ key, name = builder.keyPrefix ++ key ∧
    stringmatch pattern key = true

def Forgets (builder : RedisKeyBuilder) : Prop :=
  ∀ pattern state, (forgetByPattern builder pattern).Reachable anyAction state →
    state.phase = .returned → Complete builder pattern state ∧ Confined builder pattern state

def globCharacters : List Char := ['*', '?', '[', '\\']

section PlainPrefix

theorem char_of_special {byte : UInt8} (taken : byte ∈ special) :
    byte.toNat < 128 ∧ Char.ofNat byte.toNat ∈ globCharacters := by
  simp only [special, List.mem_cons, List.not_mem_nil, or_false] at taken
  rcases taken with rfl | rfl | rfl | rfl
  · decide
  · decide
  · decide
  · decide

variable {builder : RedisKeyBuilder}

theorem utf8_plain (plain : ∀ character ∈ globCharacters, character ∉ builder.keyPrefix.toList) :
    ∀ byte ∈ utf8 builder.keyPrefix, byte ∉ special := by
  intro byte member taken
  obtain ⟨ascii, glob⟩ := char_of_special taken
  exact plain _ glob (mem_of_mem_utf8 member ascii)

/-- Behind a plain prefix Redis matches what the caller has asked for. -/
theorem stringmatch_toPhysicalPattern
    (plain : ∀ character ∈ globCharacters, character ∉ builder.keyPrefix.toList)
    {pattern name : String} :
    stringmatch (builder.toPhysicalPattern pattern) name = true ↔
      ∃ key, name = builder.toPhysicalKey key ∧ stringmatch pattern key = true := by
  unfold stringmatch RedisKeyBuilder.toPhysicalPattern RedisKeyBuilder.toPhysicalKey
  rw [utf8_append, matchTokens_plain (utf8_plain plain)]
  constructor
  · intro found
    obtain ⟨rest, whole, matched⟩ := found
    obtain ⟨key, rfl, rfl⟩ := append_of_utf8 whole
    exact ⟨key, rfl, matched⟩
  · intro found
    obtain ⟨key, rfl, matched⟩ := found
    exact ⟨utf8 key, utf8_append _ _, matched⟩

theorem toPhysicalKey_toLogicalKey
    (plain : ∀ character ∈ globCharacters, character ∉ builder.keyPrefix.toList)
    {pattern : String} (name : String)
    (matched : stringmatch (builder.toPhysicalPattern pattern) name = true) :
    builder.toPhysicalKey (builder.toLogicalKey name) = name := by
  obtain ⟨key, rfl, _⟩ := (stringmatch_toPhysicalPattern plain).mp matched
  rw [RedisKeyBuilder.toLogicalKey_toPhysicalKey]

theorem complete_of_plain
    (plain : ∀ character ∈ globCharacters, character ∉ builder.keyPrefix.toList)
    {pattern : String} {state : ScanState String String}
    (reached : (forgetByPattern builder pattern).Reachable anyAction state)
    (returned : state.phase = .returned) : Complete builder pattern state := by
  intro key matched stable
  exact scanUnlink_complete (toPhysicalKey_toLogicalKey plain) reached returned stable
    ((stringmatch_toPhysicalPattern plain).mpr ⟨key, rfl, matched⟩)

/-- Also a call that is under way or fails removes nothing else. -/
theorem confined_of_plain
    (plain : ∀ character ∈ globCharacters, character ∉ builder.keyPrefix.toList)
    {pattern : String} {state : ScanState String String}
    (reached : (forgetByPattern builder pattern).Reachable anyAction state) :
    Confined builder pattern state := by
  intro name removed
  obtain ⟨found, matched, rfl⟩ := scanUnlink_removed reached name removed
  obtain ⟨key, rfl, inPattern⟩ := (stringmatch_toPhysicalPattern plain).mp matched
  rw [RedisKeyBuilder.toLogicalKey_toPhysicalKey]
  exact ⟨key, rfl, inPattern⟩

end PlainPrefix

section Exactness

variable {builder : RedisKeyBuilder}

/-- What a call must do on a quiet keyspace of one page. -/
theorem onePage_of_forgets (forgets : Forgets builder) (pattern : String) (keys : List String) :
    (∀ key, stringmatch pattern key = true → builder.keyPrefix ++ key ∈ keys →
      ∃ found ∈ keys, stringmatch (builder.toPhysicalPattern pattern) found = true) ∧
    ∀ found ∈ keys, stringmatch (builder.toPhysicalPattern pattern) found = true →
      builder.toPhysicalKey (builder.toLogicalKey found) ∈ keys →
      ∃ key, builder.toPhysicalKey (builder.toLogicalKey found) = builder.keyPrefix ++ key ∧
        stringmatch pattern key = true := by
  obtain ⟨state, reached, returned, stable, removed⟩ := scanUnlink_onePage
    (stringmatch (builder.toPhysicalPattern pattern)) builder.toLogicalKey
    builder.toPhysicalKey keys
  obtain ⟨complete, confined⟩ := forgets pattern state reached returned
  constructor
  · intro key matched present
    have gone := complete key matched (stable ▸ present)
    rw [removed] at gone
    have named := of_decide_eq_true (List.mem_filter.mp gone).2
    obtain ⟨logical, inBatch, _⟩ := List.mem_map.mp named
    obtain ⟨found, onPage, _⟩ := List.mem_map.mp inBatch
    obtain ⟨inKeys, foundMatches⟩ := List.mem_filter.mp onPage
    exact ⟨found, inKeys, foundMatches⟩
  · intro found inKeys foundMatches present
    have onPage := List.mem_filter.mpr ⟨inKeys, foundMatches⟩
    have named : builder.toPhysicalKey (builder.toLogicalKey found) ∈
        ((keys.filter (stringmatch (builder.toPhysicalPattern pattern))).map
          builder.toLogicalKey).map builder.toPhysicalKey :=
      List.mem_map_of_mem (List.mem_map_of_mem onPage)
    have gone : builder.toPhysicalKey (builder.toLogicalKey found) ∈ state.removed := by
      rw [removed]
      exact List.mem_filter.mpr ⟨present, decide_eq_true named⟩
    exact confined _ gone

theorem utf8_x : utf8 "x" = [120] :=
  rfl

theorem stringmatch_x {key : String} : stringmatch "x" key = true ↔ key = "x" := by
  have plain : ∀ byte ∈ utf8 "x", byte ∉ special := by
    intro byte member
    rw [utf8_x, List.mem_singleton] at member
    rw [member]
    decide
  have read := @matchTokens_plain (utf8 "x") plain [] (utf8 key)
  rw [List.append_nil] at read
  unfold stringmatch
  rw [read]
  constructor
  · intro found
    obtain ⟨rest, whole, empty⟩ := found
    cases rest with
    | nil => exact utf8_injective (whole.trans (List.append_nil _))
    | cons byte rest => cases empty
  · intro same
    exact ⟨[], by rw [same, List.append_nil], rfl⟩

/-- The key that the pattern x is about. -/
theorem stringmatch_own_of_forgets (forgets : Forgets builder) :
    stringmatch (builder.toPhysicalPattern "x") (builder.keyPrefix ++ "x") = true := by
  obtain ⟨found, same, matched⟩ := (onePage_of_forgets forgets "x" [builder.keyPrefix ++ "x"]).1 "x"
    (stringmatch_x.mpr rfl) List.mem_cons_self
  rw [List.mem_singleton.mp same] at matched
  exact matched

theorem no_star_of_forgets (forgets : Forgets builder) :
    Token.star ∉ tokens (utf8 (builder.toPhysicalPattern "x")) := by
  intro stretches
  have own := stringmatch_own_of_forgets forgets
  have wide : stringmatch (builder.toPhysicalPattern "x")
      (builder.toPhysicalKey ("x" ++ "z" ++ (builder.keyPrefix ++ "x"))) = true := by
    have repeated := matchTokens_repeat stretches own (utf8 "z")
    simp only [stringmatch, RedisKeyBuilder.toPhysicalKey, utf8_append, List.append_assoc]
      at repeated ⊢
    exact repeated
  obtain ⟨key, same, matched⟩ := (onePage_of_forgets forgets "x" [_]).2 _ List.mem_cons_self wide
    (by rw [RedisKeyBuilder.toLogicalKey_toPhysicalKey]; exact List.mem_cons_self)
  rw [RedisKeyBuilder.toLogicalKey_toPhysicalKey] at same
  have behind := RedisKeyBuilder.toPhysicalKey_injective same
  rw [stringmatch_x.mp matched] at behind
  have long := congrArg String.length behind
  have letter : "z".length = 1 := rfl
  simp only [String.length_append] at long
  omega

theorem anyByte_of_forgets (forgets : Forgets builder) :
    ∀ byte ∈ utf8 builder.keyPrefix, byte = 63 ∨ byte ∉ special := by
  intro byte member
  obtain ⟨front, back, split⟩ := List.append_of_mem member
  have whole : utf8 (builder.toPhysicalPattern "x") = front ++ byte :: (back ++ utf8 "x") := by
    unfold RedisKeyBuilder.toPhysicalPattern
    rw [utf8_append, split, List.append_assoc, List.cons_append]
  have closed : back ++ utf8 "x" ≠ [] := by
    rw [utf8_x]
    exact List.append_ne_nil_of_right_ne_nil back (List.cons_ne_nil 120 [])
  have single := no_star_of_forgets forgets
  have own : matchTokens (tokens (utf8 (builder.toPhysicalPattern "x")))
      (utf8 (builder.toPhysicalPattern "x")) = true := stringmatch_own_of_forgets forgets
  rw [whole] at single own
  exact anyByte_of_mem closed single own

/-- Another letter in place of the question mark. -/
theorem stringmatch_other_of_forgets {front back : String}
    (parts : builder.keyPrefix = front ++ "?" ++ back) (forgets : Forgets builder) :
    stringmatch (builder.toPhysicalPattern "x") (front ++ "y" ++ back ++ "x") = true := by
  have mark : utf8 "?" = [63] := rfl
  have letter : utf8 "y" = [121] := rfl
  have single : ∀ byte ∈ utf8 front, byte = 63 ∨ byte ∉ special := by
    intro byte inFront
    apply anyByte_of_forgets forgets byte
    rw [parts, utf8_append, utf8_append]
    exact List.mem_append_left _ (List.mem_append_left _ inFront)
  have own := stringmatch_own_of_forgets forgets
  unfold stringmatch RedisKeyBuilder.toPhysicalPattern at own ⊢
  simp only [parts, utf8_append, mark, letter, List.append_assoc, List.cons_append,
    List.nil_append, matchTokens_anyByte single] at own ⊢
  exact own

theorem other_outside {front back : String}
    (parts : builder.keyPrefix = front ++ "?" ++ back) :
    ¬builder.keyPrefix.toList <+: (front ++ "y" ++ back ++ "x").toList := by
  have marked : builder.keyPrefix.toList = front.toList ++ '?' :: back.toList := by
    simp only [parts, String.toList_append, List.append_assoc]
    rfl
  have spelled : (front ++ "y" ++ back ++ "x").toList =
      front.toList ++ 'y' :: (back.toList ++ ['x']) := by
    simp only [String.toList_append, List.append_assoc]
    rfl
  rw [marked, spelled, List.prefix_append_right_inj, List.cons_prefix_cons]
  intro within
  exact absurd within.1 (by decide)

/-- A key outside of the prefix would match, and UNLINK would go to a key that has the whole
of its name behind the prefix. -/
theorem false_of_forgets {front back : String}
    (parts : builder.keyPrefix = front ++ "?" ++ back) (forgets : Forgets builder) : False := by
  have logical := RedisKeyBuilder.toLogicalKey_outside (other_outside parts)
  obtain ⟨key, same, inPattern⟩ := (onePage_of_forgets forgets "x"
    [_, builder.toPhysicalKey (front ++ "y" ++ back ++ "x")]).2 _ List.mem_cons_self
    (stringmatch_other_of_forgets parts forgets)
    (by rw [logical]; exact List.mem_cons_of_mem _ List.mem_cons_self)
  rw [logical] at same
  have behind := RedisKeyBuilder.toPhysicalKey_injective same
  rw [stringmatch_x.mp inPattern] at behind
  have long := congrArg String.length behind
  have letter : "y".length = 1 := rfl
  simp only [String.length_append] at long
  omega

theorem special_of_char {character : Char} (glob : character ∈ globCharacters) :
    ∃ byte ∈ special, byte ∈ String.utf8EncodeChar character ∧ (byte = 63 → character = '?') := by
  simp only [globCharacters, List.mem_cons, List.not_mem_nil, or_false] at glob
  rcases glob with rfl | rfl | rfl | rfl
  · exact ⟨42, by decide, by decide, by decide⟩
  · exact ⟨63, by decide, by decide, fun _ => rfl⟩
  · exact ⟨91, by decide, by decide, by decide⟩
  · exact ⟨92, by decide, by decide, by decide⟩

theorem plain_of_forgets (forgets : Forgets builder) :
    ∀ character ∈ globCharacters, character ∉ builder.keyPrefix.toList := by
  intro character glob member
  obtain ⟨byte, taken, encoded, mark⟩ := special_of_char glob
  have inside : byte ∈ utf8 builder.keyPrefix := List.mem_flatMap.mpr ⟨character, member, encoded⟩
  rcases anyByte_of_forgets forgets byte inside with same | plain
  · rw [mark same] at member
    obtain ⟨front, back, split⟩ := List.append_of_mem member
    have parts : builder.keyPrefix = String.ofList front ++ "?" ++ String.ofList back := by
      apply String.toList_injective
      rw [split]
      simp only [String.toList_append, String.toList_ofList, List.append_assoc]
      rfl
    exact false_of_forgets parts forgets
  · exact plain taken

end Exactness

theorem visible_of_glob {character : Char} (glob : character ∈ globCharacters) :
    Users.isSpace character = false ∧ character ≠ ':' := by
  simp only [globCharacters, List.mem_cons, List.not_mem_nil, or_false] at glob
  rcases glob with rfl | rfl | rfl | rfl
  · decide
  · decide
  · decide
  · decide

/-- The deployments whose pattern invalidation is complete and stays in its namespace: those
whose REDIS_KEY_PREFIX is not itself a pattern. -/
theorem forgetByPattern_iff (env : Option String) :
    Forgets (.ofKeyPrefix (some (redisKeyPrefix env))) ↔
      ∀ character ∈ globCharacters, character ∉ (redisKeyPrefix env).toList := by
  have kept : ∀ character ∈ globCharacters,
      (character ∈ (RedisKeyBuilder.ofKeyPrefix (some (redisKeyPrefix env))).keyPrefix.toList ↔
        character ∈ (redisKeyPrefix env).toList) := by
    intro character glob
    obtain ⟨visible, other⟩ := visible_of_glob glob
    rw [RedisKeyBuilder.keyPrefix_ofKeyPrefix]
    exact mem_normalizePrefix visible other _
  constructor
  · intro forgets character glob member
    exact plain_of_forgets forgets character glob ((kept character glob).mpr member)
  · intro plain pattern state reached returned
    have plainPrefix : ∀ character ∈ globCharacters, character ∉
        (RedisKeyBuilder.ofKeyPrefix (some (redisKeyPrefix env))).keyPrefix.toList := by
      intro character glob member
      exact plain character glob ((kept character glob).mp member)
    exact ⟨complete_of_plain plainPrefix reached returned, confined_of_plain plainPrefix reached⟩

/-- Under app[1] Redis looks for keys that begin with app1, so nothing is removed. -/
theorem not_forgets_class :
    ¬Forgets (.ofKeyPrefix (some (redisKeyPrefix (some "app[1]")))) := by
  intro forgets
  obtain ⟨found, same, matched⟩ := (onePage_of_forgets forgets "x" ["app[1]:x"]).1 "x"
    (by decide +kernel) (by decide +kernel)
  rw [List.mem_singleton.mp same] at matched
  have unmatched : stringmatch ((RedisKeyBuilder.ofKeyPrefix
      (some (redisKeyPrefix (some "app[1]")))).toPhysicalPattern "x") "app[1]:x" = false := by
    decide +kernel
  rw [unmatched] at matched
  cases matched

end BackendFoundation.Cache
