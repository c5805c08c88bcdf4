/-
IdempotencyInterceptor, and the Redis keys that an intercepted request comes to use.

The keys join five texts with colons, and three of them may contain colons. The text up to
the first slash gives the actor and the method back; behind it a part of the path may as
well be the beginning of the client's key.
-/

import BackendFoundation.Idempotency.Service
import BackendFoundation.Users.User

namespace BackendFoundation.Idempotency

def idempotencyKeyRequired : ConflictError :=
  { code := "IDEMPOTENCY_KEY_REQUIRED"
    message := "Idempotency-Key header is required" }

def invalidIdempotencyKey : ConflictError :=
  { code := "INVALID_IDEMPOTENCY_KEY"
    message := "Idempotency-Key must contain 8-128 safe characters" }

/-- An HTTP request under a router. User ids are UUIDs; ip is an IPv4 or IPv6 address. The
request hash is the one of body, params, query and content type. -/
structure Request where
  userId : Option String
  ip : String
  method : String
  baseUrl : String
  path : String
  idempotencyKey : Option String
  requestHash : String
  actor_separated : '/' ∉ (userId.getD ip).toList
  method_nonempty : method ≠ ""
  method_token : ':' ∉ method.toList ∧ '/' ∉ method.toList
  baseUrl_rooted : baseUrl = "" ∨ baseUrl.toList.head? = some '/'
  path_rooted : path.toList.head? = some '/'

/-- What the interceptor hands to execute, with the parts of the keys. -/
structure ScopedInput extends ExecuteInput where
  key : String
  scope : String

inductive Interception
  | handle
  | execute (input : ScopedInput)

/-- A day, the TTL of results and fences. -/
theorem day_pos : 0 < 86400 := by decide

/-- [a-zA-Z0-9:_-] -/
def isSafe (character : Char) : Bool :=
  character.isAlphanum || character == ':' || character == '_' || character == '-'

namespace Request

def actorId (request : Request) : String :=
  request.userId.getD request.ip

def scope (request : Request) : String :=
  request.actorId ++ ":" ++ request.method ++ ":" ++ request.baseUrl ++ ":" ++ request.path

def normalizedKey (request : Request) : String :=
  Users.trim (request.idempotencyKey.getD "")

end Request

def intercept (enabled : Bool) (request : Request) : Except ConflictError Interception :=
  if enabled = false then .ok .handle
  else if request.idempotencyKey.getD "" = "" then .error idempotencyKeyRequired
  else
    let normalizedKey := request.normalizedKey
    if normalizedKey.length < 8 ∨ 128 < normalizedKey.length ∨
        normalizedKey.toList.all isSafe = false then
      .error invalidIdempotencyKey
    else
      .ok
        (.execute
          { key := normalizedKey
            scope := request.scope
            requestHash := request.requestHash
            ttlSeconds := 86400
            ttlSeconds_pos := day_pos })

namespace ScopedInput

def baseKey (input : ScopedInput) : String :=
  "idem:" ++ input.scope ++ ":" ++ input.key

def resultKey (input : ScopedInput) : String :=
  input.baseKey ++ ":result"

def lockKey (input : ScopedInput) : String :=
  input.baseKey ++ ":lock"

def fenceKey (input : ScopedInput) : String :=
  input.baseKey ++ ":fence"

/-- The keys that execute reads and writes. -/
def keys (input : ScopedInput) : List String :=
  [input.lockKey, input.fenceKey, input.resultKey]

end ScopedInput

section Splits

variable {Item : Type} {sep : Item} {first second first' second' : List Item}

/-- The second split has a part of the second text at the end of its first. -/
def Shifts (sep : Item) (first second first' second' : List Item) : Prop :=
  ∃ moved, first' = first ++ sep :: moved ∧ second = moved ++ sep :: second'

/-- Two splits of one text at a separator are the same, or a part has moved. -/
theorem append_sep_eq_iff :
    first ++ sep :: second = first' ++ sep :: second' ↔
      (first = first' ∧ second = second') ∨ Shifts sep first second first' second' ∨
        Shifts sep first' second' first second := by
  constructor
  · intro same
    rcases List.append_eq_append_iff.mp same with ⟨moved, longer, rest⟩ | ⟨moved, longer, rest⟩
    · cases moved with
      | nil =>
          rw [List.append_nil] at longer
          rw [List.nil_append, List.cons.injEq] at rest
          exact Or.inl ⟨longer.symm, rest.2⟩
      | cons head moved =>
          rw [List.cons_append, List.cons.injEq] at rest
          obtain ⟨rfl, rest⟩ := rest
          exact Or.inr (Or.inl ⟨moved, longer, rest⟩)
    · cases moved with
      | nil =>
          rw [List.append_nil] at longer
          rw [List.nil_append, List.cons.injEq] at rest
          exact Or.inl ⟨longer, rest.2.symm⟩
      | cons head moved =>
          rw [List.cons_append, List.cons.injEq] at rest
          obtain ⟨rfl, rest⟩ := rest
          exact Or.inr (Or.inr ⟨moved, longer, rest⟩)
  · intro splits
    rcases splits with ⟨rfl, rfl⟩ | ⟨moved, rfl, rfl⟩ | ⟨moved, rfl, rfl⟩
    · rfl
    · rw [List.append_assoc, List.cons_append]
    · rw [List.append_assoc, List.cons_append]

/-- A last part without the separator is found again. -/
theorem append_sep_inj (second_plain : sep ∉ second) (second'_plain : sep ∉ second')
    (same : first ++ sep :: second = first' ++ sep :: second') :
    first = first' ∧ second = second' := by
  rcases append_sep_eq_iff.mp same with equal | ⟨moved, _, rest⟩ | ⟨moved, _, rest⟩
  · exact equal
  · refine absurd ?_ second_plain
    rw [rest]
    exact List.mem_append_right _ List.mem_cons_self
  · refine absurd ?_ second'_plain
    rw [rest]
    exact List.mem_append_right _ List.mem_cons_self

/-- The text before the first occurrence of a mark is found again. -/
theorem append_mark_inj {mark : Item} (plain : mark ∉ first) (plain' : mark ∉ first')
    (same : first ++ mark :: second = first' ++ mark :: second') :
    first = first' ∧ second = second' := by
  rcases append_sep_eq_iff.mp same with equal | ⟨moved, longer, _⟩ | ⟨moved, longer, _⟩
  · exact equal
  · refine absurd ?_ plain'
    rw [longer]
    exact List.mem_append_right _ List.mem_cons_self
  · refine absurd ?_ plain
    rw [longer]
    exact List.mem_append_right _ List.mem_cons_self

end Splits

section Heads

variable {actor method tail actor' method' tail' : List Char}

/-- What follows the method begins with a slash, or with the colon behind an empty baseUrl. -/
def Rooted (tail : List Char) : Prop :=
  ∃ extra rest, (extra = [] ∨ extra = [':']) ∧ tail = extra ++ '/' :: rest

/-- An empty baseUrl is not taken for the end of a method. -/
theorem actor_method_ne (nonempty : method ≠ []) (plain : ':' ∉ method) :
    (actor ++ ':' :: method) ++ ':' :: [] ≠ (actor' ++ ':' :: method') ++ ':' :: [':'] := by
  intro same
  have shorter : actor ++ ':' :: method = (actor' ++ ':' :: method') ++ ':' :: [] := by
    rw [List.append_cons _ ':' [':']] at same
    exact List.append_cancel_right same
  exact nonempty (append_sep_inj plain List.not_mem_nil shorter).2

/-- The first slash is behind the method, whatever the actor is. -/
theorem head_inj (actor_plain : '/' ∉ actor) (actor_plain' : '/' ∉ actor')
    (nonempty : method ≠ []) (nonempty' : method' ≠ [])
    (token : ':' ∉ method ∧ '/' ∉ method) (token' : ':' ∉ method' ∧ '/' ∉ method')
    (rooted : Rooted tail) (rooted' : Rooted tail')
    (same : (actor ++ ':' :: method) ++ ':' :: tail = (actor' ++ ':' :: method') ++ ':' :: tail') :
    actor = actor' ∧ method = method' ∧ tail = tail' := by
  obtain ⟨extra, rest, kind, rfl⟩ := rooted
  obtain ⟨extra', rest', kind', rfl⟩ := rooted'
  have plain : '/' ∉ (actor ++ ':' :: method) ++ ':' :: extra := by
    cases kind with
    | inl direct => simp [actor_plain, token.2, direct]
    | inr colon => simp [actor_plain, token.2, colon]
  have plain' : '/' ∉ (actor' ++ ':' :: method') ++ ':' :: extra' := by
    cases kind' with
    | inl direct => simp [actor_plain', token'.2, direct]
    | inr colon => simp [actor_plain', token'.2, colon]
  rw [← List.cons_append, ← List.append_assoc, ← List.cons_append, ← List.append_assoc] at same
  obtain ⟨fronts, rests⟩ := append_mark_inj plain plain' same
  have extras : extra = extra' := by
    rcases kind with rfl | rfl <;> rcases kind' with rfl | rfl
    · rfl
    · exact absurd fronts (actor_method_ne nonempty token.1)
    · exact absurd fronts.symm (actor_method_ne nonempty' token'.1)
    · rfl
  subst extras rests
  obtain ⟨actors, methods⟩ :=
    append_sep_inj token.1 token'.1 (List.append_cancel_right fronts)
  exact ⟨actors, methods, rfl⟩

end Heads

namespace Request

variable (request first second : Request)

/-- The end of the scope. -/
def route : List Char :=
  request.baseUrl.toList ++ ':' :: request.path.toList

def keyText : List Char :=
  request.normalizedKey.toList

/-- The requests differ in a component of the keys. -/
def Differs : Prop :=
  first.actorId ≠ second.actorId ∨ first.method ≠ second.method ∨
    first.baseUrl ++ first.path ≠ second.baseUrl ++ second.path ∨
    first.normalizedKey ≠ second.normalizedKey

/-- Requests of one actor and method, of which one has a part behind a colon in the path
where the other has it in the key, or in the baseUrl where the other has it in the path. -/
def Ambiguous : Prop :=
  first.actorId = second.actorId ∧ first.method = second.method ∧
    (Shifts ':' first.route first.keyText second.route second.keyText ∨
      Shifts ':' second.route second.keyText first.route first.keyText ∨
      first.normalizedKey = second.normalizedKey ∧
        (Shifts ':' first.baseUrl.toList first.path.toList second.baseUrl.toList
            second.path.toList ∨
          Shifts ':' second.baseUrl.toList second.path.toList first.baseUrl.toList
            first.path.toList))

theorem rooted : Rooted (request.route ++ ':' :: request.keyText) := by
  unfold route
  obtain ⟨rest, path⟩ := List.head?_eq_some_iff.mp request.path_rooted
  cases request.baseUrl_rooted with
  | inl empty =>
      refine ⟨[':'], rest ++ ':' :: request.keyText, Or.inr rfl, ?_⟩
      rw [path, empty]
      rfl
  | inr mounted =>
      obtain ⟨base, baseUrl⟩ := List.head?_eq_some_iff.mp mounted
      refine ⟨[], base ++ ':' :: request.path.toList ++ ':' :: request.keyText, Or.inl rfl, ?_⟩
      rw [baseUrl]
      rfl

variable {request first second}

/-- The joined texts of two requests are equal when the heads are and the rest is. -/
theorem same_text_iff :
    (first.actorId.toList ++ ':' :: first.method.toList) ++ ':' :: (first.route ++ ':' ::
          first.keyText) =
        (second.actorId.toList ++ ':' :: second.method.toList) ++ ':' :: (second.route ++ ':' ::
          second.keyText) ↔
      first.actorId = second.actorId ∧ first.method = second.method ∧
        first.route ++ ':' :: first.keyText = second.route ++ ':' :: second.keyText := by
  constructor
  · intro same
    have nonempty : ∀ request : Request, request.method.toList ≠ [] := fun request empty =>
      request.method_nonempty (String.toList_eq_nil_iff.mp empty)
    obtain ⟨actors, methods, tails⟩ :=
      head_inj first.actor_separated second.actor_separated (nonempty first) (nonempty second)
        first.method_token second.method_token first.rooted second.rooted same
    exact ⟨String.toList_inj.mp actors, String.toList_inj.mp methods, tails⟩
  · intro parts
    rw [parts.1, parts.2.1, parts.2.2]

theorem ambiguous_iff (differ : first.Differs second) :
    first.Ambiguous second ↔
      first.actorId = second.actorId ∧ first.method = second.method ∧
        first.route ++ ':' :: first.keyText = second.route ++ ':' :: second.keyText := by
  unfold Ambiguous
  constructor
  · intro ambiguous
    obtain ⟨actors, methods, (shifted | shifted | ⟨keys, shifted⟩)⟩ := ambiguous
    · exact ⟨actors, methods, append_sep_eq_iff.mpr (Or.inr (Or.inl shifted))⟩
    · exact ⟨actors, methods, append_sep_eq_iff.mpr (Or.inr (Or.inr shifted))⟩
    · have routes : first.route = second.route := append_sep_eq_iff.mpr (Or.inr shifted)
      refine ⟨actors, methods, ?_⟩
      rw [routes, keyText, keyText, keys]
  · intro parts
    obtain ⟨actors, methods, tails⟩ := parts
    refine ⟨actors, methods, ?_⟩
    rcases append_sep_eq_iff.mp tails with ⟨routes, keys⟩ | shifted | shifted
    · have sameKey : first.normalizedKey = second.normalizedKey := String.toList_inj.mp keys
      rcases append_sep_eq_iff.mp routes with ⟨baseUrls, paths⟩ | shifted
      · have sameUrl : first.baseUrl ++ first.path = second.baseUrl ++ second.path := by
          rw [String.toList_inj.mp baseUrls, String.toList_inj.mp paths]
        rcases differ with other | other | other | other
        · exact absurd actors other
        · exact absurd methods other
        · exact absurd sameUrl other
        · exact absurd sameKey other
      · exact Or.inr (Or.inr ⟨sameKey, shifted⟩)
    · exact Or.inl shifted
    · exact Or.inr (Or.inl shifted)

end Request

/-- An admitted request is executed under its own scope and trimmed key. -/
theorem scoped_of_intercept {enabled : Bool} {request : Request} {input : ScopedInput}
    (admitted : intercept enabled request = .ok (.execute input)) :
    input.scope = request.scope ∧ input.key = request.normalizedKey := by
  unfold intercept at admitted
  split at admitted
  · cases admitted
  · split at admitted
    · cases admitted
    · dsimp only at admitted
      split at admitted
      · cases admitted
      · cases admitted
        exact ⟨rfl, rfl⟩

namespace ScopedInput

variable {input input' : ScopedInput}

theorem toList_baseKey {request : Request} (scope : input.scope = request.scope)
    (key : input.key = request.normalizedKey) :
    input.baseKey.toList = "idem:".toList ++
      ((request.actorId.toList ++ ':' :: request.method.toList) ++ ':' ::
        (request.route ++ ':' :: request.keyText)) := by
  unfold baseKey
  rw [scope, key]
  simp [Request.scope, Request.route, Request.keyText]

/-- Keys of different kinds end differently. -/
theorem keys_apart_iff_baseKey :
    (∀ key ∈ input.keys, ∀ key' ∈ input'.keys, key ≠ key') ↔ input.baseKey ≠ input'.baseKey := by
  have ends : ∀ {first second suffix suffix' : String}, first ++ suffix = second ++ suffix' →
      (first ++ suffix).toList.getLast? = (second ++ suffix').toList.getLast? := by
    intro first second suffix suffix' same
    rw [same]
  constructor
  · intro apart same
    refine apart input.lockKey List.mem_cons_self input'.lockKey List.mem_cons_self ?_
    unfold lockKey
    rw [same]
  · intro different key member key' member' same
    simp only [keys, List.mem_cons, List.not_mem_nil, or_false] at member member'
    rcases member with rfl | rfl | rfl <;> rcases member' with rfl | rfl | rfl
    · exact different ((String.append_left_inj _).mp same)
    · simpa using ends same
    · simpa using ends same
    · simpa using ends same
    · exact different ((String.append_left_inj _).mp same)
    · simpa using ends same
    · simpa using ends same
    · simpa using ends same
    · exact different ((String.append_left_inj _).mp same)

end ScopedInput

theorem same_baseKey_iff {first second : Request} {input input' : ScopedInput}
    (admitted : intercept true first = .ok (.execute input))
    (admitted' : intercept true second = .ok (.execute input')) :
    input.baseKey = input'.baseKey ↔
      first.actorId = second.actorId ∧ first.method = second.method ∧
        first.route ++ ':' :: first.keyText = second.route ++ ':' :: second.keyText := by
  obtain ⟨scope, key⟩ := scoped_of_intercept admitted
  obtain ⟨scope', key'⟩ := scoped_of_intercept admitted'
  rw [← String.toList_inj, ScopedInput.toList_baseKey scope key,
    ScopedInput.toList_baseKey scope' key', List.append_cancel_left_eq]
  exact Request.same_text_iff

/-- A path and a baseUrl without a colon of their own. -/
def Request.Plain (request : Request) : Prop :=
  ':' ∉ request.baseUrl.toList ∧ ':' ∉ request.path.toList

theorem Request.Plain.count_route {request : Request} (plain : request.Plain) :
    request.route.count ':' = 1 := by
  unfold Request.route
  rw [List.count_append, List.count_cons_self, List.count_eq_zero.mpr plain.1,
    List.count_eq_zero.mpr plain.2]

theorem Request.Plain.not_shifts {first second : Request} (plain : first.Plain)
    (plain' : second.Plain) :
    ¬ Shifts ':' first.route first.keyText second.route second.keyText := by
  intro shifted
  obtain ⟨moved, longer, _⟩ := shifted
  have colons := congrArg (List.count ':') longer
  rw [List.count_append, List.count_cons_self, plain.count_route, plain'.count_route] at colons
  omega

/-- Requests to such paths have no key in common unless they are alike. -/
theorem Request.Plain.not_ambiguous {first second : Request} (plain : first.Plain)
    (plain' : second.Plain) : ¬ first.Ambiguous second := by
  intro ambiguous
  obtain ⟨_, _, (shifted | shifted | ⟨_, (⟨moved, longer, _⟩ | ⟨moved, longer, _⟩)⟩)⟩ := ambiguous
  · exact plain.not_shifts plain' shifted
  · exact plain'.not_shifts plain shifted
  · refine plain'.1 ?_
    rw [longer]
    exact List.mem_append_right _ List.mem_cons_self
  · refine plain.1 ?_
    rw [longer]
    exact List.mem_append_right _ List.mem_cons_self

/-- Two different requests have no key in common exactly when no part of the path of one is
in the key of the other, or in its baseUrl. -/
theorem idempotency_keys_apart_iff {first second : Request} {input input' : ScopedInput}
    (admitted : intercept true first = .ok (.execute input))
    (admitted' : intercept true second = .ok (.execute input'))
    (differ : first.Differs second) :
    (∀ key ∈ input.keys, ∀ key' ∈ input'.keys, key ≠ key') ↔ ¬ first.Ambiguous second := by
  rw [ScopedInput.keys_apart_iff_baseKey, Request.ambiguous_iff differ]
  exact not_congr (same_baseKey_iff admitted admitted')

section Instances

/-- Of a client at a loopback address. -/
def itemRequest (path : String) (rooted : path.toList.head? = some '/')
    (idempotencyKey : String) : Request :=
  { userId := none
    ip := "127.0.0.1"
    method := "POST"
    baseUrl := ""
    path := path
    idempotencyKey := some idempotencyKey
    requestHash := "hash"
    actor_separated := by decide
    method_nonempty := by decide
    method_token := by decide
    baseUrl_rooted := Or.inl rfl
    path_rooted := rooted }

/-- POST /v1/items/a with the key b:12345678, and POST /v1/items/a:b with 12345678. -/
def shiftedRequest : Request :=
  itemRequest "/v1/items/a" rfl "b:12345678"

def plainRequest : Request :=
  itemRequest "/v1/items/a:b" rfl "12345678"

def otherRequest : Request :=
  itemRequest "/v1/items/c" rfl "12345678"

/-- Neither of these two paths has a colon. -/
theorem idempotency_keys_apart_items :
    ∃ input input', intercept true shiftedRequest = .ok (.execute input) ∧
      intercept true otherRequest = .ok (.execute input') ∧
      ∀ key ∈ input.keys, ∀ key' ∈ input'.keys, key ≠ key' := by
  have plain : shiftedRequest.Plain := by
    unfold Request.Plain
    decide
  have plain' : otherRequest.Plain := by
    unfold Request.Plain
    decide
  have differ : shiftedRequest.Differs otherRequest :=
    Or.inr (Or.inr (Or.inl (by decide)))
  exact ⟨_, _, rfl, rfl,
    (idempotency_keys_apart_iff rfl rfl differ).mpr (plain.not_ambiguous plain')⟩

/-- The two requests are to different paths and bring different keys. -/
theorem idempotency_keys_collide :
    ∃ input input', intercept true shiftedRequest = .ok (.execute input) ∧
      intercept true plainRequest = .ok (.execute input') ∧
      shiftedRequest.Differs plainRequest ∧ input.lockKey = input'.lockKey ∧
      input.fenceKey = input'.fenceKey ∧ input.resultKey = input'.resultKey := by
  refine ⟨_, _, rfl, rfl, Or.inr (Or.inr (Or.inl ?_)), ?_, ?_, ?_⟩ <;> decide +kernel

end Instances

end BackendFoundation.Idempotency
