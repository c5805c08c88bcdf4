/-
What one step can do, and what is known of the keys of the sessions in every state:
an index holds sets of ids that create has drawn for its user, and what is stored
under such an id is the record of that create.
-/

import BackendFoundation.Sessions.Keys

namespace BackendFoundation.Sessions

open Transition Redis

variable {Call : Type}

/-- The stored session of a create. -/
def Setup.session (setup : Setup Call) (state : State Call) (call : Call) :
    Slot (Stored Text) :=
  state.keys (sessionKey (setup.sessionId call))

def State.index (state : State Call) (userId : String) : Slot (List String) :=
  Slot.asSet (state.keys (userIndexKey userId))

/-- The session has been written, be it still there or not. -/
def Phase.written : Phase → Bool
  | .ready | .setting _ => false
  | _ => true

/-- What a create has drawn for a user, once it is written. -/
def Setup.Issued (setup : Setup Call) (state : State Call) (userId sessionId : String) : Prop :=
  ∃ call input, setup.operation call = .create input ∧ input.record.userId = userId ∧
    setup.sessionId call = sessionId ∧ (state.calls call).written = true

def State.Gone (state : State Call) (sessionId : String) : Prop :=
  Slot.live state.now (state.keys (sessionKey sessionId)) = none

/-- What a call relies on between its commands. -/
def Setup.Knows (setup : Setup Call) (state : State Call) (call : Call) : Phase → Prop
  | .setting input | .adding input | .askingIndexTtl input =>
      setup.operation call = .create input
  | .expiring input indexTtlSeconds =>
      setup.operation call = .create input ∧ input.ttlSeconds ≤ indexTtlSeconds
  | .visiting userId sessionId rest _ =>
      setup.Issued state userId sessionId ∧ ∀ member ∈ rest, setup.Issued state userId member
  | .pruning userId sessionId rest _ =>
      (setup.Issued state userId sessionId ∧ state.Gone sessionId) ∧
        ∀ member ∈ rest, setup.Issued state userId member
  | .askingSessionTtl userId _ _ rest _ =>
      ∀ member ∈ rest, setup.Issued state userId member
  | .deleting sessionId (some record) _ => setup.Issued state record.userId sessionId
  | .removing sessionId record _ =>
      setup.Issued state record.userId sessionId ∧ state.Gone sessionId
  | _ => True

/-- What a key of the form sessions:{id} can hold. -/
inductive Setup.Occupies (setup : Setup Call) (sessionId : String) : Stored Text → Prop
  | record {call : Call} {input : CreateInput} (created : setup.operation call = .create input)
      (same : setup.sessionId call = sessionId) :
      Occupies setup sessionId (.text (some input.record.toJson))
  | counter {keyPrefix : KeyPrefix} {ip : String} (count : Int)
      (found : keyPrefix.sessionId ip = some sessionId) :
      Occupies setup sessionId (.text (some (.number count)))
  | index {userId : String} (members : List String) (same : sessionId = "user:" ++ userId) :
      Occupies setup sessionId (.set members)

structure Setup.Sound (setup : Setup Call) (state : State Call) : Prop where
  occupants : ∀ sessionId cell, state.keys (sessionKey sessionId) = some cell →
    setup.Occupies sessionId cell.value
  members : ∀ userId member, (state.index userId).Holds member →
    setup.Issued state userId member
  records : ∀ call input cell, setup.operation call = .create input →
    setup.session state call = some cell → (state.calls call).written = true ∧
      ∃ deadline, cell.expireAt = some deadline ∧
        deadline ≤ state.now + input.ttlSeconds * 1000
  knows : ∀ call, setup.Knows state call (state.calls call)

/-- The reads that leave the keys as they are, with what they make of the reply. -/
inductive Setup.Reads (setup : Setup Call) (state : State Call) (call : Call) :
    Phase → Phase → Prop
  | asksIndexTtl (input : CreateInput) :
      Reads setup state call (.askingIndexTtl input) (.expiring input (nextIndexTtl
        (state.keys.ttl state.now (userIndexKey input.record.userId)) input.ttlSeconds))
  | gets {sessionId : String} {found : Option SessionRecord} :
      Reads setup state call (.getting sessionId) (.returned (.record found))
  | lists {userId : String} {members : List String}
      (replied : state.keys.smembers state.now (userIndexKey userId) = .ok members) :
      Reads setup state call (.listing userId) ((setup.operation call).visit userId members [])
  | misses {userId sessionId : String} {rest : List String}
      {entries : List SessionListEntry} {raw : Option Text}
      (replied : state.keys.get state.now (sessionKey sessionId) = .ok raw)
      (missing : parseRecord raw = none) :
      Reads setup state call (.visiting userId sessionId rest entries)
        (.pruning userId sessionId rest entries)
  | finds {userId sessionId : String} {rest : List String}
      {entries : List SessionListEntry} {raw : Option Text} {record : SessionRecord}
      (replied : state.keys.get state.now (sessionKey sessionId) = .ok raw)
      (found : parseRecord raw = some record) :
      Reads setup state call (.visiting userId sessionId rest entries)
        (.askingSessionTtl userId sessionId record rest entries)
  | enters {userId sessionId : String} {record : SessionRecord} {rest : List String}
      {entries : List SessionListEntry} (expiry : Nat) :
      Reads setup state call (.askingSessionTtl userId sessionId record rest entries)
        ((setup.operation call).visit userId rest (entries ++
          [{ id := sessionId, record := record, expiresAt := expiry }]))
  | reads {sessionId : String} {rest : List String} {raw : Option Text}
      (replied : state.keys.get state.now (sessionKey sessionId) = .ok raw) :
      Reads setup state call (.reading sessionId rest)
        (.deleting sessionId (parseRecord raw) rest)
  | rejects {phase : Phase} (running : phase.written = true) :
      Reads setup state call phase .rejected

/-- The writes of a command to a key. -/
inductive Setup.Writes (setup : Setup Call) (state : State Call) (call : Call) :
    Phase → String → Slot (Stored Text) → Phase → Prop
  | sets (input : CreateInput) :
      Writes setup state call (.setting input) (sessionKey (setup.sessionId call))
        (Slot.setEx state.now (.text (some input.record.toJson)) input.ttlSeconds)
        (.adding input)
  | adds (input : CreateInput)
      (fits : ∀ text, Slot.get state.now (state.keys (userIndexKey input.record.userId)) ≠
        some (.text text)) :
      Writes setup state call (.adding input) (userIndexKey input.record.userId)
        (Slot.ofSet (Slot.sadd state.now (state.index input.record.userId) (setup.sessionId call)))
        (.askingIndexTtl input)
  | expires (input : CreateInput) (indexTtlSeconds : Nat) :
      Writes setup state call (.expiring input indexTtlSeconds)
        (userIndexKey input.record.userId)
        (Slot.expire state.now (state.keys (userIndexKey input.record.userId))
          indexTtlSeconds).1
        (.returned (.created (setup.sessionId call)))
  | prunes {userId sessionId : String} {rest : List String}
      {entries : List SessionListEntry} :
      Writes setup state call (.pruning userId sessionId rest entries) (userIndexKey userId)
        (Slot.ofSet (Slot.srem state.now (state.index userId) sessionId))
        ((setup.operation call).visit userId rest entries)
  | deletes {sessionId : String} {record : Option SessionRecord} {rest : List String} :
      Writes setup state call (.deleting sessionId record rest) (sessionKey sessionId) none
        (match record with
          | none => deleteEach rest
          | some record => .removing sessionId record rest)
  | removes {sessionId : String} {record : SessionRecord} {rest : List String} :
      Writes setup state call (.removing sessionId record rest) (userIndexKey record.userId)
        (Slot.ofSet (Slot.srem state.now (state.index record.userId) sessionId)) (deleteEach rest)

/-- A command has failed on the type of its key, or the call goes on with its reply. -/
theorem orRejected_cases {Result : Type} {keys : Keyspace Text} {reply : Except WrongType Result}
    {next : Result → Keyspace Text × Phase} {after : Keyspace Text × Phase}
    (answers : some (orRejected keys reply next) = some after) :
    after = (keys, .rejected) ∨ ∃ result, reply = .ok result ∧ after = next result := by
  cases answers
  cases reply with
  | error => exact .inl rfl
  | ok result => exact .inr ⟨result, rfl, rfl⟩

theorem Setup.answered {setup : Setup Call} {state : State Call} {call : Call}
    {phase next : Phase} {keys : Keyspace Text}
    (answers : setup.answer call state.now state.keys phase = some (keys, next)) :
    (keys = state.keys ∧ setup.Reads state call phase next) ∨
      ∃ key slot, keys = Function.update state.keys key slot ∧
        setup.Writes state call phase key slot next := by
  cases phase with
  | setting input =>
      cases answers
      exact .inr ⟨_, _, rfl, .sets input⟩
  | adding input =>
      rcases orRejected_cases answers with rejected | ⟨after, added, same⟩
      · cases rejected
        exact .inl ⟨rfl, .rejects rfl⟩
      · obtain ⟨fits, rfl⟩ := Keyspace.eq_of_sadd added
        cases same
        exact .inr ⟨_, _, rfl, .adds input fits⟩
  | askingIndexTtl input =>
      cases answers
      exact .inl ⟨rfl, .asksIndexTtl input⟩
  | expiring input indexTtlSeconds =>
      cases answers
      exact .inr ⟨_, _, rfl, .expires input indexTtlSeconds⟩
  | getting sessionId =>
      rcases orRejected_cases answers with rejected | ⟨raw, _, same⟩
      · cases rejected
        exact .inl ⟨rfl, .rejects rfl⟩
      · cases same
        exact .inl ⟨rfl, .gets⟩
  | listing userId =>
      rcases orRejected_cases answers with rejected | ⟨members, listed, same⟩
      · cases rejected
        exact .inl ⟨rfl, .rejects rfl⟩
      · cases same
        exact .inl ⟨rfl, .lists listed⟩
  | visiting userId sessionId rest entries =>
      rcases orRejected_cases answers with rejected | ⟨raw, replied, same⟩
      · cases rejected
        exact .inl ⟨rfl, .rejects rfl⟩
      · cases parsed : parseRecord raw with
        | none =>
            simp only [parsed] at same
            cases same
            exact .inl ⟨rfl, .misses replied parsed⟩
        | some record =>
            simp only [parsed] at same
            cases same
            exact .inl ⟨rfl, .finds replied parsed⟩
  | pruning userId sessionId rest entries =>
      rcases orRejected_cases answers with rejected | ⟨after, removed, same⟩
      · cases rejected
        exact .inl ⟨rfl, .rejects rfl⟩
      · cases Keyspace.eq_of_srem removed
        cases same
        exact .inr ⟨_, _, rfl, .prunes⟩
  | askingSessionTtl userId sessionId record rest entries =>
      cases answers
      exact .inl ⟨rfl, .enters _⟩
  | reading sessionId rest =>
      rcases orRejected_cases answers with rejected | ⟨raw, replied, same⟩
      · cases rejected
        exact .inl ⟨rfl, .rejects rfl⟩
      · cases same
        exact .inl ⟨rfl, .reads replied⟩
  | deleting sessionId record rest =>
      cases answers
      exact .inr ⟨_, _, rfl, .deletes⟩
  | removing sessionId record rest =>
      rcases orRejected_cases answers with rejected | ⟨after, removed, same⟩
      · cases rejected
        exact .inl ⟨rfl, .rejects rfl⟩
      · cases Keyspace.eq_of_srem removed
        cases same
        exact .inr ⟨_, _, rfl, .removes⟩
  | ready | returned | rejected => cases answers

theorem incrementWithTtl_eq (now : Nat) (keys : Keyspace Text) (key : String)
    (ttlSeconds : Nat) :
    ∃ slot, incrementWithTtl now keys key ttlSeconds = Function.update keys key slot ∧
      (slot = keys key ∨ ∃ count expireAt, slot = some
        { value := .text (some (.number count)), expireAt := expireAt }) := by
  have unchanged : keys = Function.update keys key (keys key) :=
    (Function.update_eq_self key keys).symm
  unfold incrementWithTtl
  split
  · exact ⟨_, rfl, .inr ⟨1, _, rfl⟩⟩
  · split
    · exact ⟨_, rfl, .inr ⟨_, _, rfl⟩⟩
    · exact ⟨_, unchanged, .inl rfl⟩

section Written

variable {setup : Setup Call} {state : State Call}

theorem written_deleteEach (sessionIds : List String) :
    (deleteEach sessionIds).written = true := by
  cases sessionIds <;> rfl

theorem Operation.written_visit (operation : Operation) (userId : String)
    (members : List String) (entries : List SessionListEntry) :
    (operation.visit userId members entries).written = true := by
  cases members with
  | cons => rfl
  | nil =>
      cases operation with
      | revokeAllForUser => exact written_deleteEach _
      | _ => rfl

theorem Setup.Reads.written {call : Call} {phase next : Phase}
    (reads : setup.Reads state call phase next) : next.written = true := by
  cases reads with
  | lists | enters => exact Operation.written_visit _ _ _ _
  | _ => rfl

theorem Setup.Writes.written {call : Call} {phase next : Phase} {key : String}
    {slot : Slot (Stored Text)} (writes : setup.Writes state call phase key slot next) :
    next.written = true := by
  cases writes with
  | prunes => exact Operation.written_visit _ _ _ _
  | removes => exact written_deleteEach _
  | @deletes _ record =>
      cases record with
      | none => exact written_deleteEach _
      | some => rfl
  | _ => rfl

end Written

variable [DecidableEq Call]

/-- Everything one step can do. -/
inductive Setup.Move (setup : Setup Call) (state : State Call) :
    Action Call → State Call → Prop
  | advances (milliseconds : Nat) :
      Move setup state (.advance milliseconds) { state with now := state.now + milliseconds }
  | starts {call : Call} (ready : state.calls call = .ready) :
      Move setup state (.start call) (state.goto call (setup.operation call).start)
  | reads {call : Call} {next : Phase}
      (reads : setup.Reads state call (state.calls call) next) :
      Move setup state (.command call) (state.goto call next)
  | writes {call : Call} {key : String} {slot : Slot (Stored Text)} {next : Phase}
      (writes : setup.Writes state call (state.calls call) key slot next) :
      Move setup state (.command call)
        { state.goto call next with keys := Function.update state.keys key slot }
  | counts {keyPrefix : KeyPrefix} {ip : String} {ttlSeconds : Nat} {slot : Slot (Stored Text)}
      (counted : slot = state.keys (keyPrefix.counterKey ip) ∨ ∃ count expireAt, slot = some
        { value := .text (some (.number count)), expireAt := expireAt }) :
      Move setup state (.check keyPrefix ip ttlSeconds)
        { state with keys := Function.update state.keys (keyPrefix.counterKey ip) slot }
  | others (feature : FeatureKey) (slot : Slot (Stored Text)) :
      Move setup state (.other feature slot)
        { state with keys := Function.update state.keys feature.key slot }

theorem Setup.moved {setup : Setup Call} {state following : State Call} {action : Action Call}
    (stepped : setup.step state action = some following) :
    setup.Move state action following := by
  cases action with
  | advance milliseconds =>
      cases stepped
      exact .advances milliseconds
  | start call =>
      simp only [step] at stepped
      split at stepped
      · cases stepped
        exact .starts ‹_›
      · cases stepped
  | command call =>
      obtain ⟨⟨keys, next⟩, answers, rfl⟩ := Option.map_eq_some_iff.mp stepped
      rcases setup.answered answers with ⟨rfl, reads⟩ | ⟨key, slot, rfl, writes⟩
      · exact .reads reads
      · exact .writes writes
  | check keyPrefix ip ttlSeconds =>
      cases stepped
      obtain ⟨slot, same, counted⟩ :=
        incrementWithTtl_eq state.now state.keys (keyPrefix.counterKey ip) ttlSeconds
      rw [same]
      exact .counts counted
  | other feature slot =>
      cases stepped
      exact .others feature slot

@[simp] theorem State.goto_self (state : State Call) (call : Call) (phase : Phase) :
    (state.goto call phase).calls call = phase :=
  Function.update_self _ _ _

theorem State.goto_other (state : State Call) {call other : Call} (phase : Phase)
    (different : other ≠ call) : (state.goto call phase).calls other = state.calls other :=
  Function.update_of_ne different _ _

/-- What a step does to one call. -/
inductive Setup.Goes (setup : Setup Call) (state following : State Call) (action : Action Call)
    (call : Call) : Phase → Prop
  | stays : Goes setup state following action call (state.calls call)
  | starts (ready : state.calls call = .ready) :
      Goes setup state following action call (setup.operation call).start
  | reads {next : Phase} (acts : action = .command call)
      (reads : setup.Reads state call (state.calls call) next) :
      Goes setup state following action call next
  | writes {key : String} {slot : Slot (Stored Text)} {next : Phase}
      (acts : action = .command call)
      (writes : setup.Writes state call (state.calls call) key slot next)
      (written : following.keys = Function.update state.keys key slot) :
      Goes setup state following action call next

section Goes

variable {setup : Setup Call} {state following : State Call} {action : Action Call}

theorem Setup.Move.goes (move : setup.Move state action following) (call : Call) :
    setup.Goes state following action call (following.calls call) := by
  cases move with
  | advances | counts | others => exact .stays
  | @starts actor ready =>
      by_cases same : call = actor
      · subst same
        rw [State.goto_self]
        exact .starts ready
      · rw [State.goto_other _ _ same]
        exact .stays
  | @reads actor next reads =>
      by_cases same : call = actor
      · subst same
        rw [State.goto_self]
        exact .reads rfl reads
      · rw [State.goto_other _ _ same]
        exact .stays
  | @writes actor key slot next writes =>
      change setup.Goes _ _ _ call ((state.goto actor next).calls call)
      by_cases same : call = actor
      · subst same
        rw [State.goto_self]
        exact .writes rfl writes rfl
      · rw [State.goto_other _ _ same]
        exact .stays

theorem Setup.Move.written (move : setup.Move state action following) {call : Call}
    (before : (state.calls call).written = true) :
    (following.calls call).written = true := by
  have goes := move.goes call
  generalize following.calls call = next at goes
  cases goes with
  | stays => exact before
  | starts ready =>
      rw [ready] at before
      cases before
  | reads _ reads => exact reads.written
  | writes _ writes => exact writes.written

end Goes

end BackendFoundation.Sessions
