/-
Whose sessions a call works on. A session belongs to the user for whom a create draws
its id; the operations of the store stay with the sessions of their user.
-/

import BackendFoundation.Sessions.KeyFrame
import Mathlib.Data.List.Nodup

namespace BackendFoundation.Sessions

open Transition Redis

variable {Call : Type}

/-- The id is one that a create draws for the user. -/
def Setup.Draws (setup : Setup Call) (userId sessionId : String) : Prop :=
  ∃ call input, setup.operation call = .create input ∧ input.record.userId = userId ∧
    setup.sessionId call = sessionId

/-- Nobody names an id that is not a UUID. -/
def Setup.Plain (setup : Setup Call) : Prop :=
  ∀ call sessionId, (setup.operation call).clientId = some sessionId →
    ':' ∉ sessionId.toList

/-- The keys of the user's sessions, and of their index. -/
def Setup.Owned (setup : Setup Call) (userId key : String) : Prop :=
  key = userIndexKey userId ∨ ∃ sessionId, setup.Draws userId sessionId ∧
    key = sessionKey sessionId

/-- An operation on the sessions of the user. -/
def Setup.Concerns (setup : Setup Call) (userId : String) : Operation → Prop
  | .create input => input.record.userId = userId
  | .get _ => False
  | .delete sessionId | .revoke sessionId => setup.Draws userId sessionId
  | .listByUserId other | .revokeAllForUser other => other = userId

/-- An operation that deletes the session. -/
def Setup.Targets (setup : Setup Call) (operation : Operation) (sessionId : String) : Prop :=
  operation = .delete sessionId ∨ operation = .revoke sessionId ∨
    ∃ userId, operation = .revokeAllForUser userId ∧ setup.Draws userId sessionId

def Operation.deletes : Operation → Bool
  | delete _ | revoke _ | revokeAllForUser _ => true
  | create _ | get _ | listByUserId _ => false

/-- What a call has to do with its operation, phase by phase. -/
def Setup.Works (setup : Setup Call) (operation : Operation) : Phase → Prop
  | .setting input | .adding input | .askingIndexTtl input | .expiring input _ =>
      operation = .create input
  | .getting sessionId => operation = .get sessionId
  | .listing userId => operation.Lists userId
  | .visiting userId sessionId rest entries | .pruning userId sessionId rest entries
  | .askingSessionTtl userId sessionId _ rest entries =>
      operation.Lists userId ∧ (∀ member ∈ sessionId :: rest, setup.Draws userId member) ∧
        ∀ entry ∈ entries, setup.Draws userId entry.id
  | .reading sessionId rest => ∀ target ∈ sessionId :: rest, setup.Targets operation target
  | .deleting sessionId record rest =>
      (∀ target ∈ sessionId :: rest, setup.Targets operation target) ∧
        ∀ found ∈ record, setup.Draws found.userId sessionId
  | .removing sessionId record rest =>
      (∀ target ∈ sessionId :: rest, setup.Targets operation target) ∧
        setup.Draws record.userId sessionId
  | .returned (.entries entries) => ∃ userId, operation = .listByUserId userId ∧
      ∀ entry ∈ entries, setup.Draws userId entry.id
  | .returned (.record found) => ∃ sessionId, operation = .get sessionId ∧
      ∀ record ∈ found, setup.Draws record.userId sessionId
  | .returned (.created _) => ∃ input, operation = .create input
  | .returned .done => operation.deletes = true
  | .ready | .rejected => True

section Draws

variable {setup : Setup Call} {state : State Call} {userId other sessionId key : String}

theorem Setup.Issued.draws (issued : setup.Issued state userId sessionId) :
    setup.Draws userId sessionId := by
  obtain ⟨call, input, created, user, same, _⟩ := issued
  exact ⟨call, input, created, user, same⟩

/-- A session has one owner. -/
theorem Setup.Draws.unique (first : setup.Draws userId sessionId)
    (second : setup.Draws other sessionId) : userId = other := by
  obtain ⟨call, input, created, rfl, drawn⟩ := first
  obtain ⟨call', input', created', rfl, drawn'⟩ := second
  obtain rfl := setup.sessionId_injective (drawn.trans drawn'.symm)
  rw [created] at created'
  cases created'
  rfl

theorem Setup.Draws.plain (draws : setup.Draws userId sessionId) :
    ':' ∉ sessionId.toList := by
  obtain ⟨call, _, _, _, rfl⟩ := draws
  exact setup.sessionId_plain call

theorem Setup.Targets.plain {call : Call} (uuids : setup.Plain)
    (targets : setup.Targets (setup.operation call) sessionId) : ':' ∉ sessionId.toList := by
  rcases targets with delete | revoke | ⟨_, _, draws⟩
  · exact uuids call sessionId (by rw [delete]; rfl)
  · exact uuids call sessionId (by rw [revoke]; rfl)
  · exact draws.plain

theorem Setup.Targets.concerns {operation : Operation}
    (targets : setup.Targets operation sessionId) (draws : setup.Draws userId sessionId) :
    setup.Concerns userId operation := by
  rcases targets with rfl | rfl | ⟨other, rfl, drawn⟩
  · exact draws
  · exact draws
  · exact drawn.unique draws

theorem Setup.Targets.deletes {operation : Operation}
    (targets : setup.Targets operation sessionId) : operation.deletes = true := by
  rcases targets with rfl | rfl | ⟨other, rfl, drawn⟩ <;> rfl

theorem Operation.Lists.concerns {operation : Operation} (lists : operation.Lists userId) :
    setup.Concerns userId operation := by
  rcases lists with rfl | rfl <;> rfl

/-- A key has one owner. -/
theorem Setup.Owned.unique (first : setup.Owned userId key) (second : setup.Owned other key) :
    userId = other := by
  rcases first with rfl | ⟨sessionId, draws, rfl⟩
  · rcases second with same | ⟨sessionId, draws, same⟩
    · exact userIndexKey_injective same
    · exact absurd same.symm (sessionKey_ne_userIndexKey draws.plain userId)
  · rcases second with same | ⟨sessionId', draws', same⟩
    · exact absurd same (sessionKey_ne_userIndexKey draws.plain other)
    · rw [← sessionKey_injective same] at draws'
      exact draws.unique draws'

end Draws

section Works

variable {setup : Setup Call} {state : State Call} {call : Call}

theorem Setup.works_deleteEach {operation : Operation} {sessionIds : List String}
    (deletes : operation.deletes = true)
    (targets : ∀ target ∈ sessionIds, setup.Targets operation target) :
    setup.Works operation (deleteEach sessionIds) := by
  cases sessionIds with
  | nil => exact deletes
  | cons => exact targets

theorem Setup.works_start (operation : Operation) : setup.Works operation operation.start := by
  have targets (sessionId : String) (deletes : setup.Targets operation sessionId) :
      setup.Works operation (deleteEach [sessionId]) := by
    apply setup.works_deleteEach deletes.deletes
    intro target member
    rw [List.mem_singleton.mp member]
    exact deletes
  cases operation with
  | create | get => rfl
  | delete sessionId => exact targets sessionId (.inl rfl)
  | revoke sessionId =>
      simp only [Operation.start]
      split
      · rfl
      · exact targets sessionId (.inr (.inl rfl))
  | listByUserId => exact .inl rfl
  | revokeAllForUser => exact .inr rfl

theorem Setup.works_visit {operation : Operation} {userId : String} {members : List String}
    {entries : List SessionListEntry} (lists : operation.Lists userId)
    (members_drawn : ∀ member ∈ members, setup.Draws userId member)
    (entries_drawn : ∀ entry ∈ entries, setup.Draws userId entry.id) :
    setup.Works operation (operation.visit userId members entries) := by
  cases members with
  | cons => exact ⟨lists, members_drawn, entries_drawn⟩
  | nil =>
      rcases lists with rfl | rfl
      · exact ⟨userId, rfl, entries_drawn⟩
      · apply setup.works_deleteEach rfl
        intro target member
        obtain ⟨entry, inside, rfl⟩ := List.mem_map.mp member
        exact .inr (.inr ⟨userId, rfl, entries_drawn entry inside⟩)

theorem Setup.Reads.works {phase next : Phase} (sound : setup.Sound state)
    (works : setup.Works (setup.operation call) phase)
    (replied : ∀ sessionId found, phase = .getting sessionId →
      next = .returned (.record found) →
      ∀ record ∈ found, setup.Issued state record.userId sessionId)
    (reads : setup.Reads state call phase next) :
    setup.Works (setup.operation call) next := by
  cases reads with
  | asksIndexTtl => exact works
  | gets => exact ⟨_, works, fun record member => (replied _ _ rfl rfl record member).draws⟩
  | @lists userId members reply =>
      rw [sound.smembers_index] at reply
      cases reply
      refine setup.works_visit works ?_ fun _ inside => absurd inside List.not_mem_nil
      intro member inside
      exact (sound.members userId member (Slot.holds_of_smembers inside)).draws
  | misses => exact works
  | finds => exact works
  | @enters userId sessionId record rest entries expiry =>
      refine setup.works_visit works.1
        (fun member inside => works.2.1 member (List.mem_cons_of_mem _ inside)) ?_
      intro entry inside
      rcases List.mem_append.mp inside with old | new
      · exact works.2.2 entry old
      · rw [List.mem_singleton.mp new]
        exact works.2.1 sessionId List.mem_cons_self
  | @reads sessionId rest raw reply =>
      exact ⟨works, fun record parsed => (sound.issued reply parsed).draws⟩
  | rejects => trivial

theorem Setup.Writes.works {phase next : Phase} {key : String} {slot : Slot (Stored Text)}
    (works : setup.Works (setup.operation call) phase)
    (writes : setup.Writes state call phase key slot next) :
    setup.Works (setup.operation call) next := by
  cases writes with
  | sets | adds => exact works
  | expires input => exact ⟨input, works⟩
  | prunes =>
      exact setup.works_visit works.1
        (fun member inside => works.2.1 member (List.mem_cons_of_mem _ inside)) works.2.2
  | @deletes sessionId record rest =>
      cases record with
      | none =>
          exact setup.works_deleteEach (works.1 sessionId List.mem_cons_self).deletes
            fun target inside => works.1 target (List.mem_cons_of_mem _ inside)
      | some record => exact ⟨works.1, works.2 record rfl⟩
  | @removes sessionId =>
      exact setup.works_deleteEach (works.1 sessionId List.mem_cons_self).deletes
        fun target inside => works.1 target (List.mem_cons_of_mem _ inside)

/-- A call writes to the keys of the user whose sessions it works on, or deletes what
nobody has drawn. -/
theorem Setup.Writes.owned {phase next : Phase} {key : String} {slot : Slot (Stored Text)}
    (works : setup.Works (setup.operation call) phase)
    (writes : setup.Writes state call phase key slot next) :
    (∃ userId, setup.Owned userId key ∧ setup.Concerns userId (setup.operation call)) ∨
      ∃ sessionId, key = sessionKey sessionId ∧
        setup.Targets (setup.operation call) sessionId ∧
        ∀ userId, ¬setup.Draws userId sessionId := by
  cases writes with
  | sets input =>
      refine .inl ⟨input.record.userId, .inr ⟨_, ⟨call, input, works, rfl, rfl⟩, rfl⟩, ?_⟩
      rw [show setup.operation call = .create input from works]
      rfl
  | adds input | expires input =>
      refine .inl ⟨input.record.userId, .inl rfl, ?_⟩
      rw [show setup.operation call = .create input from works]
      rfl
  | prunes => exact .inl ⟨_, .inl rfl, works.1.concerns⟩
  | @deletes sessionId record rest =>
      have targets := works.1 sessionId List.mem_cons_self
      by_cases drawn : ∃ userId, setup.Draws userId sessionId
      · obtain ⟨userId, draws⟩ := drawn
        exact .inl ⟨userId, .inr ⟨sessionId, draws, rfl⟩, targets.concerns draws⟩
      · exact .inr ⟨sessionId, rfl, targets, fun userId draws => drawn ⟨userId, draws⟩⟩
  | @removes sessionId record rest =>
      have targets := works.1 sessionId List.mem_cons_self
      exact .inl ⟨record.userId, .inl rfl, targets.concerns works.2⟩

end Works

theorem Setup.Move.calls_kept [DecidableEq Call] {setup : Setup Call}
    {state following : State Call} {action : Action Call} {call : Call}
    (move : setup.Move state action following) (begun : state.calls call ≠ .ready)
    (other : action ≠ .command call) : following.calls call = state.calls call := by
  have goes := move.goes call
  generalize following.calls call = next at goes
  cases goes with
  | stays => rfl
  | starts ready => exact absurd ready begun
  | reads acts => exact absurd acts other
  | writes acts => exact absurd acts other

/-- A call that has begun stays so. -/
theorem Setup.Move.begun [DecidableEq Call] {setup : Setup Call}
    {state following : State Call} {action : Action Call} {call : Call}
    (move : setup.Move state action following) (begun : state.calls call ≠ .ready) :
    following.calls call ≠ .ready := by
  have goes := move.goes call
  generalize following.calls call = next at goes
  cases goes with
  | stays => exact begun
  | starts ready => exact absurd ready begun
  | reads _ reads =>
      intro same
      subst same
      cases reads.written
  | writes _ writes =>
      intro same
      subst same
      cases writes.written

/-- The pending command of a call can always be sent. -/
theorem Setup.command_enabled [DecidableEq Call] (setup : Setup Call) {state : State Call}
    {call : Call} (begun : state.calls call ≠ .ready)
    (returned : ∀ reply, state.calls call ≠ .returned reply)
    (rejected : state.calls call ≠ .rejected) :
    ∃ following, setup.step state (.command call) = some following := by
  simp only [step]
  cases phase : state.calls call with
  | ready => exact absurd phase begun
  | returned reply => exact absurd phase (returned reply)
  | rejected => exact absurd phase rejected
  | setting | adding | askingIndexTtl | expiring | getting | listing | visiting | pruning
  | askingSessionTtl | reading | deleting | removing => exact ⟨_, rfl⟩

theorem deleteEach_ne_rejected (sessionIds : List String) :
    deleteEach sessionIds ≠ .rejected := by
  cases sessionIds <;> exact nofun

theorem Operation.visit_ne_rejected (operation : Operation) (userId : String)
    (members : List String) (entries : List SessionListEntry) :
    operation.visit userId members entries ≠ .rejected := by
  cases members with
  | cons => exact nofun
  | nil =>
      cases operation with
      | revokeAllForUser => exact deleteEach_ne_rejected _
      | _ => exact nofun

section Steps

variable {setup : Setup Call} {state following : State Call} {call : Call} {action : Action Call}

theorem Setup.Sound.get_plain {sessionId : String} (sound : setup.Sound state)
    (plain : ':' ∉ sessionId.toList) :
    ∃ raw, state.keys.get state.now (sessionKey sessionId) = .ok raw := by
  cases replied : state.keys.get state.now (sessionKey sessionId) with
  | ok raw => exact ⟨raw, rfl⟩
  | error =>
      obtain ⟨members, found⟩ := Keyspace.get_error_iff.mp replied
      have occupies := sound.occupies found
      cases occupies with
      | index _ same =>
          rw [same] at plain
          simp at plain

/-- Only the create of the user writes what is stored under a drawn id. -/
theorem Setup.Sound.record_of_draws {userId sessionId : String} {cell : Cell (Stored Text)}
    (sound : setup.Sound state) (draws : setup.Draws userId sessionId)
    (stored : state.keys (sessionKey sessionId) = some cell) :
    ∃ text record, cell.value = .text text ∧ parseRecord (some text) = some record ∧
      record.userId = userId := by
  have occupies := sound.occupants sessionId cell stored
  generalize cell.value = value at occupies
  cases occupies with
  | @record call input created same =>
      obtain ⟨record, normalized, user⟩ := normalizeRecord_toJson input.record
      have owner : setup.Draws input.record.userId sessionId := ⟨call, input, created, rfl, same⟩
      exact ⟨_, record, rfl, normalized, user.trans (owner.unique draws)⟩
  | counter _ found =>
      exact absurd (counterKey_of_sessionId found) (counterKey_ne_sessionKey draws.plain _ _)
  | index _ same =>
      have plain := draws.plain
      rw [same] at plain
      simp at plain

/-- A live member of the index of a user is a session whose record belongs to the user. -/
theorem Setup.Sound.record_of_member {userId sessionId : String} {cell : Cell (Stored Text)}
    (sound : setup.Sound state)
    (member : sessionId ∈ Slot.smembers state.now (state.index userId))
    (alive : Slot.live state.now (state.keys (sessionKey sessionId)) = some cell) :
    ∃ text record, cell.value = .text text ∧ parseRecord (some text) = some record ∧
      record.userId = userId :=
  sound.record_of_draws (sound.members userId sessionId (Slot.holds_of_smembers member)).draws
    (Slot.live_some_iff.mp alive).1

variable [DecidableEq Call]

/-- What a get makes of the reply. -/
theorem Setup.replied_get (stepped : setup.step state (.command call) = some following)
    {sessionId : String} (getting : state.calls call = .getting sessionId)
    {found : Option SessionRecord} (returned : following.calls call = .returned (.record found)) :
    ∃ raw, state.keys.get state.now (sessionKey sessionId) = .ok raw ∧
      found = parseRecord raw := by
  simp only [step, getting, answer, Option.map_some] at stepped
  cases stepped
  have next := (State.goto_self _ _ _).symm.trans returned
  cases replied : state.keys.get state.now (sessionKey sessionId) with
  | error wrong =>
      rw [replied] at next
      cases next
  | ok raw =>
      rw [replied] at next
      cases next
      exact ⟨raw, rfl, rfl⟩

/-- No command of the store fails on the type of its key. -/
theorem Setup.not_rejected (uuids : setup.Plain) (sound : setup.Sound state)
    (works : setup.Works (setup.operation call) (state.calls call))
    (stepped : setup.step state (.command call) = some following) :
    following.calls call ≠ .rejected := by
  have knows := sound.knows call
  obtain ⟨⟨keys, next⟩, answers, rfl⟩ := Option.map_eq_some_iff.mp stepped
  change (state.goto call next).calls call ≠ .rejected
  rw [State.goto_self]
  cases phase : state.calls call with
  | adding input =>
      rw [phase] at answers
      simp only [answer, Keyspace.sadd, sound.setAt_index, orRejected, Except.map] at answers
      cases answers
      intro impossible
      cases impossible
  | getting sessionId =>
      rw [phase] at works answers
      have plain := uuids call sessionId (by rw [show setup.operation call = _ from works]; rfl)
      obtain ⟨raw, replied⟩ := sound.get_plain plain
      simp only [answer, replied, orRejected] at answers
      cases answers
      intro impossible
      cases impossible
  | listing userId =>
      rw [phase] at answers
      simp only [answer, sound.smembers_index, orRejected] at answers
      cases answers
      exact Operation.visit_ne_rejected _ _ _ _
  | visiting userId sessionId rest entries =>
      rw [phase] at knows answers
      obtain ⟨raw, replied⟩ := sound.get_issued knows.1
      simp only [answer, replied, orRejected] at answers
      split at answers
      · cases answers
        intro impossible
        cases impossible
      · cases answers
        intro impossible
        cases impossible
  | pruning userId sessionId rest entries =>
      rw [phase] at answers
      simp only [answer, Keyspace.srem, sound.setAt_index, orRejected, Except.map] at answers
      cases answers
      exact Operation.visit_ne_rejected _ _ _ _
  | reading sessionId rest =>
      rw [phase] at works answers
      obtain ⟨raw, replied⟩ := sound.get_plain ((works sessionId List.mem_cons_self).plain uuids)
      simp only [answer, replied, orRejected] at answers
      cases answers
      intro impossible
      cases impossible
  | deleting sessionId record rest =>
      rw [phase] at answers
      cases answers
      cases record with
      | none => exact deleteEach_ne_rejected rest
      | some record =>
          intro impossible
          cases impossible
  | removing sessionId record rest =>
      rw [phase] at answers
      simp only [answer, Keyspace.srem, sound.setAt_index, orRejected, Except.map] at answers
      cases answers
      exact deleteEach_ne_rejected rest
  | askingSessionTtl =>
      rw [phase] at answers
      cases answers
      exact Operation.visit_ne_rejected _ _ _ _
  | setting | askingIndexTtl | expiring =>
      rw [phase] at answers
      cases answers
      intro impossible
      cases impossible
  | ready | returned | rejected =>
      rw [phase] at answers
      cases answers

/-- The phase of every call is one of its operation. -/
theorem Setup.works_step (sound : setup.Sound state)
    (works : ∀ call, setup.Works (setup.operation call) (state.calls call))
    (stepped : setup.step state action = some following) (call : Call) :
    setup.Works (setup.operation call) (following.calls call) := by
  have goes := (setup.moved stepped).goes call
  generalize reached : following.calls call = next at goes
  cases goes with
  | stays => exact works call
  | starts ready => exact setup.works_start _
  | reads acts reads =>
      subst acts
      refine reads.works sound (works call) ?_
      intro sessionId found getting returned record member
      obtain ⟨raw, replied, rfl⟩ :=
        setup.replied_get stepped getting (reached.trans returned)
      exact sound.issued replied member
  | writes _ writes => exact writes.works (works call)

/-- The members of an index are distinct. -/
def State.Distinct (state : State Call) : Prop :=
  ∀ userId cell, state.index userId = some cell → cell.value.Nodup

theorem State.Distinct.step (distinct : state.Distinct)
    (move : setup.Move state action following) : following.Distinct := by
  intro userId cell stored
  have indexes := move.indexes userId
  generalize following.index userId = index at stored indexes
  have live (before : Cell (List String))
      (found : Slot.live state.now (state.index userId) = some before) : before.value.Nodup :=
    distinct userId before (Slot.live_some_iff.mp found).1
  cases indexes with
  | keeps => exact distinct userId cell stored
  | adds =>
      unfold Slot.sadd at stored
      split at stored
      · cases stored
        exact List.nodup_singleton _
      · rename_i before found
        cases stored
        exact (live before found).insert
  | expires =>
      unfold Slot.expire at stored
      split at stored
      · rename_i before found
        cases stored
        exact live before found
      · exact distinct userId cell stored
  | removes =>
      unfold Slot.srem at stored
      split at stored
      · exact distinct userId cell stored
      · rename_i before found
        simp only at stored
        split at stored
        · cases stored
        · cases stored
          exact (live before found).filter _
  | deletes => cases stored

/-- What is known of every reachable state. -/
structure Setup.Kept (setup : Setup Call) (state : State Call) : Prop where
  sound : setup.Sound state
  works : ∀ call, setup.Works (setup.operation call) (state.calls call)
  distinct : state.Distinct

theorem Setup.Kept.step (kept : setup.Kept state)
    (stepped : setup.step state action = some following) : setup.Kept following :=
  { sound := kept.sound.step (setup.moved stepped)
    works := setup.works_step kept.sound kept.works stepped
    distinct := kept.distinct.step (setup.moved stepped) }

theorem Setup.kept_initial (initial : state.initial) : setup.Kept state := by
  obtain ⟨keys, calls⟩ := initial
  have reached : setup.system.Reachable anyAction state := ⟨state, [], ⟨keys, calls⟩, .nil⟩
  constructor
  · exact setup.sound_of_reachable reached
  · intro call
    rw [calls]
    trivial
  · intro userId cell stored
    rw [State.index, keys] at stored
    cases stored

/-- A step that does not work on the sessions of the user leaves the user's keys. -/
theorem Setup.Move.leaves (move : setup.Move state action following) (uuids : setup.Plain)
    (works : ∀ call, setup.Works (setup.operation call) (state.calls call)) {userId key : String}
    (owned : setup.Owned userId key)
    (apart : ∀ call, action = .command call →
      ¬setup.Concerns userId (setup.operation call)) :
    following.keys key = state.keys key := by
  cases move with
  | advances | starts | reads => rfl
  | @writes call written slot next writes =>
      refine Function.update_of_ne ?_ _ _
      intro equal
      subst equal
      rcases writes.owned (works call) with ⟨other, owned', concerns⟩ |
        ⟨sessionId, rfl, targets, undrawn⟩
      · rw [← owned.unique owned'] at concerns
        exact apart call rfl concerns
      · rcases owned with same | ⟨sessionId', draws, same⟩
        · exact sessionKey_ne_userIndexKey (targets.plain uuids) userId same
        · rw [← sessionKey_injective same] at draws
          exact undrawn userId draws
  | @counts keyPrefix ip =>
      refine Function.update_of_ne ?_ _ _
      rcases owned with rfl | ⟨sessionId, draws, rfl⟩
      · exact (counterKey_ne_userIndexKey keyPrefix ip userId).symm
      · exact (counterKey_ne_sessionKey draws.plain keyPrefix ip).symm
  | others feature =>
      refine Function.update_of_ne ?_ _ _
      rcases owned with rfl | ⟨sessionId, _, rfl⟩
      · exact (featureKey_ne_userIndexKey feature userId).symm
      · exact (featureKey_ne_sessionKey feature sessionId).symm

end Steps

end BackendFoundation.Sessions
