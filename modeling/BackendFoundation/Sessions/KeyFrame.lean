/-
What a session id that a client makes up can do to the keys of other features.

All keys share one namespace, and an id from a cookie goes into a key as it is. GET
fails on an index, and nobody looks at what else is stored there before the DEL.
-/

import BackendFoundation.Sessions.Listing

namespace BackendFoundation.Sessions

open Transition Redis

variable {Call : Type} {setup : Setup Call} {state : State Call}

/-- The id that a client has supplied. -/
def Operation.clientId : Operation → Option String
  | get sessionId | delete sessionId | revoke sessionId => some sessionId
  | _ => none

/-- The phases of a call on one id. -/
def Phase.Concerns (sessionId : String) : Phase → Prop
  | .getting session => session = sessionId
  | .reading session rest | .deleting session _ rest | .removing session _ rest =>
      session = sessionId ∧ rest = []
  | .ready | .returned _ | .rejected => True
  | _ => False

/-- Every key is left as it was, apart from those that create has written as sessions;
the index of its user may lose the id of the session. -/
def Setup.Spares (setup : Setup Call) (state following : State Call)
    (sessionId : String) : Prop :=
  ∀ key, (∀ userId issued, setup.Issued state userId issued → key ≠ sessionKey issued) →
    Slot.live state.now (following.keys key) = Slot.live state.now (state.keys key) ∨
      ∃ userId, key = userIndexKey userId ∧ setup.Issued state userId sessionId ∧
        following.index userId = Slot.srem state.now (state.index userId) sessionId

/-- The pending command is the DEL of a key that is in use, and the id has the form of
a counter of the session routes or of an index. -/
def State.HitsOther (state : State Call) (call : Call) (sessionId : String) : Prop :=
  (∃ record rest, state.calls call = .deleting sessionId record rest) ∧
    Slot.live state.now (state.keys (sessionKey sessionId)) ≠ none ∧
    ((∃ keyPrefix ip, KeyPrefix.sessionId keyPrefix ip = some sessionId) ∨
      ∃ userId, sessionId = "user:" ++ userId)

theorem Operation.concerns_start {operation : Operation} {sessionId : String}
    (client : operation.clientId = some sessionId) : operation.start.Concerns sessionId := by
  cases operation with
  | revoke other =>
      cases client
      simp only [Operation.start]
      split
      · trivial
      · exact ⟨rfl, rfl⟩
  | get other =>
      cases client
      rfl
  | delete other =>
      cases client
      exact ⟨rfl, rfl⟩
  | create | listByUserId | revokeAllForUser => cases client

theorem Setup.Reads.concerns {call : Call} {phase next : Phase} {sessionId : String}
    (concerns : phase.Concerns sessionId) (reads : setup.Reads state call phase next) :
    next.Concerns sessionId := by
  cases reads with
  | reads => exact concerns
  | gets | rejects => trivial
  | asksIndexTtl | lists | misses | finds | enters => exact concerns.elim

theorem Setup.Writes.concerns {call : Call} {phase next : Phase} {sessionId key : String}
    {slot : Slot (Stored Text)} (concerns : phase.Concerns sessionId)
    (writes : setup.Writes state call phase key slot next) : next.Concerns sessionId := by
  cases writes with
  | @deletes _ record =>
      obtain ⟨rfl, rfl⟩ := concerns
      cases record with
      | none => trivial
      | some => exact ⟨rfl, rfl⟩
  | removes =>
      obtain ⟨rfl, rfl⟩ := concerns
      trivial
  | sets | adds | expires | prunes => exact concerns.elim

/-- Neither a counter nor an index goes by an id that create has drawn. -/
theorem Setup.Issued.not_other {userId sessionId : String}
    (issued : setup.Issued state userId sessionId) :
    ¬((∃ keyPrefix ip, KeyPrefix.sessionId keyPrefix ip = some sessionId) ∨
      ∃ userId, sessionId = "user:" ++ userId) := by
  obtain ⟨call, _, _, _, rfl, _⟩ := issued
  have plain := setup.sessionId_plain call
  intro either
  rcases either with ⟨keyPrefix, ip, found⟩ | ⟨userId, same⟩
  · exact counterKey_ne_sessionKey plain keyPrefix ip (counterKey_of_sessionId found)
  · rw [same] at plain
    simp at plain

/-- A key in use under an id is a session, or its id has one of the other forms. -/
theorem Setup.Sound.in_use {sessionId : String} (sound : setup.Sound state)
    (inUse : Slot.live state.now (state.keys (sessionKey sessionId)) ≠ none) :
    (∃ userId, setup.Issued state userId sessionId) ∨
      ((∃ keyPrefix ip, KeyPrefix.sessionId keyPrefix ip = some sessionId) ∨
        ∃ userId, sessionId = "user:" ++ userId) := by
  obtain ⟨cell, alive⟩ := Option.ne_none_iff_exists'.mp inUse
  have stored := (Slot.live_some_iff.mp alive).1
  have occupies := sound.occupants sessionId cell stored
  generalize cell.value = value at occupies
  cases occupies with
  | @record actor input created same =>
      subst same
      have written := (sound.records actor input cell created stored).1
      exact .inl ⟨_, actor, input, created, rfl, rfl, written⟩
  | counter _ found => exact .inr (.inl ⟨_, _, found⟩)
  | index _ same => exact .inr (.inr ⟨_, same⟩)

section Steps

variable [DecidableEq Call] {following : State Call} {action : Action Call} {call : Call}
  {sessionId : String}

theorem Setup.concerns_of_reachable {permitted : State Call → Action Call → Prop}
    (reached : setup.system.Reachable permitted state)
    (client : (setup.operation call).clientId = some sessionId) :
    (state.calls call).Concerns sessionId := by
  have invariant : (fun state : State Call => (state.calls call).Concerns sessionId) state := by
    apply reached.invariant
    · intro start initial
      simp only [initial.2]
      trivial
    · intro before action after concerns _ stepped
      have goes := (setup.moved stepped).goes call
      generalize after.calls call = next at goes
      cases goes with
      | stays => exact concerns
      | starts ready => exact Operation.concerns_start client
      | reads _ reads => exact reads.concerns concerns
      | writes _ writes => exact writes.concerns concerns
  exact invariant

/-- The DEL of an id empties its key. -/
theorem Setup.keys_of_deleting {record : Option SessionRecord} {rest : List String}
    (stepped : setup.step state (.command call) = some following)
    (deleting : state.calls call = .deleting sessionId record rest) :
    following.keys = Function.update state.keys (sessionKey sessionId) none := by
  simp only [step, deleting, answer, Option.map_some] at stepped
  cases stepped
  rfl

theorem Setup.spares_of_not_hits (sound : setup.Sound state)
    (concerns : (state.calls call).Concerns sessionId)
    (move : setup.Move state (.command call) following)
    (hitsNot : ¬state.HitsOther call sessionId) :
    setup.Spares state following sessionId := by
  intro key foreign
  have knows := sound.knows call
  cases move with
  | reads => exact .inl rfl
  | @writes _ written slot next writes =>
      generalize reached : state.calls call = phase at concerns knows writes
      cases writes with
      | @removes session record rest =>
          obtain ⟨rfl, _⟩ := concerns
          by_cases same : key = userIndexKey record.userId
          · refine .inr ⟨record.userId, same, knows.1, ?_⟩
            simp only [State.index, Function.update_self, Keyspace.asSet_ofSet]
          · exact .inl (congrArg _ (Function.update_of_ne same _ _))
      | @deletes session record rest =>
          obtain ⟨rfl, _⟩ := concerns
          by_cases same : key = sessionKey session
          · subst same
            simp only [Function.update_self]
            by_cases missing : Slot.live state.now (state.keys (sessionKey session)) = none
            · exact .inl missing.symm
            · rcases sound.in_use missing with ⟨userId, issued⟩ | other
              · exact absurd rfl (foreign userId session issued)
              · exact absurd ⟨⟨record, rest, reached⟩, missing, other⟩ hitsNot
          · exact .inl (congrArg _ (Function.update_of_ne same _ _))
      | sets | adds | expires | prunes => exact concerns.elim

theorem State.HitsOther.not_spares (hits : state.HitsOther call sessionId)
    (stepped : setup.step state (.command call) = some following) :
    ¬setup.Spares state following sessionId := by
  intro spares
  obtain ⟨⟨record, rest, deleting⟩, inUse, other⟩ := hits
  have foreign : ∀ userId issued, setup.Issued state userId issued →
      sessionKey sessionId ≠ sessionKey issued := by
    intro userId issued drawn same
    rw [← sessionKey_injective same] at drawn
    exact drawn.not_other other
  rcases spares (sessionKey sessionId) foreign with same | ⟨userId, _, issued, _⟩
  · rw [setup.keys_of_deleting stepped deleting, Function.update_self] at same
    exact inUse same.symm
  · exact issued.not_other other

end Steps

/-- No command on an id that a client supplies touches the keys of others. -/
def Setup.TouchesOnlySessions {Call : Type} [DecidableEq Call] (setup : Setup Call) : Prop :=
  ∀ state call sessionId following, setup.system.Reachable anyAction state →
    (setup.operation call).clientId = some sessionId →
    setup.system.step state (.command call) = some following →
    setup.Spares state following sessionId

theorem spares_iff_not_hitsOther {Call : Type} [DecidableEq Call] (setup : Setup Call)
    {state following : State Call} {call : Call} {sessionId : String}
    (reached : setup.system.Reachable anyAction state)
    (client : (setup.operation call).clientId = some sessionId)
    (stepped : setup.system.step state (.command call) = some following) :
    setup.Spares state following sessionId ↔ ¬state.HitsOther call sessionId := by
  constructor
  · intro spares hits
    exact hits.not_spares stepped spares
  · intro hitsNot
    exact setup.spares_of_not_hits (setup.sound_of_reachable reached)
      (setup.concerns_of_reachable reached client) (setup.moved stepped) hitsNot

/-- A login, and a logout with a cookie of any content. -/
def logout (cookie : String) : Setup Bool :=
  { logins with operation := fun call =>
      if call then logins.operation true else .revoke cookie }

def Phase.deletingId : Phase → Option String
  | .deleting sessionId _ _ => some sessionId
  | _ => none

theorem Phase.of_deletingId {phase : Phase} {sessionId : String}
    (found : phase.deletingId = some sessionId) :
    ∃ record rest, phase = .deleting sessionId record rest := by
  unfold deletingId at found
  split at found <;> cases found
  exact ⟨_, _, rfl⟩

theorem Setup.step_deleting {Call : Type} [DecidableEq Call] (setup : Setup Call)
    {state : State Call} {call : Call} {sessionId : String}
    (deleting : (state.calls call).deletingId = some sessionId) :
    ∃ following, setup.system.step state (.command call) = some following := by
  obtain ⟨record, rest, phase⟩ := Phase.of_deletingId deleting
  simp only [system, step, phase, answer, Option.map_some]
  exact ⟨_, rfl⟩

/-- The DEL of a logout with the id of the login. -/
theorem spares_ownSession :
    ∃ state following, (∃ record rest, state.calls false = .deleting "a4f6" record rest) ∧
      (logout "a4f6").system.step state (.command false) = some following ∧
      ((logout "a4f6").Spares state following "a4f6" ↔ ¬state.HitsOther false "a4f6") := by
  have executed :
      ((logout "a4f6").system.execute (fun _ _ => true) State.empty
        [.start true, .command true, .command true, .command true, .command true,
          .start false, .command false]).map (fun state => (state.calls false).deletingId) =
      some (some "a4f6") := by
    decide +kernel
  obtain ⟨state, run, deleting⟩ := Option.map_eq_some_iff.mp executed
  have reached : (logout "a4f6").system.Reachable anyAction state :=
    .of_execute (fun _ _ _ => trivial) ⟨rfl, rfl⟩ run
  obtain ⟨following, stepped⟩ := (logout "a4f6").step_deleting deleting
  exact ⟨state, following, Phase.of_deletingId deleting, stepped,
    spares_iff_not_hitsOther (logout "a4f6") reached rfl stepped⟩

/-- The cookie names the counter of the route that lists sessions. -/
theorem not_touchesOnlySessions :
    ¬∀ setup : Setup Bool, setup.TouchesOnlySessions := by
  intro claim
  have executed :
      ((logout "list:203.0.113.7").system.execute (fun _ _ => true) State.empty
        [.check .sessionsList "203.0.113.7" 60, .start false, .command false]).map
        (fun state => ((state.calls false).deletingId,
          Slot.present state.now (state.keys (sessionKey "list:203.0.113.7")))) =
      some (some "list:203.0.113.7", true) := by
    decide +kernel
  obtain ⟨state, run, facts⟩ := Option.map_eq_some_iff.mp executed
  simp only [Prod.mk.injEq] at facts
  obtain ⟨deleting, present⟩ := facts
  have reached : (logout "list:203.0.113.7").system.Reachable anyAction state :=
    .of_execute (fun _ _ _ => trivial) ⟨rfl, rfl⟩ run
  obtain ⟨following, stepped⟩ := (logout "list:203.0.113.7").step_deleting deleting
  have hits : state.HitsOther false "list:203.0.113.7" := by
    refine ⟨Phase.of_deletingId deleting, ?_, .inl ⟨.sessionsList, "203.0.113.7", by decide⟩⟩
    exact Option.isSome_iff_ne_none.mp present
  exact hits.not_spares stepped (claim _ state false _ following reached rfl stepped)

end BackendFoundation.Sessions
