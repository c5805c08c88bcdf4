/-
A session that the index lists is found by the next listByUserId and deleted by the
next revokeAllForUser, when nothing but the time comes between their commands.
-/

import BackendFoundation.Sessions.UserIndex

namespace BackendFoundation.Sessions

open Transition Redis

variable {Call : Type} {setup : Setup Call} {state : State Call} {lister : Call}

/-- The steps of one call, and the time. -/
def Alone (lister : Call) (_ : State Call) : Action Call → Prop
  | .advance _ => True
  | .start call | .command call => call = lister
  | _ => False

/-- The session is still ahead of the call, or among its entries. -/
def Setup.Sees (setup : Setup Call) (state : State Call) (call : Call) (input : CreateInput) :
    Phase → Prop
  | .ready => setup.Outlives state call input
  | .listing userId => userId = input.record.userId ∧ setup.Outlives state call input
  | .visiting _ sessionId rest entries | .askingSessionTtl _ sessionId _ rest entries =>
      setup.sessionId call ∈ sessionId :: rest ∨
        setup.sessionId call ∈ entries.map SessionListEntry.id
  | .pruning _ _ rest entries =>
      setup.sessionId call ∈ rest ∨ setup.sessionId call ∈ entries.map SessionListEntry.id
  | .reading sessionId rest | .deleting sessionId _ rest =>
      setup.sessionId call ∈ sessionId :: rest
  | .removing _ _ rest => setup.sessionId call ∈ rest
  | .returned (.entries entries) => setup.sessionId call ∈ entries.map SessionListEntry.id
  | .rejected => True
  | _ => False

/-- While the session is alive, the call sees it. -/
structure Setup.Ahead (setup : Setup Call) (lister call : Call) (input : CreateInput)
    (state : State Call) : Prop where
  sound : setup.Sound state
  written : (state.calls call).written = true
  sees : setup.Alive state call → setup.Sees state call input (state.calls lister)

section Sees

variable {call : Call} {input : CreateInput}

theorem Setup.sees_deleteEach {sessionIds : List String}
    (inside : setup.sessionId call ∈ sessionIds) :
    setup.Sees state call input (deleteEach sessionIds) := by
  cases sessionIds with
  | nil => cases inside
  | cons => exact inside

def Operation.Lists (operation : Operation) (userId : String) : Prop :=
  operation = .listByUserId userId ∨ operation = .revokeAllForUser userId

theorem Setup.sees_visit {operation : Operation} {userId : String}
    (lists : operation.Lists input.record.userId) {members : List String}
    {entries : List SessionListEntry}
    (inside : setup.sessionId call ∈ members ∨
      setup.sessionId call ∈ entries.map SessionListEntry.id) :
    setup.Sees state call input (operation.visit userId members entries) := by
  cases members with
  | cons sessionId rest => exact inside
  | nil =>
      have entered := inside.resolve_left List.not_mem_nil
      rcases lists with rfl | rfl
      · exact entered
      · exact setup.sees_deleteEach entered

theorem Setup.Outlives.listed (outlives : setup.Outlives state call input)
    (alive : setup.Alive state call) :
    setup.sessionId call ∈ Slot.smembers state.now (state.index input.record.userId) := by
  obtain ⟨stored, alive⟩ := alive
  obtain ⟨index, found, inside, _⟩ := outlives stored alive
  exact Slot.mem_smembers_iff.mpr ⟨index, found, inside⟩

theorem Setup.Sees.later {now : Nat} {phase : Phase} (order : state.now ≤ now)
    (sees : setup.Sees state call input phase) :
    setup.Sees { state with now := now } call input phase := by
  cases phase with
  | ready => exact Setup.Outlives.later sees order
  | listing => exact ⟨sees.1, sees.2.later order⟩
  | returned reply => cases reply <;> exact sees
  | _ => exact sees

theorem Setup.Reads.sees {phase next : Phase} (sound : setup.Sound state)
    (lists : (setup.operation lister).Lists input.record.userId)
    (written : (state.calls call).written = true)
    (created : setup.operation call = .create input)
    (alive : setup.Alive state call) (sees : setup.Sees state call input phase)
    (reads : setup.Reads state lister phase next) : setup.Sees state call input next := by
  cases reads with
  | @lists userId members replied =>
      obtain ⟨rfl, outlives⟩ := sees
      have inside := outlives.listed alive
      rw [sound.smembers_index] at replied
      cases replied
      exact setup.sees_visit lists (.inl inside)
  | @misses userId sessionId rest entries raw replied missing =>
      rcases sees with here | entered
      · rcases List.mem_cons.mp here with rfl | later
        · have issued : setup.Issued state input.record.userId (setup.sessionId call) :=
            ⟨call, input, created, rfl, rfl, written⟩
          obtain ⟨stored, alive⟩ := alive
          exact absurd ((sound.gone issued replied missing).symm.trans alive) (by simp)
        · exact .inl later
      · exact .inr entered
  | finds => exact sees
  | @enters userId sessionId record rest entries expiry =>
      apply setup.sees_visit lists
      rw [List.map_append, List.mem_append]
      rcases sees with here | entered
      · rcases List.mem_cons.mp here with same | later
        · exact .inr (.inr (List.mem_singleton.mpr same))
        · exact .inl later
      · exact .inr (.inl entered)
  | reads => exact sees
  | rejects => trivial
  | asksIndexTtl | gets => exact sees.elim

theorem Setup.Writes.sees {following : State Call} {phase next : Phase} {key : String}
    {slot : Slot (Stored Text)}
    (lists : (setup.operation lister).Lists input.record.userId)
    (alive : setup.Alive following call) (sees : setup.Sees state call input phase)
    (writes : setup.Writes state lister phase key slot next)
    (written : following.keys = Function.update state.keys key slot) :
    setup.Sees following call input next := by
  cases writes with
  | prunes => exact setup.sees_visit lists sees
  | @deletes sessionId record rest =>
      have rest' : setup.sessionId call ∈ rest := by
        rcases List.mem_cons.mp sees with same | later
        · obtain ⟨stored, alive⟩ := alive
          rw [Setup.session, written, same, Function.update_self] at alive
          cases alive
        · exact later
      cases record with
      | none => exact setup.sees_deleteEach rest'
      | some => exact rest'
  | removes => exact setup.sees_deleteEach sees
  | sets | adds | expires => exact sees.elim

end Sees

theorem Setup.Sound.srem_index (sound : setup.Sound state) (userId sessionId : String) :
    ∃ keys, state.keys.srem state.now (userIndexKey userId) sessionId = .ok keys := by
  unfold Keyspace.srem
  rw [sound.setAt_index]
  exact ⟨_, rfl⟩

theorem Setup.Sound.get_issued {userId sessionId : String} (sound : setup.Sound state)
    (issued : setup.Issued state userId sessionId) :
    ∃ raw, state.keys.get state.now (sessionKey sessionId) = .ok raw := by
  obtain ⟨actor, _, _, _, rfl, _⟩ := issued
  cases replied : state.keys.get state.now (sessionKey (setup.sessionId actor)) with
  | ok raw => exact ⟨raw, rfl⟩
  | error =>
      obtain ⟨members, found⟩ := Keyspace.get_error_iff.mp replied
      have occupies := sound.occupies found
      cases occupies with
      | index _ same =>
          have plain := setup.sessionId_plain actor
          rw [same] at plain
          simp at plain

theorem Setup.Outlives.ahead {call : Call} {input : CreateInput} (sound : setup.Sound state)
    (created : setup.Created state call input) (outlives : setup.Outlives state call input)
    (ready : state.calls lister = .ready) : setup.Ahead lister call input state := by
  refine ⟨sound, ?_, ?_⟩
  · rw [created.2]
    rfl
  · intro _
    rw [ready]
    exact outlives

section Run

variable [DecidableEq Call] {following finish : State Call} {action : Action Call}
  {call : Call} {input : CreateInput}

theorem Setup.Ahead.step (ahead : setup.Ahead lister call input state)
    (created : setup.operation call = .create input)
    (lists : (setup.operation lister).Lists input.record.userId)
    (permitted : Alone lister state action) (move : setup.Move state action following) :
    setup.Ahead lister call input following := by
  refine ⟨ahead.sound.step move, move.written ahead.written, ?_⟩
  intro alive
  have before : setup.Alive state call := by
    obtain ⟨stored, alive⟩ := alive
    exact ⟨stored, move.alive ahead.written alive⟩
  have sees := ahead.sees before
  cases move with
  | advances milliseconds => exact sees.later (Nat.le_add_right _ _)
  | starts ready =>
      subst permitted
      rw [State.goto_self]
      rw [ready] at sees
      rcases lists with operation | operation <;> rw [operation] <;> exact ⟨rfl, sees⟩
  | reads reads =>
      subst permitted
      rw [State.goto_self]
      have sees' := reads.sees ahead.sound lists ahead.written created before sees
      exact sees'
  | @writes actor key slot next writes =>
      subst permitted
      change setup.Sees _ call input ((state.goto actor next).calls actor)
      rw [State.goto_self]
      exact writes.sees lists alive sees rfl
  | counts | others => exact permitted.elim

theorem Setup.Ahead.run {actions : List (Action Call)}
    (ahead : setup.Ahead lister call input state)
    (created : setup.operation call = .create input)
    (lists : (setup.operation lister).Lists input.record.userId)
    (run : setup.system.Run (Alone lister) state actions finish) :
    setup.Ahead lister call input finish := by
  apply run.preserves
  · intro before action after ahead permitted stepped
    exact ahead.step created lists permitted (setup.moved stepped)
  · exact ahead

end Run

section Completion

variable [DecidableEq Call] {following : State Call} {userId : String}

/-- The call returns if nothing comes between its commands. -/
def Setup.Completes (setup : Setup Call) (lister : Call) (state : State Call)
    (expected : Reply → Prop) : Prop :=
  ∃ actions finish reply, setup.system.Run (Alone lister) state actions finish ∧
    finish.now = state.now ∧ finish.calls lister = .returned reply ∧ expected reply

/-- The pending command of a call that runs alone, and the rest of the call. -/
theorem Setup.Completes.command {phase next : Phase} {keys : Keyspace Text}
    {expected : Reply → Prop} (reached : state.calls lister = phase)
    (answers : setup.answer lister state.now state.keys phase = some (keys, next))
    (rest : ∀ following, setup.Move state (.command lister) following →
      following.now = state.now → following.calls lister = next →
      setup.Completes lister following expected) :
    setup.Completes lister state expected := by
  have stepped : setup.step state (.command lister) =
      some { state.goto lister next with keys := keys } := by
    simp only [step, reached, answers, Option.map_some]
  obtain ⟨actions, finish, reply, run, unchanged, returned, meets⟩ :=
    rest _ (setup.moved stepped) rfl (State.goto_self _ _ _)
  have first : setup.system.Run (Alone lister) state ([] ++ [.command lister]) _ :=
    .snoc .nil rfl stepped
  exact ⟨_, finish, reply, first.append run, unchanged, returned, meets⟩

theorem Setup.completes_deleteEach (sessionIds : List String) {state : State Call}
    (sound : setup.Sound state) (reached : state.calls lister = deleteEach sessionIds)
    (issued : ∀ sessionId ∈ sessionIds, setup.Issued state userId sessionId) :
    setup.Completes lister state fun reply => reply = .done := by
  induction sessionIds generalizing state with
  | nil => exact ⟨[], state, .done, .nil, rfl, reached, rfl⟩
  | cons sessionId rest ih =>
      obtain ⟨raw, replied⟩ := sound.get_issued (issued sessionId List.mem_cons_self)
      have reads : setup.answer lister state.now state.keys (.reading sessionId rest) =
          some (state.keys, .deleting sessionId (parseRecord raw) rest) := by
        simp only [answer, replied, orRejected]
      apply Completes.command reached reads
      intro second read _ deleting
      have sound₂ := sound.step read
      have issued₂ (member : String) (inside : member ∈ rest) :=
        read.issued (issued member (List.mem_cons_of_mem _ inside))
      cases parsed : parseRecord raw with
      | none =>
          rw [parsed] at deleting
          apply Completes.command deleting rfl
          intro third deleted _ next
          apply ih (sound₂.step deleted) next
          intro member inside
          exact deleted.issued (issued₂ member inside)
      | some record =>
          rw [parsed] at deleting
          apply Completes.command deleting rfl
          intro third deleted _ removing
          have sound₃ := sound₂.step deleted
          obtain ⟨keys, removed⟩ := sound₃.srem_index record.userId sessionId
          have removes : setup.answer lister third.now third.keys
              (.removing sessionId record rest) = some (keys, deleteEach rest) := by
            simp only [answer, removed, orRejected]
          apply Completes.command removing removes
          intro fourth removed _ next
          apply ih (sound₃.step removed) next
          intro member inside
          exact removed.issued (deleted.issued (issued₂ member inside))

/-- A call that visits the members goes on to what it does with its entries. -/
theorem Setup.completes_visit {expected : Reply → Prop}
    (listed : ∀ state entries, setup.Sound state →
      state.calls lister = (setup.operation lister).listed entries →
      (∀ entry ∈ entries, setup.Issued state userId entry.id) →
      setup.Completes lister state expected)
    (members : List String) {state : State Call} {entries : List SessionListEntry}
    (sound : setup.Sound state)
    (reached : state.calls lister = (setup.operation lister).visit userId members entries)
    (issued : ∀ sessionId ∈ members, setup.Issued state userId sessionId)
    (entered : ∀ entry ∈ entries, setup.Issued state userId entry.id) :
    setup.Completes lister state expected := by
  induction members generalizing state entries with
  | nil => exact listed state entries sound reached entered
  | cons sessionId rest ih =>
      have current := issued sessionId List.mem_cons_self
      obtain ⟨raw, replied⟩ := sound.get_issued current
      cases parsed : parseRecord raw with
      | none =>
          have reads : setup.answer lister state.now state.keys
              (.visiting userId sessionId rest entries) =
              some (state.keys, .pruning userId sessionId rest entries) := by
            simp only [answer, replied, orRejected, parsed]
          apply Completes.command reached reads
          intro second read _ pruning
          have sound₂ := sound.step read
          obtain ⟨keys, removed⟩ := sound₂.srem_index userId sessionId
          have prunes : setup.answer lister second.now second.keys
              (.pruning userId sessionId rest entries) =
              some (keys, (setup.operation lister).visit userId rest entries) := by
            simp only [answer, removed, orRejected]
          apply Completes.command pruning prunes
          intro third pruned _ next
          apply ih (sound₂.step pruned) next
          · intro member inside
            exact pruned.issued (read.issued (issued member (List.mem_cons_of_mem _ inside)))
          · intro entry inside
            exact pruned.issued (read.issued (entered entry inside))
      | some record =>
          have reads : setup.answer lister state.now state.keys
              (.visiting userId sessionId rest entries) =
              some (state.keys, .askingSessionTtl userId sessionId record rest entries) := by
            simp only [answer, replied, orRejected, parsed]
          apply Completes.command reached reads
          intro second read _ asking
          apply Completes.command asking rfl
          intro third asked _ next
          apply ih ((sound.step read).step asked) next
          · intro member inside
            exact asked.issued (read.issued (issued member (List.mem_cons_of_mem _ inside)))
          · intro entry inside
            rcases List.mem_append.mp inside with before | new
            · exact asked.issued (read.issued (entered entry before))
            · rw [List.mem_singleton.mp new]
              exact asked.issued (read.issued current)

theorem Setup.completes_lists {expected : Reply → Prop}
    (lists : (setup.operation lister).Lists userId) (sound : setup.Sound state)
    (ready : state.calls lister = .ready)
    (listed : ∀ state entries, setup.Sound state →
      state.calls lister = (setup.operation lister).listed entries →
      (∀ entry ∈ entries, setup.Issued state userId entry.id) →
      setup.Completes lister state expected) :
    setup.Completes lister state expected := by
  have stepped : setup.step state (.start lister) =
      some (state.goto lister (.listing userId)) := by
    simp only [step, ready]
    rcases lists with operation | operation <;> rw [operation] <;> rfl
  have sound₁ := sound.step (setup.moved stepped)
  have lists' : setup.answer lister state.now state.keys (.listing userId) =
      some (state.keys, (setup.operation lister).visit userId
        (Slot.smembers state.now (state.index userId)) []) := by
    simp only [answer, sound.smembers_index, orRejected]
  have completes : setup.Completes lister (state.goto lister (.listing userId)) expected := by
    apply Completes.command (State.goto_self _ _ _) lists'
    intro second listing _ next
    apply setup.completes_visit listed _ (sound₁.step listing) next
    · intro member inside
      exact listing.issued (sound₁.members userId member (Slot.holds_of_smembers inside))
    · intro entry impossible
      cases impossible
  obtain ⟨actions, finish, reply, run, unchanged, returned, meets⟩ := completes
  have first : setup.system.Run (Alone lister) state ([] ++ [.start lister]) _ :=
    .snoc .nil rfl stepped
  exact ⟨_, finish, reply, first.append run, unchanged, returned, meets⟩

end Completion

section Claims

variable [DecidableEq Call]

/-- The index lists the session, and the calls that go by the index reach it. -/
structure Setup.Listed (setup : Setup Call) (state : State Call) (call : Call)
    (input : CreateInput) : Prop where
  member : setup.sessionId call ∈ Slot.smembers state.now (state.index input.record.userId)
  returned : ∀ lister, setup.operation lister = .listByUserId input.record.userId →
    state.calls lister = .ready →
    (setup.Completes lister state fun reply => ∃ entries, reply = .entries entries) ∧
      ∀ actions finish entries, setup.system.Run (Alone lister) state actions finish →
        finish.calls lister = .returned (.entries entries) → setup.Alive finish call →
        setup.sessionId call ∈ entries.map SessionListEntry.id
  deleted : ∀ revoker, setup.operation revoker = .revokeAllForUser input.record.userId →
    state.calls revoker = .ready →
    (setup.Completes revoker state fun reply => reply = .done) ∧
      ∀ actions finish, setup.system.Run (Alone revoker) state actions finish →
        finish.calls revoker = .returned .done → ¬setup.Alive finish call

/-- Every session whose create has returned, and that is there, is listed. -/
def Setup.ListsLiveSessions (setup : Setup Call)
    (permitted : State Call → Action Call → Prop) : Prop :=
  ∀ state call input, setup.system.Reachable permitted state →
    setup.Created state call input → setup.Alive state call →
    setup.Listed state call input

theorem listsLiveSessions_of_keepsIndex (setup : Setup Call) :
    setup.ListsLiveSessions setup.KeepsIndex := by
  intro state call input reached created alive
  have sound := setup.sound_of_reachable reached
  have outlives := (setup.covered_of_reachable reached).created call input created
  constructor
  · exact outlives.listed alive
  · intro lister operation ready
    have lists : (setup.operation lister).Lists input.record.userId := .inl operation
    constructor
    · apply setup.completes_lists lists sound ready
      intro after entries _ listed _
      rw [operation] at listed
      exact ⟨[], after, _, .nil, rfl, listed, entries, rfl⟩
    · intro actions finish entries run returned alive'
      have ahead := (outlives.ahead sound created ready).run created.1 lists run
      have sees := ahead.sees alive'
      rw [returned] at sees
      exact sees
  · intro revoker operation ready
    have lists : (setup.operation revoker).Lists input.record.userId := .inr operation
    constructor
    · apply setup.completes_lists lists sound ready
      intro after entries sound' listed issued
      rw [operation] at listed
      apply setup.completes_deleteEach _ sound' listed
      intro sessionId inside
      obtain ⟨entry, member, rfl⟩ := List.mem_map.mp inside
      exact issued entry member
    · intro actions finish run returned alive'
      have ahead := (outlives.ahead sound created ready).run created.1 lists run
      have sees := ahead.sees alive'
      rw [returned] at sees
      exact sees

/-- Two creates for one user that do not overlap, and no TTL that is rounded down below a live
session, are enough. -/
theorem listsLiveSessions_of_undisturbed (setup : Setup Call) :
    setup.ListsLiveSessions setup.Undisturbed := by
  intro state call input reached
  have kept := setup.keepsIndex_of_undisturbed reached
  exact listsLiveSessions_of_keepsIndex setup state call input kept

end Claims

def loginRecord : SessionRecord :=
  { userId := "u1"
    authVersion := 1
    createdAt := "2026-07-19T09:00:00.000Z"
    lastActivityAt := "2026-07-19T09:00:00.000Z"
    ip := none
    userAgent := none }

def loginId (call : Bool) : String :=
  if call then "a4f6" else "b7c1"

theorem loginId_injective : Function.Injective loginId := by
  intro first second same
  cases first <;> cases second <;> first | rfl | exact absurd same (by decide)

theorem loginId_plain (call : Bool) : ':' ∉ (loginId call).toList := by
  cases call <;> decide

theorem hour_pos : 0 < 3600 := by decide

theorem minute_pos : 0 < 60 := by decide

/-- Two logins of one user, for an hour and for a minute. -/
def logins : Setup Bool :=
  { operation := fun call => .create
      (if call then
        { record := loginRecord
          ttlSeconds := 3600
          positive := hour_pos }
      else
        { record := loginRecord
          ttlSeconds := 60
          positive := minute_pos })
    sessionId := loginId
    sessionId_injective := loginId_injective
    sessionId_plain := loginId_plain }

def Phase.createdId : Phase → Option String
  | .returned (.created sessionId) => some sessionId
  | _ => none

theorem Phase.of_createdId {phase : Phase} {sessionId : String}
    (found : phase.createdId = some sessionId) : phase = .returned (.created sessionId) := by
  unfold createdId at found
  split at found <;> cases found
  rfl

def State.empty {Call : Type} : State Call :=
  { now := 0
    keys := Keyspace.empty
    calls := fun _ => .ready }

/-- The short login reads the TTL of the index before the long one has set it, and sets
its own minute after that. A minute later the index is gone, and the long session is not. -/
theorem not_listsLiveSessions :
    ¬∀ setup : Setup Bool, setup.ListsLiveSessions anyAction := by
  intro claim
  have executed :
      (logins.system.execute (fun _ _ => true) State.empty
        [.start false, .command false, .command false, .command false,
          .start true, .command true, .command true, .command true, .command true,
          .command false, .advance 60001]).map
        (fun state => ((state.calls true).createdId,
          Slot.present state.now (logins.session state true),
          Slot.smembers state.now (state.index "u1"))) = some (some "a4f6", true, []) := by
    decide +kernel
  obtain ⟨state, run, facts⟩ := Option.map_eq_some_iff.mp executed
  simp only [Prod.mk.injEq] at facts
  obtain ⟨returned, present, members⟩ := facts
  have reached : logins.system.Reachable anyAction state :=
    .of_execute (fun _ _ _ => trivial) ⟨rfl, rfl⟩ run
  have alive : logins.Alive state true := Option.isSome_iff_exists.mp present
  have listed := claim logins state true _ reached ⟨rfl, Phase.of_createdId returned⟩ alive
  have inside : logins.sessionId true ∈ Slot.smembers state.now (state.index "u1") :=
    listed.member
  rw [members] at inside
  cases inside

end BackendFoundation.Sessions
