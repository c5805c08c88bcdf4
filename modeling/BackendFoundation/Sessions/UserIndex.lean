/-
The index of a user is meant to list every live session of the user.

Its expiry is the weak point. A create reads the TTL of the index and sets the expiry
in two commands, and the TTL it reads is rounded to whole seconds. In every run in which
these two commands of different creates for one user do not overlap, and no reply to TTL is
less than a live session has left, the larger of the two TTLs is long enough.
-/

import BackendFoundation.Sessions.Stored

namespace BackendFoundation.Sessions

open Transition Redis

variable {Call : Type}

def Setup.Alive (setup : Setup Call) (state : State Call) (call : Call) : Prop :=
  ∃ cell, Slot.live state.now (setup.session state call) = some cell

/-- The create has added its id to the index, whose expiry it has yet to set. -/
def Phase.awaitsExpiry : Phase → Bool
  | .askingIndexTtl _ | .expiring _ _ => true
  | _ => false

/-- The create has returned. -/
def Setup.Created (setup : Setup Call) (state : State Call) (call : Call)
    (input : CreateInput) : Prop :=
  setup.operation call = .create input ∧
    state.calls call = .returned (.created (setup.sessionId call))

/-- The index lists the session and is kept as long as the session, if that expires. -/
def Setup.Outlives (setup : Setup Call) (state : State Call) (call : Call)
    (input : CreateInput) : Prop :=
  ∀ stored, Slot.live state.now (setup.session state call) = some stored →
    ∃ index, Slot.live state.now (state.index input.record.userId) = some index ∧
      setup.sessionId call ∈ index.value ∧ ∀ expiry, index.expireAt = some expiry →
        ∃ deadline, stored.expireAt = some deadline ∧ deadline ≤ expiry

/-- The index of a user does not expire between the SADD and the EXPIRE of a create, no
EXPIRE sets it to expire before a session that has been created, and no DEL of a peculiar
session id hits it. -/
def Setup.KeepsIndex (setup : Setup Call) (state : State Call) : Action Call → Prop
  | .advance milliseconds =>
      ∀ call input index, setup.operation call = .create input →
        (state.calls call).awaitsExpiry = true →
        Slot.live (state.now + milliseconds) (setup.session state call) ≠ none →
        Slot.live state.now (state.index input.record.userId) = some index →
        Slot.live (state.now + milliseconds) (state.index input.record.userId) = some index
  | .command actor =>
      match state.calls actor with
      | .expiring input indexTtlSeconds =>
          ∀ call input' stored, setup.Created state call input' →
            input'.record.userId = input.record.userId →
            Slot.live state.now (setup.session state call) = some stored →
            ∃ deadline, stored.expireAt = some deadline ∧
              deadline ≤ state.now + indexTtlSeconds * 1000
      | .deleting sessionId _ _ =>
          ∀ call input, setup.operation call = .create input →
            (state.calls call).awaitsExpiry = true ∨ setup.Created state call input →
            setup.Alive state call → sessionKey sessionId ≠ userIndexKey input.record.userId
      | _ => True
  | _ => True

/-- No session that has been created for the user has more time left than the new TTL and the
reply of TTL, which rounds to seconds. -/
def Setup.Unshortened (setup : Setup Call) (state : State Call) (input : CreateInput) : Prop :=
  ∀ call input' stored deadline, setup.Created state call input' →
    input'.record.userId = input.record.userId →
    Slot.live state.now (setup.session state call) = some stored →
    stored.expireAt = some deadline →
    deadline ≤ state.now + input.ttlSeconds * 1000 ∨
      (deadline : Int) ≤
        state.now + state.keys.ttl state.now (userIndexKey input.record.userId) * 1000

/-- The index of a user does not expire between the SADD and the EXPIRE of a create, no other
EXPIRE for the user comes between the TTL and the EXPIRE of a create, no TTL is rounded down
below a live session, and no DEL of a peculiar session id hits the index. -/
def Setup.Undisturbed (setup : Setup Call) (state : State Call) : Action Call → Prop
  | .advance milliseconds =>
      ∀ call input index, setup.operation call = .create input →
        (state.calls call).awaitsExpiry = true →
        Slot.live (state.now + milliseconds) (setup.session state call) ≠ none →
        Slot.live state.now (state.index input.record.userId) = some index →
        Slot.live (state.now + milliseconds) (state.index input.record.userId) = some index
  | .command actor =>
      match state.calls actor with
      | .askingIndexTtl input => setup.Unshortened state input
      | .expiring input _ =>
          ∀ call input' indexTtlSeconds,
            state.calls call = .expiring input' indexTtlSeconds →
            input'.record.userId = input.record.userId → call = actor
      | .deleting sessionId _ _ =>
          ∀ call input, setup.operation call = .create input →
            (state.calls call).awaitsExpiry = true ∨ setup.Created state call input →
            setup.Alive state call → sessionKey sessionId ≠ userIndexKey input.record.userId
      | _ => True
  | _ => True

/-- The expiry that the create is about to set reaches past every session that has been created
for the user. -/
def Setup.Reaches (setup : Setup Call) (state : State Call) : Phase → Prop
  | .expiring input indexTtlSeconds =>
      ∀ call input' stored, setup.Created state call input' →
        input'.record.userId = input.record.userId →
        Slot.live state.now (setup.session state call) = some stored →
        ∃ deadline, stored.expireAt = some deadline ∧
          deadline ≤ state.now + indexTtlSeconds * 1000
  | _ => True

structure Setup.Covered (setup : Setup Call) (state : State Call) : Prop where
  awaiting : ∀ call input, setup.operation call = .create input →
    (state.calls call).awaitsExpiry = true → setup.Alive state call →
    ∃ index, Slot.live state.now (state.index input.record.userId) = some index ∧
      setup.sessionId call ∈ index.value
  created : ∀ call input, setup.Created state call input → setup.Outlives state call input

variable {setup : Setup Call} {state : State Call}

theorem Setup.Outlives.later {call : Call} {input : CreateInput} {now : Nat}
    (outlives : setup.Outlives state call input) (order : state.now ≤ now) :
    setup.Outlives { state with now := now } call input := by
  intro stored alive
  have before := Slot.live_earlier order alive
  obtain ⟨index, found, inside, bound⟩ := outlives stored before
  refine ⟨index, ?_, inside, bound⟩
  cases expiry : index.expireAt with
  | none =>
      apply Slot.live_some_iff.mpr
      exact ⟨(Slot.live_some_iff.mp found).1, by simp only [Cell.aliveAt, expiry]⟩
  | some deadline =>
      obtain ⟨sessionDeadline, same, le⟩ := bound deadline expiry
      have kept := (Slot.live_some_iff.mp alive).2
      simp only [Cell.aliveAt, same, decide_eq_true_eq] at kept
      exact Slot.live_until found expiry (Nat.le_trans kept le)

/-- A member whose session is alive stays in the index, under the same expiry or the one
that an EXPIRE has just set. -/
theorem Setup.Indexes.keeps_member {action : Action Call} {userId : String} {call : Call}
    {after : Slot (List String)} {index : Cell (List String)} (sound : setup.Sound state)
    (indexes : setup.Indexes state userId action after) (alive : setup.Alive state call)
    (found : Slot.live state.now (state.index userId) = some index)
    (inside : setup.sessionId call ∈ index.value)
    (undeleted : ∀ actor sessionId record rest, action = .command actor →
      state.calls actor = .deleting sessionId record rest →
      sessionKey sessionId ≠ userIndexKey userId) :
    ∃ index', Slot.live state.now after = some index' ∧
      setup.sessionId call ∈ index'.value ∧
      (index'.expireAt = index.expireAt ∨ ∃ actor input indexTtlSeconds,
        action = .command actor ∧ state.calls actor = .expiring input indexTtlSeconds ∧
        input.record.userId = userId ∧
        index'.expireAt = some (state.now + indexTtlSeconds * 1000)) := by
  cases indexes with
  | keeps => exact ⟨index, found, inside, .inl rfl⟩
  | adds =>
      obtain ⟨index', found', _, expiry, others⟩ :=
        Slot.live_sadd state.now (state.index userId) (setup.sessionId _)
      refine ⟨index', found', others index found _ inside, .inl ?_⟩
      rw [expiry, found]
      rfl
  | @expires actor input indexTtlSeconds expiring user =>
      simp only [Slot.expire, found]
      refine ⟨_, Slot.live_setEx_now state.now index.value indexTtlSeconds, inside, .inr ?_⟩
      exact ⟨actor, input, indexTtlSeconds, rfl, expiring, user, rfl⟩
  | @removes actor sessionId removing =>
      have gone : state.Gone sessionId := by
        have knows := sound.knows actor
        cases phase : state.calls actor <;> rw [phase] at knows removing <;>
          simp only [Phase.Removing] at removing
        · rw [← removing.2]
          exact knows.1.2
        · rw [← removing.2]
          exact knows.2
      have different : setup.sessionId call ≠ sessionId := by
        intro same
        obtain ⟨cell, alive⟩ := alive
        rw [← same] at gone
        have dead : Slot.live state.now (setup.session state call) = none := gone
        rw [dead] at alive
        cases alive
      obtain ⟨index', found', inside', expiry⟩ := Slot.live_srem found inside different
      exact ⟨index', found', inside', .inl expiry⟩
  | @deletes actor sessionId record rest deleting same =>
      exact absurd same (undeleted actor sessionId record rest rfl deleting)

theorem le_nextIndexTtl (currentIndexTtl : Int) (ttlSeconds : Nat) :
    ttlSeconds ≤ nextIndexTtl currentIndexTtl ttlSeconds := by
  unfold nextIndexTtl
  split
  · exact Nat.le_refl _
  · exact Nat.le_max_right _ _

theorem ttl_le_nextIndexTtl (currentIndexTtl : Int) (ttlSeconds : Nat) :
    currentIndexTtl ≤ nextIndexTtl currentIndexTtl ttlSeconds := by
  unfold nextIndexTtl
  split
  · omega
  · have larger := Nat.le_max_left currentIndexTtl.toNat ttlSeconds
    omega

theorem le_of_longer {deadline now ttlSeconds indexTtlSeconds : Nat} {currentIndexTtl : Int}
    (own : ttlSeconds ≤ indexTtlSeconds) (read : currentIndexTtl ≤ indexTtlSeconds)
    (bound : deadline ≤ now + ttlSeconds * 1000 ∨
      (deadline : Int) ≤ now + currentIndexTtl * 1000) :
    deadline ≤ now + indexTtlSeconds * 1000 := by
  omega

/-- The larger of the two TTLs reaches past every session. -/
theorem Setup.Unshortened.reaches {input : CreateInput} (sound : setup.Sound state)
    (unshortened : setup.Unshortened state input) :
    setup.Reaches state (.expiring input (nextIndexTtl
      (state.keys.ttl state.now (userIndexKey input.record.userId)) input.ttlSeconds)) := by
  intro call input' stored created sameUser alive
  obtain ⟨_, deadline, expiry, _⟩ :=
    sound.records call input' stored created.1 (Slot.live_some_iff.mp alive).1
  refine ⟨deadline, expiry, ?_⟩
  have bound := unshortened call input' stored deadline created sameUser alive expiry
  exact le_of_longer (le_nextIndexTtl _ _) (ttl_le_nextIndexTtl _ _) bound

/-- An expiry that reaches past every session is the one that the index is to have. -/
theorem Setup.Reaches.keepsIndex {action : Action Call}
    (reaches : ∀ call, setup.Reaches state (state.calls call))
    (undisturbed : setup.Undisturbed state action) : setup.KeepsIndex state action := by
  cases action with
  | advance => exact undisturbed
  | command actor =>
      have reach := reaches actor
      cases phase : state.calls actor with
      | expiring input indexTtlSeconds =>
          rw [phase] at reach
          simp only [KeepsIndex, phase]
          exact reach
      | deleting =>
          simp only [Undisturbed, phase] at undisturbed
          simp only [KeepsIndex, phase]
          exact undisturbed
      | _ => simp only [KeepsIndex, phase]
  | start | check | other => trivial

/-- From the SADD of a create on. -/
def Phase.added : Phase → Bool
  | .askingIndexTtl _ | .expiring _ _ | .returned (.created _) => true
  | _ => false

theorem Phase.added_of_awaits {phase : Phase} (awaits : phase.awaitsExpiry = true) :
    phase.added = true := by
  cases phase <;> first | rfl | cases awaits

theorem Phase.written_of_awaits {phase : Phase} (awaits : phase.awaitsExpiry = true) :
    phase.written = true := by
  cases phase <;> first | rfl | cases awaits

theorem added_deleteEach (sessionIds : List String) :
    (deleteEach sessionIds).added = false := by
  cases sessionIds <;> rfl

theorem Operation.added_start (operation : Operation) : operation.start.added = false := by
  cases operation with
  | revoke sessionId =>
      simp only [start]
      split
      · rfl
      · exact added_deleteEach [sessionId]
  | _ => rfl

theorem Operation.added_visit (operation : Operation) (userId : String)
    (members : List String) (entries : List SessionListEntry) :
    (operation.visit userId members entries).added = false := by
  cases members with
  | cons => rfl
  | nil =>
      cases operation with
      | revokeAllForUser => exact added_deleteEach _
      | _ => rfl

theorem Setup.Reads.added {call : Call} {phase next : Phase}
    (reads : setup.Reads state call phase next) (after : next.added = true) :
    ∃ input, phase = .askingIndexTtl input ∧ next = .expiring input (nextIndexTtl
      (state.keys.ttl state.now (userIndexKey input.record.userId)) input.ttlSeconds) := by
  cases reads with
  | asksIndexTtl input => exact ⟨input, rfl, rfl⟩
  | lists | enters =>
      rw [Operation.added_visit] at after
      cases after
  | _ => cases after

/-- The two writes of a create to its index. -/
theorem Setup.Writes.added {call : Call} {phase next : Phase} {key : String}
    {slot : Slot (Stored Text)} (writes : setup.Writes state call phase key slot next)
    (after : next.added = true) :
    ∃ input, key = userIndexKey input.record.userId ∧
      (phase = .adding input ∧ next = .askingIndexTtl input ∧ Slot.asSet slot =
          Slot.sadd state.now (state.index input.record.userId) (setup.sessionId call) ∨
        ∃ indexTtlSeconds, phase = .expiring input indexTtlSeconds ∧
          next = .returned (.created (setup.sessionId call)) ∧ Slot.asSet slot =
            (Slot.expire state.now (state.index input.record.userId) indexTtlSeconds).1) := by
  cases writes with
  | adds input => exact ⟨input, rfl, .inl ⟨rfl, rfl, Keyspace.asSet_ofSet _⟩⟩
  | expires input indexTtlSeconds =>
      exact ⟨input, rfl, .inr ⟨_, rfl, rfl, Keyspace.asSet_expire _ _ _⟩⟩
  | sets => cases after
  | prunes =>
      rw [Operation.added_visit] at after
      cases after
  | removes =>
      rw [added_deleteEach] at after
      cases after
  | @deletes _ record =>
      cases record with
      | none =>
          rw [added_deleteEach] at after
          cases after
      | some => cases after

theorem Setup.Goes.expiring {following : State Call} {action : Action Call} {call : Call}
    {input : CreateInput} {indexTtlSeconds : Nat} {next : Phase}
    (goes : setup.Goes state following action call next)
    (waits : next = .expiring input indexTtlSeconds) :
    state.calls call = .expiring input indexTtlSeconds ∨
      action = .command call ∧ state.calls call = .askingIndexTtl input ∧
        indexTtlSeconds = nextIndexTtl
          (state.keys.ttl state.now (userIndexKey input.record.userId)) input.ttlSeconds := by
  have added : next.added = true := by
    rw [waits]
    rfl
  cases goes with
  | stays => exact .inl waits
  | starts =>
      rw [Operation.added_start] at added
      cases added
  | reads acts reads =>
      obtain ⟨input', asking, expiring⟩ := reads.added added
      cases waits.symm.trans expiring
      exact .inr ⟨acts, asking, rfl⟩
  | writes _ writes =>
      obtain ⟨_, _, ⟨_, asking, _⟩ | ⟨_, _, returned, _⟩⟩ := writes.added added
      · cases waits.symm.trans asking
      · cases waits.symm.trans returned

theorem Setup.Covered.advance (covered : setup.Covered state) {milliseconds : Nat}
    (permitted : setup.KeepsIndex state (.advance milliseconds)) :
    setup.Covered { state with now := state.now + milliseconds } := by
  constructor
  · intro call input created awaits alive
    obtain ⟨stored, alive⟩ := alive
    have before : setup.Alive state call := ⟨stored, Slot.live_earlier (Nat.le_add_right _ _) alive⟩
    obtain ⟨index, found, inside⟩ := covered.awaiting call input created awaits before
    have still : Slot.live (state.now + milliseconds) (setup.session state call) ≠ none := by
      intro gone
      exact absurd (gone.symm.trans alive) (by simp)
    exact ⟨index, permitted call input index created awaits still found, inside⟩
  · intro call input created
    exact (covered.created call input created).later (Nat.le_add_right _ _)

section Steps

variable [DecidableEq Call] {following : State Call} {action : Action Call}

theorem Setup.Move.advances_or (move : setup.Move state action following) :
    (∃ milliseconds, action = .advance milliseconds ∧
      following = { state with now := state.now + milliseconds }) ∨
      following.now = state.now := by
  cases move with
  | advances milliseconds => exact .inl ⟨milliseconds, rfl, rfl⟩
  | starts | reads | writes | counts | others => exact .inr rfl

/-- How a create comes to wait for its EXPIRE. -/
theorem Setup.Move.awaits (sound : setup.Sound state)
    (move : setup.Move state action following) {call : Call} {input : CreateInput}
    (created : setup.operation call = .create input)
    (after : (following.calls call).awaitsExpiry = true) :
    (state.calls call).awaitsExpiry = true ∨
      following.index input.record.userId =
        Slot.sadd state.now (state.index input.record.userId) (setup.sessionId call) := by
  have knows := sound.knows call
  have goes := move.goes call
  generalize following.calls call = next at goes after
  cases goes with
  | stays => exact .inl after
  | starts ready =>
      rw [created] at after
      cases after
  | reads _ reads =>
      obtain ⟨input', phase, _⟩ := reads.added (Phase.added_of_awaits after)
      rw [phase]
      exact .inl rfl
  | writes _ writes keys =>
      obtain ⟨input', rfl, ⟨phase, _, written⟩ | ⟨_, _, returned, _⟩⟩ :=
        writes.added (Phase.added_of_awaits after)
      · rw [phase] at knows
        obtain rfl : input = input' := Operation.create.inj (created.symm.trans knows)
        simp only [State.index, keys, Function.update_self]
        exact .inr written
      · rw [returned] at after
        cases after

/-- How a create comes to return. -/
theorem Setup.Move.created (sound : setup.Sound state)
    (move : setup.Move state action following) {call : Call} {input : CreateInput}
    (after : setup.Created following call input) :
    setup.Created state call input ∨ ∃ indexTtlSeconds,
      action = .command call ∧ state.calls call = .expiring input indexTtlSeconds ∧
      following.index input.record.userId =
        (Slot.expire state.now (state.index input.record.userId) indexTtlSeconds).1 := by
  obtain ⟨created, returned⟩ := after
  have knows := sound.knows call
  have goes := move.goes call
  generalize following.calls call = next at goes returned
  cases goes with
  | stays => exact .inl ⟨created, returned⟩
  | starts ready =>
      rw [created] at returned
      cases returned
  | reads _ reads =>
      obtain ⟨_, _, expiring⟩ := reads.added (by rw [returned]; rfl)
      rw [expiring] at returned
      cases returned
  | writes acts writes keys =>
      obtain ⟨input', rfl, ⟨_, asking, _⟩ | ⟨indexTtlSeconds, phase, _, written⟩⟩ :=
        writes.added (by rw [returned]; rfl)
      · rw [asking] at returned
        cases returned
      · rw [phase] at knows
        obtain rfl : input = input' := Operation.create.inj (created.symm.trans knows.1)
        refine .inr ⟨indexTtlSeconds, acts, phase, ?_⟩
        simp only [State.index, keys, Function.update_self]
        exact written

/-- A session that is alive after a step was so before, unless the step has written it. -/
theorem Setup.Move.alive (move : setup.Move state action following) {call : Call}
    {stored : Cell (Stored Text)} (written : (state.calls call).written = true)
    (alive : Slot.live following.now (setup.session following call) = some stored) :
    Slot.live state.now (setup.session state call) = some stored := by
  rcases move.session call with same | removed | ⟨input, setting, _⟩
  · rw [same] at alive
    exact Slot.live_earlier move.now_le alive
  · rw [removed] at alive
    cases alive
  · rw [setting] at written
    cases written

/-- What reaches past every session still does so if the step creates none for the user. -/
theorem Setup.Reaches.after {input : CreateInput} {indexTtlSeconds : Nat}
    (reaches : setup.Reaches state (.expiring input indexTtlSeconds))
    (move : setup.Move state action following)
    (created_before : ∀ call input', setup.Created following call input' →
      input'.record.userId = input.record.userId → setup.Created state call input') :
    setup.Reaches following (.expiring input indexTtlSeconds) := by
  intro call input' stored created sameUser alive
  have before := created_before call input' created sameUser
  have earlier : Slot.live state.now (setup.session state call) = some stored := by
    apply move.alive _ alive
    rw [before.2]
    rfl
  obtain ⟨deadline, expiry, bound⟩ := reaches call input' stored before sameUser earlier
  have order := move.now_le
  exact ⟨deadline, expiry, by omega⟩

theorem Setup.Reaches.step (sound : setup.Sound state)
    (reaches : ∀ call, setup.Reaches state (state.calls call))
    (undisturbed : setup.Undisturbed state action) (move : setup.Move state action following)
    (actor : Call) : setup.Reaches following (following.calls actor) := by
  have goes := move.goes actor
  cases reached : following.calls actor with
  | expiring input indexTtlSeconds =>
      -- The step is not the EXPIRE of the actor, which waits for it afterwards.
      have created_before (alone : ∀ call input' seconds, action = .command call →
          state.calls call = .expiring input' seconds →
          input'.record.userId = input.record.userId → call = actor) (call : Call)
          (input' : CreateInput) (created : setup.Created following call input')
          (sameUser : input'.record.userId = input.record.userId) :
          setup.Created state call input' := by
        rcases move.created sound created with before | ⟨seconds, acts, expiring, _⟩
        · exact before
        · obtain rfl := alone call input' seconds acts expiring sameUser
          have returned := created.2
          rw [reached] at returned
          cases returned
      have entered := goes.expiring reached
      rcases entered with waits | ⟨acts, asking, rfl⟩
      · have reach := reaches actor
        rw [waits] at reach
        apply reach.after move
        apply created_before
        intro call input' seconds acts expiring sameUser
        subst acts
        simp only [Undisturbed, expiring] at undisturbed
        exact (undisturbed actor input indexTtlSeconds waits sameUser.symm).symm
      · subst acts
        simp only [Undisturbed, asking] at undisturbed
        apply (undisturbed.reaches sound).after move
        apply created_before
        intro call input' seconds acts _ _
        exact (Action.command.inj acts).symm
  | _ => trivial

theorem Setup.Covered.awaiting_step (sound : setup.Sound state) (covered : setup.Covered state)
    (permitted : setup.KeepsIndex state action) (move : setup.Move state action following)
    (now : following.now = state.now) {call : Call} {input : CreateInput}
    (created : setup.operation call = .create input)
    (awaits : (following.calls call).awaitsExpiry = true)
    (alive : setup.Alive following call) :
    ∃ index, Slot.live following.now (following.index input.record.userId) = some index ∧
      setup.sessionId call ∈ index.value := by
  rw [now]
  rcases move.awaits sound created awaits with before | added
  · obtain ⟨stored, alive⟩ := alive
    have earlier := move.alive (Phase.written_of_awaits before) alive
    obtain ⟨index, found, inside⟩ := covered.awaiting call input created before ⟨stored, earlier⟩
    obtain ⟨index', found', inside', _⟩ :=
      (move.indexes input.record.userId).keeps_member sound ⟨stored, earlier⟩ found inside (by
        intro actor sessionId record rest acts deleting
        subst acts
        simp only [KeepsIndex, deleting] at permitted
        exact permitted call input created (.inl before) ⟨stored, earlier⟩)
    exact ⟨index', found', inside'⟩
  · rw [added]
    obtain ⟨index, found, inside, _⟩ :=
      Slot.live_sadd state.now (state.index input.record.userId) (setup.sessionId call)
    exact ⟨index, found, inside⟩

theorem Setup.Covered.created_step (sound : setup.Sound state) (covered : setup.Covered state)
    (permitted : setup.KeepsIndex state action) (move : setup.Move state action following)
    (now : following.now = state.now) {call : Call} {input : CreateInput}
    (created : setup.Created following call input) :
    setup.Outlives following call input := by
  intro stored alive
  rw [now] at alive ⊢
  rcases move.created sound created with before | ⟨indexTtlSeconds, _, expiring, expired⟩
  · have earlier : Slot.live state.now (setup.session state call) = some stored := by
      apply move.alive
      · rw [before.2]
        rfl
      · rw [now]
        exact alive
    obtain ⟨index, found, inside, bound⟩ := covered.created call input before stored earlier
    obtain ⟨index', found', inside',
        expiry | ⟨actor, input', seconds, acts, expiring, user, expiry⟩⟩ :=
      (move.indexes input.record.userId).keeps_member sound ⟨stored, earlier⟩ found inside (by
        intro actor sessionId record rest acts deleting
        subst acts
        simp only [KeepsIndex, deleting] at permitted
        exact permitted call input before.1 (.inr before) ⟨stored, earlier⟩)
    · refine ⟨index', found', inside', ?_⟩
      rw [expiry]
      exact bound
    · refine ⟨index', found', inside', ?_⟩
      intro deadline same
      rw [expiry] at same
      cases same
      subst acts
      simp only [KeepsIndex, expiring] at permitted
      exact permitted call input stored before user.symm earlier
  · have earlier : Slot.live state.now (setup.session state call) = some stored := by
      apply move.alive
      · rw [expiring]
        rfl
      · rw [now]
        exact alive
    obtain ⟨index, found, inside⟩ := covered.awaiting call input created.1
      (by rw [expiring]; rfl) ⟨stored, earlier⟩
    have knows := sound.knows call
    rw [expiring] at knows
    obtain ⟨_, deadline, expiry, bound⟩ :=
      sound.records call input stored created.1 (Slot.live_some_iff.mp earlier).1
    rw [expired]
    simp only [Slot.expire, found]
    refine ⟨_, Slot.live_setEx_now state.now index.value indexTtlSeconds, inside, ?_⟩
    intro indexExpiry same
    cases same
    refine ⟨deadline, expiry, Nat.le_trans bound ?_⟩
    have longer := knows.2
    omega

theorem Setup.Covered.step (sound : setup.Sound state) (covered : setup.Covered state)
    (permitted : setup.KeepsIndex state action) (move : setup.Move state action following) :
    setup.Covered following := by
  rcases move.advances_or with ⟨milliseconds, rfl, rfl⟩ | now
  · exact covered.advance permitted
  · constructor
    · intro call input created awaits alive
      exact covered.awaiting_step sound permitted move now created awaits alive
    · intro call input created
      exact covered.created_step sound permitted move now created

/-- In a run without such a disturbance the index is kept. -/
theorem Setup.keepsIndex_of_undisturbed
    (reached : setup.system.Reachable setup.Undisturbed state) :
    setup.system.Reachable setup.KeepsIndex state := by
  have initially : ∀ start : State Call, start.initial →
      setup.Sound start ∧ ∀ call, setup.Reaches start (start.calls call) := by
    intro start initial
    refine ⟨setup.sound_initial initial, ?_⟩
    intro call
    rw [initial.2]
    trivial
  apply (reached.establishes initially ?_).1
  intro before action after known undisturbed stepped
  obtain ⟨sound, reaches⟩ := known
  have move := setup.moved stepped
  exact ⟨Reaches.keepsIndex reaches undisturbed, sound.step move,
    Reaches.step sound reaches undisturbed move⟩

theorem Setup.covered_of_reachable (reached : setup.system.Reachable setup.KeepsIndex state) :
    setup.Covered state := by
  apply reached.invariant_using
  · intro earlier before
    exact setup.sound_of_reachable before
  · intro start initial
    obtain ⟨_, calls⟩ := initial
    constructor
    · intro call input _ awaits
      rw [calls] at awaits
      cases awaits
    · intro call input created
      have returned := created.2
      rw [calls] at returned
      cases returned
  · intro before action after sound covered permitted stepped
    exact covered.step sound permitted (setup.moved stepped)

end Steps

end BackendFoundation.Sessions
