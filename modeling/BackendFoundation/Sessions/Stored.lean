/-
What is stored under the keys of the sessions is sound in every reachable state.
-/

import BackendFoundation.Sessions.Steps

namespace BackendFoundation.Sessions

open Transition Redis

variable {Call : Type} {setup : Setup Call} {state : State Call}

section Occupants

theorem normalizeRecord_toJson (record : SessionRecord) :
    ∃ stored, normalizeRecord record.toJson = some stored ∧ stored.userId = record.userId :=
  ⟨_, rfl, rfl⟩

/-- Nothing but the record of a create parses as a session. -/
theorem Setup.Occupies.parsed {sessionId : String} {text : Text} {record : SessionRecord}
    (occupies : setup.Occupies sessionId (.text text))
    (parsed : parseRecord (some text) = some record) :
    ∃ call input, setup.operation call = .create input ∧ setup.sessionId call = sessionId ∧
      input.record.userId = record.userId := by
  cases occupies with
  | @record call input created same =>
      obtain ⟨stored, normalized, user⟩ := normalizeRecord_toJson input.record
      have found : stored = record := Option.some.inj (normalized.symm.trans parsed)
      exact ⟨call, input, created, same, found ▸ user.symm⟩
  | counter => cases parsed

theorem Setup.Sound.occupies (sound : setup.Sound state) {sessionId : String}
    {value : Stored Text}
    (found : Slot.get state.now (state.keys (sessionKey sessionId)) = some value) :
    setup.Occupies sessionId value := by
  obtain ⟨cell, alive, rfl⟩ := Slot.get_eq_some_iff.mp found
  exact sound.occupants sessionId cell (Slot.live_some_iff.mp alive).1

/-- An index is never a string. -/
theorem Setup.Sound.index (sound : setup.Sound state) {userId : String}
    {cell : Cell (Stored Text)} (stored : state.keys (userIndexKey userId) = some cell) :
    ∃ members, cell.value = .set members := by
  rw [userIndexKey_eq] at stored
  have occupies := sound.occupants _ cell stored
  generalize cell.value = value at occupies
  cases occupies with
  | record created same =>
      rename_i call _
      have plain := setup.sessionId_plain call
      rw [same] at plain
      simp at plain
  | @counter keyPrefix ip count found =>
      have key := counterKey_of_sessionId found
      rw [← userIndexKey_eq] at key
      exact absurd key (counterKey_ne_userIndexKey keyPrefix ip userId)
  | index members => exact ⟨members, rfl⟩

theorem Setup.Sound.setAt_index (sound : setup.Sound state) (userId : String) :
    Keyspace.setAt state.now state.keys (userIndexKey userId) = .ok (state.index userId) := by
  rw [Keyspace.setAt_ok_iff]
  refine ⟨?_, rfl⟩
  intro text found
  obtain ⟨cell, alive, value⟩ := Slot.get_eq_some_iff.mp found
  obtain ⟨members, set⟩ := sound.index (Slot.live_some_iff.mp alive).1
  rw [set] at value
  cases value

theorem Setup.Sound.smembers_index (sound : setup.Sound state) (userId : String) :
    state.keys.smembers state.now (userIndexKey userId) =
      .ok (Slot.smembers state.now (state.index userId)) := by
  unfold Keyspace.smembers
  rw [sound.setAt_index]
  rfl

theorem occupants_update (sound : setup.Sound state) {key : String}
    {slot : Slot (Stored Text)}
    (written : ∀ sessionId cell, key = sessionKey sessionId → slot = some cell →
      setup.Occupies sessionId cell.value) (sessionId : String) (cell : Cell (Stored Text))
    (stored : Function.update state.keys key slot (sessionKey sessionId) = some cell) :
    setup.Occupies sessionId cell.value := by
  by_cases same : sessionKey sessionId = key
  · rw [same, Function.update_self] at stored
    exact written sessionId cell same.symm stored
  · rw [Function.update_of_ne same] at stored
    exact sound.occupants sessionId cell stored

theorem ofSet_value {slot : Slot (List String)} {cell : Cell (Stored Text)}
    (stored : Slot.ofSet slot = some cell) : ∃ members, cell.value = .set members := by
  obtain ⟨_, _, rfl⟩ := Option.map_eq_some_iff.mp stored
  exact ⟨_, rfl⟩

theorem expire_value {Value : Type} {now ttlSeconds : Nat} {slot : Slot Value}
    {cell : Cell Value} (stored : (Slot.expire now slot ttlSeconds).1 = some cell) :
    ∃ earlier, slot = some earlier ∧ earlier.value = cell.value := by
  unfold Slot.expire at stored
  split at stored
  · rename_i earlier alive
    cases stored
    exact ⟨earlier, (Slot.live_some_iff.mp alive).1, rfl⟩
  · exact ⟨cell, stored, rfl⟩

theorem occupies_index {userId sessionId : String} {members : List String}
    (same : userIndexKey userId = sessionKey sessionId) :
    setup.Occupies sessionId (.set members) := by
  rw [userIndexKey_eq] at same
  exact .index members (sessionKey_injective same).symm

theorem Setup.Writes.occupies {actor : Call} {phase next : Phase} {key : String}
    {slot : Slot (Stored Text)} (sound : setup.Sound state)
    (knows : setup.Knows state actor phase)
    (writes : setup.Writes state actor phase key slot next) (sessionId : String)
    (cell : Cell (Stored Text)) (same : key = sessionKey sessionId)
    (stored : slot = some cell) : setup.Occupies sessionId cell.value := by
  cases writes with
  | sets input =>
      cases stored
      exact .record knows (sessionKey_injective same)
  | deletes => cases stored
  | adds | prunes | removes =>
      obtain ⟨members, value⟩ := ofSet_value stored
      rw [value]
      exact occupies_index same
  | expires input =>
      obtain ⟨earlier, before, value⟩ := expire_value stored
      obtain ⟨members, set⟩ := sound.index before
      rw [← value, set]
      exact occupies_index same

/-- Only its own SET writes a session; a DEL by anyone removes it. -/
theorem Setup.Writes.session {call actor : Call} {phase next : Phase} {key : String}
    {slot : Slot (Stored Text)} (writes : setup.Writes state actor phase key slot next)
    (same : key = sessionKey (setup.sessionId call)) :
    slot = none ∨ actor = call ∧ ∃ input, phase = .setting input ∧
      slot = Slot.setEx state.now (.text (some input.record.toJson)) input.ttlSeconds := by
  have foreign := sessionKey_ne_userIndexKey (setup.sessionId_plain call)
  cases writes with
  | sets input =>
      have actor := setup.sessionId_injective (sessionKey_injective same)
      exact .inr ⟨actor, input, rfl, rfl⟩
  | deletes => exact .inl rfl
  | adds | expires | prunes | removes => exact absurd same.symm (foreign _)

end Occupants

/-- The session that the SREM of a call takes out of an index. -/
def Phase.Removing (userId sessionId : String) : Phase → Prop
  | .pruning user session _ _ => user = userId ∧ session = sessionId
  | .removing session record _ => record.userId = userId ∧ session = sessionId
  | _ => False

/-- What a step makes of the index of a user. -/
inductive Setup.Indexes (setup : Setup Call) (state : State Call) (userId : String) :
    Action Call → Slot (List String) → Prop
  | keeps (action : Action Call) : Indexes setup state userId action (state.index userId)
  | adds {call : Call} {input : CreateInput} (adding : state.calls call = .adding input)
      (user : input.record.userId = userId) :
      Indexes setup state userId (.command call)
        (Slot.sadd state.now (state.index userId) (setup.sessionId call))
  | expires {call : Call} {input : CreateInput} {indexTtlSeconds : Nat}
      (expiring : state.calls call = .expiring input indexTtlSeconds)
      (user : input.record.userId = userId) :
      Indexes setup state userId (.command call)
        (Slot.expire state.now (state.index userId) indexTtlSeconds).1
  | removes {call : Call} {sessionId : String}
      (removing : (state.calls call).Removing userId sessionId) :
      Indexes setup state userId (.command call)
        (Slot.srem state.now (state.index userId) sessionId)
  | deletes {call : Call} {sessionId : String} {record : Option SessionRecord}
      {rest : List String} (deleting : state.calls call = .deleting sessionId record rest)
      (same : sessionKey sessionId = userIndexKey userId) :
      Indexes setup state userId (.command call) none

theorem Setup.Writes.indexes {call : Call} {phase next : Phase} {key userId : String}
    {slot : Slot (Stored Text)} (reached : state.calls call = phase)
    (writes : setup.Writes state call phase key slot next)
    (same : key = userIndexKey userId) :
    setup.Indexes state userId (.command call) (Slot.asSet slot) := by
  cases writes with
  | sets input =>
      exact absurd same (sessionKey_ne_userIndexKey (setup.sessionId_plain call) userId)
  | adds input =>
      obtain rfl := userIndexKey_injective same
      rw [Keyspace.asSet_ofSet]
      exact .adds reached rfl
  | expires input indexTtlSeconds =>
      obtain rfl := userIndexKey_injective same
      rw [Keyspace.asSet_expire]
      exact .expires reached rfl
  | prunes =>
      obtain rfl := userIndexKey_injective same
      rw [Keyspace.asSet_ofSet]
      refine .removes (?_ : (state.calls call).Removing _ _)
      rw [reached]
      exact ⟨rfl, rfl⟩
  | removes =>
      obtain rfl := userIndexKey_injective same
      rw [Keyspace.asSet_ofSet]
      refine .removes (?_ : (state.calls call).Removing _ _)
      rw [reached]
      exact ⟨rfl, rfl⟩
  | deletes => exact .deletes reached same

section Knowledge

variable {call : Call}

theorem Setup.knows_deleteEach (sessionIds : List String) :
    setup.Knows state call (deleteEach sessionIds) := by
  cases sessionIds <;> trivial

theorem Setup.knows_visit (operation : Operation) {userId : String} {members : List String}
    (issued : ∀ member ∈ members, setup.Issued state userId member)
    (entries : List SessionListEntry) :
    setup.Knows state call (operation.visit userId members entries) := by
  cases members with
  | cons sessionId rest =>
      exact ⟨issued sessionId List.mem_cons_self,
        fun member inside => issued member (List.mem_cons_of_mem _ inside)⟩
  | nil =>
      cases operation with
      | revokeAllForUser => exact setup.knows_deleteEach _
      | _ => trivial

/-- The id of a create that GET does not find, or not as a record, is gone. -/
theorem Setup.Sound.gone (sound : setup.Sound state) {userId sessionId : String}
    {raw : Option Text} (issued : setup.Issued state userId sessionId)
    (replied : state.keys.get state.now (sessionKey sessionId) = .ok raw)
    (missing : parseRecord raw = none) : state.Gone sessionId := by
  obtain ⟨actor, _, _, _, rfl, _⟩ := issued
  have stored := Keyspace.get_ok_iff.mp replied
  cases raw with
  | none => exact Slot.get_eq_none_iff.mp stored
  | some text =>
      have occupies := sound.occupies stored
      cases occupies with
      | @record _ input =>
          obtain ⟨record, normalized, _⟩ := normalizeRecord_toJson input.record
          exact absurd (normalized.symm.trans missing) (by simp)
      | counter count found =>
          exact absurd (counterKey_of_sessionId found)
            (counterKey_ne_sessionKey (setup.sessionId_plain actor) _ _)

/-- What GET finds and parses has been written by a create. -/
theorem Setup.Sound.issued (sound : setup.Sound state) {sessionId : String}
    {raw : Option Text} {record : SessionRecord}
    (replied : state.keys.get state.now (sessionKey sessionId) = .ok raw)
    (parsed : parseRecord raw = some record) :
    setup.Issued state record.userId sessionId := by
  have stored := Keyspace.get_ok_iff.mp replied
  cases raw with
  | none => cases parsed
  | some text =>
      obtain ⟨actor, input, created, rfl, user⟩ := (sound.occupies stored).parsed parsed
      obtain ⟨cell, alive, _⟩ := Slot.get_eq_some_iff.mp stored
      have written := (sound.records actor input cell created (Slot.live_some_iff.mp alive).1).1
      exact ⟨actor, input, created, user, rfl, written⟩

theorem Setup.Reads.knows {phase next : Phase} (sound : setup.Sound state)
    (knows : setup.Knows state call phase) (reads : setup.Reads state call phase next) :
    setup.Knows state call next := by
  cases reads with
  | asksIndexTtl input =>
      refine ⟨knows, ?_⟩
      unfold nextIndexTtl
      split
      · exact Nat.le_refl _
      · exact Nat.le_max_right _ _
  | @lists userId members replied =>
      rw [sound.smembers_index] at replied
      cases replied
      apply setup.knows_visit
      intro member inside
      exact sound.members userId member (Slot.holds_of_smembers inside)
  | misses replied missing =>
      obtain ⟨issued, rest⟩ := knows
      exact ⟨⟨issued, sound.gone issued replied missing⟩, rest⟩
  | finds => exact knows.2
  | enters => exact setup.knows_visit _ knows _
  | @reads sessionId rest raw replied =>
      cases parsed : parseRecord raw with
      | none => trivial
      | some record => exact sound.issued replied parsed
  | gets | rejects => trivial

end Knowledge

section Steps

variable [DecidableEq Call] {following : State Call} {action : Action Call}

theorem Setup.Move.now_le (move : setup.Move state action following) :
    state.now ≤ following.now := by
  cases move with
  | advances milliseconds => exact Nat.le_add_right _ _
  | starts | reads | writes | counts | others => exact Nat.le_refl _

theorem Setup.Move.session (move : setup.Move state action following) (call : Call) :
    setup.session following call = setup.session state call ∨
      setup.session following call = none ∨
      ∃ input, state.calls call = .setting input ∧ (following.calls call).written = true ∧
        following.now = state.now ∧ setup.session following call =
          Slot.setEx state.now (.text (some input.record.toJson)) input.ttlSeconds := by
  have plain := setup.sessionId_plain call
  cases move with
  | advances | starts | reads => exact .inl rfl
  | @writes actor key slot next writes =>
      by_cases same : key = sessionKey (setup.sessionId call)
      · have after : ((state.goto actor next).calls actor).written = true := by
          rw [State.goto_self]
          exact writes.written
        have stored : (Function.update state.keys key slot)
            (sessionKey (setup.sessionId call)) = slot := by
          rw [same]
          exact Function.update_self _ _ _
        rcases writes.session same with gone | ⟨actor, input, phase, written⟩
        · exact .inr (.inl (stored.trans gone))
        · subst actor
          exact .inr (.inr ⟨input, phase, after, rfl, stored.trans written⟩)
      · exact .inl (Function.update_of_ne (Ne.symm same) _ _)
  | @counts keyPrefix ip _ slot =>
      have foreign := counterKey_ne_sessionKey plain keyPrefix ip
      exact .inl (Function.update_of_ne foreign.symm _ _)
  | others feature slot =>
      have foreign := featureKey_ne_sessionKey feature (setup.sessionId call)
      exact .inl (Function.update_of_ne foreign.symm _ _)

/-- A session that is gone does not come back. -/
theorem Setup.Move.gone {call : Call} (move : setup.Move state action following)
    (written : (state.calls call).written = true)
    (gone : Slot.live state.now (setup.session state call) = none) :
    Slot.live following.now (setup.session following call) = none := by
  rcases move.session call with same | removed | ⟨input, setting, _⟩
  · rw [same]
    exact Slot.live_none_later move.now_le gone
  · rw [removed]
    rfl
  · rw [setting] at written
    cases written

theorem Setup.Move.issued {userId sessionId : String}
    (move : setup.Move state action following)
    (issued : setup.Issued state userId sessionId) :
    setup.Issued following userId sessionId := by
  obtain ⟨call, input, created, user, same, written⟩ := issued
  exact ⟨call, input, created, user, same, move.written written⟩

theorem Setup.Move.issued_gone {userId sessionId : String}
    (move : setup.Move state action following)
    (issued : setup.Issued state userId sessionId) (gone : state.Gone sessionId) :
    following.Gone sessionId := by
  obtain ⟨call, input, _, _, rfl, written⟩ := issued
  exact move.gone written gone

theorem Setup.Knows.stable (move : setup.Move state action following) {call : Call}
    {phase : Phase} (knows : setup.Knows state call phase) :
    setup.Knows following call phase := by
  cases phase with
  | setting | adding | askingIndexTtl | expiring => exact knows
  | visiting =>
      obtain ⟨issued, rest⟩ := knows
      exact ⟨move.issued issued, fun member inside => move.issued (rest member inside)⟩
  | pruning =>
      obtain ⟨⟨issued, gone⟩, rest⟩ := knows
      exact ⟨⟨move.issued issued, move.issued_gone issued gone⟩,
        fun member inside => move.issued (rest member inside)⟩
  | askingSessionTtl => exact fun member inside => move.issued (knows member inside)
  | deleting sessionId record =>
      cases record with
      | none => trivial
      | some record => exact move.issued knows
  | removing => exact ⟨move.issued knows.1, move.issued_gone knows.1 knows.2⟩
  | ready | getting | listing | reading | returned | rejected => trivial

theorem Setup.Move.indexes (move : setup.Move state action following) (userId : String) :
    setup.Indexes state userId action (following.index userId) := by
  cases move with
  | advances | starts | reads => exact .keeps _
  | @writes call key slot next writes =>
      unfold State.index
      by_cases same : userIndexKey userId = key
      · subst same
        simp only [Function.update_self]
        exact writes.indexes rfl rfl
      · simp only [Function.update_of_ne same]
        exact .keeps _
  | @counts keyPrefix ip _ slot =>
      have foreign := counterKey_ne_userIndexKey keyPrefix ip userId
      unfold State.index
      simp only [Function.update_of_ne foreign.symm]
      exact .keeps _
  | others feature slot =>
      have foreign := featureKey_ne_userIndexKey feature userId
      unfold State.index
      simp only [Function.update_of_ne foreign.symm]
      exact .keeps _

theorem Setup.Sound.members_step (sound : setup.Sound state)
    (move : setup.Move state action following) (userId member : String)
    (held : (following.index userId).Holds member) :
    setup.Issued following userId member := by
  have indexes := move.indexes userId
  have earlier (before : (state.index userId).Holds member) :
      setup.Issued following userId member := move.issued (sound.members userId member before)
  generalize following.index userId = index at held indexes
  cases indexes with
  | keeps => exact earlier held
  | @adds call input adding user =>
      rcases Slot.holds_sadd held with before | rfl
      · exact earlier before
      · have knows := sound.knows call
        rw [adding] at knows
        have written : (state.calls call).written = true := by rw [adding]; rfl
        exact ⟨call, input, knows, user, rfl, move.written written⟩
  | expires => exact earlier (Slot.holds_expire held)
  | removes => exact earlier (Slot.holds_srem held)
  | deletes =>
      obtain ⟨_, stored, _⟩ := held
      cases stored

theorem Setup.Sound.occupants_step (sound : setup.Sound state)
    (move : setup.Move state action following) (sessionId : String)
    (cell : Cell (Stored Text))
    (stored : following.keys (sessionKey sessionId) = some cell) :
    setup.Occupies sessionId cell.value := by
  cases move with
  | advances | starts | reads => exact sound.occupants sessionId cell stored
  | writes writes =>
      exact occupants_update sound (writes.occupies sound (sound.knows _)) sessionId cell stored
  | @counts keyPrefix ip _ slot counted =>
      refine occupants_update sound ?_ sessionId cell stored
      intro sessionId cell key written
      rcases counted with unchanged | ⟨count, expireAt, number⟩
      · rw [written, key] at unchanged
        exact sound.occupants sessionId cell unchanged.symm
      · rw [written] at number
        cases number
        exact .counter count (sessionId_of_counterKey key)
  | others feature slot =>
      refine occupants_update sound ?_ sessionId cell stored
      intro sessionId cell key
      exact absurd key (featureKey_ne_sessionKey feature sessionId)

theorem Setup.Sound.records_step (sound : setup.Sound state)
    (move : setup.Move state action following) {call : Call} {input : CreateInput}
    {cell : Cell (Stored Text)} (created : setup.operation call = .create input)
    (stored : setup.session following call = some cell) :
    (following.calls call).written = true ∧ ∃ deadline, cell.expireAt = some deadline ∧
      deadline ≤ following.now + input.ttlSeconds * 1000 := by
  rcases move.session call with same | removed | ⟨input', setting, written, now, same⟩
  · rw [same] at stored
    obtain ⟨written, deadline, expiry, bound⟩ := sound.records call input cell created stored
    have later := move.now_le
    exact ⟨move.written written, deadline, expiry, by omega⟩
  · rw [removed] at stored
    cases stored
  · have knows := sound.knows call
    rw [setting] at knows
    obtain rfl : input = input' := Operation.create.inj (created.symm.trans knows)
    rw [same] at stored
    cases stored
    exact ⟨written, _, rfl, Nat.le_of_eq (by rw [now])⟩

theorem Setup.Writes.knows {call : Call} {phase next : Phase} {key : String}
    {slot : Slot (Stored Text)} (knows : setup.Knows state call phase)
    (writes : setup.Writes state call phase key slot next)
    (move : setup.Move state action following)
    (written : following.keys = Function.update state.keys key slot) :
    setup.Knows following call next := by
  cases writes with
  | sets | adds => exact knows
  | expires => trivial
  | prunes => exact setup.knows_visit _ (fun member inside => move.issued (knows.2 member inside)) _
  | removes => exact setup.knows_deleteEach _
  | @deletes sessionId record =>
      cases record with
      | none => exact setup.knows_deleteEach _
      | some record =>
          refine ⟨move.issued knows, ?_⟩
          unfold State.Gone
          rw [written, Function.update_self]
          rfl

theorem Setup.Sound.knows_step (sound : setup.Sound state)
    (move : setup.Move state action following) (call : Call) :
    setup.Knows following call (following.calls call) := by
  have knows := sound.knows call
  have goes := move.goes call
  generalize following.calls call = next at goes
  cases goes with
  | stays => exact knows.stable move
  | starts ready =>
      cases operation : setup.operation call with
      | create => exact operation
      | revoke sessionId =>
          simp only [Operation.start]
          split
          · trivial
          · exact setup.knows_deleteEach _
      | get | delete | listByUserId | revokeAllForUser => trivial
  | reads _ reads => exact (reads.knows sound knows).stable move
  | writes _ writes written => exact writes.knows knows move written

theorem Setup.Sound.step (sound : setup.Sound state)
    (move : setup.Move state action following) : setup.Sound following :=
  { occupants := sound.occupants_step move
    members := sound.members_step move
    records := fun _ _ _ created stored => sound.records_step move created stored
    knows := sound.knows_step move }

omit [DecidableEq Call] in
theorem Setup.sound_initial (setup : Setup Call) (initial : state.initial) :
    setup.Sound state := by
  obtain ⟨keys, calls⟩ := initial
  constructor
  · intro sessionId cell stored
    rw [keys] at stored
    cases stored
  · intro userId member held
    obtain ⟨cell, stored, _⟩ := held
    rw [State.index, keys] at stored
    cases stored
  · intro call input cell _ stored
    rw [Setup.session, keys] at stored
    cases stored
  · intro call
    rw [calls]
    trivial

theorem Setup.sound_of_reachable {permitted : State Call → Action Call → Prop}
    (reached : setup.system.Reachable permitted state) : setup.Sound state := by
  apply reached.invariant fun start => setup.sound_initial
  intro before action after sound _ stepped
  exact sound.step (setup.moved stepped)

end Steps

end BackendFoundation.Sessions
