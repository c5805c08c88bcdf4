/-
What the commands of save and consume can do to the store, and what every reachable
store holds: only hashes that some save has written for the user they stand with.
-/

import BackendFoundation.PasswordReset.TokenStore

namespace BackendFoundation.PasswordReset

open Redis Transition

variable {Call : Type}

/-- The command of a call, its store afterwards and the phase it leads to. -/
inductive Setup.Command (setup : Setup Call) (state : State Call) (call : Call) :
    TokenStore → Phase → Prop
  | findsNone {input : SaveInput} (operation : setup.operation call = .save input)
      (phase : state.calls call = .readingPointer)
      (absent : truthy (Slot.get state.now (state.store.user input.userId)) = none) :
      Command setup state call state.store .writingToken
  | findsPrevious {input : SaveInput} {previousTokenHash : String}
      (operation : setup.operation call = .save input)
      (phase : state.calls call = .readingPointer)
      (found : Slot.get state.now (state.store.user input.userId) = some previousTokenHash) :
      Command setup state call state.store (.deletingPrevious previousTokenHash)
  | deletesPrevious {input : SaveInput} {previousTokenHash : String}
      (operation : setup.operation call = .save input)
      (phase : state.calls call = .deletingPrevious previousTokenHash) :
      Command setup state call (state.store.setToken previousTokenHash .del) .writingToken
  | writesToken {input : SaveInput} (operation : setup.operation call = .save input)
      (phase : state.calls call = .writingToken) :
      Command setup state call
        (state.store.setToken input.tokenHash (.setEx state.now input.userId input.ttlSeconds))
        .writingPointer
  | writesPointer {input : SaveInput} (operation : setup.operation call = .save input)
      (phase : state.calls call = .writingPointer) :
      Command setup state call
        (state.store.setUser input.userId (.setEx state.now input.tokenHash input.ttlSeconds))
        .saved
  | misses {tokenHash : String} (operation : setup.operation call = .consume tokenHash)
      (phase : state.calls call = .readingToken) :
      Command setup state call state.store (.consumed none)
  | reads {tokenHash userId : String} (operation : setup.operation call = .consume tokenHash)
      (phase : state.calls call = .readingToken)
      (found : Slot.get state.now (state.store.token tokenHash) = some userId) :
      Command setup state call state.store (.deletingToken userId)
  | loses {tokenHash userId : String} (operation : setup.operation call = .consume tokenHash)
      (phase : state.calls call = .deletingToken userId) :
      Command setup state call state.store (.consumed none)
  | wins {tokenHash userId : String} (operation : setup.operation call = .consume tokenHash)
      (phase : state.calls call = .deletingToken userId)
      (held : Slot.get state.now (state.store.token tokenHash) = some userId) :
      Command setup state call (state.store.setToken tokenHash .del) (.deletingPointer userId)
  | unpoints {tokenHash userId : String} (operation : setup.operation call = .consume tokenHash)
      (phase : state.calls call = .deletingPointer userId) :
      Command setup state call
        (state.store.setUser userId
          (RedisService.compareAndDelete state.now (state.store.user userId) tokenHash).1)
        (.consumed (some userId))

theorem TokenStore.setToken_self (store : TokenStore) (tokenHash : String) :
    store.setToken tokenHash (store.token tokenHash) = store := by
  simp [setToken]

theorem Setup.command_of_next {setup : Setup Call} {state : State Call} {call : Call}
    {store : TokenStore} {phase : Phase}
    (stepped : (setup.operation call).next state.now state.store (state.calls call) =
      some (store, phase)) : setup.Command state call store phase := by
  unfold Operation.next at stepped
  split at stepped
  · rename_i operation reached
    split at stepped <;> cases stepped
    · rename_i found
      exact .findsPrevious operation reached (truthy_eq_some.mp found).1
    · exact .findsNone operation reached ‹_›
  · rename_i operation reached
    cases stepped
    exact .deletesPrevious operation reached
  · rename_i operation reached
    cases stepped
    exact .writesToken operation reached
  · rename_i operation reached
    cases stepped
    exact .writesPointer operation reached
  · rename_i operation reached
    split at stepped <;> cases stepped
    · exact .misses operation reached
    · rename_i found
      exact .reads operation reached (truthy_eq_some.mp found).1
  · rename_i tokenHash userId operation reached
    unfold RedisService.compareAndDelete RedisService.holds at stepped
    by_cases held : Slot.get state.now (state.store.token tokenHash) = some userId
    · simp only [held, beq_self_eq_true, if_true] at stepped
      cases stepped
      exact .wins operation reached held
    · have other : (Slot.get state.now (state.store.token tokenHash) == some userId) = false := by
        simpa using held
      simp only [other, Bool.false_eq_true, if_false, TokenStore.setToken_self] at stepped
      cases stepped
      exact .loses operation reached
  · rename_i operation reached
    cases stepped
    exact .unpoints operation reached
  · cases stepped

section Command

variable {setup : Setup Call} {state : State Call} {call : Call} {store : TokenStore}
  {phase : Phase}

/-- A token stays as it is, is deleted, or is written by the save that it belongs to. -/
theorem Setup.Command.token (command : setup.Command state call store phase)
    (tokenHash : String) :
    store.token tokenHash = state.store.token tokenHash ∨ store.token tokenHash = none ∨
      ∃ input, setup.operation call = .save input ∧ state.calls call = .writingToken ∧
        phase = .writingPointer ∧ tokenHash = input.tokenHash ∧
        store.token tokenHash = .setEx state.now input.userId input.ttlSeconds := by
  cases command with
  | @deletesPrevious _ previousTokenHash =>
      by_cases same : tokenHash = previousTokenHash
      · subst same
        exact .inr (.inl (Function.update_self ..))
      · exact .inl (Function.update_of_ne same ..)
  | @writesToken input operation reached =>
      by_cases same : tokenHash = input.tokenHash
      · refine .inr (.inr ⟨input, operation, reached, rfl, same, ?_⟩)
        rw [same]
        exact Function.update_self ..
      · exact .inl (Function.update_of_ne same ..)
  | @wins deleted =>
      by_cases same : tokenHash = deleted
      · subst same
        exact .inr (.inl (Function.update_self ..))
      · exact .inl (Function.update_of_ne same ..)
  | findsNone | findsPrevious | writesPointer | misses | reads | loses | unpoints =>
      exact .inl rfl

/-- A pointer stays as it is, is deleted by a consume of the hash that it holds, or is
written by a save for its user. -/
theorem Setup.Command.user (command : setup.Command state call store phase) (userId : String) :
    store.user userId = state.store.user userId ∨
      (∃ tokenHash, setup.operation call = .consume tokenHash ∧
        state.calls call = .deletingPointer userId ∧
        Slot.get state.now (state.store.user userId) = some tokenHash ∧
        store.user userId = none) ∨
      ∃ input, setup.operation call = .save input ∧ state.calls call = .writingPointer ∧
        phase = .saved ∧ userId = input.userId ∧
        store.user userId = .setEx state.now input.tokenHash input.ttlSeconds := by
  cases command with
  | @writesPointer input operation reached =>
      by_cases same : userId = input.userId
      · refine .inr (.inr ⟨input, operation, reached, rfl, same, ?_⟩)
        rw [same]
        exact Function.update_self ..
      · exact .inl (Function.update_of_ne same ..)
  | @unpoints tokenHash owner operation reached =>
      by_cases same : userId = owner
      · subst same
        have after : (state.store.setUser userId
            (RedisService.compareAndDelete state.now (state.store.user userId) tokenHash).1).user
            userId = (RedisService.compareAndDelete state.now (state.store.user userId)
              tokenHash).1 := Function.update_self ..
        rw [after]
        unfold RedisService.compareAndDelete RedisService.holds
        split
        · rename_i held
          exact .inr (.inl ⟨tokenHash, operation, reached, beq_iff_eq.mp held, rfl⟩)
        · exact .inl rfl
      · exact .inl (Function.update_of_ne same ..)
  | findsNone | findsPrevious | deletesPrevious | writesToken | misses | reads | loses | wins =>
      exact .inl rfl

theorem Setup.Command.stored (command : setup.Command state call store phase)
    (already : (state.calls call).stored = true) : phase.stored = true := by
  cases command with
  | writesPointer => rfl
  | findsNone _ reached | findsPrevious _ reached | deletesPrevious _ reached
  | writesToken _ reached | misses _ reached | reads _ reached | loses _ reached
  | wins _ reached | unpoints _ reached =>
      rw [reached] at already
      cases already

end Command

/-- Some save for the user has written the token of this hash. -/
def Setup.Issued (setup : Setup Call) (state : State Call) (userId tokenHash : String) : Prop :=
  ∃ saver input, setup.operation saver = .save input ∧ input.userId = userId ∧
    input.tokenHash = tokenHash ∧ (state.calls saver).stored = true

/-- The hash of a token that has been written is not written again. -/
theorem Setup.Issued.not_writing {setup : Setup Call} {state : State Call}
    {userId tokenHash : String} (issued : setup.Issued state userId tokenHash) {call : Call}
    {input : SaveInput}
    (operation : setup.operation call = .save input)
    (writing : state.calls call = .writingToken) : tokenHash ≠ input.tokenHash := by
  obtain ⟨saver, input', operation', _, sameHash, stored⟩ := issued
  intro same
  have sameCall := setup.fresh saver call input' input operation' operation
    (sameHash.trans same)
  rw [sameCall, writing] at stored
  cases stored

/-- Whatever a store or a call has read was written by a save, and a token that a
consume has won is gone. -/
structure Setup.Known (setup : Setup Call) (state : State Call) : Prop where
  token : ∀ tokenHash cell, state.store.token tokenHash = some cell →
    setup.Issued state cell.value tokenHash
  user : ∀ userId cell, state.store.user userId = some cell →
    setup.Issued state userId cell.value
  previous : ∀ call input previousTokenHash, setup.operation call = .save input →
    state.calls call = .deletingPrevious previousTokenHash →
    setup.Issued state input.userId previousTokenHash
  reading : ∀ call tokenHash userId, setup.operation call = .consume tokenHash →
    state.calls call = .deletingToken userId → setup.Issued state userId tokenHash
  winner : ∀ call tokenHash userId, setup.operation call = .consume tokenHash →
    (state.calls call).winner = some userId →
    setup.Issued state userId tokenHash ∧
      Slot.live state.now (state.store.token tokenHash) = none

section Replies

variable {setup : Setup Call} {state : State Call} {call : Call} {store : TokenStore}
  {phase : Phase} {tokenHash userId : String}

theorem Setup.Known.previous_of_command (known : setup.Known state)
    (command : setup.Command state call store phase) {input : SaveInput}
    (operation : setup.operation call = .save input)
    (deleting : phase = .deletingPrevious tokenHash) :
    setup.Issued state input.userId tokenHash := by
  cases command with
  | findsPrevious operation' _ found =>
      rw [operation] at operation'
      cases operation'
      cases deleting
      obtain ⟨cell, live, value⟩ := Slot.get_eq_some_iff.mp found
      rw [← value]
      exact known.user input.userId cell (Slot.live_some_iff.mp live).1
  | findsNone | deletesPrevious | writesToken | writesPointer | misses | reads | loses
  | wins | unpoints => cases deleting

theorem Setup.Known.reading_of_command (known : setup.Known state)
    (command : setup.Command state call store phase)
    (operation : setup.operation call = .consume tokenHash)
    (reading : phase = .deletingToken userId) : setup.Issued state userId tokenHash := by
  cases command with
  | reads operation' _ found =>
      rw [operation] at operation'
      cases operation'
      cases reading
      obtain ⟨cell, live, value⟩ := Slot.get_eq_some_iff.mp found
      rw [← value]
      exact known.token tokenHash cell (Slot.live_some_iff.mp live).1
  | findsNone | findsPrevious | deletesPrevious | writesToken | writesPointer | misses | loses
  | wins | unpoints => cases reading

/-- A call wins by deleting the token, or it has won before. -/
theorem Setup.Known.winner_of_command (known : setup.Known state)
    (command : setup.Command state call store phase)
    (operation : setup.operation call = .consume tokenHash)
    (winner : phase.winner = some userId) :
    setup.Issued state userId tokenHash ∧ (store.token tokenHash = none ∨
      Slot.live state.now (state.store.token tokenHash) = none) := by
  cases command with
  | wins operation' reached =>
      rw [operation] at operation'
      cases operation'
      cases winner
      exact ⟨known.reading call tokenHash userId operation reached,
        .inl (Function.update_self ..)⟩
  | unpoints operation' reached =>
      cases winner
      obtain ⟨issued, dead⟩ := known.winner call tokenHash userId operation
        (by rw [reached]; rfl)
      exact ⟨issued, .inr dead⟩
  | findsNone | findsPrevious | deletesPrevious | writesToken | writesPointer | misses | reads
  | loses => cases winner

end Replies

variable [DecidableEq Call]

/-- What one step can do. -/
inductive Setup.Moves (setup : Setup Call) (state : State Call) :
    Action Call → State Call → Prop
  | advances (milliseconds : Nat) :
      Moves setup state (.advance milliseconds) { state with now := state.now + milliseconds }
  | starts {call : Call} (ready : state.calls call = .ready) :
      Moves setup state (.start call)
        { state with calls := Function.update state.calls call (setup.operation call).start }
  | commands {call : Call} {store : TokenStore} {phase : Phase}
      (command : setup.Command state call store phase) :
      Moves setup state (.command call)
        { state with
          store := store
          calls := Function.update state.calls call phase }

section Step

variable {setup : Setup Call} {state following : State Call} {action : Action Call}

theorem Setup.moves (stepped : setup.step state action = some following) :
    setup.Moves state action following := by
  cases action with
  | advance milliseconds =>
      cases stepped
      exact .advances milliseconds
  | start call =>
      simp only [Setup.step] at stepped
      split at stepped
      · rename_i ready
        cases stepped
        exact .starts ready
      · cases stepped
  | command call =>
      obtain ⟨⟨store, phase⟩, sent, rfl⟩ := Option.map_eq_some_iff.mp stepped
      exact .commands (Setup.command_of_next sent)

theorem Setup.Moves.stored (moves : setup.Moves state action following) {call : Call}
    (already : (state.calls call).stored = true) : (following.calls call).stored = true := by
  cases moves with
  | advances => exact already
  | @starts other ready =>
      have different : call ≠ other := by
        intro equal
        subst equal
        rw [ready] at already
        cases already
      simpa [Function.update_of_ne different] using already
  | @commands other store phase command =>
      by_cases same : call = other
      · subst same
        simpa using command.stored already
      · simpa [Function.update_of_ne same] using already

theorem Setup.Issued.step {userId tokenHash : String}
    (issued : setup.Issued state userId tokenHash)
    (moves : setup.Moves state action following) : setup.Issued following userId tokenHash := by
  obtain ⟨saver, input, operation, sameUser, sameHash, stored⟩ := issued
  exact ⟨saver, input, operation, sameUser, sameHash, moves.stored stored⟩

theorem Setup.Moves.now (moves : setup.Moves state action following) :
    state.now ≤ following.now := by
  cases moves with
  | advances => exact Nat.le_add_right _ _
  | starts | commands => exact Nat.le_refl _

theorem Setup.Moves.token (moves : setup.Moves state action following) (tokenHash : String) :
    following.store.token tokenHash = state.store.token tokenHash ∨
      following.store.token tokenHash = none ∨
      ∃ saver input, setup.operation saver = .save input ∧
        state.calls saver = .writingToken ∧ following.calls saver = .writingPointer ∧
        tokenHash = input.tokenHash ∧
        following.store.token tokenHash = .setEx state.now input.userId input.ttlSeconds := by
  cases moves with
  | advances | starts => exact .inl rfl
  | @commands call store phase command =>
      rcases command.token tokenHash with same | deleted | ⟨input, operation, reached, next, rest⟩
      · exact .inl same
      · exact .inr (.inl deleted)
      · refine .inr (.inr ⟨call, input, operation, reached, ?_, rest⟩)
        rw [next]
        exact Function.update_self ..

theorem Setup.Moves.user (moves : setup.Moves state action following) (userId : String) :
    following.store.user userId = state.store.user userId ∨
      (∃ consumer tokenHash, setup.operation consumer = .consume tokenHash ∧
        state.calls consumer = .deletingPointer userId ∧
        Slot.get state.now (state.store.user userId) = some tokenHash ∧
        following.store.user userId = none) ∨
      ∃ saver input, setup.operation saver = .save input ∧
        state.calls saver = .writingPointer ∧ following.calls saver = .saved ∧
        userId = input.userId ∧
        following.store.user userId = .setEx state.now input.tokenHash input.ttlSeconds := by
  cases moves with
  | advances | starts => exact .inl rfl
  | @commands call store phase command =>
      rcases command.user userId with same | deleted | ⟨input, operation, reached, next, rest⟩
      · exact .inl same
      · exact .inr (.inl ⟨call, deleted⟩)
      · refine .inr (.inr ⟨call, input, operation, reached, ?_, rest⟩)
        rw [next]
        exact Function.update_self ..

/-- A call waits, starts, or sends a command. -/
theorem Setup.Moves.call (moves : setup.Moves state action following) (call : Call) :
    following.calls call = state.calls call ∨
      (state.calls call = .ready ∧ following.calls call = (setup.operation call).start) ∨
      ∃ store phase, action = .command call ∧ following.store = store ∧
        following.calls call = phase ∧ setup.Command state call store phase := by
  cases moves with
  | advances => exact .inl rfl
  | @starts other ready =>
      by_cases same : call = other
      · subst same
        exact .inr (.inl ⟨ready, Function.update_self ..⟩)
      · exact .inl (Function.update_of_ne same ..)
  | @commands other store phase command =>
      by_cases same : call = other
      · subst same
        exact .inr (.inr ⟨store, phase, rfl, rfl, Function.update_self .., command⟩)
      · exact .inl (Function.update_of_ne same ..)

/-- A token that has been written once and is gone stays away. -/
theorem Setup.Moves.dead (moves : setup.Moves state action following) {userId tokenHash : String}
    (issued : setup.Issued state userId tokenHash)
    (dead : Slot.live state.now (state.store.token tokenHash) = none) :
    Slot.live following.now (following.store.token tokenHash) = none := by
  rcases moves.token tokenHash with same | deleted | ⟨saver, input, operation, writing, _, hash, _⟩
  · rw [same]
    exact Slot.live_none_later moves.now dead
  · rw [deleted]
    rfl
  · exact absurd hash (issued.not_writing operation writing)

theorem Setup.Known.step (known : setup.Known state)
    (moves : setup.Moves state action following) : setup.Known following where
  token tokenHash cell stored := by
    rcases moves.token tokenHash with
      same | deleted | ⟨saver, input, operation, _, next, hash, written⟩
    · rw [same] at stored
      exact (known.token tokenHash cell stored).step moves
    · rw [deleted] at stored
      cases stored
    · rw [written] at stored
      cases stored
      exact ⟨saver, input, operation, rfl, hash.symm, by rw [next]; rfl⟩
  user userId cell stored := by
    rcases moves.user userId with
      same | ⟨_, _, _, _, _, deleted⟩ | ⟨saver, input, operation, _, next, owner, written⟩
    · rw [same] at stored
      exact (known.user userId cell stored).step moves
    · rw [deleted] at stored
      cases stored
    · rw [written] at stored
      cases stored
      exact ⟨saver, input, operation, owner.symm, rfl, by rw [next]; rfl⟩
  previous call input previousTokenHash operation deleting := by
    rcases moves.call call with same | ⟨_, started⟩ | ⟨store, phase, _, _, next, command⟩
    · rw [same] at deleting
      exact (known.previous call input previousTokenHash operation deleting).step moves
    · rw [started, operation] at deleting
      cases deleting
    · rw [next] at deleting
      exact (known.previous_of_command command operation deleting).step moves
  reading call tokenHash userId operation reading := by
    rcases moves.call call with same | ⟨_, started⟩ | ⟨store, phase, _, _, next, command⟩
    · rw [same] at reading
      exact (known.reading call tokenHash userId operation reading).step moves
    · rw [started, operation] at reading
      cases reading
    · rw [next] at reading
      exact (known.reading_of_command command operation reading).step moves
  winner call tokenHash userId operation winner := by
    rcases moves.call call with same | ⟨_, started⟩ | ⟨store, phase, _, after, next, command⟩
    · rw [same] at winner
      obtain ⟨issued, dead⟩ := known.winner call tokenHash userId operation winner
      exact ⟨issued.step moves, moves.dead issued dead⟩
    · rw [started, operation] at winner
      cases winner
    · rw [next] at winner
      obtain ⟨issued, gone | dead⟩ := known.winner_of_command command operation winner
      · refine ⟨issued.step moves, ?_⟩
        rw [after, gone]
        rfl
      · exact ⟨issued.step moves, moves.dead issued dead⟩

theorem Setup.known_of_reachable {allowed : State Call → Action Call → Prop}
    (reached : setup.system.Reachable allowed state) : setup.Known state := by
  apply reached.invariant
  · intro initial begun
    obtain ⟨now, store, calls⟩ := initial
    obtain ⟨rfl, rfl⟩ := begun
    constructor
    · intro tokenHash cell stored
      cases stored
    · intro userId cell stored
      cases stored
    · intro call input previousTokenHash _ deleting
      cases deleting
    · intro call tokenHash userId _ reading
      cases reading
    · intro call tokenHash userId _ winner
      cases winner
  · intro before action after known _ stepped
    exact known.step (Setup.moves stepped)

end Step

end BackendFoundation.PasswordReset
