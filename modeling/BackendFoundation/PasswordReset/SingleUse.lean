/-
A reset token is consumed at most once, for the user it was saved for, before its TTL
has passed, and without any effect of the calls for other users.

A token is written by one save only. Once it is gone, by a delete or by expiry, it
never comes back, and a consume that has not found it by then never will.
-/

import BackendFoundation.PasswordReset.Steps

namespace BackendFoundation.PasswordReset

open Redis Transition

/-- A consume that has not found its token. -/
def Phase.idle : Phase → Bool
  | ready => true
  | readingToken => true
  | consumed none => true
  | _ => false

variable {Call : Type}

/-- The user that a call is about: for a consume, the user its hash is saved for. -/
def Setup.ActsFor (setup : Setup Call) (call : Call) (userId : String) : Prop :=
  (∃ input, setup.operation call = .save input ∧ input.userId = userId) ∨
    ∃ saver input, setup.operation saver = .save input ∧ input.userId = userId ∧
      setup.operation call = .consume input.tokenHash

/-- The token has been written and is gone, and the consume has not found it. -/
structure Setup.Gone (setup : Setup Call) (tokenHash : String) (call : Call)
    (state : State Call) : Prop where
  issued : ∃ userId, setup.Issued state userId tokenHash
  dead : Slot.live state.now (state.store.token tokenHash) = none
  idle : (state.calls call).idle = true

/-- The token is the one that was written at a time, or gone. -/
structure Setup.WrittenAt (setup : Setup Call) (time : Nat) (input : SaveInput)
    (state : State Call) : Prop where
  issued : setup.Issued state input.userId input.tokenHash
  token : state.store.token input.tokenHash = none ∨
    state.store.token input.tokenHash = .setEx time input.userId input.ttlSeconds

variable [DecidableEq Call]

section Step

variable {setup : Setup Call} {state following : State Call} {action : Action Call}

/-- A consume wins with the command that deletes the live token. -/
theorem Setup.Moves.winner (moves : setup.Moves state action following) {call : Call}
    {tokenHash userId : String} (operation : setup.operation call = .consume tokenHash)
    (winner : (following.calls call).winner = some userId) :
    (state.calls call).winner = some userId ∨
      (action = .command call ∧
        Slot.get state.now (state.store.token tokenHash) = some userId) := by
  cases moves with
  | advances => exact .inl winner
  | @starts other ready =>
      by_cases same : call = other
      · subst same
        simp only [Function.update_self, operation] at winner
        cases winner
      · exact .inl (by simpa [Function.update_of_ne same] using winner)
  | @commands other store phase command =>
      by_cases same : call = other
      · subst same
        simp only [Function.update_self] at winner
        cases command with
        | wins operation' _ held =>
            rw [operation] at operation'
            cases operation'
            cases winner
            exact .inr ⟨rfl, held⟩
        | unpoints _ reached =>
            cases winner
            exact .inl (by rw [reached]; rfl)
        | findsNone | findsPrevious | deletesPrevious | writesToken | writesPointer | misses
        | reads | loses => cases winner
      · exact .inl (by simpa [Function.update_of_ne same] using winner)

theorem Setup.Gone.step {tokenHash : String} {call : Call}
    (gone : setup.Gone tokenHash call state)
    (operation : setup.operation call = .consume tokenHash)
    (moves : setup.Moves state action following) : setup.Gone tokenHash call following := by
  obtain ⟨userId, issued⟩ := gone.issued
  refine ⟨⟨userId, issued.step moves⟩, moves.dead issued gone.dead, ?_⟩
  rcases moves.call call with same | ⟨_, started⟩ | ⟨store, phase, _, _, next, command⟩
  · rw [same]
    exact gone.idle
  · rw [started, operation]
    rfl
  · rw [next]
    have idle := gone.idle
    cases command with
    | misses | loses => rfl
    | reads operation' _ found =>
        rw [operation] at operation'
        cases operation'
        rw [Slot.get_eq_none_iff.mpr gone.dead] at found
        cases found
    | findsNone operation' | findsPrevious operation' | deletesPrevious operation'
    | writesToken operation' | writesPointer operation' =>
        rw [operation] at operation'
        cases operation'
    | wins _ reached | unpoints _ reached =>
        rw [reached] at idle
        cases idle

theorem Setup.Gone.never {tokenHash : String} {call : Call} {later : State Call}
    {actions : List (Action Call)} (gone : setup.Gone tokenHash call state)
    (operation : setup.operation call = .consume tokenHash)
    (run : setup.system.Run anyAction state actions later) (userId : String) :
    later.calls call ≠ .consumed (some userId) := by
  have gone' : setup.Gone tokenHash call later := by
    apply run.preserves
    · intro before action after known _ stepped
      exact known.step operation (Setup.moves stepped)
    · exact gone
  intro consumed
  have idle := gone'.idle
  rw [consumed] at idle
  cases idle

theorem Setup.WrittenAt.step {time : Nat} {input : SaveInput}
    (written : setup.WrittenAt time input state)
    (moves : setup.Moves state action following) : setup.WrittenAt time input following := by
  refine ⟨written.issued.step moves, ?_⟩
  rcases moves.token input.tokenHash with same | deleted | ⟨_, _, operation, writing, _, hash, _⟩
  · rw [same]
    exact written.token
  · exact .inl deleted
  · exact absurd hash (written.issued.not_writing operation writing)

/-- A command of a call for one user leaves the tokens of the others as they are. -/
theorem Setup.consumable_of_other (known : setup.Known state) {call : Call}
    (stepped : setup.step state (.command call) = some following) {saver : Call}
    {input : SaveInput} (operation : setup.operation saver = .save input)
    (other : ¬setup.ActsFor call input.userId) :
    following.store.consumable following.now input.tokenHash =
      state.store.consumable state.now input.tokenHash := by
  cases Setup.moves stepped with
  | @commands _ store phase command =>
      suffices same : store.token input.tokenHash = state.store.token input.tokenHash by
        simp only [TokenStore.consumable, same]
      cases command with
      | @deletesPrevious input' previousTokenHash operation' reached =>
          refine Function.update_of_ne ?_ ..
          intro equal
          subst equal
          obtain ⟨saver', stored, operation'', sameUser, sameHash, _⟩ :=
            known.previous call input' input.tokenHash operation' reached
          have sameCall := setup.fresh saver' saver stored input operation'' operation sameHash
          rw [sameCall, operation] at operation''
          cases operation''
          exact other (.inl ⟨input', operation', sameUser.symm⟩)
      | @writesToken input' operation' =>
          refine Function.update_of_ne ?_ ..
          intro sameHash
          have sameCall := setup.fresh saver call input input' operation operation' sameHash
          rw [← sameCall] at other
          exact other (.inl ⟨input, operation, rfl⟩)
      | wins operation' =>
          refine Function.update_of_ne ?_ ..
          intro equal
          subst equal
          exact other (.inr ⟨saver, input, operation, rfl, operation'⟩)
      | findsNone | findsPrevious | writesPointer | misses | reads | loses | unpoints => rfl

end Step

/-- Two consumes of one hash that have won are one. -/
def Setup.OneWinner (setup : Setup Call) (state : State Call) : Prop :=
  ∀ call other tokenHash userId userId', setup.operation call = .consume tokenHash →
    setup.operation other = .consume tokenHash → (state.calls call).winner = some userId →
    (state.calls other).winner = some userId' → call = other

theorem Setup.oneWinner_of_reachable {setup : Setup Call}
    {allowed : State Call → Action Call → Prop} {state : State Call}
    (reached : setup.system.Reachable allowed state) : setup.OneWinner state := by
  refine reached.invariant_using (fun _ => Setup.known_of_reachable) ?_ ?_
  · intro state initial call other tokenHash userId userId' _ _ winner
    obtain ⟨_, ready⟩ := initial
    rw [ready] at winner
    cases winner
  · intro before action after known unique _ stepped call other tokenHash userId userId' operation
      operation' winner winner'
    have moves := Setup.moves stepped
    -- A winner of before has left no token for another one to win.
    have excluded {first : Call} {userId userId' : String}
        (operation : setup.operation first = .consume tokenHash)
        (won : (before.calls first).winner = some userId)
        (held : Slot.get before.now (before.store.token tokenHash) = some userId') : False := by
      have dead := (known.winner first tokenHash userId operation won).2
      rw [Slot.get_eq_none_iff.mpr dead] at held
      cases held
    rcases moves.winner operation winner with already | ⟨sent, held⟩
    · rcases moves.winner operation' winner' with already' | ⟨_, held'⟩
      · exact unique call other tokenHash userId userId' operation operation' already already'
      · exact (excluded operation already held').elim
    · rcases moves.winner operation' winner' with already' | ⟨sent', _⟩
      · exact (excluded operation' already' held).elim
      · rw [sent] at sent'
        exact Action.command.inj sent'

/-- A token works once, for its user, within its TTL, and whatever calls for other users
do. -/
structure Setup.SingleUse (setup : Setup Call) : Prop where
  once : ∀ state, setup.system.Reachable anyAction state →
    ∀ call other tokenHash userId userId', setup.operation call = .consume tokenHash →
      setup.operation other = .consume tokenHash → state.calls call = .consumed (some userId) →
      state.calls other = .consumed (some userId') → call = other
  bound : ∀ state, setup.system.Reachable anyAction state →
    ∀ call tokenHash userId, setup.operation call = .consume tokenHash →
      state.calls call = .consumed (some userId) →
      ∃ saver input, setup.operation saver = .save input ∧ input.tokenHash = tokenHash ∧
        input.userId = userId ∧ state.calls saver ≠ .ready
  afterUse : ∀ state, setup.system.Reachable anyAction state →
    ∀ call other tokenHash userId, setup.operation call = .consume tokenHash →
      setup.operation other = .consume tokenHash → state.calls call = .consumed (some userId) →
      state.calls other = .ready →
      ∀ actions later, setup.system.Run anyAction state actions later →
        ∀ userId', later.calls other ≠ .consumed (some userId')
  afterTtl : ∀ writing written, setup.system.Reachable anyAction writing →
    ∀ saver input, setup.operation saver = .save input →
      writing.calls saver = .writingToken →
      setup.system.step writing (.command saver) = some written →
      ∀ actions state, setup.system.Run anyAction written actions state →
        writing.now + input.ttlSeconds * 1000 < state.now →
        ∀ call, setup.operation call = .consume input.tokenHash → state.calls call = .ready →
          ∀ actions' later, setup.system.Run anyAction state actions' later →
            ∀ userId, later.calls call ≠ .consumed (some userId)
  separate : ∀ state, setup.system.Reachable anyAction state →
    ∀ call following, setup.system.step state (.command call) = some following →
      ∀ saver input, setup.operation saver = .save input → ¬setup.ActsFor call input.userId →
        following.store.consumable following.now input.tokenHash =
          state.store.consumable state.now input.tokenHash

theorem Setup.writtenAt_of_write {setup : Setup Call} {writing written : State Call}
    {saver : Call} {input : SaveInput} (operation : setup.operation saver = .save input)
    (reached : writing.calls saver = .writingToken)
    (stepped : setup.step writing (.command saver) = some written) :
    setup.WrittenAt writing.now input written := by
  simp only [Setup.step, operation, reached, Operation.next, Option.map_some] at stepped
  cases stepped
  refine ⟨⟨saver, input, operation, rfl, rfl, ?_⟩, .inr ?_⟩
  · simp [Phase.stored]
  · exact Function.update_self ..

theorem Setup.singleUse (setup : Setup Call) : setup.SingleUse where
  once state reached call other tokenHash userId userId' operation operation' consumed
      consumed' :=
    Setup.oneWinner_of_reachable reached call other tokenHash userId userId' operation operation'
      (by rw [consumed]; rfl) (by rw [consumed']; rfl)
  bound state reached call tokenHash userId operation consumed := by
    obtain ⟨⟨saver, input, operation', sameUser, sameHash, stored⟩, _⟩ :=
      (Setup.known_of_reachable reached).winner call tokenHash userId operation
        (by rw [consumed]; rfl)
    refine ⟨saver, input, operation', sameHash, sameUser, ?_⟩
    intro ready
    rw [ready] at stored
    cases stored
  afterUse state reached call other tokenHash userId operation operation' consumed ready actions
      later run userId' := by
    obtain ⟨issued, dead⟩ := (Setup.known_of_reachable reached).winner call tokenHash userId
      operation (by rw [consumed]; rfl)
    have gone : setup.Gone tokenHash other state :=
      { issued := ⟨userId, issued⟩
        dead := dead
        idle := by rw [ready]; rfl }
    exact gone.never operation' run userId'
  afterTtl writing written _ saver input operation reached stepped actions state run passed call
      operation' ready actions' later run' userId := by
    have known : setup.WrittenAt writing.now input state := by
      apply run.preserves
      · intro before action after known _ stepped'
        exact known.step (Setup.moves stepped')
      · exact Setup.writtenAt_of_write operation reached stepped
    have gone : setup.Gone input.tokenHash call state :=
      { issued := ⟨input.userId, known.issued⟩
        dead := by
          rcases known.token with deleted | same
          · rw [deleted]
            rfl
          · rw [same]
            exact Slot.live_setEx_expired passed
        idle := by rw [ready]; rfl }
    exact gone.never operation' run' userId
  separate state reached call following stepped saver input operation other :=
    Setup.consumable_of_other (Setup.known_of_reachable reached) stepped operation other

end BackendFoundation.PasswordReset
