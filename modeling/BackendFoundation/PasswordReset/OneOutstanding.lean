/-
At most one reset token of a user is outstanding, in the runs in which the saves for
one user do not overlap.

A save deletes the token that the user's pointer names and then moves the pointer. Two
saves that have both read the pointer before either has moved it delete the same token
and leave two, of which the pointer names one. Otherwise every token that is alive has
the pointer, or a save that is about to move it.
-/

import BackendFoundation.PasswordReset.SingleUse

namespace BackendFoundation.PasswordReset

open Redis Transition

/-- Past the delete of the previous token. -/
def Phase.past : Phase → Bool
  | writingToken => true
  | writingPointer => true
  | saved => true
  | _ => false

variable {Call : Type}

/-- No save reads the pointer of a user while another one for this user is between its
own reading and writing of it. -/
def Setup.Alone (setup : Setup Call) (state : State Call) : Action Call → Prop
  | .command call => ∀ input, setup.operation call = .save input →
      state.calls call = .readingPointer →
      ∀ other input', setup.operation other = .save input' → input'.userId = input.userId →
        (state.calls other).replacing = false
  | _ => True

def Setup.OneReplacing (setup : Setup Call) (state : State Call) : Prop :=
  ∀ call other input input', setup.operation call = .save input →
    setup.operation other = .save input' → input.userId = input'.userId →
    (state.calls call).replacing = true → (state.calls other).replacing = true → call = other

/-- The pointer of the user names the token and outlives it. -/
def State.PointsTo (state : State Call) (tokenHash : String) (cell : Cell String) : Prop :=
  ∃ pointer deadline deadline', Slot.live state.now (state.store.user cell.value) = some pointer ∧
    pointer.value = tokenHash ∧ cell.expireAt = some deadline ∧
    pointer.expireAt = some deadline' ∧ deadline ≤ deadline'

/-- The tokens that are alive beside the saves for their users. -/
structure Setup.Tracked (setup : Setup Call) (state : State Call) : Prop where
  pointed : ∀ tokenHash cell,
    Slot.live state.now (state.store.token tokenHash) = some cell →
    (∃ saver input, setup.operation saver = .save input ∧ input.userId = cell.value ∧
      input.tokenHash = tokenHash ∧ state.calls saver = .writingPointer) ∨
      state.PointsTo tokenHash cell
  deleting : ∀ call input previousTokenHash, setup.operation call = .save input →
    state.calls call = .deletingPrevious previousTokenHash → ∀ tokenHash cell,
    Slot.live state.now (state.store.token tokenHash) = some cell →
    cell.value = input.userId → tokenHash = previousTokenHash
  deleted : ∀ call input, setup.operation call = .save input →
    state.calls call = .writingToken → ∀ tokenHash cell,
    Slot.live state.now (state.store.token tokenHash) = some cell → cell.value ≠ input.userId
  written : ∀ call input, setup.operation call = .save input →
    state.calls call = .writingPointer → ∀ tokenHash cell,
    Slot.live state.now (state.store.token tokenHash) = some cell →
    cell.value = input.userId → tokenHash = input.tokenHash ∧
      ∃ deadline, cell.expireAt = some deadline ∧ deadline ≤ state.now + input.ttlSeconds * 1000

/-- A save that reads the pointer alone finds in it every token of its user that is
alive. -/
theorem Setup.Tracked.pointer {setup : Setup Call} {state : State Call}
    (tracked : setup.Tracked state) {call : Call} {input : SaveInput}
    (alone : setup.Alone state (.command call)) (operation : setup.operation call = .save input)
    (reading : state.calls call = .readingPointer) {tokenHash : String} {cell : Cell String}
    (live : Slot.live state.now (state.store.token tokenHash) = some cell)
    (owner : cell.value = input.userId) :
    Slot.get state.now (state.store.user input.userId) = some tokenHash := by
  rcases tracked.pointed tokenHash cell live with
    ⟨saver, input', operation', sameUser, _, reached⟩ | ⟨pointer, _, _, found, names, _⟩
  · have finished := alone input operation reading saver input' operation' (sameUser.trans owner)
    rw [reached] at finished
    cases finished
  · rw [owner] at found
    exact Slot.get_eq_some_iff.mpr ⟨pointer, found, names⟩

/-- The pointer that a save has written outlives a token that expires within its TTL. -/
theorem State.pointsTo_of_setEx {state : State Call} {input : SaveInput} {cell : Cell String}
    {time deadline : Nat}
    (written : state.store.user cell.value = .setEx time input.tokenHash input.ttlSeconds)
    (expiry : cell.expireAt = some deadline) (bound : deadline ≤ time + input.ttlSeconds * 1000)
    (alive : state.now ≤ deadline) : state.PointsTo input.tokenHash cell := by
  refine ⟨{ value := input.tokenHash, expireAt := some (time + input.ttlSeconds * 1000) },
    deadline, time + input.ttlSeconds * 1000, ?_, rfl, expiry, rfl, bound⟩
  rw [written]
  exact Slot.live_setEx state.now time input.tokenHash input.ttlSeconds (by omega)

/-- The token of a hash, when alive, is that of the user the hash was saved for. -/
theorem Setup.Known.dead_of_owner {setup : Setup Call} {state : State Call}
    (known : setup.Known state) {userId tokenHash : String}
    (issued : setup.Issued state userId tokenHash)
    (other : ∀ cell, Slot.live state.now (state.store.token tokenHash) = some cell →
      cell.value ≠ userId) : Slot.live state.now (state.store.token tokenHash) = none := by
  cases live : Slot.live state.now (state.store.token tokenHash) with
  | none => rfl
  | some cell =>
      obtain ⟨saver, input, operation, rfl, rfl, _⟩ := issued
      obtain ⟨saver', input', operation', owner, sameHash, _⟩ :=
        known.token input.tokenHash cell (Slot.live_some_iff.mp live).1
      have sameCall := setup.fresh saver' saver input' input operation' operation sameHash
      rw [sameCall, operation] at operation'
      cases operation'
      exact absurd owner.symm (other cell live)

variable [DecidableEq Call]

section Step

variable {setup : Setup Call} {state following : State Call} {action : Action Call}

/-- A save starts replacing with the command that reads the pointer. -/
theorem Setup.Moves.replacing (moves : setup.Moves state action following) {call : Call}
    {input : SaveInput} (operation : setup.operation call = .save input)
    (replacing : (following.calls call).replacing = true) :
    (state.calls call).replacing = true ∨
      (action = .command call ∧ state.calls call = .readingPointer) := by
  rcases moves.call call with same | ⟨_, started⟩ | ⟨store, phase, sent, _, next, command⟩
  · exact .inl (by rwa [← same])
  · rw [started, operation] at replacing
    cases replacing
  · rw [next] at replacing
    cases command with
    | findsNone _ reached | findsPrevious _ reached => exact .inr ⟨sent, reached⟩
    | deletesPrevious _ reached | writesToken _ reached =>
        exact .inl (by rw [reached]; rfl)
    | writesPointer | misses | reads | loses | wins | unpoints => cases replacing

theorem Setup.OneReplacing.step (single : setup.OneReplacing state)
    (alone : setup.Alone state action) (moves : setup.Moves state action following) :
    setup.OneReplacing following := by
  intro call other input input' operation operation' same replacing replacing'
  rcases moves.replacing operation replacing with already | ⟨sent, reached⟩
  · rcases moves.replacing operation' replacing' with already' | ⟨sent', reached'⟩
    · exact single call other input input' operation operation' same already already'
    · rw [sent'] at alone
      rw [alone input' operation' reached' call input operation same] at already
      cases already
  · rcases moves.replacing operation' replacing' with already' | ⟨sent', reached'⟩
    · rw [sent] at alone
      rw [alone input operation reached other input' operation' same.symm] at already'
      cases already'
    · rw [sent] at sent'
      exact Action.command.inj sent'

/-- A token that is alive was so before, or has just been written. -/
theorem Setup.Moves.live_token (moves : setup.Moves state action following) {tokenHash : String}
    {cell : Cell String}
    (live : Slot.live following.now (following.store.token tokenHash) = some cell) :
    (following.store.token tokenHash = state.store.token tokenHash ∧
      Slot.live state.now (state.store.token tokenHash) = some cell) ∨
      ∃ saver input, setup.operation saver = .save input ∧
        state.calls saver = .writingToken ∧ following.calls saver = .writingPointer ∧
        tokenHash = input.tokenHash ∧ cell.value = input.userId ∧
        cell.expireAt = some (state.now + input.ttlSeconds * 1000) := by
  rcases moves.token tokenHash with
    same | deleted | ⟨saver, input, operation, writing, next, hash, written⟩
  · rw [same] at live
    exact .inl ⟨same, Slot.live_earlier moves.now live⟩
  · rw [deleted] at live
    cases live
  · rw [written] at live
    have stored := (Slot.live_some_iff.mp live).1
    cases stored
    exact .inr ⟨saver, input, operation, writing, next, hash, rfl, rfl⟩

theorem Setup.Tracked.step_deleting (tracked : setup.Tracked state)
    (single : setup.OneReplacing following) (alone : setup.Alone state action)
    (moves : setup.Moves state action following) {call : Call} {input : SaveInput}
    {previousTokenHash : String} (operation : setup.operation call = .save input)
    (reached : following.calls call = .deletingPrevious previousTokenHash) {tokenHash : String}
    {cell : Cell String}
    (live : Slot.live following.now (following.store.token tokenHash) = some cell)
    (owner : cell.value = input.userId) : tokenHash = previousTokenHash := by
  rcases moves.live_token live with ⟨_, before⟩ | ⟨saver, input', operation', _, next, _, user, _⟩
  · rcases moves.call call with same | ⟨_, started⟩ | ⟨store, phase, sent, _, after, command⟩
    · rw [same] at reached
      exact tracked.deleting call input previousTokenHash operation reached tokenHash cell before
        owner
    · rw [started, operation] at reached
      cases reached
    · rw [after] at reached
      cases command with
      | findsPrevious operation' reading found =>
          rw [operation] at operation'
          cases operation'
          cases reached
          rw [sent] at alone
          rw [tracked.pointer alone operation reading before owner] at found
          exact Option.some.inj found
      | findsNone | deletesPrevious | writesToken | writesPointer | misses | reads | loses | wins
      | unpoints => cases reached
  · have sameCall := single call saver input input' operation operation' (owner.symm.trans user)
      (by rw [reached]; rfl) (by rw [next]; rfl)
    rw [sameCall, next] at reached
    cases reached

theorem Setup.Tracked.step_deleted (tracked : setup.Tracked state) (known : setup.Known state)
    (single : setup.OneReplacing following) (alone : setup.Alone state action)
    (moves : setup.Moves state action following) {call : Call} {input : SaveInput}
    (operation : setup.operation call = .save input)
    (reached : following.calls call = .writingToken) {tokenHash : String} {cell : Cell String}
    (live : Slot.live following.now (following.store.token tokenHash) = some cell) :
    cell.value ≠ input.userId := by
  intro owner
  rcases moves.live_token live with
    ⟨kept, before⟩ | ⟨saver, input', operation', _, next, _, user, _⟩
  · rcases moves.call call with same | ⟨_, started⟩ | ⟨store, phase, sent, stored, after, command⟩
    · rw [same] at reached
      exact tracked.deleted call input operation reached tokenHash cell before owner
    · rw [started, operation] at reached
      cases reached
    · rw [after] at reached
      cases command with
      | findsNone operation' reading absent =>
          rw [operation] at operation'
          cases operation'
          rw [sent] at alone
          rw [tracked.pointer alone operation reading before owner] at absent
          -- Only an empty hash would look like no pointer.
          obtain ⟨saver, input', operation'', _, rfl, _⟩ :=
            known.token tokenHash cell (Slot.live_some_iff.mp before).1
          rw [truthy_eq_some.mpr ⟨rfl, setup.hashed saver input' operation''⟩] at absent
          cases absent
      | @deletesPrevious _ previousTokenHash operation' deleting =>
          have same := tracked.deleting call input previousTokenHash operation deleting tokenHash
            cell before owner
          rw [stored, same] at live
          simp [TokenStore.setToken, Slot.del, Slot.live] at live
      | findsPrevious | writesToken | writesPointer | misses | reads | loses | wins
      | unpoints => cases reached
  · have sameCall := single call saver input input' operation operation' (owner.symm.trans user)
      (by rw [reached]; rfl) (by rw [next]; rfl)
    rw [sameCall, next] at reached
    cases reached

theorem Setup.Tracked.step_written (tracked : setup.Tracked state)
    (single : setup.OneReplacing following) (moves : setup.Moves state action following)
    {call : Call} {input : SaveInput} (operation : setup.operation call = .save input)
    (reached : following.calls call = .writingPointer) {tokenHash : String} {cell : Cell String}
    (live : Slot.live following.now (following.store.token tokenHash) = some cell)
    (owner : cell.value = input.userId) :
    tokenHash = input.tokenHash ∧ ∃ deadline, cell.expireAt = some deadline ∧
      deadline ≤ following.now + input.ttlSeconds * 1000 := by
  have later := moves.now
  rcases moves.live_token live with
    ⟨_, before⟩ | ⟨saver, input', operation', _, next, hash, user, expiry⟩
  · rcases moves.call call with same | ⟨_, started⟩ | ⟨store, phase, _, _, after, command⟩
    · rw [same] at reached
      obtain ⟨sameHash, deadline, expiry, bound⟩ :=
        tracked.written call input operation reached tokenHash cell before owner
      exact ⟨sameHash, deadline, expiry, by omega⟩
    · rw [started, operation] at reached
      cases reached
    · rw [after] at reached
      cases command with
      | writesToken operation' writing =>
          exact absurd owner (tracked.deleted call input operation writing tokenHash cell before)
      | findsNone | findsPrevious | deletesPrevious | writesPointer | misses | reads | loses
      | wins | unpoints => cases reached
  · have sameCall := single call saver input input' operation operation' (owner.symm.trans user)
      (by rw [reached]; rfl) (by rw [next]; rfl)
    rw [sameCall, operation'] at operation
    cases operation
    exact ⟨hash, _, expiry, by omega⟩

theorem Setup.Tracked.step_pointed (tracked : setup.Tracked state) (known : setup.Known state)
    (moves : setup.Moves state action following) {tokenHash : String} {cell : Cell String}
    (live : Slot.live following.now (following.store.token tokenHash) = some cell) :
    (∃ saver input, setup.operation saver = .save input ∧ input.userId = cell.value ∧
      input.tokenHash = tokenHash ∧ following.calls saver = .writingPointer) ∨
      following.PointsTo tokenHash cell := by
  rcases moves.live_token live with
    ⟨_, before⟩ | ⟨saver, input, operation, _, next, hash, user, _⟩
  · have alive {deadline : Nat} (expiry : cell.expireAt = some deadline) :
        following.now ≤ deadline := by
      have holds := (Slot.live_some_iff.mp live).2
      simpa only [Cell.aliveAt, expiry, decide_eq_true_eq] using holds
    rcases tracked.pointed tokenHash cell before with
      ⟨saver, input, operation, user, hash, reached⟩ |
      ⟨pointer, deadline, deadline', found, names, expiry, expiry', order⟩
    · rcases moves.call saver with same | ⟨ready, _⟩ | ⟨store, phase, _, stored, _, command⟩
      · exact .inl ⟨saver, input, operation, user, hash, by rw [same, reached]⟩
      · rw [reached] at ready
        cases ready
      · cases command with
        | writesPointer operation' =>
            rw [operation] at operation'
            cases operation'
            obtain ⟨_, deadline, expiry, bound⟩ :=
              tracked.written saver input operation reached tokenHash cell before user.symm
            have written : following.store.user cell.value =
                .setEx state.now input.tokenHash input.ttlSeconds := by
              rw [stored, ← user]
              exact Function.update_self ..
            rw [← hash]
            exact .inr (State.pointsTo_of_setEx written expiry bound (alive expiry))
        | findsNone _ other | findsPrevious _ other | deletesPrevious _ other
        | writesToken _ other | misses _ other | reads _ other | loses _ other | wins _ other
        | unpoints _ other =>
            rw [reached] at other
            cases other
    · rcases moves.user cell.value with
        same | ⟨consumer, consumed, operation, reached, held, _⟩ |
        ⟨saver, input, operation, reached, _, user, written⟩
      · refine .inr ⟨pointer, deadline, deadline', ?_, names, expiry, expiry', order⟩
        rw [same]
        exact Slot.live_until found expiry' (Nat.le_trans (alive expiry) order)
      · -- The pointer goes only after the token that it names.
        have sameHash : consumed = tokenHash := by
          rw [Slot.get_eq_some_iff.mpr ⟨pointer, found, names⟩] at held
          exact (Option.some.inj held).symm
        have dead := (known.winner consumer consumed cell.value operation
          (by rw [reached]; rfl)).2
        rw [sameHash, before] at dead
        cases dead
      · obtain ⟨hash, deadline, expiry, bound⟩ :=
          tracked.written saver input operation reached tokenHash cell before user
        rw [hash]
        exact .inr (State.pointsTo_of_setEx written expiry bound (alive expiry))
  · exact .inl ⟨saver, input, operation, user.symm, hash.symm, next⟩

theorem Setup.Tracked.step (tracked : setup.Tracked state) (known : setup.Known state)
    (single : setup.OneReplacing following) (alone : setup.Alone state action)
    (moves : setup.Moves state action following) : setup.Tracked following where
  pointed _ _ live := tracked.step_pointed known moves live
  deleting _ _ _ operation reached _ _ live owner :=
    tracked.step_deleting single alone moves operation reached live owner
  deleted _ _ operation reached _ _ live :=
    tracked.step_deleted known single alone moves operation reached live
  written _ _ operation reached _ _ live owner :=
    tracked.step_written single moves operation reached live owner

end Step

/-- What holds of every state in which saves for one user do not overlap. -/
structure Setup.Serial (setup : Setup Call) (state : State Call) : Prop where
  known : setup.Known state
  single : setup.OneReplacing state
  tracked : setup.Tracked state

theorem Setup.Serial.step {setup : Setup Call} {state following : State Call}
    {action : Action Call} (serial : setup.Serial state) (alone : setup.Alone state action)
    (stepped : setup.step state action = some following) : setup.Serial following := by
  have moves := Setup.moves stepped
  have single := serial.single.step alone moves
  exact
    { known := serial.known.step moves
      single := single
      tracked := serial.tracked.step serial.known single alone moves }

theorem Setup.serial_of_reachable {setup : Setup Call} {state : State Call}
    (reached : setup.system.Reachable setup.Alone state) : setup.Serial state := by
  apply reached.invariant
  · intro start initial
    have reached : setup.system.Reachable anyAction start := ⟨start, [], initial, .nil⟩
    obtain ⟨now, store, calls⟩ := start
    obtain ⟨rfl, rfl⟩ := initial
    refine ⟨Setup.known_of_reachable reached, ?_, ?_⟩
    · intro call other input input' _ _ _ replacing
      cases replacing
    · constructor
      · intro tokenHash cell live
        cases live
      · intro call input previousTokenHash _ deleting
        cases deleting
      · intro call input _ writing
        cases writing
      · intro call input _ writing
        cases writing
  · intro before action after serial alone stepped
    exact serial.step alone stepped

/-- A save that returns leaves no earlier token of its user, and when no save for a user
is running one token at most can be consumed. -/
structure Setup.OneOutstanding (setup : Setup Call)
    (allowed : State Call → Action Call → Prop) : Prop where
  replaced : ∀ state, setup.system.Reachable allowed state →
    ∀ earlier save input input', setup.operation earlier = .save input →
      setup.operation save = .save input' → input.userId = input'.userId →
      state.calls earlier = .saved → state.calls save ≠ .saved →
      ∀ actions later, setup.system.Run allowed state actions later →
        later.calls save = .saved → later.store.consumable later.now input.tokenHash = none
  single : ∀ state, setup.system.Reachable allowed state → ∀ userId,
    (∀ save input, setup.operation save = .save input → input.userId = userId →
      state.calls save = .ready ∨ state.calls save = .saved) →
    ∀ tokenHash tokenHash', state.store.consumable state.now tokenHash = some userId →
      state.store.consumable state.now tokenHash' = some userId → tokenHash = tokenHash'

/-- A save that has dealt with the previous token has left none of its user's alive. -/
structure Setup.Replaces (setup : Setup Call) (save : Call) (input : SaveInput)
    (tokenHash : String) (state : State Call) : Prop where
  serial : setup.Serial state
  issued : setup.Issued state input.userId tokenHash
  dead : (state.calls save).past = true →
    Slot.live state.now (state.store.token tokenHash) = none

theorem Setup.Replaces.step {setup : Setup Call} {state following : State Call}
    {action : Action Call} {save : Call} {input : SaveInput} {tokenHash : String}
    (replaces : setup.Replaces save input tokenHash state)
    (operation : setup.operation save = .save input) (alone : setup.Alone state action)
    (stepped : setup.step state action = some following) :
    setup.Replaces save input tokenHash following := by
  have moves := Setup.moves stepped
  have serial := replaces.serial.step alone stepped
  have issued := replaces.issued.step moves
  refine ⟨serial, issued, ?_⟩
  intro past
  have already (before : (state.calls save).past = true) :
      Slot.live following.now (following.store.token tokenHash) = none :=
    moves.dead replaces.issued (replaces.dead before)
  rcases moves.call save with same | ⟨_, started⟩ | ⟨store, phase, _, _, next, command⟩
  · exact already (by rwa [← same])
  · rw [started, operation] at past
    cases past
  · rw [next] at past
    cases command with
    | findsNone | deletesPrevious =>
        exact serial.known.dead_of_owner issued
          (serial.tracked.deleted save input operation next tokenHash)
    | writesToken _ reached | writesPointer _ reached => exact already (by rw [reached]; rfl)
    | findsPrevious | misses | reads | loses | wins | unpoints => cases past

theorem oneOutstanding_of_alone (setup : Setup Call) : setup.OneOutstanding setup.Alone where
  replaced state reached earlier save input input' operation operation' sameUser saved running
      actions later run returned := by
    have serial := Setup.serial_of_reachable reached
    have issued : setup.Issued state input'.userId input.tokenHash :=
      ⟨earlier, input, operation, sameUser, rfl, by rw [saved]; rfl⟩
    have start : setup.Replaces save input' input.tokenHash state := by
      refine ⟨serial, issued, ?_⟩
      intro past
      cases phase : state.calls save with
      | writingToken =>
          exact serial.known.dead_of_owner issued
            (serial.tracked.deleted save input' operation' phase input.tokenHash)
      | writingPointer =>
          apply serial.known.dead_of_owner issued
          intro cell live owner
          obtain ⟨sameHash, _⟩ := serial.tracked.written save input' operation' phase
            input.tokenHash cell live owner
          have sameCall := setup.fresh earlier save input input' operation operation' sameHash
          rw [← sameCall, saved] at phase
          cases phase
      | saved => exact absurd phase running
      | ready | readingPointer | deletingPrevious | readingToken | deletingToken
      | deletingPointer | consumed =>
          rw [phase] at past
          cases past
    have finish : setup.Replaces save input' input.tokenHash later := by
      apply run.preserves
      · intro before action after known alone stepped
        exact known.step operation' alone stepped
      · exact start
    have dead := finish.dead (by rw [returned]; rfl)
    unfold TokenStore.consumable
    rw [Slot.get_eq_none_iff.mpr dead]
    rfl
  single state reached userId idle tokenHash tokenHash' consumable consumable' := by
    have serial := Setup.serial_of_reachable reached
    have pointer {tokenHash : String}
        (consumable : state.store.consumable state.now tokenHash = some userId) :
        Slot.get state.now (state.store.user userId) = some tokenHash := by
      obtain ⟨cell, live, rfl⟩ := Slot.get_eq_some_iff.mp (truthy_eq_some.mp consumable).1
      rcases serial.tracked.pointed tokenHash cell live with
        ⟨saver, input, operation, owner, _, writing⟩ | ⟨pointer, _, _, found, names, _⟩
      · rcases idle saver input operation owner with phase | phase
        · rw [phase] at writing
          cases writing
        · rw [phase] at writing
          cases writing
      · exact Slot.get_eq_some_iff.mpr ⟨pointer, found, names⟩
    have same := pointer consumable
    rw [pointer consumable'] at same
    exact (Option.some.inj same).symm

def saveOf (call : Bool) : SaveInput :=
  { userId := "u1"
    tokenHash := if call then "h2" else "h1"
    ttlSeconds := 1800 }

theorem saveOf_fresh (call other : Bool) (input input' : SaveInput)
    (operation : Operation.save (saveOf call) = .save input)
    (operation' : Operation.save (saveOf other) = .save input')
    (same : input.tokenHash = input'.tokenHash) : call = other := by
  cases operation
  cases operation'
  cases call <;> cases other <;> simp_all [saveOf]

theorem saveOf_hashed (call : Bool) (input : SaveInput)
    (operation : Operation.save (saveOf call) = .save input) : input.tokenHash ≠ "" := by
  cases operation
  cases call <;> decide

theorem saveOf_positive (call : Bool) (input : SaveInput)
    (operation : Operation.save (saveOf call) = .save input) : 0 < input.ttlSeconds := by
  cases operation
  exact Nat.zero_lt_succ _

/-- Two requests to reset the password of one user. -/
def twoSaves : Setup Bool :=
  { operation := fun call => .save (saveOf call)
    hashed := saveOf_hashed
    positive := saveOf_positive
    fresh := saveOf_fresh }

/-- Both read the pointer before either writes it, and both tokens stay. -/
theorem not_oneOutstanding : ¬∀ setup : Setup Bool, setup.OneOutstanding anyAction := by
  intro claim
  let start : State Bool :=
    { now := 0
      store := .empty
      calls := fun _ => .ready }
  have executed :
      (twoSaves.system.execute (fun _ _ => true) start
        [.start false, .start true, .command false, .command true, .command false,
          .command true, .command false, .command true]).map
        (fun state => ((state.calls false, state.calls true),
          (state.store.consumable state.now "h1", state.store.consumable state.now "h2"))) =
      some ((.saved, .saved), (some "u1", some "u1")) := by decide +kernel
  obtain ⟨state, run, facts⟩ := Option.map_eq_some_iff.mp executed
  simp only [Prod.mk.injEq] at facts
  obtain ⟨⟨first, second⟩, consumable, consumable'⟩ := facts
  have same := (claim twoSaves).single state
    (.of_execute (fun _ _ _ => trivial) ⟨rfl, rfl⟩ run) "u1"
    (by
      intro save _ _ _
      cases save with
      | false => exact .inr first
      | true => exact .inr second)
    "h1" "h2" consumable consumable'
  exact absurd same (by decide)

end BackendFoundation.PasswordReset
