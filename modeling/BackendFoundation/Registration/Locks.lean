/-
A COMMIT cannot fail on a constraint: that has been decided at the INSERTs.

A row that a transaction has inserted keeps its key and its unique values away from
the tables and from the other transactions, which wait for it, until it has ended.
-/

import BackendFoundation.Database.Reserved
import BackendFoundation.Registration.Atomicity

namespace BackendFoundation.Registration

open Database Transition
open Users (User UserRow UserTable toPersistence)

variable {Call Worker Handler : Type}

theorem collides_symmetric {row other : UserRow} (clash : collides row other = true) :
    collides other row = true := by
  simp only [collides, UserTable.conflicts, Bool.or_eq_true, Bool.and_eq_true, beq_iff_eq]
    at clash ⊢
  rcases clash with ids | emails | ⟨subs, linked⟩
  · exact .inl ids.symm
  · exact .inr (.inl emails.symm)
  · refine .inr (.inr ⟨subs.symm, ?_⟩)
    rwa [subs]

/-- The id, the e-mail and the subject are what can clash. -/
theorem collides_congr {row other : UserRow} (id : row.id = other.id)
    (email : row.email = other.email) (googleSub : row.googleSub = other.googleSub)
    (pending : UserRow) : collides row pending = collides other pending := by
  unfold collides UserTable.conflicts
  rw [id, email, googleSub]

structure State.Locked (state : State Call Worker Handler) : Prop where
  listed : ∀ call, (state.calls call).inserted ≠ none → call ∈ state.transactions
  users : Reserved (fun row other => collides row other = true) state.users.table.rows
    (Phase.inserted ∘ state.calls)
  events : Reserved Eq (state.outbox.events.rows.map Outbox.OutboxRow.id)
    (Phase.appended ∘ state.calls)

section Waiting

variable [DecidableEq Call] {state : State Call Worker Handler} {call : Call}

theorem State.Locked.waits_user (locked : state.Locked) {row : UserRow}
    (waits : state.blocksUser call row = false) :
    ∀ other pending, other ≠ call → (Phase.inserted ∘ state.calls) other = some pending →
      ¬collides row pending = true := by
  intro other pending different holds clash
  have present : (state.calls other).inserted = some pending := holds
  have member : other ∈ state.transactions := by
    apply locked.listed
    rw [present]
    exact Option.some_ne_none pending
  unfold State.blocksUser at waits
  have free := List.any_eq_false.mp waits other member
  apply free
  rw [present, Option.any_some, clash, Bool.and_true]
  exact bne_iff_ne.mpr different

theorem State.Locked.waits_event (locked : state.Locked) {eventId : String}
    (waits : state.blocksEvent call eventId = false) :
    ∀ other pending, other ≠ call → (Phase.appended ∘ state.calls) other = some pending →
      ¬eventId = pending := by
  intro other pending different holds same
  have present : (state.calls other).appended = some pending := holds
  have member : other ∈ state.transactions := by
    apply locked.listed
    intro idle
    rw [Phase.appended_of_inserted idle] at present
    cases present
  unfold State.blocksEvent at waits
  have free := List.any_eq_false.mp waits other member
  apply free
  rw [present, same, beq_self_eq_true, Bool.and_true]
  exact bne_iff_ne.mpr different

end Waiting

section Step

variable [DecidableEq Call] {setup : Setup Call Worker Handler}
  {state after : State Call Worker Handler} {call : Call}

/-- An execution that holds nothing from now on. -/
theorem State.Locked.release (locked : state.Locked) {phase : Phase} {transactions : List Call}
    (idle : phase.inserted = none)
    (kept : ∀ other ∈ state.transactions, other ≠ call → other ∈ transactions) :
    State.Locked { state.goto call phase with transactions := transactions } := by
  constructor
  · intro other holds
    change (Function.update state.calls call phase other).inserted ≠ none at holds
    by_cases same : other = call
    · rw [same, Function.update_self] at holds
      exact absurd idle holds
    · rw [Function.update_of_ne same] at holds
      exact kept other (locked.listed other holds) same
  · change Reserved _ _ (Phase.inserted ∘ Function.update state.calls call phase)
    rw [Function.comp_update, idle]
    exact locked.users.release call
  · change Reserved _ _ (Phase.appended ∘ Function.update state.calls call phase)
    rw [Function.comp_update, Phase.appended_of_inserted idle]
    exact locked.events.release call

theorem State.Locked.link (locked : state.Locked) {user : User} {users : UserTable}
    (before : state.calls call = .linking user)
    (linked : state.link call user = some (.ok users)) :
    State.Locked { state with users := users } := by
  obtain ⟨updated, waits⟩ := State.update_of_link linked
  refine
    { listed := locked.listed
      users := locked.users.rewrite ?_
      events := locked.events }
  intro owner row holds other member clash
  rw [UserTable.table_update updated] at member
  obtain ⟨stored, present, rewritten⟩ := Table.mem_update.mp member
  by_cases selected : (stored.id == (toPersistence user).id) = true
  · rw [if_pos selected] at rewritten
    have different : owner ≠ call := by
      intro equal
      subst equal
      change (state.calls owner).inserted = some row at holds
      rw [before] at holds
      cases holds
    have same : collides other row = collides (toPersistence user) row := by
      subst rewritten
      apply collides_congr
      · exact beq_iff_eq.mp selected
      · rfl
      · rfl
    apply locked.waits_user waits owner row different holds
    rw [← same]
    exact collides_symmetric clash
  · rw [if_neg selected] at rewritten
    subst rewritten
    exact locked.users.free owner row holds stored present clash

theorem State.Locked.insert (locked : state.Locked) {user : User} {users : UserTable}
    {begun : Nat}
    (stored : state.users.insert (toPersistence user) = .ok users)
    (waits : state.blocksUser call (toPersistence user) = false) :
    State.Locked
      { state.goto call (.appending user begun) with
        transactions := call :: state.transactions } := by
  obtain ⟨_, absent, free⟩ := UserTable.rows_insert stored
  constructor
  · intro other holds
    by_cases same : other = call
    · subst same
      exact List.mem_cons_self
    · change (Function.update state.calls call _ other).inserted ≠ none at holds
      rw [Function.update_of_ne same] at holds
      exact List.mem_cons_of_mem _ (locked.listed other holds)
  · change Reserved _ state.users.table.rows (Phase.inserted ∘ Function.update state.calls call _)
    rw [Function.comp_update]
    refine locked.users.hold (fun _ _ => collides_symmetric) ?_ (locked.waits_user waits)
    intro other member clash
    unfold collides at clash
    rw [free other member, Bool.or_false] at clash
    apply absent
    rw [beq_iff_eq.mp clash]
    exact List.mem_map_of_mem member
  · change Reserved _ _ (Phase.appended ∘ Function.update state.calls call _)
    rw [Function.comp_update]
    exact locked.events.release call

theorem State.Locked.append (locked : state.Locked) {user : User} {begun : Nat}
    {event : UserRegisteredEvent} (before : state.calls call = .appending user begun)
    (absent : event.id ∉ state.outbox.events.rows.map Outbox.OutboxRow.id)
    (waits : state.blocksEvent call event.id = false) :
    State.Locked (state.goto call (.committing user event)) := by
  have holding : ∀ other, ((state.goto call (.committing user event)).calls other).inserted =
      (state.calls other).inserted := by
    intro other
    change (Function.update state.calls call _ other).inserted = _
    by_cases same : other = call
    · rw [same, Function.update_self, before]
      rfl
    · rw [Function.update_of_ne same]
  constructor
  · intro other holds
    rw [holding] at holds
    exact locked.listed other holds
  · have same : Phase.inserted ∘ (state.goto call (.committing user event)).calls =
        Phase.inserted ∘ state.calls := funext holding
    rw [same]
    exact locked.users
  · change Reserved _ _ (Phase.appended ∘ Function.update state.calls call _)
    rw [Function.comp_update]
    refine locked.events.hold (fun _ _ => Eq.symm) ?_ (locked.waits_event waits)
    intro other member same
    exact absent (same ▸ member)

theorem State.Locked.commit (locked : state.Locked) {user : User} {event : UserRegisteredEvent}
    {left : State Call Worker Handler} {phase : Phase}
    (before : state.calls call = .committing user event)
    (committed : state.commit call user event = some left) (idle : phase.inserted = none) :
    (left.goto call phase).Locked := by
  unfold State.commit at committed
  split at committed
  · rename_i users events inserted stored
    cases committed
    have rows := (UserTable.rows_insert inserted).1
    have appended := (Table.rows_insert stored).1
    constructor
    · intro other holds
      change (Function.update state.calls call phase other).inserted ≠ none at holds
      change other ∈ state.transactions.erase call
      by_cases same : other = call
      · rw [same, Function.update_self] at holds
        exact absurd idle holds
      · rw [Function.update_of_ne same] at holds
        exact (List.mem_erase_of_ne same).mpr (locked.listed other holds)
    · change Reserved _ users.table.rows (Phase.inserted ∘ Function.update state.calls call phase)
      rw [Function.comp_update, idle, rows]
      apply locked.users.store
      change (state.calls call).inserted = _
      rw [before]
      rfl
    · change Reserved _ (events.rows.map Outbox.OutboxRow.id)
        (Phase.appended ∘ Function.update state.calls call phase)
      rw [Function.comp_update, Phase.appended_of_inserted idle, appended]
      apply locked.events.store
      change (state.calls call).appended = _
      rw [before]
      rfl
  · cases committed

theorem State.Locked.moves (locked : state.Locked) (moves : setup.Moves state call after) :
    after.Locked := by
  have erased : ∀ other ∈ state.transactions, other ≠ call →
      other ∈ state.transactions.erase call :=
    fun other member different => (List.mem_erase_of_ne different).mpr member
  cases moves with
  | goes leads => exact locked.release leads.inserted.2 fun other member _ => member
  | @links user users phase before linked next =>
      have idle : phase.inserted = none := by
        rcases next with rfl | ended
        · rfl
        · exact Phase.inserted_of_ended ended
      exact (locked.link before linked).release idle fun other member _ => member
  | inserts before created stored waits => exact locked.insert stored waits
  | appends before announced absent waits => exact locked.append before absent waits
  | commits before committed settled =>
      exact locked.commit before committed (Phase.inserted_of_settled settled)
  | stops running next =>
      refine locked.release ?_ erased
      rcases next with rfl | rfl
      · rfl
      · rfl

end Step

section Runs

variable [DecidableEq Call] [DecidableEq Worker] {setup : Setup Call Worker Handler}
  {start state after : State Call Worker Handler} {call : Call}

theorem State.Locked.step (locked : state.Locked) {action : Action Call Worker}
    (stepped : setup.step state action = some after) : after.Locked := by
  cases setup.moved stepped with
  | @works work outbox idle working worked =>
      have ids : outbox.events.rows.map Outbox.OutboxRow.id =
          state.outbox.events.rows.map Outbox.OutboxRow.id := by
        have same := congrArg (List.map Announcement.id) (announcements_worker worked working)
        rw [List.map_map, List.map_map] at same
        exact same
      refine
        { listed := locked.listed
          users := locked.users
          events := ?_ }
      change Reserved _ (outbox.events.rows.map Outbox.OutboxRow.id) _
      rw [ids]
      exact locked.events
  | acts caller moves => exact locked.moves moves

omit [DecidableEq Call] [DecidableEq Worker] in
theorem State.locked_initial (initial : State.initial setup start) : start.Locked := by
  obtain ⟨_, ready, _, _⟩ := initial
  refine
    { listed := ?_
      users := .nothing ?_
      events := .nothing ?_ }
  · intro call holds
    rw [ready] at holds
    exact absurd rfl holds
  · intro call
    change (start.calls call).inserted = none
    rw [ready]
    rfl
  · intro call
    change (start.calls call).appended = none
    rw [ready]
    rfl

theorem Setup.locked_of_reachable (reached : setup.system.Reachable anyAction state) :
    state.Locked := by
  obtain ⟨start, actions, initial, run⟩ := reached
  apply run.preserves
  · intro before action after locked _ stepped
    exact locked.step stepped
  · exact State.locked_initial initial

/-- Whenever a transaction commits, the constraints hold. -/
theorem Setup.commit_succeeds (reached : setup.system.Reachable anyAction state) {user : User}
    {event : UserRegisteredEvent} (before : state.calls call = .committing user event) :
    (state.commit call user event).isSome := by
  have locked := Setup.locked_of_reachable reached
  have holdsUser : (Phase.inserted ∘ state.calls) call = some (toPersistence user) := by
    change (state.calls call).inserted = _
    rw [before]
    rfl
  have holdsEvent : (Phase.appended ∘ state.calls) call = some event.id := by
    change (state.calls call).appended = _
    rw [before]
    rfl
  have free := locked.users.free call _ holdsUser
  have freeEvent := locked.events.free call _ holdsEvent
  obtain ⟨users, inserted⟩ : ∃ users, state.users.insert (toPersistence user) = .ok users := by
    apply UserTable.insert_of_free
    · intro other member same
      apply free other member
      unfold collides
      rw [same, beq_self_eq_true, Bool.true_or]
    · intro other member
      apply Bool.eq_false_iff.mpr
      intro conflict
      apply free other member
      unfold collides
      rw [conflict, Bool.or_true]
  obtain ⟨events, stored⟩ : ∃ events, Outbox.append state.outbox.events event.id userRegistered
      event.payload.stringify event.occurredAt event.availableAt event.createdAt = some events := by
    apply Table.insert_of_absent
    exact fun other member same => freeEvent other.id (List.mem_map_of_mem member) same
  unfold State.commit
  rw [inserted, stored]
  rfl

/-- A creation that has executed both of its INSERTs can commit, whatever the others have done
since, and the account and the event that tells of it are in the tables then. -/
theorem creation_commits (reached : setup.system.Reachable anyAction state) {user : User}
    {event : UserRegisteredEvent} (before : state.calls call = .committing user event) :
    ∃ after, setup.step state (.commit call) = some after ∧
      toPersistence user ∈ after.users.table.rows ∧
      ∃ row ∈ after.outbox.events.rows, row.id = event.id ∧ row.status = .pending ∧
        Registers row (toPersistence user) := by
  have announced : event.payload = userRegisteredPayload user := by
    obtain ⟨_, _, initial, run⟩ := reached
    have known := (Setup.known_and_paired_of_run initial run).1.calls call
    rw [before] at known
    exact known.2
  obtain ⟨committed, commits⟩ := Option.isSome_iff_exists.mp
    (Setup.commit_succeeds reached before)
  refine ⟨committed.goto call ((setup.operation call).afterCommit user), ?_, ?_⟩
  · simp only [Setup.step, before, commits, Option.map_some]
  · unfold State.commit at commits
    split at commits
    · rename_i users events inserted stored
      cases commits
      obtain ⟨rows, _, _⟩ := UserTable.rows_insert inserted
      constructor
      · change toPersistence user ∈ users.table.rows
        rw [rows]
        exact List.mem_cons_self
      · rw [announced] at stored
        exact ⟨_, (Table.mem_insert stored _).mpr (.inl rfl), rfl, rfl, rfl, rfl⟩
    · cases commits

end Runs

theorem firstSignIn_commits : ∃ state after : State Unit Bool Unit,
    firstSignIn.step state (.commit ()) = some after ∧
      (∃ row ∈ after.users.table.rows, row.id = "u1") ∧
      ∃ row ∈ after.outbox.events.rows, row.id = "e1" ∧ row.status = .pending := by
  have executed :
      (firstSignIn.system.execute (fun _ _ => true) seeded committingSignIn).map
        (fun state => ((state.calls ()).inserted.map UserRow.id, (state.calls ()).appended)) =
      some (some "u1", some "e1") := by decide +kernel
  obtain ⟨state, run, facts⟩ := Option.map_eq_some_iff.mp executed
  simp only [Prod.mk.injEq] at facts
  obtain ⟨inserted, appended⟩ := facts
  have reached : firstSignIn.system.Reachable anyAction state :=
    .of_execute (fun _ _ _ => trivial) seeded_initial run
  cases before : state.calls () with
  | committing user event =>
      rw [before] at inserted appended
      obtain ⟨after, commits, present, row, member, same, pending, _⟩ :=
        creation_commits reached before
      exact ⟨state, after, commits, ⟨_, present, Option.some.inj inserted⟩, row, member,
        same.trans (Option.some.inj appended), pending⟩
  | _ =>
      rw [before] at appended
      cases appended

end BackendFoundation.Registration
