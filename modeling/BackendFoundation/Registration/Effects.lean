/-
What one step does to the accounts and to the announcements of them.

Only a COMMIT changes either, and it adds one of each. That the UPDATE of a sign-in
leaves the accounts alone rests on normalisation: the e-mail that it writes back has
been normalised when its row was read.
-/

import BackendFoundation.Registration.Ledger
import BackendFoundation.Registration.Steps

namespace BackendFoundation.Registration

open Database Transition
open Users (Email RepositoryError User UserRow UserTable toDomain toPersistence)

/-- The columns of users that this is about. -/
structure AccountRow where
  id : String
  email : String
deriving DecidableEq, Repr

/-- The columns of outbox_events that no worker writes. -/
structure Announcement where
  id : String
  eventName : String
  payload : String
deriving DecidableEq, Repr

variable {Call Worker Handler : Type}

def accountRow (row : UserRow) : AccountRow :=
  { id := row.id
    email := row.email }

def announcement (row : Outbox.OutboxRow Worker) : Announcement :=
  { id := row.id
    eventName := row.eventName
    payload := row.payload }

def UserRegisteredEvent.announcement (event : UserRegisteredEvent) : Announcement :=
  { id := event.id
    eventName := userRegistered
    payload := event.payload.stringify }

def State.ledger (state : State Call Worker Handler) : Ledger AccountRow Announcement :=
  { items := state.users.table.rows.map accountRow
    notices := state.outbox.events.rows.map announcement }

def Setup.Normal (setup : Setup Call Worker Handler) (email : String) : Prop :=
  setup.toLowerCase (Users.trim email) = email

/-- What is known of an execution at its program point. -/
def Setup.CallKnown (setup : Setup Call Worker Handler) (ledger : Ledger AccountRow Announcement) :
    Phase → Prop
  | .linking user => accountRow (toPersistence user) ∈ ledger.items
  | .appending user _ => setup.Normal user.email.value
  | .committing user event => setup.Normal user.email.value ∧
      event.payload = userRegisteredPayload user
  | _ => True

structure Setup.Known (setup : Setup Call Worker Handler) (state : State Call Worker Handler) :
    Prop where
  normal : ∀ account ∈ state.ledger.items, setup.Normal account.email
  calls : ∀ call, setup.CallKnown state.ledger (state.calls call)

/-- The ledger before and after a step. -/
inductive Setup.Effect (setup : Setup Call Worker Handler)
    (ledger : Ledger AccountRow Announcement) : Ledger AccountRow Announcement → Prop
  | same : Effect setup ledger ledger
  | creates {user : User} {event : UserRegisteredEvent} (normal : setup.Normal user.email.value)
      (announced : event.payload = userRegisteredPayload user)
      (fresh : user.id ∉ ledger.items.map AccountRow.id) :
      Effect setup ledger
        (ledger.create (accountRow (toPersistence user)) event.announcement)

section Normalization

variable {setup : Setup Call Worker Handler}

theorem Setup.normal_of_create {value : String} {email : Email}
    (created : Email.create setup.toLowerCase value = .ok email) : setup.Normal email.value := by
  unfold Setup.Normal
  rw [Email.value_of_create created]
  exact setup.normalizes value

theorem Setup.normal_of_newUser {userId : String} {email : Email} {account : Account}
    {user : User} (created : setup.newUser userId email account = .ok user) :
    setup.Normal user.email.value := by
  unfold Setup.newUser at created
  cases normalized : Email.create setup.toLowerCase email.value with
  | error error =>
      rw [normalized] at created
      cases created
  | ok email =>
      rw [normalized] at created
      cases account with
      | password passwordHash =>
          cases created
          exact setup.normal_of_create normalized
      | google googleSub =>
          cases created
          exact setup.normal_of_create normalized

/-- Reading a row whose e-mail is normal does not change it. -/
theorem Setup.accountRow_of_toDomain {row : UserRow} {user : User} (normal : setup.Normal row.email)
    (restored : toDomain setup.toLowerCase row = .ok user) :
    accountRow (toPersistence user) = accountRow row := by
  unfold toDomain at restored
  cases created : Email.create setup.toLowerCase row.email with
  | error error =>
      rw [created] at restored
      cases restored
  | ok email =>
      rw [created] at restored
      cases restored
      have same : email.value = row.email := (Email.value_of_create created).trans normal
      unfold accountRow toPersistence
      rw [same]

end Normalization

section Calls

variable {setup : Setup Call Worker Handler} {ledger following : Ledger AccountRow Announcement}
  {phase : Phase}

theorem Setup.Effect.kept (effect : setup.Effect ledger following) :
    ∀ account ∈ ledger.items, account ∈ following.items := by
  cases effect with
  | same => exact fun _ member => member
  | creates => exact fun _ member => List.mem_cons_of_mem _ member

theorem Setup.Effect.normal (effect : setup.Effect ledger following)
    (normal : ∀ account ∈ ledger.items, setup.Normal account.email) :
    ∀ account ∈ following.items, setup.Normal account.email := by
  cases effect with
  | same => exact normal
  | creates created =>
      intro account member
      rcases List.mem_cons.mp member with rfl | earlier
      · exact created
      · exact normal account earlier

theorem Setup.CallKnown.grow (known : setup.CallKnown ledger phase)
    (kept : ∀ account ∈ ledger.items, account ∈ following.items) :
    setup.CallKnown following phase := by
  cases phase with
  | linking user => exact kept _ known
  | ready | hashing | findingBySub | findingByEmail | beginning | inserting | appending | committing
  | issuing | returned | thrown | crashed => exact known

theorem Setup.callKnown_register (setup : Setup Call Worker Handler) (email passwordHash : String) :
    setup.CallKnown ledger (setup.register email passwordHash) := by
  unfold Setup.register
  split
  · trivial
  · trivial

theorem Setup.callKnown_start (setup : Setup Call Worker Handler) (operation : Operation) :
    setup.CallKnown ledger operation.start := by
  cases operation with
  | register => trivial
  | completeGoogleSignIn => trivial

theorem Setup.callKnown_settled (setup : Setup Call Worker Handler) (settled : phase.Settled) :
    setup.CallKnown ledger phase := by
  cases phase with
  | issuing | returned | thrown | crashed => trivial
  | ready | hashing | findingBySub | findingByEmail | linking | beginning | inserting | appending
  | committing => cases settled

theorem Setup.callKnown_ended (setup : Setup Call Worker Handler) (ended : phase.Ended) :
    setup.CallKnown ledger phase := by
  cases phase with
  | thrown | crashed => trivial
  | ready | hashing | findingBySub | findingByEmail | linking | beginning | inserting | appending
  | committing | issuing | returned => cases ended

theorem Setup.callKnown_reply {users : UserTable} {after : Phase}
    (normal : ∀ row ∈ users.table.rows, setup.Normal row.email)
    (listed : ∀ row ∈ users.table.rows, accountRow row ∈ ledger.items)
    (replied : setup.reply users phase = some after) : setup.CallKnown ledger after := by
  cases phase with
  | findingBySub profile =>
      simp only [Setup.reply] at replied
      split at replied
      · cases replied
        unfold Setup.found
        split
        · trivial
        · trivial
      · split at replied
        · cases replied
          trivial
        · split at replied
          · cases replied
            trivial
          · cases replied
            trivial
  | findingByEmail profile email =>
      simp only [Setup.reply] at replied
      split at replied
      · rename_i row found
        cases replied
        have member := (UserTable.mem_of_findByEmail found).1
        unfold Setup.found
        split
        · trivial
        · rename_i user restored
          change accountRow (toPersistence user) ∈ ledger.items
          rw [setup.accountRow_of_toDomain (normal row member) restored]
          exact listed row member
      · cases replied
        trivial
  | ready | hashing | linking | beginning | inserting | appending | committing | issuing
  | returned | thrown | crashed => cases replied

theorem Setup.Leads.callKnown {users : UserTable} {after : Phase}
    (leads : setup.Leads users phase after)
    (normal : ∀ row ∈ users.table.rows, setup.Normal row.email)
    (listed : ∀ row ∈ users.table.rows, accountRow row ∈ ledger.items) :
    setup.CallKnown ledger after := by
  cases leads with
  | starts operation => exact setup.callKnown_start operation
  | hashed email passwordHash => exact setup.callKnown_register email passwordHash
  | replied replied => exact setup.callKnown_reply normal listed replied
  | ends idle early ended => exact setup.callKnown_ended ended
  | begins | returns => trivial

end Calls

theorem map_id_accountRow (users : UserTable) :
    (users.table.rows.map accountRow).map AccountRow.id = users.table.rows.map UserRow.id := by
  rw [List.map_map]
  rfl

/-- The UPDATE of a sign-in writes the e-mail that the row has. -/
theorem accounts_update {users after : UserTable} {data : UserRow}
    (updated : users.update data = .ok after)
    (listed : accountRow data ∈ users.table.rows.map accountRow) :
    after.table.rows.map accountRow = users.table.rows.map accountRow := by
  obtain ⟨stored, present, same⟩ := List.mem_map.mp listed
  rw [UserTable.table_update updated]
  apply Table.map_update
  intro row member selected
  have identical : row.id = data.id := beq_iff_eq.mp selected
  have ids : stored.id = data.id := congrArg AccountRow.id same
  have email : stored.email = data.email := congrArg AccountRow.email same
  cases users.table.unique member present (identical.trans ids.symm)
  change AccountRow.mk stored.id data.email = AccountRow.mk stored.id stored.email
  rw [email]

variable [DecidableEq Worker]

theorem announcement_rewritten {options : Outbox.OutboxProcessorOptions} {worker : Worker}
    {statement : Outbox.Statement Worker} {row after : Outbox.OutboxRow Worker}
    (rewrites : statement.Rewrites options worker row after) :
    announcement after = announcement row := by
  cases rewrites <;> rfl

/-- The workers write other columns. -/
theorem announcements_worker {setup : Outbox.Setup Worker Handler}
    {state following : Outbox.State Worker Handler} {action : Outbox.Action Worker}
    (stepped : setup.step state action = some following) (working : isAppend action = false) :
    following.events.rows.map announcement = state.events.rows.map announcement := by
  cases setup.moved stepped with
  | advances | routes => rfl
  | appends stored => cases working
  | @acts call _ statement _ turn =>
      cases statement with
      | none => rfl
      | some statement =>
          obtain ⟨condition, assignment, updated, rewritten⟩ :=
            setup.execute_events state call statement
          change (setup.execute state call statement).events.rows.map announcement = _
          rw [updated]
          apply Table.map_update
          exact fun row member selected => announcement_rewritten (rewritten row member selected)

variable [DecidableEq Call] {setup : Setup Call Worker Handler}
  {state after : State Call Worker Handler} {call : Call}

omit [DecidableEq Worker] in
theorem State.ledger_commit {user : User} {event : UserRegisteredEvent}
    (committed : state.commit call user event = some after) :
    after.ledger = state.ledger.create (accountRow (toPersistence user)) event.announcement ∧
      user.id ∉ state.ledger.items.map AccountRow.id ∧ after.calls = state.calls := by
  unfold State.commit at committed
  split at committed
  · rename_i users events inserted stored
    cases committed
    obtain ⟨rows, absent, _⟩ := UserTable.rows_insert inserted
    have appended := (Table.rows_insert stored).1
    refine ⟨?_, ?_, rfl⟩
    · change Ledger.mk _ _ = Ledger.mk _ _
      rw [rows, appended]
      rfl
    · change user.id ∉ (state.users.table.rows.map accountRow).map AccountRow.id
      rwa [map_id_accountRow]
  · cases committed

omit [DecidableEq Worker] in
theorem State.ledger_link {user : User} {users : UserTable}
    (linked : state.link call user = some (.ok users))
    (listed : accountRow (toPersistence user) ∈ state.ledger.items) :
    State.ledger { state with users := users } = state.ledger := by
  change Ledger.mk _ _ = Ledger.mk _ _
  rw [accounts_update (State.update_of_link linked).1 listed]

section Step

omit [DecidableEq Worker]

theorem Setup.Known.goto (known : setup.Known state) {phase : Phase}
    (effect : setup.Effect state.ledger after.ledger)
    (calls : after.calls = Function.update state.calls call phase)
    (arrived : setup.CallKnown after.ledger phase) : setup.Known after := by
  refine ⟨effect.normal known.normal, ?_⟩
  intro other
  rw [calls]
  by_cases same : other = call
  · subst same
    rwa [Function.update_self]
  · rw [Function.update_of_ne same]
    exact (known.calls other).grow effect.kept

/-- A statement has been executed, and then the execution goes on. -/
theorem Setup.Known.leave (known : setup.Known state) {phase : Phase}
    (effect : setup.Effect state.ledger after.ledger) (calls : after.calls = state.calls)
    (arrived : setup.CallKnown after.ledger phase) : setup.Known (after.goto call phase) := by
  have moved : (after.goto call phase).calls = Function.update state.calls call phase := by
    rw [← calls]
    rfl
  exact known.goto effect moved arrived

theorem Setup.Known.moves (known : setup.Known state) (moves : setup.Moves state call after) :
    setup.Effect state.ledger after.ledger ∧ setup.Known after := by
  have own := known.calls call
  cases moves with
  | goes leads =>
      refine ⟨.same, known.leave .same rfl ?_⟩
      refine leads.callKnown ?_ ?_
      · exact fun row member => known.normal (accountRow row) (List.mem_map_of_mem member)
      · exact fun row member => List.mem_map_of_mem member
  | @links user users phase before linked next =>
      rw [before] at own
      have effect : setup.Effect state.ledger
          (State.ledger { state.goto call phase with users := users }) := by
        change setup.Effect state.ledger (State.ledger { state with users := users })
        rw [State.ledger_link linked own]
        exact .same
      refine ⟨effect, known.goto effect rfl ?_⟩
      rcases next with rfl | ended
      · trivial
      · exact setup.callKnown_ended ended
  | inserts before created stored waits =>
      exact ⟨.same, known.goto .same rfl (setup.normal_of_newUser created)⟩
  | appends before announced absent waits =>
      rw [before] at own
      exact ⟨.same, known.leave .same rfl ⟨own, announced⟩⟩
  | @commits user event left phase before committed settled =>
      rw [before] at own
      obtain ⟨ledger, fresh, calls⟩ := State.ledger_commit committed
      have effect : setup.Effect state.ledger left.ledger := by
        rw [ledger]
        exact .creates own.1 own.2 fresh
      exact ⟨effect, known.leave effect calls (setup.callKnown_settled settled)⟩
  | stops running next =>
      refine ⟨.same, known.goto .same rfl ?_⟩
      rcases next with rfl | rfl
      · trivial
      · trivial

end Step

theorem Setup.Known.step (known : setup.Known state) {action : Action Call Worker}
    (stepped : setup.step state action = some after) :
    setup.Effect state.ledger after.ledger ∧ setup.Known after := by
  cases setup.moved stepped with
  | @works work outbox idle working worked =>
      have ledger : State.ledger { state with outbox := outbox } = state.ledger := by
        change Ledger.mk _ _ = Ledger.mk _ _
        rw [announcements_worker worked working]
      have following : setup.Known { state with outbox := outbox } := by
        constructor
        · rw [ledger]
          exact known.normal
        · rw [ledger]
          exact known.calls
      rw [ledger]
      exact ⟨.same, following⟩
  | acts caller moves => exact known.moves moves

end BackendFoundation.Registration
