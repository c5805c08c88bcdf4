/-
A new account and its event are one fact.

Every user that has been created has one user.registered event and every such event one
user, in every state of every run. The session of a Google sign-in is created after the
COMMIT, so an execution that throws there has left both behind.
-/

import BackendFoundation.Registration.Effects

namespace BackendFoundation.Registration

open Database Transition
open Users (User UserRow UserTable)

variable {Call Worker Handler : Type}

/-- The event tells of the user. -/
def Registers (event : Outbox.OutboxRow Worker) (row : UserRow) : Prop :=
  event.eventName = userRegistered ∧
    event.payload = UserRegisteredPayload.stringify
      { userId := row.id
        email := row.email }

/-- A user that was not there at the start. -/
def State.Created (start state : State Call Worker Handler) (row : UserRow) : Prop :=
  row ∈ state.users.table.rows ∧ row.id ∉ start.users.table.rows.map UserRow.id

variable [DecidableEq Call] [DecidableEq Worker]

/-- No step of an execution that throws otherwise has added a user or an event. -/
def Setup.LeavesNothing (setup : Setup Call Worker Handler) (excused : Failure → Prop) : Prop :=
  ∀ before action after call, setup.system.Reachable anyAction before →
    setup.step before action = some after → action.caller = some call →
    ∀ actions later failure, setup.system.Run anyAction after actions later →
      later.calls call = .thrown failure → ¬excused failure →
      after.users.table.rows.map UserRow.id = before.users.table.rows.map UserRow.id ∧
        after.outbox.events = before.outbox.events

structure Setup.CreatesAtomically (setup : Setup Call Worker Handler)
    (excused : Failure → Prop) : Prop where
  announced : ∀ start actions state, State.initial setup start →
    setup.system.Run anyAction start actions state → ∀ row, State.Created start state row →
      ∃! event, event ∈ state.outbox.events.rows ∧ Registers event row
  founded : ∀ start actions state, State.initial setup start →
    setup.system.Run anyAction start actions state → ∀ event ∈ state.outbox.events.rows,
      event.eventName = userRegistered →
        ∃! row, State.Created start state row ∧ Registers event row
  distinct : ∀ state, setup.system.Reachable anyAction state →
    ∀ row ∈ state.users.table.rows, ∀ other ∈ state.users.table.rows,
      setup.toLowerCase (Users.trim row.email) = setup.toLowerCase (Users.trim other.email) →
        row = other
  leavesNothing : setup.LeavesNothing excused

section Payload

/-- The text says which user and which e-mail it is about. -/
theorem UserRegisteredPayload.stringify_inj {payload other : UserRegisteredPayload}
    (same : payload.stringify = other.stringify) : payload = other := by
  have text := String.ofList_injective same
  obtain ⟨id, rest⟩ := Json.quote_append_inj (List.append_cancel_left text)
  obtain ⟨email, _⟩ := Json.quote_append_inj (List.append_cancel_left rest)
  cases payload
  cases other
  simp only [String.toList_inj] at id email
  rw [id, email]

end Payload

section Pairing

variable {setup : Setup Call Worker Handler} {start state : State Call Worker Handler}

/-- The correspondence in terms of the columns that it is about. -/
def State.Paired (start state : State Call Worker Handler) : Prop :=
  Ledger.Paired AccountRow.id (fun notice : Announcement => notice.eventName = userRegistered)
    (fun notice account => notice.payload = UserRegisteredPayload.stringify
      { userId := account.id
        email := account.email })
    (start.users.table.rows.map UserRow.id) state.ledger

omit [DecidableEq Call] [DecidableEq Worker] in
theorem Setup.known_initial (initial : State.initial setup start) : setup.Known start := by
  obtain ⟨_, calls, _, normal⟩ := initial
  constructor
  · intro account member
    obtain ⟨row, present, rfl⟩ := List.mem_map.mp member
    exact normal row present
  · intro call
    rw [calls]
    trivial

omit [DecidableEq Call] [DecidableEq Worker] in
theorem State.paired_initial (initial : State.initial setup start) : State.Paired start start := by
  obtain ⟨⟨events, _⟩, _⟩ := initial
  have unkind : ∀ notice ∈ start.ledger.notices, ¬notice.eventName = userRegistered := by
    intro notice member
    obtain ⟨event, present, rfl⟩ := List.mem_map.mp member
    rw [events] at present
    cases present
  unfold State.Paired
  rw [← map_id_accountRow]
  exact Ledger.paired_start unkind

omit [DecidableEq Call] [DecidableEq Worker] in
theorem State.Paired.effect {following : State Call Worker Handler}
    (paired : State.Paired start state) (effect : setup.Effect state.ledger following.ledger) :
    State.Paired start following := by
  unfold State.Paired at paired ⊢
  generalize following.ledger = after at effect
  cases effect with
  | same => exact paired
  | @creates user event normal announced fresh =>
      refine paired.create ?_ fresh rfl ?_
      · intro notice account other tells tells'
        have same := UserRegisteredPayload.stringify_inj (tells.symm.trans tells')
        exact congrArg UserRegisteredPayload.userId same
      · change event.payload.stringify = _
        rw [announced]
        rfl

theorem Setup.known_and_paired_of_run (initial : State.initial setup start)
    {actions : List (Action Call Worker)}
    (run : setup.system.Run anyAction start actions state) :
    setup.Known state ∧ State.Paired start state := by
  apply run.preserves
  · intro before action after ⟨known, paired⟩ _ stepped
    obtain ⟨effect, following⟩ := known.step stepped
    exact ⟨following, paired.effect effect⟩
  · exact ⟨setup.known_initial initial, State.paired_initial initial⟩

omit [DecidableEq Call] [DecidableEq Worker] in
theorem State.Paired.announced_once (paired : State.Paired start state) {row : UserRow}
    (created : State.Created start state row) :
    ∃! event, event ∈ state.outbox.events.rows ∧ Registers event row := by
  obtain ⟨notice, member, kind, tells⟩ :=
    paired.told (accountRow row) (List.mem_map_of_mem created.1) created.2
  obtain ⟨event, present, rfl⟩ := List.mem_map.mp member
  refine ⟨event, ⟨present, kind, tells⟩, ?_⟩
  intro other found
  obtain ⟨present', kind', tells'⟩ := found
  have same := paired.once (announcement other) (List.mem_map_of_mem present')
    (announcement event) member kind' kind (accountRow row) tells' tells
  exact state.outbox.events.unique present' present (congrArg Announcement.id same)

omit [DecidableEq Call] [DecidableEq Worker] in
theorem State.Paired.founded_once (paired : State.Paired start state)
    {event : Outbox.OutboxRow Worker} (present : event ∈ state.outbox.events.rows)
    (named : event.eventName = userRegistered) :
    ∃! row, State.Created start state row ∧ Registers event row := by
  obtain ⟨account, member, new, tells⟩ :=
    paired.founded (announcement event) (List.mem_map_of_mem present) named
  obtain ⟨row, stored, rfl⟩ := List.mem_map.mp member
  refine ⟨row, ⟨⟨stored, new⟩, named, tells⟩, ?_⟩
  intro other found
  obtain ⟨⟨stored', _⟩, _, tells'⟩ := found
  have same := UserRegisteredPayload.stringify_inj (tells'.symm.trans tells)
  exact state.users.table.unique stored' stored (congrArg UserRegisteredPayload.userId same)

omit [DecidableEq Call] [DecidableEq Worker] in
theorem Setup.Known.distinct (known : setup.Known state) {row other : UserRow}
    (member : row ∈ state.users.table.rows) (member' : other ∈ state.users.table.rows)
    (same : setup.toLowerCase (Users.trim row.email) = setup.toLowerCase (Users.trim other.email)) :
    row = other := by
  have normal : setup.Normal row.email := known.normal (accountRow row) (List.mem_map_of_mem member)
  have normal' : setup.Normal other.email :=
    known.normal (accountRow other) (List.mem_map_of_mem member')
  have emails : row.email = other.email := normal.symm.trans (same.trans normal')
  exact state.users.table.unique member member'
    (state.users.emailUnique row member other member' row.email rfl (congrArg some emails.symm))

end Pairing

section Settled

variable {setup : Setup Call Worker Handler} {state after : State Call Worker Handler}
  {call : Call}

omit [DecidableEq Worker] in
theorem State.ids_link {user : User} {users : UserTable}
    (linked : state.link call user = some (.ok users)) :
    users.table.rows.map UserRow.id = state.users.table.rows.map UserRow.id := by
  rw [UserTable.table_update (State.update_of_link linked).1]
  exact Table.map_update fun _ _ _ => rfl

/-- The tables as far as creations go. -/
def State.Same (state after : State Call Worker Handler) : Prop :=
  after.users.table.rows.map UserRow.id = state.users.table.rows.map UserRow.id ∧
    after.outbox.events = state.outbox.events

omit [DecidableEq Worker] in
/-- What a step does to the execution that takes it: it adds nothing and goes on from a
phase that is not settled, or it is settled. -/
theorem Setup.Moves.settled (moves : setup.Moves state call after) :
    ∃ phase, after.calls = Function.update state.calls call phase ∧
      (State.Same state after ∧ ¬(state.calls call).Settled ∨ phase.Settled) := by
  cases moves with
  | @goes phase leads =>
      refine ⟨phase, rfl, ?_⟩
      rcases leads.settled with early | late
      · exact .inl ⟨⟨rfl, rfl⟩, early⟩
      · exact .inr late
  | @links user users phase before linked next =>
      refine ⟨phase, rfl, .inl ⟨⟨State.ids_link linked, rfl⟩, ?_⟩⟩
      rw [before]
      exact id
  | @inserts userId email account user users begun before created stored waits =>
      refine ⟨.appending user begun, rfl, .inl ⟨⟨rfl, rfl⟩, ?_⟩⟩
      rw [before]
      exact id
  | @appends user begun event before announced absent waits =>
      refine ⟨.committing user event, rfl, .inl ⟨⟨rfl, rfl⟩, ?_⟩⟩
      rw [before]
      exact id
  | @commits user event left phase before committed settled =>
      refine ⟨phase, ?_, .inr settled⟩
      rw [← (State.ledger_commit committed).2.2]
      rfl
  | @stops phase running next =>
      refine ⟨phase, rfl, ?_⟩
      rcases next with rfl | rfl
      · cases before : state.calls call with
        | issuing user => exact .inr (.inr rfl)
        | committing user event => exact .inr (.inl rfl)
        | ready | returned | thrown | crashed =>
            rw [before] at running
            cases running
        | hashing | findingBySub | findingByEmail | linking | beginning | inserting | appending =>
            exact .inl ⟨⟨rfl, rfl⟩, id⟩
      · exact .inr trivial

/-- The same, with what it does to the other executions: nothing. -/
theorem Setup.step_cases {action : Action Call Worker}
    (stepped : setup.step state action = some after) (call : Call) :
    (action.caller ≠ some call ∧ after.calls call = state.calls call) ∨
      (action.caller = some call ∧
        (State.Same state after ∧ ¬(state.calls call).Settled ∨ (after.calls call).Settled)) := by
  cases setup.moved stepped with
  | works idle =>
      refine .inl ⟨?_, rfl⟩
      rw [idle]
      exact nofun
  | @acts caller _ acts moves =>
      obtain ⟨phase, calls, facts⟩ := moves.settled
      by_cases same : call = caller
      · subst same
        rw [calls, Function.update_self]
        exact .inr ⟨acts, facts⟩
      · rw [calls, Function.update_of_ne same]
        refine .inl ⟨?_, rfl⟩
        rw [acts]
        exact fun impossible => same (Option.some.inj impossible).symm

theorem Setup.settled_of_run {actions : List (Action Call Worker)}
    (run : setup.system.Run anyAction state actions after)
    (settled : (state.calls call).Settled) : (after.calls call).Settled := by
  apply run.preserves
  · intro before action following settled _ stepped
    rcases setup.step_cases stepped call with ⟨_, same⟩ | ⟨_, ⟨_, early⟩ | late⟩
    · rwa [same]
    · exact absurd settled early
    · exact late
  · exact settled

end Settled

theorem Setup.leavesNothing (setup : Setup Call Worker Handler) :
    setup.LeavesNothing Failure.AfterCommit := by
  intro before action after call _ stepped caller actions later failure run thrown unexcused
  rcases setup.step_cases stepped call with ⟨other, _⟩ | ⟨_, ⟨same, _⟩ | settled⟩
  · exact absurd caller other
  · exact same
  · have late := setup.settled_of_run run settled
    rw [thrown] at late
    exact absurd late unexcused

/-- Apart from the lost acknowledgement of a COMMIT and from a session that cannot be
created, an execution that throws has left nothing. -/
theorem createsAtomically_always (setup : Setup Call Worker Handler) :
    setup.CreatesAtomically Failure.AfterCommit where
  announced start actions state initial run row created :=
    (Setup.known_and_paired_of_run initial run).2.announced_once created
  founded start actions state initial run event present named :=
    (Setup.known_and_paired_of_run initial run).2.founded_once present named
  distinct state reached row member other member' same := by
    obtain ⟨start, actions, initial, run⟩ := reached
    exact (Setup.known_and_paired_of_run initial run).1.distinct member member' same
  leavesNothing := setup.leavesNothing

/-- A first sign-in, with an e-mail that is not spelt in its normal form. -/
def firstSignIn : Setup Unit Bool Unit :=
  { operation := fun _ => .completeGoogleSignIn
      { sub := "g1"
        email := " Ada@Example.com"
        emailVerified := true }
    toLowerCase := String.toLower
    normalizes := Users.normalizes_toLower
    outbox := Outbox.userRegistrations }

def seededUser : UserRow :=
  { id := "u0"
    email := "root@example.com"
    passwordHash := some "hash"
    googleSub := none
    roles := ["admin"]
    authVersion := 0 }

section Excuses

variable {setup : Setup Call Worker Handler} {excused : Failure → Prop}
  {before after later : State Call Worker Handler} {action : Action Call Worker} {call : Call}
  {failure : Failure}

/-- A creation that is followed by an exception has to be excused. -/
theorem Setup.LeavesNothing.excuses (leaves : setup.LeavesNothing excused)
    (reached : setup.system.Reachable anyAction before)
    (stepped : setup.step before action = some after) (caller : action.caller = some call)
    {actions : List (Action Call Worker)} (run : setup.system.Run anyAction after actions later)
    (thrown : later.calls call = .thrown failure)
    (created : after.users.table.rows.map UserRow.id ≠ before.users.table.rows.map UserRow.id) :
    excused failure := by
  by_contra unexcused
  exact created (leaves before action after call reached stepped caller actions later failure run
    thrown unexcused).1

end Excuses

def committingSignIn : List (Action Unit Bool) :=
  [.start (), .query (), .query (), .beginTransaction (), .insert () "u1", .append () "e1" 0 0]

def seeded : State Unit Bool Unit :=
  { users := .single seededUser
    outbox := .empty
    calls := fun _ => .ready
    transactions := [] }

theorem seeded_initial : State.initial firstSignIn seeded := by
  refine ⟨⟨rfl, rfl, rfl, rfl, rfl⟩, rfl, rfl, ?_⟩
  intro row member
  rw [List.mem_singleton.mp member]
  decide +kernel

/-- The account stays when its session cannot be created, and when the COMMIT that created
it is not acknowledged. -/
theorem excuses_of_firstSignIn {excused : Failure → Prop}
    (creates : firstSignIn.CreatesAtomically excused) : excused .auth ∧ excused .commit := by
  have executed : ∀ step : Action Unit Bool, ∀ rest failure,
      ((firstSignIn.system.execute (fun _ _ => true) seeded committingSignIn).bind fun before =>
        (firstSignIn.step before step).bind fun after =>
          (firstSignIn.system.execute (fun _ _ => true) after rest).map fun later =>
            (before.users.table.rows.map UserRow.id, after.users.table.rows.map UserRow.id,
              later.calls ())) =
        some (["u0"], ["u1", "u0"], .thrown failure) →
      step.caller = some () → excused failure := by
    intro step rest failure executed caller
    obtain ⟨before, reached, executed'⟩ := Option.bind_eq_some_iff.mp executed
    obtain ⟨after, stepped, executed''⟩ := Option.bind_eq_some_iff.mp executed'
    obtain ⟨later, run, facts⟩ := Option.map_eq_some_iff.mp executed''
    simp only [Prod.mk.injEq] at facts
    obtain ⟨few, more, thrown⟩ := facts
    refine creates.leavesNothing.excuses
      (.of_execute (fun _ _ _ => trivial) seeded_initial reached) stepped caller
      (.of_execute (fun _ _ _ => trivial) run) thrown ?_
    rw [few, more]
    decide
  constructor
  · exact executed (.commit ()) [.fail () false] .auth (by decide +kernel) rfl
  · exact executed (.fail () true) [] .commit (by decide +kernel) rfl

theorem not_createsAtomically : ¬firstSignIn.CreatesAtomically fun _ => False :=
  fun creates => (excuses_of_firstSignIn creates).1

end BackendFoundation.Registration
