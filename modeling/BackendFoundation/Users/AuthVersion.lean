/-
The stored auth_version under concurrent password changes, resets, increments and
Google links.

incrementAuthVersion adds in SQL, update writes the version computed from an earlier
read. The law that every bump counts holds in every run in which each update finds
the version that its call has read.
-/

import BackendFoundation.Users.Operations

namespace BackendFoundation.Users

open Transition

variable {Call : Type}

/-- The version of every user is its first one plus the bumps committed since. -/
def State.Counts (state start : State Call) : Prop :=
  ∀ id current, state.users.authVersion id = some current →
    current = (start.users.authVersion id).getD 0 + state.bumps id

/-- An update is executed on the version that its call has read. -/
def State.Fresh (state : State Call) : Action Call → Prop
  | .write call =>
      match state.calls call with
      | .updating read _ =>
          ∀ version, state.users.authVersion read.id = some version → version = read.authVersion
      | _ => True
  | _ => True

/-- What a call is about to write, in terms of what it has read. -/
def Operation.Prepared (operation : Operation) : Phase → Prop
  | .consuming | .finding _ | .hashing _ => operation.isBump = true
  | .findingBySub _ | .findingByEmail _ _ => operation.isBump = false
  | .updating read updated => updated.id = read.id ∧
      updated.authVersion = read.authVersion + if operation.isBump then 1 else 0
  | _ => True

/-- The counts, and nothing counted for a user that does not exist yet. -/
structure State.Tracks (state start : State Call) : Prop where
  counts : state.Counts start
  absent : ∀ id, state.users.authVersion id = none →
    start.users.authVersion id = none ∧ state.bumps id = 0

theorem Setup.prepared (setup : Setup Call) : setup.Outline Operation.Prepared where
  ready _ := trivial
  start operation := by
    cases operation with
    | incrementAuthVersion => trivial
    | changePassword | resetPassword | completeGoogleSignIn => rfl
  consumed _ _ known := known
  replied operation users phase next known replied := by
    cases replied with
    | fails => trivial
    | reads => exact known
    | signsIn => trivial
    | asksByEmail => exact known
    | links =>
        change operation.isBump = false at known
        exact ⟨rfl, by rw [known]; rfl⟩
    | creates => trivial
  hashed operation user passwordHash known := by
    refine ⟨rfl, ?_⟩
    rw [show operation.isBump = true from known]
    rfl
  written operation read updated _ := by
    unfold Operation.afterUpdate
    split <;> trivial
  issuing _ _ := trivial
  done _ := trivial
  failed _ _ := trivial

/-- A write of one user's version that raises it by the bump it counts. -/
theorem State.Tracks.written {start state following : State Call}
    (tracks : state.Tracks start) {userId : String} {raise : Bool} {written : Nat → Nat}
    (present : state.users.authVersion userId ≠ none)
    (raised : ∀ version, state.users.authVersion userId = some version →
      written version = version + if raise then 1 else 0)
    (versions : ∀ id, following.users.authVersion id =
      (state.users.authVersion id).map fun version =>
        if id = userId then written version else version)
    (bumps : following.bumps = bump state.bumps userId raise) : following.Tracks start := by
  constructor
  · intro id current stored
    rw [versions] at stored
    obtain ⟨version, before, rfl⟩ := Option.map_eq_some_iff.mp stored
    have counted := tracks.counts id version before
    rw [bumps, bump_apply]
    by_cases same : id = userId
    · subst same
      rw [if_pos rfl, if_pos rfl, raised version before]
      omega
    · rw [if_neg same, if_neg same]
      omega
  · intro id missing
    rw [versions, Option.map_eq_none_iff] at missing
    have known := tracks.absent id missing
    have different : id ≠ userId := by
      intro equal
      subst equal
      exact present missing
    rw [bumps, bump_apply, if_neg different]
    exact known

/-- What one step can do to the table and to the counts. -/
inductive Setup.Effect (setup : Setup Call) (state : State Call) :
    Action Call → UserTable → (String → Nat) → Prop
  | quiet (action : Action Call) : Effect setup state action state.users state.bumps
  | updates {call : Call} {read updated : User} {users : UserTable}
      (phase : state.calls call = .updating read updated)
      (committed : state.users.update (toPersistence updated) = .ok users) :
      Effect setup state (.write call) users
        (bump state.bumps updated.id (setup.operation call).isBump)
  | increments {call : Call} {userId : String} {users : UserTable} {returned : Nat}
      (committed : state.users.incrementAuthVersion userId = .ok (users, returned)) :
      Effect setup state (.write call) users (bump state.bumps userId true)
  | creates {call : Call} {userId : String} {user : User} {users : UserTable}
      (fresh : user.authVersion = 0)
      (created : state.users.insert (toPersistence user) = .ok users) :
      Effect setup state (.create call userId) users state.bumps

/-- Users and bumps stay. -/
theorem Setup.Effect.grows {setup : Setup Call} {state : State Call} {action : Action Call}
    {users : UserTable} {bumps : String → Nat}
    (effect : setup.Effect state action users bumps) (id : String) :
    (users.authVersion id = none → state.users.authVersion id = none) ∧
      state.bumps id ≤ bumps id := by
  cases effect with
  | quiet => exact ⟨fun missing => missing, Nat.le_refl _⟩
  | updates phase committed =>
      constructor
      · intro missing
        rw [UserTable.authVersion_update committed, Option.map_eq_none_iff] at missing
        exact missing
      · exact le_bump _ _ _ _
  | increments committed =>
      constructor
      · intro missing
        rw [UserTable.authVersion_increment committed, Option.map_eq_none_iff] at missing
        exact missing
      · exact le_bump _ _ _ _
  | creates fresh created =>
      refine ⟨?_, Nat.le_refl _⟩
      intro missing
      rw [(UserTable.authVersion_insert created id).2] at missing
      split at missing
      · cases missing
      · exact missing

variable [DecidableEq Call]

section Step

variable {setup : Setup Call} {start state following : State Call} {action : Action Call}

theorem Setup.effect (stepped : setup.step state action = some following) :
    setup.Effect state action following.users following.bumps := by
  cases action with
  | write call =>
      simp only [Setup.step] at stepped
      split at stepped
      · split at stepped
        · cases stepped
          exact .quiet _
        · cases stepped
          exact .updates ‹_› ‹_›
      · split at stepped
        · cases stepped
          exact .quiet _
        · cases stepped
          exact .increments ‹_›
      · cases stepped
  | create call userId =>
      simp only [Setup.step] at stepped
      split at stepped
      · split at stepped
        · cases stepped
          exact .quiet _
        · cases stepped
          exact .creates rfl ‹_›
      · cases stepped
  | consume call userId =>
      simp only [Setup.step] at stepped
      split at stepped
      · split at stepped <;> cases stepped <;> exact .quiet _
      · cases stepped
  | query call =>
      obtain ⟨phase, _, rfl⟩ := Option.map_eq_some_iff.mp stepped
      exact .quiet _
  | start call | hash call passwordHash | revokeAllForUser call succeeds
  | createAuthSession call succeeds =>
      simp only [Setup.step] at stepped
      split at stepped <;> cases stepped
      exact .quiet _

theorem State.Tracks.step (tracks : state.Tracks start)
    (prepared : setup.Everywhere Operation.Prepared state) (fresh : state.Fresh action)
    (stepped : setup.step state action = some following) :
    following.Tracks start := by
  obtain ⟨users, calls, bumps⟩ := following
  cases Setup.effect stepped with
  | quiet => exact { counts := tracks.counts, absent := tracks.absent }
  | @updates call read updated _ phase committed =>
      have known := prepared call
      simp only [State.Fresh, phase] at fresh
      rw [phase] at known
      refine tracks.written (UserTable.present_of_update committed) ?_
        (UserTable.authVersion_update committed) rfl
      intro version stored
      rw [fresh version (known.1 ▸ stored)]
      exact known.2
  | @increments call userId _ returned committed =>
      have raised : ∀ version, state.users.authVersion userId = some version →
          version + 1 = version + if true then 1 else 0 := fun _ _ => rfl
      exact tracks.written (UserTable.present_of_increment committed) raised
        (UserTable.authVersion_increment committed) rfl
  | @creates call userId user _ unbumped created =>
      have versions := fun id => UserTable.authVersion_insert created id
      constructor
      · intro id current stored
        rw [(versions id).2] at stored
        split at stored
        · rename_i same
          cases stored
          have known := tracks.absent id (same ▸ (versions id).1)
          change user.authVersion = _ + state.bumps id
          rw [known.1, known.2, unbumped]
          rfl
        · exact tracks.counts id current stored
      · intro id missing
        rw [(versions id).2] at missing
        split at missing
        · cases missing
        · exact tracks.absent id missing

end Step

/-- In every run from any table, each version is accounted for by the committed bumps,
and no step lowers one. -/
def Setup.CountsBumps (setup : Setup Call) (allowed : State Call → Action Call → Prop) : Prop :=
  ∀ start actions state, start.initial → setup.system.Run allowed start actions state →
    state.Counts start ∧
    ∀ action following, allowed state action → setup.system.step state action = some following →
      ∀ id current, state.users.authVersion id = some current →
        ∃ later, following.users.authVersion id = some later ∧ current ≤ later

def Setup.Follows (setup : Setup Call) (start state : State Call) : Prop :=
  state.Tracks start ∧ setup.Everywhere Operation.Prepared state

theorem Setup.follows_of_run {setup : Setup Call} {start state : State Call}
    {actions : List (Action Call)} (initial : start.initial)
    (run : setup.system.Run State.Fresh start actions state) : setup.Follows start state := by
  apply run.preserves
  · intro before action after known fresh stepped
    exact ⟨known.1.step known.2 fresh stepped, known.2.step setup.prepared stepped⟩
  · constructor
    · constructor
      · intro id current stored
        rw [stored, initial.2]
        rfl
      · intro id missing
        exact ⟨missing, congrFun initial.2 id⟩
    · intro call
      rw [initial.1]
      trivial

/-- No step lowers a version, and users stay. -/
theorem Setup.Follows.le {setup : Setup Call} {start state following : State Call}
    {action : Action Call} (follows : setup.Follows start state) (fresh : state.Fresh action)
    (stepped : setup.step state action = some following) {id : String} {current : Nat}
    (stored : state.users.authVersion id = some current) :
    ∃ later, following.users.authVersion id = some later ∧ current ≤ later := by
  have tracks := follows.1.step follows.2 fresh stepped
  have counted := follows.1.counts id current stored
  have grown := (Setup.effect stepped).grows id
  cases later : following.users.authVersion id with
  | none =>
      rw [grown.1 later] at stored
      cases stored
  | some version =>
      have counted' := tracks.counts id version later
      exact ⟨version, rfl, by omega⟩

theorem countsBumps_of_fresh (setup : Setup Call) : setup.CountsBumps State.Fresh := by
  intro start actions state initial run
  have follows := setup.follows_of_run initial run
  refine ⟨follows.1.counts, ?_⟩
  intro action following fresh stepped id current stored
  exact follows.le fresh stepped stored

/-- The commit of a password change, by the program point after it. -/
theorem Setup.version_of_commit {setup : Setup Call} {state following : State Call}
    {call : Call} {updated : User}
    (stepped : setup.step state (.write call) = some following)
    (committed : following.calls call = .revoking updated) :
    following.users.authVersion updated.id = some updated.authVersion := by
  simp only [Setup.step] at stepped
  split at stepped
  · rename_i read written reached
    split at stepped
    · cases stepped
      simp [State.goto] at committed
    · rename_i users update
      cases stepped
      have same : written = updated := by
        simp only [State.goto, Function.update_self, Operation.afterUpdate] at committed
        split at committed
        · cases committed
        · exact Phase.revoking.inj committed
      subst same
      have present := UserTable.present_of_update update
      obtain ⟨version, stored⟩ := Option.ne_none_iff_exists'.mp present
      change users.authVersion written.id = some written.authVersion
      rw [UserTable.authVersion_update update]
      rw [show state.users.authVersion written.id = some version from stored]
      exact congrArg some (if_pos rfl)
  · split at stepped <;> cases stepped <;> simp [State.goto] at committed
  · cases stepped

/-- The version of a user is a given one or a later one. -/
def Setup.AtLeast (setup : Setup Call) (start : State Call) (id : String) (version : Nat)
    (state : State Call) : Prop :=
  setup.Follows start state ∧
    ∃ current, state.users.authVersion id = some current ∧ version ≤ current

theorem Setup.Follows.atLeast {setup : Setup Call} {start state later : State Call}
    {actions : List (Action Call)} (follows : setup.Follows start state)
    (run : setup.system.Run State.Fresh state actions later) {id : String} {version : Nat}
    (stored : state.users.authVersion id = some version) :
    setup.AtLeast start id version later := by
  refine run.preserves ?_ ⟨follows, version, stored, Nat.le_refl _⟩
  intro before action after found fresh stepped
  obtain ⟨known, current, stored', reached⟩ := found
  obtain ⟨next, stored'', order⟩ := known.le fresh stepped stored'
  exact ⟨⟨known.1.step known.2 fresh stepped, known.2.step setup.prepared stepped⟩, next,
    stored'', by omega⟩

def passwordAccount : UserRow :=
  { id := "u1"
    email := "user@example.com"
    passwordHash := some "hash"
    googleSub := none
    roles := ["user"]
    authVersion := 0 }

/-- A Google sign-in that links the account, and a forced logout. -/
def linkAndLogout : Setup Bool :=
  { operation := fun call =>
      if call then .incrementAuthVersion "u1"
      else .completeGoogleSignIn
        { sub := "g1"
          email := "user@example.com"
          emailVerified := true }
    compare := fun _ _ => true
    toLowerCase := String.toLower }

/-- The sign-in has read the user before the version is incremented, and writes the old
version back with the link: the forced logout is undone. -/
theorem not_countsBumps : ¬∀ setup : Setup Bool, setup.CountsBumps anyAction := by
  intro claim
  let start : State Bool :=
    { users := .single passwordAccount
      calls := fun _ => .ready
      bumps := fun _ => 0 }
  have executed :
      (linkAndLogout.system.execute (fun _ _ => true) start
        [.start false, .query false, .query false, .start true, .write true,
          .write false]).map
        (fun state => (state.users.authVersion "u1", state.bumps "u1")) =
      some (some 0, 1) := by decide +kernel
  obtain ⟨state, run, facts⟩ := Option.map_eq_some_iff.mp executed
  simp only [Prod.mk.injEq] at facts
  have counted := (claim linkAndLogout start _ state ⟨rfl, rfl⟩
    (.of_execute (fun _ _ _ => trivial) run)).1 "u1" 0 facts.1
  rw [facts.2] at counted
  exact absurd counted (by decide +kernel)

end BackendFoundation.Users
