/-
The association of Google subjects with users: a subject that is stored stays with
its user, later sign-ins with it resolve to that user, and an unverified e-mail
creates and links nothing.

Auto-link sets the subject of an account found by its e-mail, whether or not one is
set, and every update writes the google_sub of an earlier read. The association
lasts in every run in which no such write meets a subject that is neither the one
read nor the one being linked.
-/

import BackendFoundation.Users.Accounts

namespace BackendFoundation.Users

open Transition

variable {Call : Type}

def Setup.Unverified (setup : Setup Call) (call : Call) : Prop :=
  ∃ profile, setup.operation call = .completeGoogleSignIn profile ∧
    profile.emailVerified = false

/-- What a call is about to do with google_sub. -/
def Operation.Intends (operation : Operation) : Phase → Prop
  | .consuming | .finding _ | .hashing _ | .revoking _ | .incrementing _ =>
      operation.isBump = true
  | .findingBySub profile => operation = .completeGoogleSignIn profile
  | .findingByEmail profile _ | .creating profile _ =>
      operation = .completeGoogleSignIn profile ∧ profile.emailVerified = true
  | .updating read updated => updated.id = read.id ∧
      match operation with
      | .completeGoogleSignIn profile =>
          profile.emailVerified = true ∧ updated.googleSub = some profile.sub
      | _ => updated.googleSub = read.googleSub
  | _ => True

/-- The write of an update finds no subject but the one that its call has read, or for
a sign-in the one that it links. -/
def Setup.KeepsLink (setup : Setup Call) (state : State Call) : Statement Call → Prop
  | .of (.write call) =>
      match state.calls call with
      | .updating read _ => ∀ sub, state.users.googleSub read.id = some sub →
          match setup.operation call with
          | .completeGoogleSignIn profile => profile.sub = sub
          | _ => read.googleSub = some sub
      | _ => True
  | _ => True

/-- A sign-in that has its user signs in the one linked to its subject. -/
def Setup.Resolved (setup : Setup Call) (state : State Call) : Prop :=
  ∀ call profile user, setup.operation call = .completeGoogleSignIn profile →
    state.calls call = .issuing user → state.users.googleSub user.id = some profile.sub

theorem Setup.intends (setup : Setup Call) : setup.Outline Operation.Intends where
  ready _ := trivial
  start operation := by
    cases operation <;> rfl
  consumed _ _ known := known
  replied operation users phase next known replied := by
    cases replied with
    | fails => trivial
    | reads => exact known
    | signsIn => trivial
    | asksByEmail _ verified => exact ⟨known, verified⟩
    | links =>
        obtain ⟨same, verified⟩ := known
        rw [same]
        exact ⟨rfl, verified, rfl⟩
    | creates => exact known
  hashed operation user passwordHash known := by
    refine ⟨rfl, ?_⟩
    cases operation with
    | completeGoogleSignIn => cases known
    | changePassword | resetPassword | incrementAuthVersion => rfl
  written operation read updated known := by
    cases operation with
    | completeGoogleSignIn => trivial
    | changePassword | resetPassword | incrementAuthVersion => rfl
  issuing _ _ := trivial
  done _ := trivial
  failed _ _ := trivial

/-- A sign-in comes to its user in one of three ways, and each finds or stores the link. -/
theorem Setup.Executes.resolves {setup : Setup Call} {operation : Operation}
    {users after : UserTable} {phase : Phase} {user : User} {profile : GoogleIdentityProfile}
    (executes : setup.Executes operation users phase after (.issuing user))
    (known : operation.Intends phase) (signIn : operation = .completeGoogleSignIn profile) :
    after.googleSub user.id = some profile.sub := by
  generalize reached : Phase.issuing user = next at executes
  cases executes with
  | starts =>
      subst signIn
      cases reached
  | replies replied =>
      cases replied with
      | @signsIn asked row _ found restored =>
          cases reached
          have expected : operation = .completeGoogleSignIn asked := known
          rw [signIn] at expected
          cases expected
          rw [(toDomain_eq restored).1]
          exact UserTable.googleSub_of_findByGoogleSub found
      | fails | reads | asksByEmail | links | creates => cases reached
  | @updates read updated _ committed =>
      subst signIn
      cases reached
      rw [UserTable.googleSub_update committed]
      exact (if_pos rfl).trans known.2.2
  | @creates asked email userId _ inserted =>
      cases reached
      obtain ⟨expected, _⟩ := known
      rw [signIn] at expected
      cases expected
      exact (UserTable.googleSub_insert inserted userId).2.trans (if_pos rfl)
  | revokes =>
      subst signIn
      cases known
  | fails | consumes | hashes | increments | ends => cases reached

/-- A statement of a sign-in with an unverified e-mail leaves the table as it is. -/
theorem Setup.Executes.unverified {setup : Setup Call} {operation : Operation}
    {users after : UserTable} {phase next : Phase} {profile : GoogleIdentityProfile}
    (executes : setup.Executes operation users phase after next)
    (known : operation.Intends phase) (signIn : operation = .completeGoogleSignIn profile)
    (unverified : profile.emailVerified = false) : after = users := by
  subst signIn
  cases executes with
  | updates =>
      have verified : profile.emailVerified = true := known.2.1
      rw [unverified] at verified
      cases verified
  | increments => cases known
  | creates =>
      obtain ⟨same, verified⟩ := known
      cases same
      rw [unverified] at verified
      cases verified
  | starts | fails | consumes | replies | hashes | revokes | ends => rfl

/-- An update keeps every subject exactly when it meets the condition. -/
theorem Setup.keepsLink_iff {setup : Setup Call} {state : State Call} {call : Call}
    {read updated : User} {users : UserTable}
    (intends : setup.Everywhere Operation.Intends state)
    (phase : state.calls call = .updating read updated)
    (committed : state.users.update (toPersistence updated) = .ok users) :
    setup.KeepsLink state (.of (.write call)) ↔
      ∀ id sub, state.users.googleSub id = some sub → users.googleSub id = some sub := by
  have known := intends call
  rw [phase] at known
  have written (id : String) : users.googleSub id =
      if id = updated.id then updated.googleSub else state.users.googleSub id :=
    UserTable.googleSub_update committed id
  simp only [Setup.KeepsLink, phase]
  constructor
  · intro keeps id sub stored
    rw [written]
    by_cases same : id = updated.id
    · rw [if_pos same]
      have expected := keeps sub (by rw [← known.1, ← same]; exact stored)
      cases operation : setup.operation call with
      | completeGoogleSignIn profile =>
          rw [operation] at known expected
          rw [known.2.2, expected]
      | changePassword | resetPassword | incrementAuthVersion =>
          rw [operation] at known expected
          rw [known.2, expected]
    · rw [if_neg same]
      exact stored
  · intro keeps sub stored
    have after := keeps read.id sub stored
    rw [written, if_pos known.1.symm] at after
    cases operation : setup.operation call with
    | completeGoogleSignIn profile =>
        rw [operation] at known
        rw [known.2.2] at after
        exact Option.some.inj after
    | changePassword | resetPassword | incrementAuthVersion =>
        rw [operation] at known
        rwa [known.2] at after

variable [DecidableEq Call]

section Step

variable {setup : Setup Call} {state following : State Call}

/-- Under the condition no statement takes a subject away or replaces it. -/
theorem Setup.keeps_of_step {action : Action Call}
    (intends : setup.Everywhere Operation.Intends state)
    (keeps : setup.KeepsLink state (.of action))
    (stepped : setup.step state action = some following) {id sub : String}
    (stored : state.users.googleSub id = some sub) :
    following.users.googleSub id = some sub := by
  obtain ⟨users, calls, bumps⟩ := following
  cases Setup.effect stepped with
  | quiet => exact stored
  | @updates call read updated _ phase committed =>
      exact (Setup.keepsLink_iff intends phase committed).mp keeps id sub stored
  | increments committed =>
      change users.googleSub id = some sub
      rw [UserTable.googleSub_increment committed]
      exact stored
  | creates _ created => exact UserTable.googleSub_kept_of_insert created stored

theorem Setup.keeps_of_execute {statement : Statement Call}
    (intends : setup.Everywhere Operation.Intends state)
    (keeps : setup.KeepsLink state statement)
    (stepped : setup.execute state statement = some following) {id sub : String}
    (stored : state.users.googleSub id = some sub) :
    following.users.googleSub id = some sub := by
  cases statement with
  | of action => exact Setup.keeps_of_step intends keeps stepped stored
  | register userId email passwordHash =>
      simp only [Setup.execute] at stepped
      split at stepped
      · cases stepped
        exact stored
      · rename_i users inserted
        cases stepped
        exact UserTable.googleSub_kept_of_insert inserted stored
  | setRoles userId roles =>
      cases stepped
      have same := UserTable.googleSub_amend state.users userId
        (fun row => { row with roles := roles }) (fun _ => rfl) (fun _ => rfl) id
      exact same.trans stored
  | setEmail userId email =>
      cases stepped
      have same := UserTable.googleSub_amend state.users userId
        (fun row => { row with email := email.value }) (fun _ => rfl) (fun _ => rfl) id
      exact same.trans stored

theorem Setup.Resolved.execute {statement : Statement Call} (resolved : setup.Resolved state)
    (intends : setup.Everywhere Operation.Intends state)
    (keeps : setup.KeepsLink state statement)
    (stepped : setup.execute state statement = some following) : setup.Resolved following := by
  intro call profile user operation issuing
  have already (before : state.calls call = .issuing user) :
      following.users.googleSub user.id = some profile.sub :=
    Setup.keeps_of_execute intends keeps stepped (resolved call profile user operation before)
  rcases Setup.calls_of_execute stepped with ⟨action, rfl, stepped'⟩ | same
  · obtain ⟨phase, calls, executes⟩ := Setup.executes stepped'
    rw [calls] at issuing
    by_cases same : call = action.call
    · subst same
      rw [Function.update_self] at issuing
      subst issuing
      exact executes.resolves (intends action.call) operation
    · rw [Function.update_of_ne same] at issuing
      exact already issuing
  · rw [same] at issuing
    exact already issuing

end Step

/-- No subject leaves its user, a sign-in with a subject that is stored signs in the
user that it is stored for, and one with an unverified e-mail writes nothing. -/
structure Setup.DurableLinks (setup : Setup Call)
    (allowed : State Call → Statement Call → Prop) : Prop where
  keeps : ∀ state, setup.accounts.Reachable allowed state →
    ∀ statements later, setup.accounts.Run allowed state statements later →
      ∀ id sub, state.users.googleSub id = some sub → later.users.googleSub id = some sub
  resolves : ∀ state, setup.accounts.Reachable allowed state →
    ∀ statements later, setup.accounts.Run allowed state statements later →
      ∀ id sub, state.users.googleSub id = some sub →
        ∀ call profile user, setup.operation call = .completeGoogleSignIn profile →
          profile.sub = sub → later.calls call = .issuing user → user.id = id
  verified : ∀ state, setup.accounts.Reachable anyAction state →
    ∀ action following, setup.accounts.step state (.of action) = some following →
      setup.Unverified action.call → following.users = state.users

def Setup.Links (setup : Setup Call) (state : State Call) : Prop :=
  setup.Everywhere Operation.Intends state ∧ setup.Resolved state

theorem Setup.Links.execute {setup : Setup Call} {state following : State Call}
    {statement : Statement Call} (links : setup.Links state)
    (keeps : setup.KeepsLink state statement)
    (stepped : setup.execute state statement = some following) : setup.Links following :=
  ⟨links.1.execute setup.intends stepped, links.2.execute links.1 keeps stepped⟩

theorem Setup.links_of_reachable {setup : Setup Call} {state : State Call}
    (reached : setup.accounts.Reachable setup.KeepsLink state) : setup.Links state := by
  apply reached.invariant
  · intro start initial
    constructor
    · exact Setup.Everywhere.initial setup.intends initial
    · intro call profile user _ issuing
      rw [initial.1] at issuing
      cases issuing
  · intro before statement after links keeps stepped
    exact links.execute keeps stepped

/-- The links of a state, kept along a run. -/
def Setup.LinksKept (setup : Setup Call) (earlier state : State Call) : Prop :=
  setup.Links state ∧
    ∀ id sub, earlier.users.googleSub id = some sub → state.users.googleSub id = some sub

theorem Setup.linksKept_of_run {setup : Setup Call} {state later : State Call}
    {statements : List (Statement Call)} (links : setup.Links state)
    (run : setup.accounts.Run setup.KeepsLink state statements later) :
    setup.LinksKept state later := by
  apply run.preserves
  · intro before statement after known keeps stepped
    refine ⟨known.1.execute keeps stepped, ?_⟩
    intro id sub stored
    exact Setup.keeps_of_execute known.1.1 keeps stepped (known.2 id sub stored)
  · exact ⟨links, fun _ _ stored => stored⟩

theorem durableLinks_of_keepsLink (setup : Setup Call) :
    setup.DurableLinks setup.KeepsLink where
  keeps state reached statements later run id sub stored :=
    (Setup.linksKept_of_run (Setup.links_of_reachable reached) run).2 id sub stored
  resolves state reached statements later run id sub stored call profile user operation same
      issuing := by
    have kept := Setup.linksKept_of_run (Setup.links_of_reachable reached) run
    have resolved := kept.1.2 call profile user operation issuing
    rw [same] at resolved
    exact UserTable.googleSub_injective resolved (kept.2 id sub stored)
  verified state reached action following stepped unverified := by
    obtain ⟨profile, operation, notVerified⟩ := unverified
    obtain ⟨phase, _, executes⟩ := Setup.executes stepped
    exact executes.unverified (Setup.everywhere_of_reachable setup.intends reached action.call)
      operation notVerified

def linkedAccount : UserRow :=
  { id := "u1"
    email := "user@example.com"
    passwordHash := some "hash"
    googleSub := some "g1"
    roles := ["user"]
    authVersion := 0 }

/-- A sign-in with another Google account whose verified e-mail is the user's. -/
def secondAccount : Setup Unit :=
  { operation := fun _ =>
      .completeGoogleSignIn
        { sub := "g2"
          email := "user@example.com"
          emailVerified := true }
    compare := fun _ _ => true
    toLowerCase := String.toLower }

/-- The auto-link replaces the subject that the user has. -/
theorem not_durableLinks : ¬∀ setup : Setup Unit, setup.DurableLinks anyAction := by
  intro claim
  let start : State Unit :=
    { users := .single linkedAccount
      calls := fun _ => .ready
      bumps := fun _ => 0 }
  have executed :
      (secondAccount.accounts.execute (fun _ _ => true) start
        [.of (.start ()), .of (.query ()), .of (.query ()), .of (.write ())]).map
        (fun state => state.users.googleSub "u1") = some (some "g2") := by decide +kernel
  obtain ⟨state, run, replaced⟩ := Option.map_eq_some_iff.mp executed
  have kept := (claim secondAccount).keeps start ⟨start, [], ⟨rfl, rfl⟩, .nil⟩ _ state
    (.of_execute (fun _ _ _ => trivial) run) "u1" "g1" (by decide +kernel)
  rw [replaced] at kept
  exact absurd kept (by decide)

end BackendFoundation.Users
