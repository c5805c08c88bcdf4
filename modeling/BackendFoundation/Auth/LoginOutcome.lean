/-
What a login comes to, in any interleaving with the calls that write users: the response to
one that is refused follows from its e-mail alone, and one that is not refused has read an
account with the e-mail and the password.
-/

import BackendFoundation.Auth.Invalidation
import BackendFoundation.Exceptions.GlobalExceptionFilter
import BackendFoundation.Users.Normalization

namespace BackendFoundation.Auth.Credentials

open Exceptions Transition
open Users (AppError Email Failure UserRow toDomain)

variable {Token Writer Call : Type}

/-- What the filter gets. The errors of the repository and of the stores are no AppErrors. -/
def thrownException : Failure → Exception Failure
  | .app error => ofAppError error
  | failure => .other failure

/-- The response to a login that is refused. -/
def refusal (toLowerCase toUpperCase : String → String) (email : String) : Response :=
  match Email.create toLowerCase email with
  | .error error => respond toUpperCase (ofAppError error : Exception Failure)
  | .ok _ => respond toUpperCase (ofAppError invalidCredentials : Exception Failure)

/-- The error of a login that is refused. -/
def refusalError (toLowerCase : String → String) (email : String) : AppError :=
  match Email.create toLowerCase email with
  | .error error => error
  | .ok _ => invalidCredentials

/-- Where a login can be. -/
def Setup.LoginAt (setup : Setup Token Writer Call) (email password : String) :
    Phase Token → Prop
  | .ready | .issuing _ | .issued => True
  | .findingByEmail address secret =>
      Email.create setup.writers.toLowerCase email = .ok address ∧ secret = password
  | .thrown failure =>
      failure = .auth ∨ failure = .app (refusalError setup.writers.toLowerCase email)
  | _ => False

section Steps

variable {setup : Setup Token Writer Call} {users : Users.UserTable} {email password : String}
  {phase following : Phase Token}

theorem Setup.loginAt_start (now : Nat) :
    setup.LoginAt email password (setup.start now (.login email password)) := by
  simp only [Setup.start]
  split
  · rename_i error created
    right
    unfold refusalError
    rw [created]
  · rename_i address created
    exact ⟨created, rfl⟩

/-- The row that a login has read, and what it has compared. -/
structure Setup.Proved (setup : Setup Token Writer Call) (users : Users.UserTable)
    (email password : String) (user : CurrentUser) (row : UserRow) : Prop where
  stored : row ∈ users.table.rows
  addressed : row.email = setup.writers.toLowerCase (Users.trim email)
  proved : ∃ passwordHash, row.passwordHash = some passwordHash ∧
    setup.writers.compare password passwordHash = true
  id : user.id = row.id
  roles : user.roles = row.roles
  authVersion : user.authVersion = row.authVersion

/-- The SELECT of a login either refuses it or has found its account. -/
theorem Setup.login_query (normalizes : Users.Normalizes setup.writers.toLowerCase)
    {address : Email} (created : Email.create setup.writers.toLowerCase email = .ok address)
    (replied : setup.query users (.findingByEmail address password) = some following) :
    following = .thrown (.app invalidCredentials) ∨ ∃ user row,
      following = .issuing user ∧ setup.Proved users email password user row := by
  simp only [Setup.query] at replied
  cases found : users.findByEmail address.value with
  | none =>
      simp only [found] at replied
      cases replied
      exact .inl rfl
  | some row =>
      obtain ⟨member, same⟩ := Users.UserTable.mem_of_findByEmail found
      have read : Email.create setup.writers.toLowerCase row.email = .ok address := by
        rw [same]
        exact Email.create_value normalizes created
      simp only [found, toDomain, read, Except.map] at replied
      cases replied
      unfold Setup.authenticate
      cases hashed : row.passwordHash with
      | none => exact .inl rfl
      | some passwordHash =>
          by_cases proved : setup.writers.compare password passwordHash = true
          · simp only [proved, if_true]
            refine .inr ⟨_, row, rfl, ?_⟩
            exact
              { stored := member
                addressed := same.trans (Email.value_of_create created)
                proved := ⟨passwordHash, hashed, proved⟩
                id := rfl
                roles := rfl
                authVersion := rfl }
          · simp only [proved]
            exact .inl rfl

/-- A login goes on as a login. -/
theorem Setup.LoginAt.query (normalizes : Users.Normalizes setup.writers.toLowerCase)
    (known : setup.LoginAt email password phase)
    (replied : setup.query users phase = some following) :
    setup.LoginAt email password following := by
  cases phase with
  | findingByEmail address secret =>
      obtain ⟨created, rfl⟩ := known
      rcases setup.login_query normalizes created replied with rfl | ⟨user, row, rfl, _⟩
      · right
        unfold refusalError
        rw [created]
      · trivial
  | loading | resolving => exact known.elim
  | ready | issuing | rotating | checking | reading | issued | verified | thrown => cases replied

variable [DecidableEq Token] [DecidableEq Writer] [DecidableEq Call]
  {state next : State Token Writer Call} {call : Call}

/-- A step leaves the phase of a login as it is, or takes it a step further. -/
theorem Setup.login_step (login : setup.operation call = .login email password)
    (known : setup.LoginAt email password (state.calls call))
    {action : Action Token Writer Call} (stepped : setup.step state action = some next) :
    next.calls call = state.calls call ∧ state.minted ⊆ next.minted ∨
      state.calls call = .ready ∧
        next.calls call = setup.start state.now (.login email password) ∨
      setup.query state.users.users (state.calls call) = some (next.calls call) ∨
      ∃ user, state.calls call = .issuing user ∧
        (next.calls call = .issued ∨ next.calls call = .thrown .auth) ∧
        setup.mints (.inr call) user (setup.familyId (.inr call)) ⊆ next.minted := by
  cases action with
  | advance milliseconds =>
      cases stepped
      exact .inl ⟨rfl, List.Subset.refl _⟩
  | writer action =>
      obtain ⟨users, stepped', rfl⟩ := Option.map_eq_some_iff.mp stepped
      left
      cases issuer state.users action with
      | none => exact ⟨rfl, List.Subset.refl _⟩
      | some issued => exact ⟨rfl, List.subset_append_right _ _⟩
  | deleteSession sessionId =>
      cases stepped
      exact .inl ⟨rfl, List.Subset.refl _⟩
  | event actor event =>
      obtain ⟨phase, replied, rfl⟩ := Option.map_eq_some_iff.mp stepped
      by_cases same : call = actor
      · subst same
        change _ ∨ _ ∧ Function.update state.calls call phase call = _ ∨
          _ = some (Function.update state.calls call phase call) ∨ _
        rw [Function.update_self]
        cases event with
        | start =>
            simp only [Setup.reply] at replied
            split at replied
            · rename_i ready
              cases replied
              rw [login]
              exact .inr (.inl ⟨ready, rfl⟩)
            · cases replied
        | query => exact .inr (.inr (.inl replied))
        | isAccessTokenRevoked revoked =>
            simp only [Setup.reply] at replied
            split at replied
            · rename_i payload checking
              rw [checking] at known
              exact known.elim
            · cases replied
        | getSession =>
            simp only [Setup.reply] at replied
            split at replied
            · rename_i sessionId reading
              rw [reading] at known
              exact known.elim
            · cases replied
      · refine .inl ⟨?_, List.Subset.refl _⟩
        exact Function.update_of_ne same _ _
  | issue actor succeeds =>
      simp only [Setup.step] at stepped
      split at stepped
      · rename_i user issuing
        cases stepped
        by_cases same : call = actor
        · subst same
          refine .inr (.inr (.inr ⟨user, issuing, ?_, List.subset_append_left _ _⟩))
          change Function.update state.calls call _ call = _ ∨
            Function.update state.calls call _ call = _
          rw [Function.update_self]
          cases succeeds with
          | true => exact .inl rfl
          | false => exact .inr rfl
        · refine .inl ⟨?_, List.subset_append_right _ _⟩
          exact Function.update_of_ne same _ _
      · rename_i parsed freshUser rotating
        cases stepped
        by_cases same : call = actor
        · subst same
          rw [rotating] at known
          exact known.elim
        · refine .inl ⟨?_, List.subset_append_right _ _⟩
          exact Function.update_of_ne same _ _
      · cases stepped

theorem Setup.loginAt_of_reachable (normalizes : Users.Normalizes setup.writers.toLowerCase)
    (login : setup.operation call = .login email password)
    (reached : setup.system.Reachable anyAction state) :
    setup.LoginAt email password (state.calls call) := by
  apply reached.invariant
  · intro start initial
    rw [initial.2.2.1]
    trivial
  · intro before action after known _ stepped
    rcases setup.login_step login known stepped with ⟨same, _⟩ | ⟨_, started⟩ | replied |
      ⟨user, _, ends, _⟩
    · rw [same]
      exact known
    · rw [started]
      exact setup.loginAt_start before.now
    · exact known.query normalizes replied
    · rcases ends with issued | failed
      · rw [issued]
        trivial
      · rw [failed]
        exact .inl rfl

variable {start finish : State Token Writer Call} {actions : List (Action Token Writer Call)}

/-- On the way of a run, a login has read an account with its e-mail and its password. -/
def Setup.Entered (setup : Setup Token Writer Call) (start finish : State Token Writer Call)
    (email password : String) (user : CurrentUser) : Prop :=
  ∃ earlier read later row, setup.system.Run anyAction start earlier read ∧
    setup.system.Run anyAction read later finish ∧
    setup.Proved read.users.users email password user row

theorem Setup.Entered.snoc {user : CurrentUser}
    (entered : setup.Entered start state email password user)
    {action : Action Token Writer Call} (stepped : setup.step state action = some next) :
    setup.Entered start next email password user := by
  obtain ⟨earlier, read, later, row, before, after, proved⟩ := entered
  exact ⟨earlier, read, _, row, before, after.snoc trivial stepped, proved⟩

/-- What has come before a login issues its credentials, and what comes of it. -/
structure Setup.Trail (setup : Setup Token Writer Call) (start finish : State Token Writer Call)
    (call : Call) (email password : String) : Prop where
  issuing : ∀ user, finish.calls call = .issuing user →
    setup.Entered start finish email password user
  issued : finish.calls call = .issued → ∃ user,
    setup.Entered start finish email password user ∧
      setup.mints (.inr call) user (setup.familyId (.inr call)) ⊆ finish.minted

/-- A login that issues nothing has no trail to leave. -/
theorem Setup.Trail.idle (unissued : finish.calls call ≠ .issued)
    (waiting : ∀ user, finish.calls call ≠ .issuing user) :
    setup.Trail start finish call email password where
  issuing := fun user issuing => absurd issuing (waiting user)
  issued := fun issued => absurd issued unissued

omit [DecidableEq Token] [DecidableEq Writer] [DecidableEq Call] in
/-- A login begins by looking for its account. -/
theorem Setup.start_unissued (setup : Setup Token Writer Call) (now : Nat)
    (email password : String) :
    setup.start now (.login email password) ≠ .issued ∧
      ∀ user, setup.start now (.login email password) ≠ .issuing user := by
  simp only [Setup.start]
  split
  all_goals
    constructor
    · intro impossible
      cases impossible
    · intro user impossible
      cases impossible

theorem Setup.trail_of_run (normalizes : Users.Normalizes setup.writers.toLowerCase)
    (login : setup.operation call = .login email password) (initial : start.initial)
    (run : setup.system.Run anyAction start actions finish) :
    setup.Trail start finish call email password := by
  induction run with
  | nil =>
      have ready : start.calls call = .ready := by rw [initial.2.2.1]
      apply Setup.Trail.idle
      · rw [ready]
        intro impossible
        cases impossible
      · rw [ready]
        intro user impossible
        cases impossible
  | @snoc actions action before after run _ stepped trail =>
      have known := setup.loginAt_of_reachable normalizes login ⟨start, actions, initial, run⟩
      have moved : setup.step before action = some after := stepped
      rcases setup.login_step login known moved with ⟨same, grown⟩ | ⟨_, started⟩ | replied |
        ⟨user, issuing, ends, minted⟩
      · constructor
        · intro user issuing
          exact (trail.issuing user (same ▸ issuing)).snoc moved
        · intro issued
          obtain ⟨user, entered, minted⟩ := trail.issued (same ▸ issued)
          exact ⟨user, entered.snoc moved, List.Subset.trans minted grown⟩
      · obtain ⟨unissued, waiting⟩ := setup.start_unissued before.now email password
        rw [← started] at unissued waiting
        exact .idle unissued waiting
      · cases phase : before.calls call with
        | findingByEmail address secret =>
            rw [phase] at known replied
            obtain ⟨created, rfl⟩ := known
            rcases setup.login_query normalizes created replied with refused | found
            · apply Setup.Trail.idle
              · rw [refused]
                intro impossible
                cases impossible
              · rw [refused]
                intro user impossible
                cases impossible
            · obtain ⟨user, row, reached, proved⟩ := found
              constructor
              · intro other issuing
                rw [reached] at issuing
                cases issuing
                exact ⟨actions, before, [action], row, run, .snoc .nil trivial stepped, proved⟩
              · intro issued
                rw [reached] at issued
                cases issued
        | loading | resolving | rotating | checking | reading | verified =>
            rw [phase] at known
            exact known.elim
        | ready | issuing | issued | thrown =>
            rw [phase] at replied
            cases replied
      · constructor
        · intro other issuing'
          rcases ends with issued | failed
          · rw [issued] at issuing'
            cases issuing'
          · rw [failed] at issuing'
            cases issuing'
        · intro _
          exact ⟨user, (trail.issuing user issuing).snoc moved, minted⟩

end Steps

section Sample

/-- One account, and nobody is logged in. -/
def accountOnly (row : UserRow) : State Wire Unit (Fin 2) :=
  { now := 0
    users :=
      { users := .single row
        calls := fun _ => .ready
        bumps := fun _ => 0 }
    sessions := fun _ => none
    calls := fun _ => .ready
    minted := [] }

theorem accountOnly_initial (row : UserRow) : (accountOnly row).initial :=
  ⟨⟨rfl, rfl⟩, rfl, rfl, rfl⟩

end Sample

section Results

variable [DecidableEq Token] [DecidableEq Writer] [DecidableEq Call]
  {setup : Setup Token Writer Call} {state start finish : State Token Writer Call} {call : Call}
  {email password : String}

/-- Whatever accounts there are, and whatever is written meanwhile, the response to a login that
is refused follows from its e-mail alone. -/
theorem login_reveals_nothing (normalizes : Users.Normalizes setup.writers.toLowerCase)
    (toUpperCase : String → String) (reached : setup.system.Reachable anyAction state)
    (login : setup.operation call = .login email password) {failure : Failure}
    (thrown : state.calls call = .thrown failure) (available : failure ≠ .auth) :
    respond toUpperCase (thrownException failure) =
      refusal setup.writers.toLowerCase toUpperCase email := by
  have known := setup.loginAt_of_reachable normalizes login reached
  rw [thrown] at known
  rcases known with unavailable | rfl
  · exact absurd unavailable available
  · unfold thrownException refusalError refusal
    cases Email.create setup.writers.toLowerCase email with
    | error error => rfl
    | ok address => rfl

theorem unknown_refused :
    ∃ state, loginDuringChange.system.Reachable anyAction state ∧
      ∃ failure, state.calls 0 = .thrown failure ∧
        respond String.toUpper (thrownException failure) =
          refusal String.toLower String.toUpper "user@example.com" := by
  have executed :
      (loginDuringChange.system.execute (fun _ _ => true)
        (accountOnly { Users.passwordAccount with email := "other@example.com" })
        [.event 0 .start, .event 0 .query]).map (fun state => state.calls 0) =
      some (.thrown (.app invalidCredentials)) := by
    decide +kernel
  obtain ⟨state, run, thrown⟩ := Option.map_eq_some_iff.mp executed
  have reached : loginDuringChange.system.Reachable anyAction state :=
    .of_execute (fun _ _ _ => trivial) (accountOnly_initial _) run
  have login : loginDuringChange.operation 0 = .login "user@example.com" "old" := rfl
  exact ⟨state, reached, _, thrown, login_reveals_nothing Users.normalizes_toLower String.toUpper
    reached login thrown (by decide)⟩

/-- A login that has returned its credentials had found an account with its e-mail and its
password, and the credentials are that account's, as it was then. -/
theorem login_proves_password (normalizes : Users.Normalizes setup.writers.toLowerCase)
    (initial : start.initial) {actions : List (Action Token Writer Call)}
    (run : setup.system.Run anyAction start actions finish)
    (login : setup.operation call = .login email password)
    (issued : finish.calls call = .issued) :
    ∃ earlier read later row user, setup.system.Run anyAction start earlier read ∧
      setup.system.Run anyAction read later finish ∧
      setup.Proved read.users.users email password user row ∧
      setup.mints (.inr call) user (setup.familyId (.inr call)) ⊆ finish.minted := by
  obtain ⟨user, entered, minted⟩ :=
    (setup.trail_of_run normalizes login initial run).issued issued
  obtain ⟨earlier, read, later, row, before, after, proved⟩ := entered
  exact ⟨earlier, read, later, row, user, before, after, proved, minted⟩

theorem owner_admitted :
    ∃ finish users row user, loginDuringChange.system.Reachable anyAction finish ∧
      finish.calls 0 = .issued ∧
      loginDuringChange.Proved users "user@example.com" "old" user row ∧
      loginDuringChange.mints (.inr 0) user "f" ⊆ finish.minted := by
  have executed :
      (loginDuringChange.system.execute (fun _ _ => true) (accountOnly Users.passwordAccount)
        [.event 0 .start, .event 0 .query, .issue 0 true]).map (fun state => state.calls 0) =
      some .issued := by
    decide +kernel
  obtain ⟨finish, executed', issued⟩ := Option.map_eq_some_iff.mp executed
  have run : loginDuringChange.system.Run anyAction (accountOnly Users.passwordAccount) _ finish :=
    .of_execute (fun _ _ _ => trivial) executed'
  have login : loginDuringChange.operation 0 = .login "user@example.com" "old" := rfl
  obtain ⟨_, read, _, row, user, _, _, proved, minted⟩ := login_proves_password
    Users.normalizes_toLower (accountOnly_initial _) run login issued
  exact ⟨finish, read.users.users, row, user, ⟨_, _, accountOnly_initial _, run⟩, issued, proved,
    minted⟩

end Results

end BackendFoundation.Auth.Credentials
