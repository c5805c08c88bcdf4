/-
The use cases that read a user and write it back, as calls that interleave at the
level of single statements of the repository.

Between its statements a call hashes and compares passwords, and at its end it
revokes credentials and creates a session; these take any time and may fail.
-/

import BackendFoundation.Transition.System
import BackendFoundation.Users.Repository

namespace BackendFoundation.Users

structure GoogleIdentityProfile where
  sub : String
  email : String
  emailVerified : Bool
deriving DecidableEq, Repr

/-- A reset token is consumed before anything else; what it stands for is the reply. -/
inductive Operation
  | changePassword (userId currentPassword newPassword : String)
  | resetPassword (newPassword : String)
  | completeGoogleSignIn (profile : GoogleIdentityProfile)
  | incrementAuthVersion (userId : String)
deriving DecidableEq, Repr

/-- The comparison of the password hasher, and the language's toLowerCase. -/
structure Setup (Call : Type) where
  operation : Call → Operation
  compare : String → String → Bool
  toLowerCase : String → String

def userNotFound (userId : String) : AppError :=
  { kind := .notFound
    code := "USER_NOT_FOUND"
    message := "User not found"
    details := [("userId", userId)] }

def passwordNotSet : AppError :=
  { kind := .validation
    code := "PASSWORD_NOT_SET"
    message := "No local password is set for this account" }

def invalidCurrentPassword : AppError :=
  { kind := .validation
    code := "INVALID_CURRENT_PASSWORD"
    message := "Current password is invalid" }

def samePassword : AppError :=
  { kind := .validation
    code := "SAME_PASSWORD"
    message := "New password must differ from the current password" }

def invalidResetToken : AppError :=
  { kind := .validation
    code := "INVALID_RESET_TOKEN"
    message := "Reset token is invalid or expired" }

def emailUnverified : AppError :=
  { kind := .authentication
    code := "GOOGLE_SSO_EMAIL_UNVERIFIED"
    message := "Google account e-mail is not verified" }

def userAlreadyExists : AppError :=
  { kind := .conflict
    code := "USER_ALREADY_EXISTS"
    message := "User already exists" }

inductive Failure
  | app (error : AppError)
  | repository (error : RepositoryError)
  | auth
deriving DecidableEq, Repr

/-- In the last phases before the end the entity is the one that was written. -/
inductive Phase
  | ready
  | consuming
  | finding (userId : String)
  | hashing (user : User)
  | findingBySub (profile : GoogleIdentityProfile)
  | findingByEmail (profile : GoogleIdentityProfile) (email : Email)
  | updating (read updated : User)
  | creating (profile : GoogleIdentityProfile) (email : Email)
  | incrementing (userId : String)
  | revoking (user : User)
  | issuing (user : User)
  | done
  | failed (error : Failure)
deriving DecidableEq

/-- The bumps are history: how many password changes, password resets and
incrementAuthVersion calls have been committed for a user. -/
structure State (Call : Type) where
  users : UserTable
  calls : Call → Phase
  bumps : String → Nat

inductive Action (Call : Type)
  | start (call : Call)
  | consume (call : Call) (userId : Option String)
  | query (call : Call)
  | hash (call : Call) (passwordHash : String)
  | write (call : Call)
  | create (call : Call) (userId : String)
  | revokeAllForUser (call : Call) (succeeds : Bool)
  | createAuthSession (call : Call) (succeeds : Bool)
deriving DecidableEq, Repr

variable {Call : Type}

def Action.call : Action Call → Call
  | start call => call
  | consume call _ => call
  | query call => call
  | hash call _ => call
  | write call => call
  | create call _ => call
  | revokeAllForUser call _ => call
  | createAuthSession call _ => call

def Operation.start : Operation → Phase
  | changePassword userId _ _ => .finding userId
  | resetPassword _ => .consuming
  | completeGoogleSignIn profile => .findingBySub profile
  | incrementAuthVersion userId => .incrementing userId

/-- The checks of ChangePasswordUseCase on the user it has read; ResetPasswordUseCase
has none. -/
def Setup.check (setup : Setup Call) (operation : Operation) (user : User) :
    Except AppError Unit :=
  match operation with
  | .changePassword _ currentPassword newPassword =>
      match user.passwordHash with
      | none => .error passwordNotSet
      | some passwordHash =>
          if !setup.compare currentPassword passwordHash then .error invalidCurrentPassword
          else if newPassword = currentPassword then .error samePassword
          else .ok ()
  | _ => .ok ()

def Operation.absent : Operation → AppError
  | changePassword userId _ _ => userNotFound userId
  | _ => invalidResetToken

/-- A row that was found, on its way into the domain. -/
def Setup.found (setup : Setup Call) (row : UserRow) (continue_ : User → Phase) : Phase :=
  match toDomain setup.toLowerCase row with
  | .error error => .failed (.app error)
  | .ok user => continue_ user

/-- The reply to the pending SELECT. -/
def Setup.reply (setup : Setup Call) (operation : Operation) (users : UserTable) :
    Phase → Option Phase
  | .finding userId =>
      match users.findById userId with
      | none => some (.failed (.app operation.absent))
      | some row => some (setup.found row fun user =>
          match setup.check operation user with
          | .error error => .failed (.app error)
          | .ok () => .hashing user)
  | .findingBySub profile =>
      match users.findByGoogleSub profile.sub with
      | some row => some (setup.found row .issuing)
      | none =>
          if !profile.emailVerified then some (.failed (.app emailUnverified))
          else
            match Email.create setup.toLowerCase profile.email with
            | .error error => some (.failed (.app error))
            | .ok email => some (.findingByEmail profile email)
  | .findingByEmail profile email =>
      match users.findByEmail email.value with
      | some row => some (setup.found row fun user =>
          .updating user (user.linkGoogleSubject profile.sub))
      | none => some (.creating profile email)
  | _ => none

def Operation.isBump : Operation → Bool
  | completeGoogleSignIn _ => false
  | _ => true

/-- Linking a Google account revokes nothing. -/
def Operation.afterUpdate (operation : Operation) (user : User) : Phase :=
  match operation with
  | .completeGoogleSignIn _ => .issuing user
  | _ => .revoking user

def Phase.finished : Phase → Bool
  | done => true
  | failed _ => true
  | _ => false

/-- How far a call is. No statement goes back. -/
def Phase.rank : Phase → Nat
  | ready => 0
  | consuming => 1
  | findingBySub _ => 1
  | finding _ => 2
  | findingByEmail _ _ => 2
  | hashing _ => 3
  | updating _ _ => 4
  | creating _ _ => 4
  | incrementing _ => 4
  | revoking _ => 5
  | issuing _ => 6
  | done => 7
  | failed _ => 7

theorem Phase.finished_iff (phase : Phase) : phase.finished = true ↔ 7 ≤ phase.rank := by
  cases phase <;> simp [finished, rank]

theorem Phase.rank_lt_of_running {phase : Phase} (running : phase.finished = false) :
    phase.rank < 7 := by
  apply Nat.lt_of_not_le
  rw [← finished_iff, running]
  decide

def bump (bumps : String → Nat) (userId : String) (committed : Bool) : String → Nat :=
  if committed then Function.update bumps userId (bumps userId + 1) else bumps

theorem bump_apply (bumps : String → Nat) (userId : String) (committed : Bool) (id : String) :
    bump bumps userId committed id =
      bumps id + if id = userId then (if committed then 1 else 0) else 0 := by
  unfold bump
  cases committed with
  | false => simp
  | true =>
      by_cases same : id = userId
      · subst same
        simp
      · simp [same]

theorem le_bump (bumps : String → Nat) (userId : String) (committed : Bool) (id : String) :
    bumps id ≤ bump bumps userId committed id := by
  rw [bump_apply]
  exact Nat.le_add_right _ _

/-- Any table of users to start with. -/
def State.initial (state : State Call) : Prop :=
  state.calls = (fun _ => .ready) ∧ state.bumps = fun _ => 0

/-- What the reply to a SELECT can be. -/
inductive Setup.Replies (setup : Setup Call) (operation : Operation) (users : UserTable) :
    Phase → Phase → Prop
  | fails {phase : Phase} {error : Failure} (running : phase.finished = false) :
      Replies setup operation users phase (.failed error)
  | reads {userId : String} {row : UserRow} {user : User}
      (found : users.findById userId = some row)
      (restored : toDomain setup.toLowerCase row = .ok user)
      (checked : setup.check operation user = .ok ()) :
      Replies setup operation users (.finding userId) (.hashing user)
  | signsIn {profile : GoogleIdentityProfile} {row : UserRow} {user : User}
      (found : users.findByGoogleSub profile.sub = some row)
      (restored : toDomain setup.toLowerCase row = .ok user) :
      Replies setup operation users (.findingBySub profile) (.issuing user)
  | asksByEmail {profile : GoogleIdentityProfile} {email : Email}
      (absent : users.findByGoogleSub profile.sub = none)
      (verified : profile.emailVerified = true)
      (normalized : Email.create setup.toLowerCase profile.email = .ok email) :
      Replies setup operation users (.findingBySub profile) (.findingByEmail profile email)
  | links {profile : GoogleIdentityProfile} {email : Email} {row : UserRow} {user : User}
      (found : users.findByEmail email.value = some row)
      (restored : toDomain setup.toLowerCase row = .ok user) :
      Replies setup operation users (.findingByEmail profile email)
        (.updating user (user.linkGoogleSubject profile.sub))
  | creates {profile : GoogleIdentityProfile} {email : Email}
      (absent : users.findByEmail email.value = none) :
      Replies setup operation users (.findingByEmail profile email) (.creating profile email)

theorem Setup.replies {setup : Setup Call} {operation : Operation} {users : UserTable}
    {phase next : Phase} (replied : setup.reply operation users phase = some next) :
    setup.Replies operation users phase next := by
  unfold Setup.reply at replied
  split at replied
  · split at replied
    · cases replied
      exact .fails rfl
    · rename_i row found
      cases replied
      unfold Setup.found
      split
      · exact .fails rfl
      · rename_i user restored
        dsimp only
        split
        · exact .fails rfl
        · exact .reads found restored ‹_›
  · split at replied
    · rename_i row found
      cases replied
      unfold Setup.found
      split
      · exact .fails rfl
      · exact .signsIn found ‹_›
    · rename_i absent
      split at replied
      · cases replied
        exact .fails rfl
      · rename_i verified
        split at replied <;> cases replied
        · exact .fails rfl
        · exact .asksByEmail absent (by simpa using verified) ‹_›
  · split at replied
    · rename_i row found
      cases replied
      unfold Setup.found
      split
      · exact .fails rfl
      · exact .links found ‹_›
    · rename_i absent
      cases replied
      exact .creates absent
  · cases replied

/-- What a statement of a call can do: the program point it leaves, the table after it
and the point it leads to. -/
inductive Setup.Executes (setup : Setup Call) (operation : Operation) (users : UserTable) :
    Phase → UserTable → Phase → Prop
  | starts : Executes setup operation users .ready users operation.start
  | fails {phase : Phase} {error : Failure} (running : phase.finished = false) :
      Executes setup operation users phase users (.failed error)
  | consumes (userId : String) :
      Executes setup operation users .consuming users (.finding userId)
  | replies {phase next : Phase} (replied : setup.Replies operation users phase next) :
      Executes setup operation users phase users next
  | hashes (user : User) (passwordHash : String) :
      Executes setup operation users (.hashing user) users
        (.updating user (user.changePassword passwordHash))
  | updates {read updated : User} {after : UserTable}
      (committed : users.update (toPersistence updated) = .ok after) :
      Executes setup operation users (.updating read updated) after
        (operation.afterUpdate updated)
  | increments {userId : String} {after : UserTable} {version : Nat}
      (committed : users.incrementAuthVersion userId = .ok (after, version)) :
      Executes setup operation users (.incrementing userId) after .done
  | creates {profile : GoogleIdentityProfile} {email : Email} {userId : String}
      {after : UserTable}
      (inserted : users.insert (toPersistence
        (User.createFromGoogle userId email profile.sub ["user"])) = .ok after) :
      Executes setup operation users (.creating profile email) after
        (.issuing (User.createFromGoogle userId email profile.sub ["user"]))
  | revokes (user : User) : Executes setup operation users (.revoking user) users (.issuing user)
  | ends (user : User) : Executes setup operation users (.issuing user) users .done

/-- A statement moves its call on. -/
theorem Setup.Executes.rank {setup : Setup Call} {operation : Operation}
    {users after : UserTable} {phase next : Phase}
    (executes : setup.Executes operation users phase after next) : phase.rank < next.rank := by
  cases executes with
  | starts => cases operation <;> simp [Operation.start, Phase.rank]
  | fails running => exact Phase.rank_lt_of_running running
  | replies replied =>
      cases replied with
      | fails running => exact Phase.rank_lt_of_running running
      | reads | signsIn | asksByEmail | links | creates => simp [Phase.rank]
  | updates => cases operation <;> simp [Operation.afterUpdate, Phase.rank]
  | consumes | hashes | increments | creates | revokes | ends => simp [Phase.rank]

/-- An assertion on program points that the statements of a call keep, whatever they
find in the table. -/
structure Setup.Outline (setup : Setup Call) (holds : Operation → Phase → Prop) : Prop where
  ready : ∀ operation, holds operation .ready
  start : ∀ operation, holds operation operation.start
  consumed : ∀ operation userId, holds operation .consuming → holds operation (.finding userId)
  replied : ∀ operation users phase next, holds operation phase →
    setup.Replies operation users phase next → holds operation next
  hashed : ∀ operation user passwordHash, holds operation (.hashing user) →
    holds operation (.updating user (user.changePassword passwordHash))
  written : ∀ operation read updated, holds operation (.updating read updated) →
    holds operation (operation.afterUpdate updated)
  issuing : ∀ operation user, holds operation (.issuing user)
  done : ∀ operation, holds operation .done
  failed : ∀ operation error, holds operation (.failed error)

def Setup.Everywhere (setup : Setup Call) (holds : Operation → Phase → Prop)
    (state : State Call) : Prop :=
  ∀ call, holds (setup.operation call) (state.calls call)

theorem Setup.Everywhere.initial {setup : Setup Call} {holds : Operation → Phase → Prop}
    (outline : setup.Outline holds) {state : State Call} (initial : state.initial) :
    setup.Everywhere holds state := by
  intro call
  rw [initial.1]
  exact outline.ready _

/-- A call is where it was or further on. -/
def State.Advanced (call : Call) (earlier later : State Call) : Prop :=
  earlier.calls call = later.calls call ∨ (earlier.calls call).rank < (later.calls call).rank

theorem State.Advanced.trans {call : Call} {first second third : State Call}
    (before : first.Advanced call second) (after : second.Advanced call third) :
    first.Advanced call third := by
  unfold State.Advanced at *
  rcases before with same | further
  · rwa [same]
  · rcases after with same | further'
    · rw [← same]
      exact .inr further
    · exact .inr (Nat.lt_trans further further')

variable [DecidableEq Call]

def State.goto (state : State Call) (call : Call) (phase : Phase) : State Call :=
  { state with calls := Function.update state.calls call phase }

theorem State.calls_goto {state : State Call} {call other : Call} {phase target : Phase}
    (reached : (state.goto call phase).calls other = target) :
    (other = call ∧ phase = target) ∨ state.calls other = target := by
  by_cases same : other = call
  · subst same
    exact .inl ⟨rfl, by simpa [goto] using reached⟩
  · exact .inr (by simpa [goto, Function.update_of_ne same] using reached)

def Setup.step (setup : Setup Call) (state : State Call) : Action Call → Option (State Call)
  | .start call =>
      match state.calls call with
      | .ready => some (state.goto call (setup.operation call).start)
      | _ => none
  | .consume call userId =>
      match state.calls call with
      | .consuming =>
          match userId with
          | none => some (state.goto call (.failed (.app invalidResetToken)))
          | some userId => some (state.goto call (.finding userId))
      | _ => none
  | .query call =>
      (setup.reply (setup.operation call) state.users (state.calls call)).map
        fun phase => state.goto call phase
  | .hash call passwordHash =>
      match state.calls call with
      | .hashing user =>
          some (state.goto call (.updating user (user.changePassword passwordHash)))
      | _ => none
  | .write call =>
      match state.calls call with
      | .updating _ updated =>
          match state.users.update (toPersistence updated) with
          | .error error => some (state.goto call (.failed (.repository error)))
          | .ok users =>
              some { state.goto call ((setup.operation call).afterUpdate updated) with
                users := users
                bumps := bump state.bumps updated.id (setup.operation call).isBump }
      | .incrementing userId =>
          match state.users.incrementAuthVersion userId with
          | .error error => some (state.goto call (.failed (.repository error)))
          | .ok (users, _) =>
              some { state.goto call .done with
                users := users
                bumps := bump state.bumps userId true }
      | _ => none
  -- The transaction also appends UserRegisteredEvent to the outbox, another table.
  | .create call userId =>
      match state.calls call with
      | .creating profile email =>
          let user := User.createFromGoogle userId email profile.sub ["user"]
          match state.users.insert (toPersistence user) with
          | .error _ => some (state.goto call (.failed (.app userAlreadyExists)))
          | .ok users => some { state.goto call (.issuing user) with users := users }
      | _ => none
  | .revokeAllForUser call succeeds =>
      match state.calls call with
      | .revoking user =>
          some (state.goto call (if succeeds then .issuing user else .failed .auth))
      | _ => none
  | .createAuthSession call succeeds =>
      match state.calls call with
      | .issuing _ => some (state.goto call (if succeeds then .done else .failed .auth))
      | _ => none

def Setup.system (setup : Setup Call) : Transition.System (State Call) (Action Call) :=
  { initial := State.initial
    step := setup.step }

theorem Setup.executes {setup : Setup Call} {state following : State Call}
    {action : Action Call} (stepped : setup.step state action = some following) :
    ∃ phase, following.calls = Function.update state.calls action.call phase ∧
      setup.Executes (setup.operation action.call) state.users (state.calls action.call)
        following.users phase := by
  cases action with
  | start call =>
      simp only [Setup.step] at stepped
      split at stepped <;> cases stepped
      rename_i reached
      exact ⟨_, rfl, by simpa only [Action.call, reached] using .starts⟩
  | consume call userId =>
      simp only [Setup.step] at stepped
      split at stepped
      · rename_i reached
        split at stepped <;> cases stepped
        · exact ⟨_, rfl, by simpa only [Action.call, reached] using .fails rfl⟩
        · exact ⟨_, rfl, by simpa only [Action.call, reached] using .consumes _⟩
      · cases stepped
  | query call =>
      obtain ⟨phase, replied, rfl⟩ := Option.map_eq_some_iff.mp stepped
      exact ⟨phase, rfl, .replies (Setup.replies replied)⟩
  | hash call passwordHash =>
      simp only [Setup.step] at stepped
      split at stepped <;> cases stepped
      rename_i reached
      exact ⟨_, rfl, by simpa only [Action.call, reached] using .hashes _ _⟩
  | write call =>
      simp only [Setup.step] at stepped
      split at stepped
      · rename_i reached
        split at stepped <;> cases stepped
        · exact ⟨_, rfl, by simpa only [Action.call, reached] using .fails rfl⟩
        · exact ⟨_, rfl, by simpa only [Action.call, reached] using .updates ‹_›⟩
      · rename_i reached
        split at stepped <;> cases stepped
        · exact ⟨_, rfl, by simpa only [Action.call, reached] using .fails rfl⟩
        · exact ⟨_, rfl, by simpa only [Action.call, reached] using .increments ‹_›⟩
      · cases stepped
  | create call userId =>
      simp only [Setup.step] at stepped
      split at stepped
      · rename_i reached
        split at stepped <;> cases stepped
        · exact ⟨_, rfl, by simpa only [Action.call, reached] using .fails rfl⟩
        · exact ⟨_, rfl, by simpa only [Action.call, reached] using .creates ‹_›⟩
      · cases stepped
  | revokeAllForUser call succeeds =>
      simp only [Setup.step] at stepped
      split at stepped <;> cases stepped
      rename_i reached
      refine ⟨_, rfl, ?_⟩
      rw [Action.call, reached]
      cases succeeds with
      | true => exact .revokes _
      | false => exact .fails rfl
  | createAuthSession call succeeds =>
      simp only [Setup.step] at stepped
      split at stepped <;> cases stepped
      rename_i reached
      refine ⟨_, rfl, ?_⟩
      rw [Action.call, reached]
      cases succeeds with
      | true => exact .ends _
      | false => exact .fails rfl

theorem Setup.Everywhere.step {setup : Setup Call} {holds : Operation → Phase → Prop}
    {state following : State Call} {action : Action Call} (outline : setup.Outline holds)
    (everywhere : setup.Everywhere holds state)
    (stepped : setup.step state action = some following) :
    setup.Everywhere holds following := by
  obtain ⟨phase, calls, executes⟩ := Setup.executes stepped
  have known := everywhere action.call
  have next : holds (setup.operation action.call) phase := by
    generalize state.calls action.call = reached, following.users = after at known executes
    cases executes with
    | starts => exact outline.start _
    | fails => exact outline.failed _ _
    | consumes userId => exact outline.consumed _ _ known
    | replies replied => exact outline.replied _ _ _ _ known replied
    | hashes user passwordHash => exact outline.hashed _ _ _ known
    | updates => exact outline.written _ _ _ known
    | increments | ends => exact outline.done _
    | creates | revokes => exact outline.issuing _ _
  intro call
  rw [calls]
  by_cases same : call = action.call
  · rw [same, Function.update_self]
    exact next
  · rw [Function.update_of_ne same]
    exact everywhere call

theorem Setup.advanced {setup : Setup Call} {state following : State Call} {action : Action Call}
    (stepped : setup.step state action = some following) (call : Call) :
    state.Advanced call following := by
  obtain ⟨phase, calls, executes⟩ := Setup.executes stepped
  unfold State.Advanced
  rw [calls]
  by_cases same : call = action.call
  · rw [same, Function.update_self]
    exact .inr executes.rank
  · rw [Function.update_of_ne same]
    exact .inl rfl

theorem Setup.finished_of_createAuthSession {setup : Setup Call} {state following : State Call}
    {call : Call} {succeeds : Bool}
    (stepped : setup.step state (.createAuthSession call succeeds) = some following) :
    (following.calls call).finished = true := by
  simp only [Setup.step] at stepped
  split at stepped
  · cases stepped
    change (Function.update state.calls call _ call).finished = true
    rw [Function.update_self]
    cases succeeds <;> rfl
  · cases stepped

theorem Setup.stays_finished {setup : Setup Call} {state following : State Call}
    {action : Action Call} (stepped : setup.step state action = some following) {call : Call}
    (finished : (state.calls call).finished = true) :
    (following.calls call).finished = true := by
  rw [Phase.finished_iff] at *
  rcases setup.advanced stepped call with same | further
  · rwa [← same]
  · omega

end BackendFoundation.Users
