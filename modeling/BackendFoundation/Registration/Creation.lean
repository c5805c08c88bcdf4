/-
RegisterUseCase and CompleteGoogleSignInUseCase down to the statements of their
transactions, beside the outbox workers, on one database.

What a transaction has written is in no table before its COMMIT. An INSERT that the
uncommitted row of another transaction blocks waits until that one has ended. A statement
may fail, and an execution may crash, before or after the database has executed it.
-/

import BackendFoundation.Json.StringLiteral
import BackendFoundation.Outbox.Steps
import BackendFoundation.Users.Normalization
import BackendFoundation.Users.Operations

namespace BackendFoundation.Registration

open Transition
open Users (AppError Email GoogleIdentityProfile RepositoryError User UserRow UserTable
  toDomain toPersistence)

structure UserRegisteredPayload where
  userId : String
  email : String
deriving DecidableEq, Repr

/-- The text that is written to the payload column. -/
def UserRegisteredPayload.stringify (payload : UserRegisteredPayload) : String :=
  String.ofList ("\x7b\"userId\":".toList ++ (Json.quote payload.userId.toList ++
    (",\"email\":".toList ++ (Json.quote payload.email.toList ++ "\x7d".toList))))

def userRegistered : String := "user.registered"

/-- An event as the outbox writer inserts it: availableAt is the writer's time, createdAt
the database's at the start of the transaction. -/
structure UserRegisteredEvent where
  id : String
  occurredAt : Nat
  availableAt : Nat
  createdAt : Nat
  payload : UserRegisteredPayload
deriving DecidableEq, Repr

inductive Operation
  | register (email password : String)
  | completeGoogleSignIn (profile : GoogleIdentityProfile)
deriving DecidableEq, Repr

structure Setup (Call Worker Handler : Type) where
  operation : Call → Operation
  toLowerCase : String → String
  normalizes : Users.Normalizes toLowerCase
  outbox : Outbox.Setup Worker Handler

/-- What a new account has besides its e-mail. -/
inductive Account
  | password (passwordHash : String)
  | google (googleSub : String)
deriving DecidableEq, Repr

inductive Failure
  | app (error : AppError)
  | repository (error : RepositoryError)
  | hasher
  | database
  | commit
  | auth
deriving DecidableEq, Repr

/-- Before each statement of an execution: which one it is. -/
inductive Phase
  | ready
  | hashing
  | findingBySub (profile : GoogleIdentityProfile)
  | findingByEmail (profile : GoogleIdentityProfile) (email : Email)
  | linking (user : User)
  | beginning (email : Email) (account : Account)
  | inserting (email : Email) (account : Account) (begun : Nat)
  | appending (user : User) (begun : Nat)
  | committing (user : User) (event : UserRegisteredEvent)
  | issuing (user : User)
  | returned (user : User)
  | thrown (failure : Failure)
  | crashed
deriving DecidableEq

/-- The transactions are those that hold rows which they have not committed. -/
structure State (Call Worker Handler : Type) where
  users : UserTable
  outbox : Outbox.State Worker Handler
  calls : Call → Phase
  transactions : List Call

inductive Action (Call Worker : Type)
  | worker (action : Outbox.Action Worker)
  | start (call : Call)
  | hash (call : Call) (passwordHash : String)
  | query (call : Call)
  | link (call : Call)
  | beginTransaction (call : Call)
  | insert (call : Call) (userId : String)
  | append (call : Call) (eventId : String) (occurredAt availableAt : Nat)
  | commit (call : Call)
  | createAuthSession (call : Call)
  | fail (call : Call) (executed : Bool)
  | crash (call : Call) (executed : Bool)
deriving DecidableEq, Repr

variable {Call Worker Handler : Type}

def Operation.start : Operation → Phase
  | register _ _ => .hashing
  | completeGoogleSignIn profile => .findingBySub profile

/-- RegisterUseCase, with the hash of the password. -/
def Setup.register (setup : Setup Call Worker Handler) (email passwordHash : String) : Phase :=
  match Email.create setup.toLowerCase email with
  | .error error => .thrown (.app error)
  | .ok email => .beginning email (.password passwordHash)

/-- A row that was found, on its way into the domain. -/
def Setup.found (setup : Setup Call Worker Handler) (row : UserRow) (following : User → Phase) :
    Phase :=
  match toDomain setup.toLowerCase row with
  | .error error => .thrown (.app error)
  | .ok user => following user

/-- resolveUser, on the reply to its SELECT. -/
def Setup.reply (setup : Setup Call Worker Handler) (users : UserTable) : Phase → Option Phase
  | .findingBySub profile =>
      match users.findByGoogleSub profile.sub with
      | some row => some (setup.found row .issuing)
      | none =>
          if !profile.emailVerified then some (.thrown (.app Users.emailUnverified))
          else
            match Email.create setup.toLowerCase profile.email with
            | .error error => some (.thrown (.app error))
            | .ok email => some (.findingByEmail profile email)
  | .findingByEmail profile email =>
      match users.findByEmail email.value with
      | some row => some (setup.found row fun user =>
          .linking (user.linkGoogleSubject profile.sub))
      | none => some (.beginning email (.google profile.sub))
  | _ => none

/-- User.create and User.createFromGoogle normalise the e-mail that they are given. -/
def Setup.newUser (setup : Setup Call Worker Handler) (userId : String) (email : Email)
    (account : Account) : Except AppError User :=
  (Email.create setup.toLowerCase email.value).map fun email =>
    match account with
    | .password passwordHash => User.create userId email passwordHash ["user"]
    | .google googleSub => User.createFromGoogle userId email googleSub ["user"]

def userRegisteredPayload (user : User) : UserRegisteredPayload :=
  { userId := user.id
    email := user.email.value }

/-- Only the sign-in goes on after its transaction. -/
def Operation.afterCommit (user : User) : Operation → Phase
  | register _ _ => .returned user
  | completeGoogleSignIn _ => .issuing user

/-- The row that a transaction has inserted into users. -/
def Phase.inserted : Phase → Option UserRow
  | appending user _ => some (toPersistence user)
  | committing user _ => some (toPersistence user)
  | _ => none

/-- The id of the row that it has inserted into outbox_events. -/
def Phase.appended : Phase → Option String
  | committing _ event => some event.id
  | _ => none

/-- Two rows that the primary key or a unique constraint keeps apart. -/
def collides (row other : UserRow) : Bool :=
  row.id == other.id || UserTable.conflicts row other

/-- How a statement fails. -/
def Phase.failure : Phase → Failure
  | hashing => .hasher
  | committing _ _ => .commit
  | issuing _ => .auth
  | _ => .database

def Phase.running : Phase → Bool
  | ready => false
  | returned _ => false
  | thrown _ => false
  | crashed => false
  | _ => true

variable [DecidableEq Call]

namespace State

def goto (state : State Call Worker Handler) (call : Call) (phase : Phase) :
    State Call Worker Handler :=
  { state with calls := Function.update state.calls call phase }

/-- The transaction ends: its rows are in the tables, or nowhere. -/
def finish (state : State Call Worker Handler) (call : Call) : State Call Worker Handler :=
  { state with transactions := state.transactions.erase call }

/-- A statement that writes the row to users has to wait. -/
def blocksUser (state : State Call Worker Handler) (call : Call) (row : UserRow) : Bool :=
  state.transactions.any fun other =>
    other != call && (state.calls other).inserted.any fun pending => collides row pending

def blocksEvent (state : State Call Worker Handler) (call : Call) (eventId : String) : Bool :=
  state.transactions.any fun other =>
    other != call && (state.calls other).appended == some eventId

/-- COMMIT -/
def commit (state : State Call Worker Handler) (call : Call) (user : User)
    (event : UserRegisteredEvent) : Option (State Call Worker Handler) :=
  match state.users.insert (toPersistence user),
    Outbox.append state.outbox.events event.id userRegistered event.payload.stringify
      event.occurredAt event.availableAt event.createdAt with
  | .ok users, some events =>
      some
        { state.finish call with
          users := users
          outbox :=
            { state.outbox with
              events := events
              appended := event.id :: state.outbox.appended } }
  | _, _ => none

/-- The UPDATE of the sign-in, outside any transaction of its own. -/
def link (state : State Call Worker Handler) (call : Call) (user : User) :
    Option (Except RepositoryError UserTable) :=
  match state.users.update (toPersistence user) with
  | .error error => some (.error error)
  | .ok users => if state.blocksUser call (toPersistence user) then none else some (.ok users)

/-- What is left of an execution whose pending statement gets no reply. -/
def interrupt (state : State Call Worker Handler) (call : Call) (executed : Bool) :
    Option (State Call Worker Handler) :=
  match state.calls call, executed with
  | .committing user event, true => state.commit call user event
  | .linking user, true =>
      (state.link call user).map fun
        | .ok users => { state with users := users }
        | .error _ => state
  | phase, _ => if phase.running then some (state.finish call) else none

end State

/-- The first INSERT of the transaction. -/
def Setup.insert (setup : Setup Call Worker Handler) (state : State Call Worker Handler)
    (call : Call) (userId : String) (email : Email) (account : Account) (begun : Nat) :
    Option (State Call Worker Handler) :=
  match setup.newUser userId email account with
  | .error error => some (state.goto call (.thrown (.app error)))
  | .ok user =>
      match state.users.insert (toPersistence user) with
      | .error _ => some (state.goto call (.thrown (.app Users.userAlreadyExists)))
      | .ok _ =>
          if state.blocksUser call (toPersistence user) then none
          else
            some
              { state.goto call (.appending user begun) with
                transactions := call :: state.transactions }

/-- The second INSERT. -/
def State.append (state : State Call Worker Handler) (call : Call) (user : User)
    (event : UserRegisteredEvent) : Option (State Call Worker Handler) :=
  if event.id ∈ state.outbox.events.rows.map Outbox.OutboxRow.id then
    some ((state.finish call).goto call (.thrown .database))
  else if state.blocksEvent call event.id then none
  else some (state.goto call (.committing user event))

/-- Workers append nothing. -/
def isAppend : Outbox.Action Worker → Bool
  | .append _ _ _ _ _ => true
  | _ => false

variable [DecidableEq Worker]

def Setup.step (setup : Setup Call Worker Handler) (state : State Call Worker Handler) :
    Action Call Worker → Option (State Call Worker Handler)
  | .worker action =>
      if isAppend action then none
      else (setup.outbox.step state.outbox action).map fun outbox => { state with outbox := outbox }
  | .start call =>
      match state.calls call with
      | .ready => some (state.goto call (setup.operation call).start)
      | _ => none
  | .hash call passwordHash =>
      match setup.operation call, state.calls call with
      | .register email _, .hashing => some (state.goto call (setup.register email passwordHash))
      | _, _ => none
  | .query call =>
      (setup.reply state.users (state.calls call)).map fun phase => state.goto call phase
  | .link call =>
      match state.calls call with
      | .linking user =>
          (state.link call user).map fun
            | .ok users => { state.goto call (.issuing user) with users := users }
            | .error error => state.goto call (.thrown (.repository error))
      | _ => none
  | .beginTransaction call =>
      match state.calls call with
      | .beginning email account =>
          some (state.goto call (.inserting email account state.outbox.now))
      | _ => none
  | .insert call userId =>
      match state.calls call with
      | .inserting email account begun => setup.insert state call userId email account begun
      | _ => none
  | .append call eventId occurredAt availableAt =>
      match state.calls call with
      | .appending user begun =>
          state.append call user
            { id := eventId
              occurredAt := occurredAt
              availableAt := availableAt
              createdAt := begun
              payload := userRegisteredPayload user }
      | _ => none
  | .commit call =>
      match state.calls call with
      | .committing user event =>
          (state.commit call user event).map fun committed =>
            committed.goto call ((setup.operation call).afterCommit user)
      | _ => none
  | .createAuthSession call =>
      match state.calls call with
      | .issuing user => some (state.goto call (.returned user))
      | _ => none
  | .fail call executed =>
      (state.interrupt call executed).map fun left =>
        left.goto call (.thrown (state.calls call).failure)
  | .crash call executed =>
      (state.interrupt call executed).map fun left => left.goto call .crashed

/-- Any users whose e-mails are normal, and an empty outbox. -/
def State.initial (setup : Setup Call Worker Handler) (state : State Call Worker Handler) : Prop :=
  state.outbox.initial ∧ state.calls = (fun _ => .ready) ∧ state.transactions = [] ∧
    ∀ row ∈ state.users.table.rows, setup.toLowerCase (Users.trim row.email) = row.email

def Setup.system (setup : Setup Call Worker Handler) :
    System (State Call Worker Handler) (Action Call Worker) :=
  { initial := State.initial setup
    step := setup.step }

end BackendFoundation.Registration
