/-
Both auth drivers, wired as the composition root does it: login, refresh and
verifyAccessToken, interleaved with the calls that write users.

What the Redis stores answer about denylists and rotations is arbitrary, and any session
may be deleted at any time: logout, session management and the purges do no more.
-/

import BackendFoundation.Auth.TokenService
import BackendFoundation.Users.AuthVersion

namespace BackendFoundation.Auth.Credentials

open Redis Transition
open Users (AppError Email UserRow UserTable toDomain)

inductive Driver
  | jwt
  | session
deriving DecidableEq, Repr

/-- JWT_SECRET and JWT_REFRESH_SECRET. -/
inductive Secret
  | access
  | refresh
deriving DecidableEq, Repr

/-- Tokens from before authVersion have none. -/
structure TokenPayload where
  id : String
  email : String
  roles : List String
  authVersion : Option Nat
  type : String
  jti : String
  familyId : Option String
deriving DecidableEq, Repr

structure SessionRecord where
  userId : String
  authVersion : Nat
deriving DecidableEq, Repr

inductive Operation (Token : Type)
  | login (email password : String)
  | refresh (refreshToken : Token)
  | verifyAccessToken (tokenOrSessionId : Token)

/-- A token is what travels on the wire: a signed JWT or a session id. Verification may
fail, in particular by expiry, but finds nothing else than what was signed. -/
structure Setup (Token Writer Call : Type) where
  driver : Driver
  writers : Users.Setup Writer
  operation : Call → Operation Token
  sign : Secret → TokenPayload → Token
  verify : Secret → Nat → Token → Option TokenPayload
  verified : ∀ secret now signer payload other,
    verify secret now (sign signer payload) = some other → other = payload
  accessTokenId : Writer ⊕ Call → String
  refreshTokenId : Writer ⊕ Call → String
  familyId : Writer ⊕ Call → String
  sessionId : Writer ⊕ Call → Token
  freshSession : Function.Injective sessionId
  sessionTtlSeconds : Nat

inductive Phase (Token : Type)
  | ready
  | findingByEmail (email : Email) (password : String)
  | issuing (user : CurrentUser)
  | loading (parsed : ParsedRefreshToken)
  | rotating (parsed : ParsedRefreshToken) (freshUser : CurrentUser)
  | checking (payload : TokenPayload)
  | reading (sessionId : Token)
  | resolving (userId : String) (authVersion : Nat)
  | issued
  | verified (user : Option CurrentUser)
  | thrown (error : Users.Failure)
deriving DecidableEq

/-- History: a credential, and whom and which version it was minted for. -/
structure Minted (Token : Type) where
  token : Token
  userId : String
  authVersion : Nat

structure State (Token Writer Call : Type) where
  now : Nat
  users : Users.State Writer
  sessions : Token → Slot SessionRecord
  calls : Call → Phase Token
  minted : List (Minted Token)

/-- What a call waits for. -/
inductive Event
  | start
  | query
  | isAccessTokenRevoked (revoked : Bool)
  | getSession
deriving DecidableEq, Repr

inductive Action (Token Writer Call : Type)
  | advance (milliseconds : Nat)
  | writer (action : Users.Action Writer)
  | deleteSession (sessionId : Token)
  | event (call : Call) (event : Event)
  | issue (call : Call) (succeeds : Bool)

def invalidCredentials : AppError :=
  { kind := .validation
    code := "INVALID_CREDENTIALS"
    message := "Invalid credentials" }

def malformedRefreshToken : AppError :=
  { kind := .authentication
    code := "INVALID_REFRESH_TOKEN"
    message := "Invalid refresh token" }

def refreshTokenNotSupported : AppError :=
  { kind := .authentication
    code := "REFRESH_TOKEN_NOT_SUPPORTED"
    message := "Refresh token is not supported for session authentication" }

def refreshUserNotFound : AppError :=
  { kind := .authentication
    code := "USER_NOT_FOUND"
    message := "User not found" }

def authVersionMismatch : AppError :=
  { kind := .authentication
    code := "AUTH_VERSION_MISMATCH"
    message := "Authorization credentials are stale" }

def currentUser (user : Users.User) : CurrentUser :=
  { id := user.id
    email := user.email.value
    roles := user.roles
    authVersion := user.authVersion }

/-- What both verifications read in a payload. -/
def TokenPayload.version (payload : TokenPayload) : Nat :=
  payload.authVersion.getD 0

def TokenPayload.isAccess (payload : TokenPayload) : Bool :=
  payload.type == "access" && payload.jti != ""

/-- parseRefreshToken, of a payload that has been verified. -/
def TokenPayload.parse (payload : TokenPayload) : Option ParsedRefreshToken :=
  match payload.familyId with
  | none => none
  | some familyId =>
      if payload.type = "refresh" ∧ payload.jti ≠ "" ∧ familyId ≠ "" then
        some
          { userId := payload.id
            familyId := familyId
            tokenId := payload.jti
            authVersion := payload.version }
      else none

variable {Token Writer Call : Type}

def Setup.start (setup : Setup Token Writer Call) (now : Nat) : Operation Token → Phase Token
  | .login email password =>
      match Email.create setup.writers.toLowerCase email with
      | .error error => .thrown (.app error)
      | .ok email => .findingByEmail email password
  | .refresh refreshToken =>
      match setup.driver with
      | .session => .thrown (.app refreshTokenNotSupported)
      | .jwt =>
          match setup.verify .refresh now refreshToken with
          | none => .thrown (.app invalidRefreshToken)
          | some payload =>
              match payload.parse with
              | none => .thrown (.app malformedRefreshToken)
              | some parsed => .loading parsed
  | .verifyAccessToken token =>
      match setup.driver with
      | .session => .reading token
      | .jwt =>
          match setup.verify .access now token with
          | none => .verified none
          | some payload => if payload.isAccess then .checking payload else .verified none

/-- LoginUseCase, on the user it has read. -/
def Setup.authenticate (setup : Setup Token Writer Call) (password : String)
    (user : Users.User) : Phase Token :=
  match user.passwordHash with
  | none => .thrown (.app invalidCredentials)
  | some passwordHash =>
      if setup.writers.compare password passwordHash then .issuing (currentUser user)
      else .thrown (.app invalidCredentials)

/-- RefreshAuthSessionUseCase, on the user it has read. -/
def loadFreshUser (parsed : ParsedRefreshToken) (user : Users.User) : Phase Token :=
  if user.authVersion ≠ parsed.authVersion then .thrown (.app authVersionMismatch)
  else .rotating parsed (currentUser user)

def resolve (authVersion : Nat) (user : Users.User) : Phase Token :=
  if user.authVersion ≠ authVersion then .verified none else .verified (some (currentUser user))

/-- verifyAccessToken catches every error under the JWT driver. -/
def Driver.unreadable (driver : Driver) (error : AppError) : Phase Token :=
  match driver with
  | .jwt => .verified none
  | .session => .thrown (.app error)

/-- The reply to the pending SELECT. -/
def Setup.query (setup : Setup Token Writer Call) (users : UserTable) :
    Phase Token → Option (Phase Token)
  | .findingByEmail email password =>
      match users.findByEmail email.value with
      | none => some (.thrown (.app invalidCredentials))
      | some row =>
          match toDomain setup.writers.toLowerCase row with
          | .error error => some (.thrown (.app error))
          | .ok user => some (setup.authenticate password user)
  | .loading parsed =>
      match users.findById parsed.userId with
      | none => some (.thrown (.app refreshUserNotFound))
      | some row =>
          match toDomain setup.writers.toLowerCase row with
          | .error error => some (.thrown (.app error))
          | .ok user => some (loadFreshUser parsed user)
  | .resolving userId authVersion =>
      match users.findById userId with
      | none => some (.verified none)
      | some row =>
          match toDomain setup.writers.toLowerCase row with
          | .error error => some (setup.driver.unreadable error)
          | .ok user => some (resolve authVersion user)
  | _ => none

def Setup.reply (setup : Setup Token Writer Call) (state : State Token Writer Call)
    (call : Call) : Event → Option (Phase Token)
  | .start =>
      match state.calls call with
      | .ready => some (setup.start state.now (setup.operation call))
      | _ => none
  | .query => setup.query state.users.users (state.calls call)
  | .isAccessTokenRevoked revoked =>
      match state.calls call with
      | .checking payload =>
          some (if revoked then .verified none else .resolving payload.id payload.version)
      | _ => none
  | .getSession =>
      match state.calls call with
      | .reading sessionId =>
          match (state.sessions sessionId).get state.now with
          | none => some (.verified none)
          | some record => some (.resolving record.userId record.authVersion)
      | _ => none

def Setup.payload (setup : Setup Token Writer Call) (origin : Writer ⊕ Call)
    (user : CurrentUser) (familyId : String) : Secret → TokenPayload
  | .access =>
      { id := user.id
        email := user.email
        roles := user.roles
        authVersion := some user.authVersion
        type := "access"
        jti := setup.accessTokenId origin
        familyId := none }
  | .refresh =>
      { id := user.id
        email := user.email
        roles := user.roles
        authVersion := some user.authVersion
        type := "refresh"
        jti := setup.refreshTokenId origin
        familyId := some familyId }

def Setup.mints (setup : Setup Token Writer Call) (origin : Writer ⊕ Call) (user : CurrentUser)
    (familyId : String) : List (Minted Token) :=
  let mint token : Minted Token :=
    { token := token
      userId := user.id
      authVersion := user.authVersion }
  match setup.driver with
  | .jwt => [.access, .refresh].map fun secret =>
      mint (setup.sign secret (setup.payload origin user familyId secret))
  | .session => [mint (setup.sessionId origin)]

variable [DecidableEq Token]

/-- Only the session driver stores anything. -/
def Setup.storeSession (setup : Setup Token Writer Call) (now : Nat)
    (sessions : Token → Slot SessionRecord) (origin : Writer ⊕ Call) (user : CurrentUser) :
    Token → Slot SessionRecord :=
  match setup.driver with
  | .jwt => sessions
  | .session => Function.update sessions (setup.sessionId origin)
      (.setEx now
        { userId := user.id
          authVersion := user.authVersion } setup.sessionTtlSeconds)

theorem Setup.storeSession_eq {setup : Setup Token Writer Call} {now : Nat}
    {sessions : Token → Slot SessionRecord} {origin : Writer ⊕ Call} {user : CurrentUser}
    {token : Token} {cell : Cell SessionRecord}
    (stored : setup.storeSession now sessions origin user token = some cell) :
    sessions token = some cell ∨ setup.driver = .session ∧ token = setup.sessionId origin ∧
      cell.value.userId = user.id ∧ cell.value.authVersion = user.authVersion := by
  unfold Setup.storeSession at stored
  cases driver : setup.driver with
  | jwt =>
      simp only [driver] at stored
      exact .inl stored
  | session =>
      simp only [driver] at stored
      by_cases same : token = setup.sessionId origin
      · subst same
        rw [Function.update_self] at stored
        cases stored
        exact .inr ⟨rfl, rfl, rfl, rfl⟩
      · rw [Function.update_of_ne same] at stored
        exact .inl stored

variable [DecidableEq Writer] [DecidableEq Call]

def State.goto (state : State Token Writer Call) (call : Call) (phase : Phase Token) :
    State Token Writer Call :=
  { state with calls := Function.update state.calls call phase }

/-- JWTs are signed and sessions are stored for the user as the call has read it. A
createAuthSession that fails may have come so far. -/
def State.mint (state : State Token Writer Call) (setup : Setup Token Writer Call)
    (origin : Writer ⊕ Call) (user : CurrentUser) (familyId : String) :
    State Token Writer Call :=
  { state with
    minted := setup.mints origin user familyId ++ state.minted
    sessions := setup.storeSession state.now state.sessions origin user }

/-- A writer is about to create the session for the user it has written. -/
def issuer (users : Users.State Writer) : Users.Action Writer → Option (Writer × Users.User)
  | .createAuthSession writer _ =>
      match users.calls writer with
      | .issuing user => some (writer, user)
      | _ => none
  | _ => none

def Setup.step (setup : Setup Token Writer Call) (state : State Token Writer Call) :
    Action Token Writer Call → Option (State Token Writer Call)
  | .advance milliseconds => some { state with now := state.now + milliseconds }
  | .writer action =>
      (setup.writers.step state.users action).map fun users =>
        let following := { state with users := users }
        match issuer state.users action with
        | none => following
        | some (writer, user) =>
            following.mint setup (.inl writer) (currentUser user) (setup.familyId (.inl writer))
  | .deleteSession sessionId =>
      some { state with sessions := Function.update state.sessions sessionId .del }
  | .event call event => (setup.reply state call event).map fun phase => state.goto call phase
  | .issue call succeeds =>
      match state.calls call with
      | .issuing user =>
          some ((state.mint setup (.inr call) user (setup.familyId (.inr call))).goto call
            (if succeeds then .issued else .thrown .auth))
      | .rotating parsed freshUser =>
          some ((state.mint setup (.inr call) freshUser parsed.familyId).goto call
            (if succeeds then .issued else .thrown (.app refreshTokenUsedOrRevoked)))
      | _ => none

/-- Any table of users, and no credentials. -/
def State.initial (state : State Token Writer Call) : Prop :=
  state.users.initial ∧ state.sessions = (fun _ => none) ∧ state.calls = (fun _ => .ready) ∧
    state.minted = []

def Setup.system (setup : Setup Token Writer Call) :
    Transition.System (State Token Writer Call) (Action Token Writer Call) :=
  { initial := State.initial
    step := setup.step }

/-- Each update of a user finds the version that its call has read. -/
def State.Fresh (state : State Token Writer Call) : Action Token Writer Call → Prop
  | .writer action => state.users.Fresh action
  | _ => True

end BackendFoundation.Auth.Credentials
