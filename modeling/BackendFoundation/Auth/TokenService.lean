/-
JwtAuthTokenService over RedisJwtTokenStore: any number of calls, interleaved at the
level of single commands and scripts, with keys that expire.

Signatures are taken to be unforgeable: a refresh token that verifies is one that a
call has returned. That a JWT also expires only takes calls away.
-/

import BackendFoundation.Auth.StoreSteps
import BackendFoundation.Transition.System
import BackendFoundation.Users.User

namespace BackendFoundation.Auth

open Users (AppError)

structure CurrentUser where
  id : String
  email : String
  roles : List String
  authVersion : Nat
deriving DecidableEq, Repr

structure ParsedRefreshToken where
  userId : String
  familyId : String
  tokenId : String
  authVersion : Nat
deriving DecidableEq, Repr

/-- Of the access token that a logout presents. The expiry is in seconds. -/
structure AccessTokenPayload where
  id : String
  jti : String
  exp : Nat
deriving DecidableEq, Repr

/-- An access token that does not verify counts as absent. -/
inductive Operation
  | createAuthSession (user : CurrentUser)
  | rotateAuthSession (parsed : ParsedRefreshToken) (freshUser : CurrentUser)
  | revoke (refreshToken : Option ParsedRefreshToken) (accessToken : Option AccessTokenPayload)
  | revokeAllForUser (userId : String)
deriving DecidableEq, Repr

def refreshTokenRequired : AppError :=
  { kind := .invalidAuthRequest
    code := "REFRESH_TOKEN_REQUIRED"
    message := "Refresh token is required for JWT logout" }

def invalidRefreshToken : AppError :=
  { kind := .authentication
    code := "INVALID_REFRESH_TOKEN"
    message := "Invalid or expired refresh token" }

def tokensOfDifferentUsers : AppError :=
  { kind := .authentication
    code := "ACCESS_TOKEN_AND_REFRESH_TOKEN_DO_NOT_BELONG_TO_THE_SAME_USER"
    message := "Access token and refresh token do not belong to the same user" }

def refreshTokenUsedOrRevoked : AppError :=
  { kind := .authentication
    code := "REFRESH_TOKEN_USED_OR_REVOKED"
    message := "Refresh token has already been used or revoked" }

/-- The ids are what randomUUID returns to a call. -/
structure Setup (Call : Type) where
  operation : Call → Operation
  familyId : Call → String
  tokenId : Call → String
  refreshTtlSeconds : Call → Nat
  positive : ∀ call, 0 < refreshTtlSeconds call
  freshFamily : Function.Injective familyId
  freshToken : Function.Injective tokenId

/-- rotateAuthSession and revoke call the store a second time. -/
inductive Await
  | first
  | second
deriving DecidableEq, Repr

inductive Phase
  | ready
  | awaiting (await : Await) (progress : Progress)
  | returned
  | thrown (error : AppError)
deriving DecidableEq

/-- The last three fields are history: the refresh tokens handed out, the token ids for
which rotateRefreshToken has returned true, and the families that have been revoked. -/
structure State (Call : Type) where
  now : Nat
  store : JwtStore
  calls : Call → Phase
  issued : List ParsedRefreshToken
  rotated : List String
  revoked : List String

variable {Call : Type}

def Setup.saveInput (setup : Setup Call) (call : Call) (user : CurrentUser) :
    SaveRefreshTokenInput :=
  { tokenId := setup.tokenId call
    familyId := setup.familyId call
    record :=
      { userId := user.id
        familyId := setup.familyId call }
    ttlSeconds := setup.refreshTtlSeconds call
    positive := setup.positive call }

def Setup.rotateInput (setup : Setup Call) (call : Call) (parsed : ParsedRefreshToken) :
    RotateRefreshTokenInput :=
  { currentTokenId := parsed.tokenId
    nextTokenId := setup.tokenId call
    familyId := parsed.familyId
    nextRecord :=
      { userId := parsed.userId
        familyId := parsed.familyId }
    ttlSeconds := setup.refreshTtlSeconds call
    positive := setup.positive call }

/-- What parseRefreshToken reads in the refresh token that the call has signed. -/
def Setup.signed (setup : Setup Call) (call : Call) : List ParsedRefreshToken :=
  match setup.operation call with
  | .createAuthSession user =>
      [{ userId := user.id
         familyId := setup.familyId call
         tokenId := setup.tokenId call
         authVersion := user.authVersion }]
  | .rotateAuthSession parsed freshUser =>
      [{ userId := freshUser.id
         familyId := parsed.familyId
         tokenId := setup.tokenId call
         authVersion := freshUser.authVersion }]
  | _ => []

def Setup.start (setup : Setup Call) (issued : List ParsedRefreshToken) (call : Call) : Phase :=
  match setup.operation call with
  | .createAuthSession user =>
      .awaiting .first (StoreCall.saveRefreshToken (setup.saveInput call user)).start
  | .rotateAuthSession parsed _ =>
      if parsed ∈ issued then
        .awaiting .first (StoreCall.rotateRefreshToken (setup.rotateInput call parsed)).start
      else .thrown invalidRefreshToken
  | .revoke none _ => .thrown refreshTokenRequired
  | .revoke (some refresh) access =>
      if refresh ∉ issued then .thrown invalidRefreshToken
      else if access.any fun payload => payload.id != refresh.userId then
        .thrown tokensOfDifferentUsers
      else .awaiting .first (StoreCall.revokeRefreshTokenFamily refresh.familyId).start
  | .revokeAllForUser userId =>
      .awaiting .first (StoreCall.revokeAllRefreshTokenFamilies userId).start

/-- getRemainingTtlSeconds, on a clock in milliseconds. -/
def getRemainingTtlSeconds (now expiresAt : Nat) : Nat :=
  expiresAt - now / 1000

/-- What a call does with the reply of the token store. -/
def Setup.resume (setup : Setup Call) (now : Nat) (call : Call) (await : Await)
    (reply : Reply) : Phase :=
  match setup.operation call, await with
  | .rotateAuthSession parsed _, .first =>
      if reply = .rotated true then .returned
      else .awaiting .second (StoreCall.revokeRefreshTokenFamily parsed.familyId).start
  | .rotateAuthSession _ _, .second => .thrown refreshTokenUsedOrRevoked
  | .revoke _ (some access), .first =>
      match (StoreCall.revokeAccessToken access.jti
          (getRemainingTtlSeconds now access.exp)).start with
      | .returned _ => .returned
      | progress => .awaiting .second progress
  | _, _ => .returned

def Setup.proceed (setup : Setup Call) (now : Nat) (call : Call) (await : Await) :
    Progress → Phase
  | .returned reply => setup.resume now call await reply
  | progress => .awaiting await progress

variable [DecidableEq Call]

def State.goto (state : State Call) (call : Call) (phase : Phase) : State Call :=
  { state with calls := Function.update state.calls call phase }

/-- A command has been executed, and the call has gone on with its reply. -/
def State.receive (state : State Call) (setup : Setup Call) (call : Call) (await : Await)
    (sent : Progress) (store : JwtStore) (left : Progress) : State Call :=
  let phase := setup.proceed state.now call await left
  { state.goto call phase with
    store := store
    issued := (if phase = .returned then setup.signed call else []) ++ state.issued
    rotated := sent.spent left ++ state.rotated
    revoked := sent.revokes ++ state.revoked }

def Setup.step (setup : Setup Call) (state : State Call) : Action Call → Option (State Call)
  | .advance milliseconds => some { state with now := state.now + milliseconds }
  | .start call =>
      match state.calls call with
      | .ready => some (state.goto call (setup.start state.issued call))
      | _ => none
  | .command call =>
      match state.calls call with
      | .awaiting await progress =>
          (progress.next state.now state.store).map fun (store, left) =>
            state.receive setup call await progress store left
      | _ => none

/-- What a step can do. -/
inductive Setup.Stepped (setup : Setup Call) (state : State Call) :
    Action Call → State Call → Prop
  | advances (milliseconds : Nat) :
      Stepped setup state (.advance milliseconds) { state with now := state.now + milliseconds }
  | starts {call : Call} (ready : state.calls call = .ready) :
      Stepped setup state (.start call) (state.goto call (setup.start state.issued call))
  | receives {call : Call} {await : Await} {progress left : Progress} {after : JwtStore}
      (waiting : state.calls call = .awaiting await progress)
      (sent : progress.next state.now state.store = some (after, left)) :
      Stepped setup state (.command call) (state.receive setup call await progress after left)

theorem Setup.stepped_of_step {setup : Setup Call} {state following : State Call}
    {action : Action Call} (stepped : setup.step state action = some following) :
    setup.Stepped state action following := by
  cases action with
  | advance milliseconds =>
      cases stepped
      exact .advances milliseconds
  | start call =>
      simp only [Setup.step] at stepped
      split at stepped
      · rename_i ready
        cases stepped
        exact .starts ready
      · cases stepped
  | command call =>
      simp only [Setup.step] at stepped
      split at stepped
      · rename_i await progress waiting
        obtain ⟨⟨after, left⟩, sent, rfl⟩ := Option.map_eq_some_iff.mp stepped
        exact .receives waiting sent
      · cases stepped

/-- An empty keyspace, at any time. -/
def State.initial (state : State Call) : Prop :=
  state.store = .empty ∧ state.calls = (fun _ => .ready) ∧ state.issued = [] ∧
    state.rotated = [] ∧ state.revoked = []

def Setup.system (setup : Setup Call) : Transition.System (State Call) (Action Call) :=
  { initial := State.initial
    step := setup.step }

end BackendFoundation.Auth
