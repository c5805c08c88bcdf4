/-
verifyAccessToken of JwtAuthTokenService beside the calls that issue, rotate and revoke,
on one store and one clock.

An access token is verified on the service's clock first, then looked up in the
denylist by a command of its own, which may be executed later.
-/

import BackendFoundation.Auth.Rotation

namespace BackendFoundation.Auth

open Redis Transition

/-- The claims of a genuine access token. The expiry is in seconds. -/
structure AccessToken where
  user : CurrentUser
  jti : String
  exp : Nat
deriving DecidableEq, Repr

def AccessToken.payload (token : AccessToken) : AccessTokenPayload :=
  { id := token.user.id
    jti := token.jti
    exp := token.exp }

/-- The JWT library's check of exp, on a clock in milliseconds. -/
def AccessToken.verifies (token : AccessToken) (now : Nat) : Bool :=
  now / 1000 < token.exp

/-- A jti is what randomUUID has returned for one token, so the tokens that verify at
logouts and those presented later agree where their jti does. -/
structure AccessSetup (Call Verifier : Type) where
  service : Setup Call
  token : Verifier → AccessToken
  resolvesAccessUser : Bool
  genuine : ∀ call refresh access, service.operation call = .revoke refresh (some access) →
    ∀ verifier, (token verifier).jti = access.jti → (token verifier).payload = access
  genuineRevoke : ∀ call other refresh refresh' access access',
    service.operation call = .revoke refresh (some access) →
    service.operation other = .revoke refresh' (some access') →
    access.jti = access'.jti → access = access'

/-- Without resolveAccessUser the claims of the token are the reply. -/
inductive Verification
  | ready
  | checkingDenylist
  | resolving
  | returned (user : Option CurrentUser)
deriving DecidableEq, Repr

structure AccessState (Call Verifier : Type) where
  service : State Call
  verifications : Verifier → Verification

/-- The reply to revokeRefreshTokenFamily reaches revoke at any time before its next
command, and only then the remaining TTL is computed. -/
inductive AccessAction (Call Verifier : Type)
  | service (action : Action Call)
  | receive (call : Call)
  | verifyAccessToken (verifier : Verifier)
  | isAccessTokenRevoked (verifier : Verifier)
  | resolveAccessUser (verifier : Verifier) (freshUser : Option CurrentUser)
deriving DecidableEq, Repr

variable {Call Verifier : Type} [DecidableEq Call]

/-- The remaining TTL at this time, and what follows from it. -/
def Setup.receive (setup : Setup Call) (state : State Call) (call : Call) : Option (State Call) :=
  match setup.operation call, state.calls call with
  | .revoke _ (some _), .awaiting .second (.denylisting _ _) =>
      some (state.goto call (setup.resume state.now call .first .done))
  | _, _ => none

variable [DecidableEq Verifier]

def AccessState.settle (state : AccessState Call Verifier) (verifier : Verifier)
    (verification : Verification) : AccessState Call Verifier :=
  { state with verifications := Function.update state.verifications verifier verification }

def AccessSetup.step (setup : AccessSetup Call Verifier) (state : AccessState Call Verifier) :
    AccessAction Call Verifier → Option (AccessState Call Verifier)
  | .service action =>
      (setup.service.step state.service action).map fun service => { state with service := service }
  | .receive call =>
      (setup.service.receive state.service call).map fun service =>
        { state with service := service }
  | .verifyAccessToken verifier =>
      match state.verifications verifier with
      | .ready =>
          if (setup.token verifier).verifies state.service.now then
            some (state.settle verifier .checkingDenylist)
          else some (state.settle verifier (.returned none))
      | _ => none
  | .isAccessTokenRevoked verifier =>
      match state.verifications verifier with
      | .checkingDenylist =>
          if state.service.store.isAccessTokenRevoked state.service.now (setup.token verifier).jti
          then some (state.settle verifier (.returned none))
          else if setup.resolvesAccessUser then some (state.settle verifier .resolving)
          else some (state.settle verifier (.returned (some (setup.token verifier).user)))
      | _ => none
  | .resolveAccessUser verifier freshUser =>
      match state.verifications verifier with
      | .resolving =>
          some (state.settle verifier (.returned (freshUser.filter fun fresh =>
            fresh.authVersion == (setup.token verifier).user.authVersion)))
      | _ => none

def AccessState.initial (state : AccessState Call Verifier) : Prop :=
  state.service.initial ∧ state.verifications = fun _ => .ready

def AccessSetup.system (setup : AccessSetup Call Verifier) :
    System (AccessState Call Verifier) (AccessAction Call Verifier) :=
  { initial := AccessState.initial
    step := setup.step }

end BackendFoundation.Auth
