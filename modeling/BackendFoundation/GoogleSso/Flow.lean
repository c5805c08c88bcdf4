/-
GoogleSsoFlowService and the callback of GoogleAuthController: any number of starts and
callbacks, with arbitrary query parameters and cookies, interleaved at the level of
single Redis commands, with states that expire.
-/

import BackendFoundation.GoogleSso.StateStore
import BackendFoundation.Transition.System
import BackendFoundation.Users.User

namespace BackendFoundation.GoogleSso

open Redis Transition

inductive ErrorKind
  | serviceUnavailable
  | validation
  | authentication
deriving DecidableEq, Repr

structure FlowError where
  kind : ErrorKind
  code : String
  message : String
deriving DecidableEq, Repr

def googleSsoDisabled : FlowError :=
  { kind := .serviceUnavailable
    code := "GOOGLE_SSO_DISABLED"
    message := "Google SSO is disabled" }

def invalidReturnUrl : FlowError :=
  { kind := .validation
    code := "INVALID_RETURN_URL"
    message := "returnUrl must be an absolute URL with an origin listed in CORS_ORIGINS" }

def stateMismatched : FlowError :=
  { kind := .validation
    code := "GOOGLE_SSO_INVALID_STATE"
    message := "OAuth state is missing or mismatched" }

def stateExpiredOrUsed : FlowError :=
  { kind := .validation
    code := "GOOGLE_SSO_INVALID_STATE"
    message := "OAuth state is expired or already used" }

def providerError : FlowError :=
  { kind := .authentication
    code := "GOOGLE_SSO_TOKEN_EXCHANGE_FAILED"
    message := "Google reported an authorization error" }

def codeMissing : FlowError :=
  { kind := .validation
    code := "GOOGLE_SSO_INVALID_STATE"
    message := "Authorization code is missing" }

structure GoogleSsoEnabledOptions where
  defaultReturnUrl : Option String
  stateTtlSeconds : Nat
deriving DecidableEq, Repr

structure GoogleSsoStartResult where
  state : String
  authorizationUrl : String
  stateTtlSeconds : Nat
deriving DecidableEq, Repr

/-- A cookie that is no string counts as absent. -/
structure GoogleSsoCallbackInput where
  state : Option String
  stateFromCookie : Option String
  error : Option String
  code : Option String
deriving DecidableEq, Repr

structure GoogleSsoValidatedCallback where
  code : String
  payload : GoogleOAuthStatePayload
deriving DecidableEq, Repr

inductive Operation
  | start (requestedReturnUrl : Option String)
  | callback (input : GoogleSsoCallbackInput)
deriving DecidableEq, Repr

/-- What new URL has of a URL that it accepts. -/
structure Url where
  protocol : String
  origin : String
deriving DecidableEq, Repr

inductive Driver
  | jwt
  | session
deriving DecidableEq, Repr

/-- The options are none while the feature is disabled, and the TTL is configured as
positive. The state of a start is what randomBytes returns to it. -/
structure Setup (Call : Type) where
  options : Option GoogleSsoEnabledOptions
  positive : ∀ enabled, options = some enabled → 0 < enabled.stateTtlSeconds
  allowedOrigins : String
  driver : Driver
  parseUrl : String → Option Url
  createAuthorizationUrl : String → String
  operation : Call → Operation
  state : Call → String
  fresh : Function.Injective state

/-- A Redis command fails, or the sign-in does after the callback has been validated. -/
inductive Failure
  | flow (error : FlowError)
  | redis
  | signIn
deriving DecidableEq, Repr

/-- Before each command of a call: which one it is. -/
inductive Phase
  | ready
  | saving (payload : GoogleOAuthStatePayload)
  | started (result : GoogleSsoStartResult)
  | reading (state : String)
  | deleting (state serialized : String)
  | validated (callback : GoogleSsoValidatedCallback)
  | redirected (url : String)
  | answered
  | thrown (failure : Failure)
deriving DecidableEq, Repr

/-- The last field is history: the callbacks that have got past the state check. -/
structure State (Call : Type) where
  now : Nat
  store : StateStore
  calls : Call → Phase
  passed : List Call

/-- A command may fail before or after it has been executed. -/
inductive Fate
  | answered
  | lost
  | refused
deriving DecidableEq, Repr

inductive Action (Call : Type)
  | advance (milliseconds : Nat)
  | start (call : Call)
  | command (call : Call) (fate : Fate)
  | signIn (call : Call) (succeeds : Bool)
deriving DecidableEq, Repr

variable {Call : Type}

namespace Setup

def origins (setup : Setup Call) : List String :=
  ((setup.allowedOrigins.toList.splitOn ',').map fun origin =>
    Users.trim (String.ofList origin)).filter fun origin => origin != ""

def isAllowlistedUrl (setup : Setup Call) (candidate : String) : Bool :=
  match setup.parseUrl candidate with
  | none => false
  | some parsed =>
      if parsed.protocol ≠ "http:" ∧ parsed.protocol ≠ "https:" then false
      else setup.origins.contains parsed.origin

def resolveReturnUrl (setup : Setup Call) (requested configuredDefault : Option String) :
    Except FlowError (Option String) :=
  match requested with
  | some requested =>
      if setup.isAllowlistedUrl requested then .ok (some requested) else .error invalidReturnUrl
  | none => .ok (configuredDefault.filter fun configured =>
      configured != "" && setup.isAllowlistedUrl configured)

/-- What start does before it saves the state. An empty return URL counts as absent. -/
def prepare (setup : Setup Call) (requestedReturnUrl : Option String) :
    Except FlowError GoogleOAuthStatePayload :=
  match setup.options with
  | none => .error googleSsoDisabled
  | some options =>
      match setup.resolveReturnUrl requestedReturnUrl options.defaultReturnUrl with
      | .error error => .error error
      | .ok returnUrl => .ok { returnUrl := returnUrl.filter fun url => url != "" }

/-- What validateCallback does before it consumes the state. -/
def check (setup : Setup Call) (input : GoogleSsoCallbackInput) : Except FlowError String :=
  match setup.options with
  | none => .error googleSsoDisabled
  | some _ =>
      match input.state with
      | none => .error stateMismatched
      | some state =>
          if state = "" ∨ input.stateFromCookie ≠ some state then .error stateMismatched
          else .ok state

def begin (setup : Setup Call) (call : Call) : Phase :=
  match setup.operation call with
  | .start requestedReturnUrl =>
      match setup.prepare requestedReturnUrl with
      | .error error => .thrown (.flow error)
      | .ok payload => .saving payload
  | .callback input =>
      match setup.check input with
      | .error error => .thrown (.flow error)
      | .ok state => .reading state

end Setup

/-- What validateCallback does with a state that it has consumed. -/
def interpret (input : GoogleSsoCallbackInput) (payload : GoogleOAuthStatePayload) : Phase :=
  match input.error.filter fun error => error != "" with
  | some _ => .thrown (.flow providerError)
  | none =>
      match input.code.filter fun code => code != "" with
      | none => .thrown (.flow codeMissing)
      | some code => .validated
          { code := code
            payload := payload }

structure Reply where
  store : StateStore
  phase : Phase
  passes : Bool

/-- One command and what the call does with its reply. -/
def Setup.next (setup : Setup Call) (now : Nat) (store : StateStore) (call : Call) :
    Phase → Option Reply
  | .saving payload =>
      setup.options.map fun options =>
        { store := StateStore.save now store (setup.state call) payload options.stateTtlSeconds
          phase := .started
            { state := setup.state call
              authorizationUrl := setup.createAuthorizationUrl (setup.state call)
              stateTtlSeconds := options.stateTtlSeconds }
          passes := false }
  | .reading state =>
      some
        { store := store
          phase :=
            match Slot.get now (store state) with
            | none => .thrown (.flow stateExpiredOrUsed)
            | some serialized => .deleting state serialized
          passes := false }
  | .deleting state serialized =>
      match setup.operation call with
      | .start _ => none
      | .callback input =>
          let (store, consumed) := StateStore.compareAndDelete now store state serialized
          let payload := if consumed then GoogleOAuthStatePayload.parse serialized else none
          some
            { store := store
              phase :=
                match payload with
                | none => .thrown (.flow stateExpiredOrUsed)
                | some payload => interpret input payload
              passes := payload.isSome }
  | _ => none

/-- The end of the callback, after the sign-in. -/
def Setup.respond (setup : Setup Call) (payload : GoogleOAuthStatePayload) : Phase :=
  match payload.returnUrl.filter fun url => url != "" with
  | none => .answered
  | some returnUrl => if setup.driver = .session then .redirected returnUrl else .answered

variable [DecidableEq Call]

def State.goto (state : State Call) (call : Call) (phase : Phase) : State Call :=
  { state with calls := Function.update state.calls call phase }

def State.receive (state : State Call) (call : Call) (reply : Reply) : Fate → State Call
  | .answered =>
      { state.goto call reply.phase with
        store := reply.store
        passed := if reply.passes then call :: state.passed else state.passed }
  | .lost => { state.goto call (.thrown .redis) with store := reply.store }
  | .refused => state.goto call (.thrown .redis)

def Setup.step (setup : Setup Call) (state : State Call) : Action Call → Option (State Call)
  | .advance milliseconds => some { state with now := state.now + milliseconds }
  | .start call =>
      match state.calls call with
      | .ready => some (state.goto call (setup.begin call))
      | _ => none
  | .command call fate =>
      (setup.next state.now state.store call (state.calls call)).map fun reply =>
        state.receive call reply fate
  | .signIn call succeeds =>
      match state.calls call with
      | .validated callback =>
          some (state.goto call
            (if succeeds then setup.respond callback.payload else .thrown .signIn))
      | _ => none

/-- What a step can do. -/
inductive Setup.Stepped (setup : Setup Call) (state : State Call) :
    Action Call → State Call → Prop
  | advances (milliseconds : Nat) :
      Stepped setup state (.advance milliseconds) { state with now := state.now + milliseconds }
  | starts {call : Call} (ready : state.calls call = .ready) :
      Stepped setup state (.start call) (state.goto call (setup.begin call))
  | sends {call : Call} {reply : Reply} (fate : Fate)
      (sent : setup.next state.now state.store call (state.calls call) = some reply) :
      Stepped setup state (.command call fate) (state.receive call reply fate)
  | signsIn {call : Call} {callback : GoogleSsoValidatedCallback} (succeeds : Bool)
      (validated : state.calls call = .validated callback) :
      Stepped setup state (.signIn call succeeds)
        (state.goto call (if succeeds then setup.respond callback.payload else .thrown .signIn))

theorem Setup.stepped_of_step {setup : Setup Call} {state following : State Call}
    {action : Action Call} (stepped : setup.step state action = some following) :
    setup.Stepped state action following := by
  cases action with
  | advance milliseconds =>
      cases stepped
      exact .advances milliseconds
  | start call =>
      simp only [Setup.step] at stepped
      split at stepped
      · rename_i ready
        cases stepped
        exact .starts ready
      · cases stepped
  | command call fate =>
      obtain ⟨reply, sent, rfl⟩ := Option.map_eq_some_iff.mp stepped
      exact .sends fate sent
  | signIn call succeeds =>
      simp only [Setup.step] at stepped
      split at stepped
      · rename_i callback validated
        cases stepped
        exact .signsIn succeeds validated
      · cases stepped

/-- No state is stored. -/
def State.initial (state : State Call) : Prop :=
  state.store = (fun _ => none) ∧ state.calls = (fun _ => .ready) ∧ state.passed = []

def Setup.system (setup : Setup Call) : System (State Call) (Action Call) :=
  { initial := State.initial
    step := setup.step }

end BackendFoundation.GoogleSso
