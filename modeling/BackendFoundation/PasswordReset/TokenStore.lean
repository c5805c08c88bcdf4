/-
RedisPasswordResetTokenStore, with save and consume as sequences of single commands
between which other calls run, time passes and keys expire.

Keys are named here by what they are derived from: a token hash or a user id.
-/

import BackendFoundation.Redis.RedisService
import BackendFoundation.Transition.System

namespace BackendFoundation.PasswordReset

open Redis

structure SaveInput where
  userId : String
  tokenHash : String
  ttlSeconds : Nat
deriving DecidableEq, Repr

inductive Operation
  | save (input : SaveInput)
  | consume (tokenHash : String)
deriving DecidableEq, Repr

/-- Every saved hash is the SHA-256, in hex, of a fresh random token, and the TTL is
configured as positive. -/
structure Setup (Call : Type) where
  operation : Call → Operation
  hashed : ∀ call input, operation call = .save input → input.tokenHash ≠ ""
  positive : ∀ call input, operation call = .save input → 0 < input.ttlSeconds
  fresh : ∀ call other input input', operation call = .save input →
    operation other = .save input' → input.tokenHash = input'.tokenHash → call = other

/-- The keys password-reset:token: and password-reset:user:. -/
structure TokenStore where
  token : String → Slot String
  user : String → Slot String

/-- Before each command of a call: which one it is. -/
inductive Phase
  | ready
  | readingPointer
  | deletingPrevious (previousTokenHash : String)
  | writingToken
  | writingPointer
  | saved
  | readingToken
  | deletingToken (userId : String)
  | deletingPointer (userId : String)
  | consumed (userId : Option String)
deriving DecidableEq, Repr

structure State (Call : Type) where
  now : Nat
  store : TokenStore
  calls : Call → Phase

inductive Action (Call : Type)
  | advance (milliseconds : Nat)
  | start (call : Call)
  | command (call : Call)
deriving DecidableEq, Repr

def Operation.start : Operation → Phase
  | save _ => .readingPointer
  | consume _ => .readingToken

/-- A value as a condition: the empty string counts as absent. -/
def truthy (value : Option String) : Option String :=
  value.filter fun text => text != ""

namespace TokenStore

def empty : TokenStore :=
  { token := fun _ => none
    user := fun _ => none }

def setToken (store : TokenStore) (tokenHash : String) (slot : Slot String) : TokenStore :=
  { store with token := Function.update store.token tokenHash slot }

def setUser (store : TokenStore) (userId : String) (slot : Slot String) : TokenStore :=
  { store with user := Function.update store.user userId slot }

/-- What a consume would return that starts now and is not disturbed. -/
def consumable (now : Nat) (store : TokenStore) (tokenHash : String) : Option String :=
  truthy (Slot.get now (store.token tokenHash))

end TokenStore

/-- One command of a call and what the call does with its reply. -/
def Operation.next (now : Nat) (store : TokenStore) :
    Operation → Phase → Option (TokenStore × Phase)
  | save input, .readingPointer =>
      match truthy (Slot.get now (store.user input.userId)) with
      | some previousTokenHash => some (store, .deletingPrevious previousTokenHash)
      | none => some (store, .writingToken)
  | save _, .deletingPrevious previousTokenHash =>
      some (store.setToken previousTokenHash .del, .writingToken)
  | save input, .writingToken =>
      some (store.setToken input.tokenHash (.setEx now input.userId input.ttlSeconds),
        .writingPointer)
  | save input, .writingPointer =>
      some (store.setUser input.userId (.setEx now input.tokenHash input.ttlSeconds), .saved)
  | consume tokenHash, .readingToken =>
      match truthy (Slot.get now (store.token tokenHash)) with
      | none => some (store, .consumed none)
      | some userId => some (store, .deletingToken userId)
  | consume tokenHash, .deletingToken userId =>
      match RedisService.compareAndDelete now (store.token tokenHash) userId with
      | (slot, true) => some (store.setToken tokenHash slot, .deletingPointer userId)
      | (slot, false) => some (store.setToken tokenHash slot, .consumed none)
  | consume tokenHash, .deletingPointer userId =>
      some (store.setUser userId
        (RedisService.compareAndDelete now (store.user userId) tokenHash).1,
        .consumed (some userId))
  | _, _ => none

/-- The token of a save is in the store from then on, until it is deleted or expires. -/
def Phase.stored : Phase → Bool
  | writingPointer => true
  | saved => true
  | _ => false

/-- A consume that has deleted the token, and will return the user. -/
def Phase.winner : Phase → Option String
  | deletingPointer userId => some userId
  | consumed userId => userId
  | _ => none

/-- Between reading the pointer of the user and writing it. -/
def Phase.replacing : Phase → Bool
  | deletingPrevious _ => true
  | writingToken => true
  | writingPointer => true
  | _ => false

theorem truthy_eq_some {value : Option String} {text : String} :
    truthy value = some text ↔ value = some text ∧ text ≠ "" := by
  unfold truthy
  rw [Option.filter_eq_some_iff, bne_iff_ne]

variable {Call : Type} [DecidableEq Call]

def Setup.step (setup : Setup Call) (state : State Call) : Action Call → Option (State Call)
  | .advance milliseconds => some { state with now := state.now + milliseconds }
  | .start call =>
      match state.calls call with
      | .ready =>
          some { state with
            calls := Function.update state.calls call (setup.operation call).start }
      | _ => none
  | .command call =>
      ((setup.operation call).next state.now state.store (state.calls call)).map
        fun (store, phase) =>
          { state with
            store := store
            calls := Function.update state.calls call phase }

def State.initial (state : State Call) : Prop :=
  state.store = .empty ∧ state.calls = fun _ => .ready

def Setup.system (setup : Setup Call) : Transition.System (State Call) (Action Call) :=
  { initial := State.initial
    step := setup.step }

end BackendFoundation.PasswordReset
