/-
RedisGoogleOAuthStateStore: the payload of an OAuth state as the text that is stored,
and the commands of save and consume. Keys are named here by the state they are for.
-/

import BackendFoundation.Json.StringLiteral
import BackendFoundation.Redis.RedisService
import Mathlib.Logic.Function.Basic

namespace BackendFoundation.GoogleSso

open Json Redis

structure GoogleOAuthStatePayload where
  returnUrl : Option String
deriving DecidableEq, Repr

namespace GoogleOAuthStatePayload

/-- An object without members. -/
def emptyObject : List Char := "\x7b\x7d".toList

/-- The name of the only member. -/
def memberName : List Char := "\x7b\"returnUrl\":".toList

def closingBrace : Char := Char.ofNat 0x7D

/-- JSON.stringify, which leaves out a member that is undefined. -/
def stringify (payload : GoogleOAuthStatePayload) : String :=
  match payload.returnUrl with
  | none => String.ofList emptyObject
  | some returnUrl => String.ofList (memberName ++ (quote returnUrl.toList ++ [closingBrace]))

/-- JSON.parse, of the texts that stringify writes. -/
def parse (serialized : String) : Option GoogleOAuthStatePayload :=
  let text := serialized.toList
  if text = emptyObject then some { returnUrl := none }
  else if memberName ++ [quotation] <+: text then
    match readString .plain (text.drop (memberName.length + 1)) with
    | some (returnUrl, [brace]) =>
        if brace = closingBrace then some { returnUrl := some (String.ofList returnUrl) } else none
    | _ => none
  else none

theorem parse_stringify (payload : GoogleOAuthStatePayload) :
    parse payload.stringify = some payload := by
  obtain ⟨returnUrl⟩ := payload
  cases returnUrl with
  | none => simp only [parse, stringify, String.toList_ofList, if_true]
  | some returnUrl =>
      have text : memberName ++ (quote returnUrl.toList ++ [closingBrace]) =
          (memberName ++ [quotation]) ++
            (returnUrl.toList.flatMap escape ++ quotation :: [closingBrace]) := by
        simp only [quote, List.append_assoc, List.cons_append, List.nil_append]
      have rest : ((memberName ++ [quotation]) ++
          (returnUrl.toList.flatMap escape ++ quotation :: [closingBrace])).drop
            (memberName.length + 1) =
          returnUrl.toList.flatMap escape ++ quotation :: [closingBrace] :=
        List.drop_left' (by rw [List.length_append, List.length_singleton])
      have notEmpty : memberName ++ (quote returnUrl.toList ++ [closingBrace]) ≠ emptyObject := by
        intro same
        have length := congrArg List.length same
        simp only [List.length_append] at length
        have names : memberName.length = 13 := by decide
        have braces : emptyObject.length = 2 := by decide
        omega
      simp only [parse, stringify, String.toList_ofList]
      rw [if_neg notEmpty, text, if_pos (List.prefix_append _ _), rest, readString_quoted]
      simp only [if_pos, String.ofList_toList]

end GoogleOAuthStatePayload

/-- The keys google-sso:state:. -/
abbrev StateStore := String → Slot String

namespace StateStore

def save (now : Nat) (store : StateStore) (state : String) (payload : GoogleOAuthStatePayload)
    (ttlSeconds : Nat) : StateStore :=
  Function.update store state (.setEx now payload.stringify ttlSeconds)

/-- The second command of consume, after a GET that has read the text. -/
def compareAndDelete (now : Nat) (store : StateStore) (state serialized : String) :
    StateStore × Bool :=
  let (slot, consumed) := RedisService.compareAndDelete now (store state) serialized
  (Function.update store state slot, consumed)

variable {now : Nat} {store : StateStore} {state : String}

theorem save_self (payload : GoogleOAuthStatePayload) (ttlSeconds : Nat) :
    save now store state payload ttlSeconds state = .setEx now payload.stringify ttlSeconds :=
  Function.update_self _ _ _

theorem save_of_ne {other : String} (different : other ≠ state)
    (payload : GoogleOAuthStatePayload) (ttlSeconds : Nat) :
    save now store state payload ttlSeconds other = store other :=
  Function.update_of_ne different _ _

theorem compareAndDelete_eq (serialized : String) :
    compareAndDelete now store state serialized =
      if Slot.get now (store state) = some serialized then
        (Function.update store state none, true)
      else (store, false) := by
  unfold compareAndDelete RedisService.compareAndDelete RedisService.holds
  by_cases held : Slot.get now (store state) = some serialized
  · rw [held, beq_self_eq_true, if_pos rfl, if_pos rfl]
    rfl
  · rw [beq_eq_false_iff_ne.mpr held, if_neg held, if_neg Bool.false_ne_true]
    simp only [Function.update_eq_self]

end StateStore

end BackendFoundation.GoogleSso
