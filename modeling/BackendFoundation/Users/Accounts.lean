/-
The users table with all its writers: the use cases of the operations, registrations,
and updates of single columns that the application itself does not make.
-/

import BackendFoundation.Users.AuthVersion

namespace BackendFoundation.Users

open Transition

variable {Call : Type}

/-- RegisterUseCase reads nothing, so it is the INSERT that it commits. -/
inductive Statement (Call : Type)
  | of (action : Action Call)
  | register (userId : String) (email : Email) (passwordHash : String)
  | setRoles (userId : String) (roles : List String)
  | setEmail (userId : String) (email : Email)
deriving DecidableEq

/-- One UPDATE of some columns of the current row. A violated constraint leaves the table. -/
def UserTable.amend (users : UserTable) (userId : String) (change : UserRow → UserRow) :
    UserTable :=
  match users.findById userId with
  | none => users
  | some row =>
      match users.update (change row) with
      | .error _ => users
      | .ok amended => amended

theorem UserTable.amend_cases (users : UserTable) (userId : String)
    (change : UserRow → UserRow) :
    users.amend userId change = users ∨
      ∃ row, users.findById userId = some row ∧
        users.update (change row) = .ok (users.amend userId change) := by
  unfold amend
  cases found : users.findById userId with
  | none => exact .inl rfl
  | some row =>
      cases updated : users.update (change row) with
      | error error =>
          left
          simp only [updated]
      | ok amended =>
          refine .inr ⟨row, rfl, ?_⟩
          simp only [updated]

/-- A change of other columns keeps google_sub everywhere. -/
theorem UserTable.googleSub_amend (users : UserTable) (userId : String)
    (change : UserRow → UserRow) (keepsId : ∀ row, (change row).id = row.id)
    (keepsSub : ∀ row, (change row).googleSub = row.googleSub) (id : String) :
    (users.amend userId change).googleSub id = users.googleSub id := by
  rcases users.amend_cases userId change with same | ⟨row, found, updated⟩
  · rw [same]
  · rw [googleSub_update updated, keepsId, keepsSub]
    split
    · rename_i same
      rw [same, id_of_findById found]
      exact (congrArg (fun row => row.bind UserRow.googleSub) found).symm
    · rfl

variable [DecidableEq Call]

def Setup.execute (setup : Setup Call) (state : State Call) : Statement Call → Option (State Call)
  | .of action => setup.step state action
  | .register userId email passwordHash =>
      match state.users.insert
          (toPersistence (User.create userId email passwordHash ["user"])) with
      | .error _ => some state
      | .ok users => some { state with users := users }
  | .setRoles userId roles =>
      some { state with
        users := state.users.amend userId fun row => { row with roles := roles } }
  | .setEmail userId email =>
      some { state with
        users := state.users.amend userId fun row => { row with email := email.value } }

def Setup.accounts (setup : Setup Call) : Transition.System (State Call) (Statement Call) :=
  { initial := State.initial
    step := setup.execute }

section Step

variable {setup : Setup Call} {state following : State Call} {statement : Statement Call}

/-- The other writers are not calls. -/
theorem Setup.calls_of_execute (stepped : setup.execute state statement = some following) :
    (∃ action, statement = .of action ∧ setup.step state action = some following) ∨
      following.calls = state.calls := by
  cases statement with
  | of action => exact .inl ⟨action, rfl, stepped⟩
  | register userId email passwordHash =>
      right
      simp only [Setup.execute] at stepped
      split at stepped <;> cases stepped <;> rfl
  | setRoles userId roles =>
      cases stepped
      exact .inr rfl
  | setEmail userId email =>
      cases stepped
      exact .inr rfl

theorem Setup.Everywhere.execute {holds : Operation → Phase → Prop}
    (outline : setup.Outline holds) (everywhere : setup.Everywhere holds state)
    (stepped : setup.execute state statement = some following) :
    setup.Everywhere holds following := by
  rcases Setup.calls_of_execute stepped with ⟨action, rfl, stepped'⟩ | same
  · exact everywhere.step outline stepped'
  · intro call
    rw [same]
    exact everywhere call

theorem Setup.everywhere_of_reachable {holds : Operation → Phase → Prop}
    (outline : setup.Outline holds) {allowed : State Call → Statement Call → Prop}
    (reached : setup.accounts.Reachable allowed state) : setup.Everywhere holds state := by
  apply reached.invariant
  · intro start initial
    exact Setup.Everywhere.initial outline initial
  · intro before statement after everywhere _ stepped
    exact everywhere.execute outline stepped

end Step

end BackendFoundation.Users
