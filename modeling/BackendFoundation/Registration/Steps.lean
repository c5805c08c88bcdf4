/-
What one step of a registration can do.

Most steps change the execution that takes them and no table. The UPDATE of a sign-in,
the two INSERTs and the COMMIT are cases of their own, and so is a transaction that ends
without one.
-/

import BackendFoundation.Registration.Creation

namespace BackendFoundation.Registration

open Transition
open Users (Email User UserTable toPersistence)

variable {Call Worker Handler : Type}

/-- The execution that takes the step. -/
def Action.caller : Action Call Worker → Option Call
  | .worker _ => none
  | .start call => some call
  | .hash call _ => some call
  | .query call => some call
  | .link call => some call
  | .beginTransaction call => some call
  | .insert call _ => some call
  | .append call _ _ _ => some call
  | .commit call => some call
  | .createAuthSession call => some call
  | .fail call _ => some call
  | .crash call _ => some call

/-- A failure after the database has been told to commit. -/
def Failure.AfterCommit (failure : Failure) : Prop :=
  failure = .commit ∨ failure = .auth

namespace Phase

/-- Where an execution can be that has committed a transaction. -/
def Settled : Phase → Prop
  | issuing _ | returned _ | crashed => True
  | thrown failure => failure.AfterCommit
  | _ => False

def Ended : Phase → Prop
  | thrown _ | crashed => True
  | _ => False

theorem inserted_of_settled {phase : Phase} (settled : phase.Settled) : phase.inserted = none := by
  cases phase with
  | issuing | returned | thrown | crashed => rfl
  | ready | hashing | findingBySub | findingByEmail | linking | beginning | inserting | appending
  | committing => cases settled

theorem inserted_of_ended {phase : Phase} (ended : phase.Ended) : phase.inserted = none := by
  cases phase with
  | thrown | crashed => rfl
  | ready | hashing | findingBySub | findingByEmail | linking | beginning | inserting | appending
  | committing | issuing | returned => cases ended

/-- A transaction has inserted its user before it appends the event. -/
theorem appended_of_inserted {phase : Phase} (idle : phase.inserted = none) :
    phase.appended = none := by
  cases phase with
  | appending | committing => cases idle
  | ready | hashing | findingBySub | findingByEmail | linking | beginning | inserting | issuing
  | returned | thrown | crashed => rfl

end Phase

/-- What comes after a step that leaves the tables and the transactions as they are. -/
inductive Setup.Leads (setup : Setup Call Worker Handler) (users : UserTable) : Phase → Phase → Prop
  | starts (operation : Operation) : Leads setup users .ready operation.start
  | hashed (email passwordHash : String) :
      Leads setup users .hashing (setup.register email passwordHash)
  | replied {phase after : Phase} (replied : setup.reply users phase = some after) :
      Leads setup users phase after
  | ends {phase after : Phase} (idle : phase.inserted = none) (early : ¬phase.Settled)
      (ended : after.Ended) : Leads setup users phase after
  | begins (email : Email) (account : Account) (begun : Nat) :
      Leads setup users (.beginning email account) (.inserting email account begun)
  | returns (user : User) : Leads setup users (.issuing user) (.returned user)

namespace Setup

variable {setup : Setup Call Worker Handler} {users : UserTable} {phase after : Phase}

theorem inserted_register (setup : Setup Call Worker Handler) (email passwordHash : String) :
    (setup.register email passwordHash).inserted = none := by
  unfold Setup.register
  split <;> rfl

theorem inserted_reply (replied : setup.reply users phase = some after) :
    phase.inserted = none ∧ after.inserted = none := by
  have found : ∀ row following, (∀ user, (following user).inserted = none) →
      (setup.found row following).inserted = none := by
    intro row following idle
    unfold Setup.found
    split
    · rfl
    · exact idle _
  cases phase with
  | findingBySub profile =>
      refine ⟨rfl, ?_⟩
      simp only [Setup.reply] at replied
      split at replied
      · cases replied
        exact found _ _ fun _ => rfl
      · split at replied
        · cases replied
          rfl
        · split at replied
          · cases replied
            rfl
          · cases replied
            rfl
  | findingByEmail profile email =>
      refine ⟨rfl, ?_⟩
      simp only [Setup.reply] at replied
      split at replied
      · cases replied
        exact found _ _ fun _ => rfl
      · cases replied
        rfl
  | ready | hashing | linking | beginning | inserting | appending | committing | issuing
  | returned | thrown | crashed => cases replied

theorem Leads.inserted (leads : setup.Leads users phase after) :
    phase.inserted = none ∧ after.inserted = none := by
  cases leads with
  | starts operation =>
      cases operation with
      | register => exact ⟨rfl, rfl⟩
      | completeGoogleSignIn => exact ⟨rfl, rfl⟩
  | hashed email passwordHash => exact ⟨rfl, setup.inserted_register email passwordHash⟩
  | replied replied => exact inserted_reply replied
  | ends idle early ended => exact ⟨idle, Phase.inserted_of_ended ended⟩
  | begins | returns => exact ⟨rfl, rfl⟩

theorem Leads.settled (leads : setup.Leads users phase after) :
    ¬phase.Settled ∨ after.Settled := by
  cases leads with
  | starts | hashed | begins => exact .inl id
  | replied replied =>
      cases phase with
      | findingBySub | findingByEmail => exact .inl id
      | ready | hashing | linking | beginning | inserting | appending | committing | issuing
      | returned | thrown | crashed => cases replied
  | ends idle early ended => exact .inl early
  | returns user => exact .inr trivial

end Setup

variable [DecidableEq Call]

/-- What a step of an execution does. -/
inductive Setup.Moves (setup : Setup Call Worker Handler) (state : State Call Worker Handler)
    (call : Call) : State Call Worker Handler → Prop
  | goes {phase : Phase} (leads : setup.Leads state.users (state.calls call) phase) :
      Moves setup state call (state.goto call phase)
  | links {user : User} {users : UserTable} {phase : Phase}
      (before : state.calls call = .linking user)
      (linked : state.link call user = some (.ok users))
      (next : phase = .issuing user ∨ phase.Ended) :
      Moves setup state call { state.goto call phase with users := users }
  | inserts {userId : String} {email : Email} {account : Account} {user : User}
      {users : UserTable} {begun : Nat}
      (before : state.calls call = .inserting email account begun)
      (created : setup.newUser userId email account = .ok user)
      (stored : state.users.insert (toPersistence user) = .ok users)
      (waits : state.blocksUser call (toPersistence user) = false) :
      Moves setup state call
        { state.goto call (.appending user begun) with
          transactions := call :: state.transactions }
  | appends {user : User} {begun : Nat} {event : UserRegisteredEvent}
      (before : state.calls call = .appending user begun)
      (announced : event.payload = userRegisteredPayload user)
      (absent : event.id ∉ state.outbox.events.rows.map Outbox.OutboxRow.id)
      (waits : state.blocksEvent call event.id = false) :
      Moves setup state call (state.goto call (.committing user event))
  | commits {user : User} {event : UserRegisteredEvent} {left : State Call Worker Handler}
      {phase : Phase} (before : state.calls call = .committing user event)
      (committed : state.commit call user event = some left) (settled : phase.Settled) :
      Moves setup state call (left.goto call phase)
  | stops {phase : Phase} (running : (state.calls call).running = true)
      (next : phase = .thrown (state.calls call).failure ∨ phase = .crashed) :
      Moves setup state call ((state.finish call).goto call phase)

section Executions

variable {setup : Setup Call Worker Handler} {state after : State Call Worker Handler}
  {call : Call}

/-- The UPDATE has waited for the rows that it clashes with. -/
theorem State.update_of_link {user : User} {users : UserTable}
    (linked : state.link call user = some (.ok users)) :
    state.users.update (toPersistence user) = .ok users ∧
      state.blocksUser call (toPersistence user) = false := by
  unfold State.link at linked
  split at linked
  · cases linked
  · rename_i updated
    split at linked
    · cases linked
    · rename_i free
      cases linked
      exact ⟨updated, Bool.eq_false_iff.mpr free⟩

theorem Setup.moves_insert {userId : String} {email : Email} {account : Account} {begun : Nat}
    (before : state.calls call = .inserting email account begun)
    (inserted : setup.insert state call userId email account begun = some after) :
    setup.Moves state call after := by
  have refused : ∀ failure, setup.Moves state call (state.goto call (.thrown failure)) := by
    intro failure
    apply Setup.Moves.goes
    rw [before]
    exact .ends rfl id trivial
  unfold Setup.insert at inserted
  split at inserted
  · cases inserted
    exact refused _
  · rename_i user created
    split at inserted
    · cases inserted
      exact refused _
    · rename_i users stored
      split at inserted
      · cases inserted
      · rename_i free
        cases inserted
        exact .inserts before created stored (Bool.eq_false_iff.mpr free)

theorem Setup.moves_append {user : User} {begun : Nat} {event : UserRegisteredEvent}
    (before : state.calls call = .appending user begun)
    (announced : event.payload = userRegisteredPayload user)
    (appended : state.append call user event = some after) : setup.Moves state call after := by
  unfold State.append at appended
  split at appended
  · cases appended
    apply Setup.Moves.stops
    · rw [before]
      rfl
    · rw [before]
      exact .inl rfl
  · rename_i absent
    split at appended
    · cases appended
    · rename_i free
      cases appended
      exact .appends before announced absent (Bool.eq_false_iff.mpr free)

/-- An execution whose statement failed, or that has crashed. -/
theorem Setup.moves_interrupt {executed : Bool} {left : State Call Worker Handler} {phase : Phase}
    (interrupted : state.interrupt call executed = some left)
    (next : phase = .thrown (state.calls call).failure ∨ phase = .crashed) :
    setup.Moves state call (left.goto call phase) := by
  unfold State.interrupt at interrupted
  split at interrupted
  · rename_i user event before
    rw [before] at next
    refine .commits before interrupted ?_
    rcases next with rfl | rfl
    · exact .inl rfl
    · trivial
  · rename_i user before
    have ended : phase.Ended := by
      rcases next with rfl | rfl
      · trivial
      · trivial
    obtain ⟨result, linked, rfl⟩ := Option.map_eq_some_iff.mp interrupted
    cases result with
    | error error =>
        apply Setup.Moves.goes
        rw [before]
        exact .ends rfl id ended
    | ok users => exact .links before linked (.inr ended)
  · split at interrupted
    · rename_i running
      cases interrupted
      exact .stops running next
    · cases interrupted

end Executions

variable [DecidableEq Worker]

inductive Setup.Moved (setup : Setup Call Worker Handler) (state : State Call Worker Handler)
    (action : Action Call Worker) : State Call Worker Handler → Prop
  | works {work : Outbox.Action Worker} {outbox : Outbox.State Worker Handler}
      (idle : action.caller = none) (working : isAppend work = false)
      (stepped : setup.outbox.step state.outbox work = some outbox) :
      Moved setup state action { state with outbox := outbox }
  | acts {call : Call} {after : State Call Worker Handler} (caller : action.caller = some call)
      (moves : setup.Moves state call after) : Moved setup state action after

theorem Setup.moved {setup : Setup Call Worker Handler} {state after : State Call Worker Handler}
    {action : Action Call Worker} (stepped : setup.step state action = some after) :
    setup.Moved state action after := by
  cases action with
  | worker work =>
      simp only [Setup.step] at stepped
      split at stepped
      · cases stepped
      · rename_i working
        obtain ⟨outbox, moved, rfl⟩ := Option.map_eq_some_iff.mp stepped
        exact .works rfl (Bool.eq_false_iff.mpr working) moved
  | start call =>
      simp only [Setup.step] at stepped
      split at stepped
      · rename_i before
        cases stepped
        refine .acts rfl (.goes ?_)
        rw [before]
        exact .starts _
      · cases stepped
  | hash call passwordHash =>
      simp only [Setup.step] at stepped
      split at stepped
      · rename_i before
        cases stepped
        refine .acts rfl (.goes ?_)
        rw [before]
        exact .hashed _ _
      · cases stepped
  | query call =>
      obtain ⟨phase, replied, rfl⟩ := Option.map_eq_some_iff.mp stepped
      exact .acts rfl (.goes (.replied replied))
  | link call =>
      simp only [Setup.step] at stepped
      split at stepped
      · rename_i user before
        obtain ⟨result, linked, rfl⟩ := Option.map_eq_some_iff.mp stepped
        cases result with
        | error error =>
            refine .acts rfl (.goes ?_)
            rw [before]
            exact .ends rfl id trivial
        | ok users => exact .acts rfl (.links before linked (.inl rfl))
      · cases stepped
  | beginTransaction call =>
      simp only [Setup.step] at stepped
      split at stepped
      · rename_i email account before
        cases stepped
        refine .acts rfl (.goes ?_)
        rw [before]
        exact .begins email account _
      · cases stepped
  | insert call userId =>
      simp only [Setup.step] at stepped
      split at stepped
      · rename_i before
        exact .acts rfl (Setup.moves_insert before stepped)
      · cases stepped
  | append call eventId occurredAt availableAt =>
      simp only [Setup.step] at stepped
      split at stepped
      · rename_i before
        exact .acts rfl (Setup.moves_append before rfl stepped)
      · cases stepped
  | commit call =>
      simp only [Setup.step] at stepped
      split at stepped
      · rename_i user event before
        obtain ⟨committed, success, rfl⟩ := Option.map_eq_some_iff.mp stepped
        refine .acts rfl (.commits before success ?_)
        cases setup.operation call with
        | register => trivial
        | completeGoogleSignIn => trivial
      · cases stepped
  | createAuthSession call =>
      simp only [Setup.step] at stepped
      split at stepped
      · rename_i user before
        cases stepped
        refine .acts rfl (.goes ?_)
        rw [before]
        exact .returns user
      · cases stepped
  | fail call executed =>
      obtain ⟨left, interrupted, rfl⟩ := Option.map_eq_some_iff.mp stepped
      exact .acts rfl (Setup.moves_interrupt interrupted (.inl rfl))
  | crash call executed =>
      obtain ⟨left, interrupted, rfl⟩ := Option.map_eq_some_iff.mp stepped
      exact .acts rfl (Setup.moves_interrupt interrupted (.inr rfl))

end BackendFoundation.Registration
