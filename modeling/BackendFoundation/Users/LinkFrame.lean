/-
What the write of an auto-link does to the row besides google_sub.

The link is computed from the row that the SELECT by e-mail has returned and written
as a whole row, so it puts back every column as it was then. It changes nothing but
the link exactly when no other writer has changed the row in between.
-/

import BackendFoundation.Users.Accounts
import BackendFoundation.Users.Normalization

namespace BackendFoundation.Users

open Transition

variable {Call : Type}

/-- The other row has the columns of the row, google_sub apart. -/
def UserRow.SameButLink (row other : UserRow) : Prop :=
  other = { row with googleSub := other.googleSub }

theorem UserRow.SameButLink.symm {row other : UserRow} (same : row.SameButLink other) :
    other.SameButLink row := by
  unfold SameButLink at *
  rw [same]

theorem UserRow.SameButLink.trans {first second third : UserRow}
    (before : first.SameButLink second) (after : second.SameButLink third) :
    first.SameButLink third := by
  unfold SameButLink at *
  rw [after, before]

/-- Every row stays, with all its columns but google_sub. -/
def UserTable.KeepsColumns (before after : UserTable) : Prop :=
  ∀ id current, before.findById id = some current →
    ∃ linked, after.findById id = some linked ∧ current.SameButLink linked

theorem UserTable.KeepsColumns.passwordHash {before after : UserTable}
    (keeps : before.KeepsColumns after) {id passwordHash : String}
    (stored : (before.findById id).bind UserRow.passwordHash = some passwordHash) :
    (after.findById id).bind UserRow.passwordHash = some passwordHash := by
  obtain ⟨current, found, hashed⟩ := Option.bind_eq_some_iff.mp stored
  obtain ⟨linked, found', same⟩ := keeps id current found
  rw [found', Option.bind_some, same]
  exact hashed

/-- A sign-in looks for the normal form of its e-mail. -/
def Setup.Named (setup : Setup Call) (_ : Operation) : Phase → Prop
  | .findingByEmail profile email => Email.create setup.toLowerCase profile.email = .ok email
  | _ => True

theorem Setup.named (setup : Setup Call) : setup.Outline setup.Named where
  ready _ := trivial
  start operation := by cases operation <;> trivial
  consumed _ _ _ := trivial
  replied operation users phase next _ replied := by
    cases replied with
    | asksByEmail _ _ normalized => exact normalized
    | fails | reads | signsIn | links | creates => trivial
  hashed _ _ _ _ := trivial
  written operation read updated _ := by cases operation <;> trivial
  issuing _ _ := trivial
  done _ := trivial
  failed _ _ := trivial

/-- A row in normal form is read and written back as it is. -/
theorem toPersistence_of_toDomain {toLowerCase : String → String} {row : UserRow} {user : User}
    {email : Email} (restored : toDomain toLowerCase row = .ok user)
    (normal : Email.create toLowerCase row.email = .ok email) (same : row.email = email.value) :
    toPersistence user = row := by
  unfold toDomain at restored
  rw [normal] at restored
  cases restored
  simp only [toPersistence, ← same]

/-- An UPDATE of a row that has been read leaves all columns but google_sub exactly when
the row still has the columns that were read. -/
theorem UserTable.keepsColumns_iff {users after : UserTable} {row : UserRow}
    {googleSub : Option String}
    (updated : users.update { row with googleSub := googleSub } = .ok after) :
    users.KeepsColumns after ↔
      ∀ current, users.findById row.id = some current → row.SameButLink current := by
  have written (id : String) : after.findById id = (users.findById id).map fun current =>
      if current.id = row.id then
        { row with
          id := current.id
          googleSub := googleSub }
      else current := by
    simpa [updateAssignment] using findById_update updated id
  constructor
  · intro keeps current found
    have sameId := id_of_findById found
    obtain ⟨linked, found', same⟩ := keeps row.id current found
    rw [written, found, Option.map_some, if_pos sameId, sameId] at found'
    have restored : row.SameButLink linked := by
      cases found'
      rfl
    exact restored.trans same.symm
  · intro unchanged id current found
    rw [written, found]
    refine ⟨_, rfl, ?_⟩
    by_cases sameId : current.id = row.id
    · have restored : row.SameButLink { row with
          id := current.id
          googleSub := googleSub } := by
        rw [sameId]
        rfl
      have same := unchanged current (by rw [← sameId, id_of_findById found]; exact found)
      simpa only [if_pos sameId] using same.symm.trans restored
    · simp only [if_neg sameId]
      rfl

variable [DecidableEq Call]

/-- An auto-link in a run: its SELECT by e-mail has returned a row, and after any other
statements its UPDATE commits. -/
inductive Setup.Link (setup : Setup Call) (call : Call) (row : UserRow) :
    State Call → State Call → Prop
  | intro {selecting linking before after : State Call} {profile : GoogleIdentityProfile}
      {email : Email} {statements : List (Statement Call)} {user : User}
      (reached : setup.accounts.Reachable anyAction selecting)
      (asking : selecting.calls call = .findingByEmail profile email)
      (found : selecting.users.findByEmail email.value = some row)
      (selected : setup.accounts.step selecting (.of (.query call)) = some linking)
      (meanwhile : setup.accounts.Run anyAction linking statements before)
      (written : setup.accounts.step before (.of (.write call)) = some after)
      (committed : after.calls call = .issuing user) :
      Link setup call row before after

section Step

variable {setup : Setup Call} {state following : State Call} {statement : Statement Call}

theorem Setup.advanced_of_run {later : State Call} {statements : List (Statement Call)}
    (run : setup.accounts.Run anyAction state statements later) (call : Call) :
    state.Advanced call later := by
  induction run with
  | nil => exact .inl rfl
  | snoc _ _ stepped ih =>
      apply ih.trans
      rcases Setup.calls_of_execute stepped with ⟨action, rfl, stepped'⟩ | same
      · exact Setup.advanced stepped' call
      · exact .inl (congrFun same call).symm

/-- A write that ends with a user to sign in has committed an update. -/
theorem Setup.update_of_write {call : Call} {user : User}
    (stepped : setup.step state (.write call) = some following)
    (committed : following.calls call = .issuing user) :
    ∃ read updated, state.calls call = .updating read updated ∧
      state.users.update (toPersistence updated) = .ok following.users := by
  simp only [Setup.step] at stepped
  split at stepped
  · rename_i read updated phase
    split at stepped
    · cases stepped
      rcases State.calls_goto committed with ⟨_, failed⟩ | before
      · cases failed
      · rw [phase] at before
        cases before
    · rename_i users update
      cases stepped
      exact ⟨read, updated, phase, update⟩
  · rename_i phase
    split at stepped
    · cases stepped
      rcases State.calls_goto committed with ⟨_, failed⟩ | before
      · cases failed
      · rw [phase] at before
        cases before
    · cases stepped
      rcases State.calls_goto committed with ⟨_, done⟩ | before
      · cases done
      · rw [phase] at before
        cases before
  · cases stepped

/-- The UPDATE of a link writes the row that its SELECT has returned, with the subject. -/
theorem Setup.Link.update {call : Call} {row : UserRow} {before after : State Call}
    (normalizes : Normalizes setup.toLowerCase) (link : setup.Link call row before after) :
    ∃ sub, before.users.update { row with googleSub := some sub } = .ok after.users := by
  obtain @⟨selecting, _, _, _, profile, email, _, _, reached, asking, found, selected, meanwhile,
    written, committed⟩ := link
  obtain ⟨read, updated, phase, update⟩ := Setup.update_of_write written committed
  obtain ⟨next, replied, rfl⟩ := Option.map_eq_some_iff.mp selected
  have advanced := Setup.advanced_of_run meanwhile call
  unfold State.Advanced at advanced
  simp only [State.goto, Function.update_self, phase] at advanced
  have normal := (Setup.everywhere_of_reachable setup.named reached) call
  rw [asking] at replied normal
  cases Setup.replies replied with
  | fails =>
      -- A call that has failed writes nothing.
      rcases advanced with same | further
      · cases same
      · exact absurd further (by simp [Phase.rank])
  | creates absent =>
      rw [found] at absent
      cases absent
  | links found' restored =>
      rcases advanced with same | further
      · rw [found] at found'
        cases found'
        cases same
        have sameEmail := (UserTable.mem_of_findByEmail found).2
        have persisted := toPersistence_of_toDomain restored
          (by rw [sameEmail]; exact Email.create_value normalizes normal) sameEmail
        refine ⟨profile.sub, ?_⟩
        rw [← persisted]
        exact update
      · exact absurd further (by simp [Phase.rank])

end Step

/-- A link that commits keeps every column but google_sub, of every row, exactly when its
row still has the columns that its SELECT has returned. -/
theorem keepsColumns_iff_unchanged (setup : Setup Call)
    (normalizes : Normalizes setup.toLowerCase) :
    ∀ call row before after, setup.Link call row before after →
      (before.users.KeepsColumns after.users ↔
        ∀ current, before.users.findById row.id = some current → row.SameButLink current) := by
  intro call row before after link
  obtain ⟨sub, updated⟩ := link.update normalizes
  exact UserTable.keepsColumns_iff updated

/-- A sign-in that links the account, and a password change. -/
def linkAndChange : Setup Bool :=
  { operation := fun call =>
      if call then .changePassword "u1" "old" "new"
      else .completeGoogleSignIn
        { sub := "g1"
          email := "user@example.com"
          emailVerified := true }
    compare := fun _ _ => true
    toLowerCase := String.toLower }

def linkAndChangeStart : State Bool :=
  { users := .single passwordAccount
    calls := fun _ => .ready
    bumps := fun _ => 0 }

/-- The password change commits between the SELECT and the UPDATE of the link. -/
theorem linkAndChange_link : ∃ before after,
    linkAndChange.Link false passwordAccount before after ∧
      ¬before.users.KeepsColumns after.users := by
  let email : Email :=
    { value := "user@example.com"
      wellFormed := by decide +kernel }
  let profile : GoogleIdentityProfile :=
    { sub := "g1"
      email := "user@example.com"
      emailVerified := true }
  let linked : User :=
    { id := "u1"
      email := email
      passwordHash := some "hash"
      googleSub := some "g1"
      roles := ["user"]
      authVersion := 0 }
  let execute := linkAndChange.accounts.execute fun _ _ => true
  have executed :
      ((execute linkAndChangeStart [.of (.start false), .of (.query false)]).bind fun selecting =>
        (linkAndChange.accounts.step selecting (.of (.query false))).bind fun linking =>
        (execute linking [.of (.start true), .of (.query true), .of (.hash true "changed"),
          .of (.write true)]).bind fun before =>
        (linkAndChange.accounts.step before (.of (.write false))).map fun after =>
          (selecting.calls false, selecting.users.findByEmail email.value, after.calls false,
            (before.users.findById "u1").bind UserRow.passwordHash,
            (after.users.findById "u1").bind UserRow.passwordHash)) =
      some (.findingByEmail profile email, some passwordAccount, .issuing linked,
        some "changed", some "hash") := by decide +kernel
  obtain ⟨selecting, started, executed⟩ := Option.bind_eq_some_iff.mp executed
  obtain ⟨linking, selected, executed⟩ := Option.bind_eq_some_iff.mp executed
  obtain ⟨before, meanwhile, executed⟩ := Option.bind_eq_some_iff.mp executed
  obtain ⟨after, written, facts⟩ := Option.map_eq_some_iff.mp executed
  simp only [Prod.mk.injEq] at facts
  obtain ⟨asking, found, committed, changed, lost⟩ := facts
  refine ⟨before, after, ?_, ?_⟩
  · exact .intro (.of_execute (fun _ _ _ => trivial) ⟨rfl, rfl⟩ started) asking found selected
      (.of_execute (fun _ _ _ => trivial) meanwhile) written committed
  · intro keeps
    rw [keeps.passwordHash changed] at lost
    exact absurd lost (by decide)

theorem changedPassword_lost : ∃ before after,
    linkAndChange.Link false passwordAccount before after ∧
      ¬∀ current, before.users.findById "u1" = some current →
        passwordAccount.SameButLink current := by
  obtain ⟨before, after, link, lost⟩ := linkAndChange_link
  refine ⟨before, after, link, ?_⟩
  intro unchanged
  exact lost ((keepsColumns_iff_unchanged linkAndChange normalizes_toLower false passwordAccount
    before after link).mpr unchanged)

/-- The link writes the old password back. -/
theorem not_keepsColumns : ¬∀ (setup : Setup Bool) (call : Bool) row before after,
    setup.Link call row before after → before.users.KeepsColumns after.users := by
  intro claim
  obtain ⟨before, after, link, lost⟩ := linkAndChange_link
  exact lost (claim linkAndChange false passwordAccount before after link)

end BackendFoundation.Users
