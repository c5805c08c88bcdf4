/-
What forgot-password tells its caller about an account. The e-mail's user is looked
up in two user tables that differ in nothing but that user, and the collaborators
answer alike in both runs.
-/

import BackendFoundation.PasswordReset.ForgotPassword

namespace BackendFoundation.PasswordReset

open Users (AppError Email Normalizes User UserRow UserTable isEmail toDomain trim)

/-- How the collaborators answer that only the known user's branch calls. -/
structure Replies where
  tokenStore : Commands (Except Rejection)
  add : (queueName jobName : String) → PasswordResetEmailJob → (jobId : String) →
    Except Rejection String

/-- Every command that a save issues succeeds. -/
structure Commands.Accepts (commands : Commands (Except Rejection)) (input : SaveInput) :
    Prop where
  read : ∃ previous, commands.get (.user input.userId) = .ok previous ∧
    ∀ previousTokenHash, truthy previous = some previousTokenHash →
      commands.del (.token previousTokenHash) = .ok ()
  token : commands.set (.token input.tokenHash) input.userId input.ttlSeconds = .ok ()
  pointer : commands.set (.user input.userId) input.tokenHash input.ttlSeconds = .ok ()

/-- Two tables that differ only in whether the user with the e-mail exists. -/
structure DifferIn (email : String) (known unknown : UserTable) : Prop where
  registered : ∃ row ∈ known.table.rows, row.email = email
  others : ∀ row, row ∈ unknown.table.rows ↔ row ∈ known.table.rows ∧ row.email ≠ email

namespace ForgotPassword

variable (forgot : ForgotPassword)

def normalized (email : String) : String :=
  forgot.toLowerCase (trim email)

def findByEmail (users : UserTable) (email : String) : Except Rejection (Option User) :=
  match users.findByEmail email with
  | none => .ok none
  | some row =>
      match toDomain forgot.toLowerCase row with
      | .error error => .error (.app error)
      | .ok user => .ok (some user)

def collaborators (replies : Replies) (users : UserTable) : Collaborators (Except Rejection) :=
  { findByEmail := forgot.findByEmail users
    tokenStore := replies.tokenStore
    add := replies.add
    info := fun _ _ => .ok ()
    warn := fun _ _ _ => .ok () }

/-- What the caller observes: the fulfilled value or the rejection. -/
def outcome (replies : Replies) (users : UserTable) (rawToken email : String) :
    Except Rejection Success :=
  forgot.execute (forgot.collaborators replies users) rawToken email

/-- The caller cannot tell the two tables apart, whatever tokens are drawn. -/
def EnumerationSafe : Prop :=
  ∀ (replies : Replies) (known unknown : UserTable) (rawToken rawToken' email : String),
    DifferIn (forgot.normalized email) known unknown →
      forgot.outcome replies known rawToken email = forgot.outcome replies unknown rawToken' email

end ForgotPassword

theorem bind_eq_ok_iff {Value Result : Type} {first : Except Rejection Value}
    {rest : Value → Except Rejection Result} {result : Result} :
    (first >>= rest) = .ok result ↔ ∃ value, first = .ok value ∧ rest value = .ok result := by
  cases first with
  | error rejection =>
      constructor
      · intro impossible
        cases impossible
      · intro found
        obtain ⟨value, impossible, _⟩ := found
        cases impossible
  | ok value =>
      constructor
      · intro rested
        exact ⟨value, rfl, rested⟩
      · intro found
        obtain ⟨_, same, rested⟩ := found
        cases same
        exact rested

theorem save_eq_ok_iff {commands : Commands (Except Rejection)} {input : SaveInput} :
    save commands input = .ok () ↔ commands.Accepts input := by
  unfold save
  rw [bind_eq_ok_iff]
  constructor
  · intro given
    obtain ⟨previous, read, rest⟩ := given
    obtain ⟨_, deleted, rest⟩ := bind_eq_ok_iff.mp rest
    obtain ⟨_, token, pointer⟩ := bind_eq_ok_iff.mp rest
    refine ⟨⟨previous, read, ?_⟩, token, pointer⟩
    intro previousTokenHash found
    rw [deletePrevious, found] at deleted
    exact deleted
  · intro given
    obtain ⟨⟨previous, read, deleted⟩, token, pointer⟩ := given
    refine ⟨previous, read, ?_⟩
    rw [bind_eq_ok_iff]
    refine ⟨(), ?_, ?_⟩
    · unfold deletePrevious
      cases found : truthy previous with
      | none => rfl
      | some previousTokenHash => exact deleted previousTokenHash found
    · rw [bind_eq_ok_iff]
      exact ⟨(), token, pointer⟩

theorem findByEmail_of_differIn {email : String} {known unknown : UserTable}
    (differ : DifferIn email known unknown) :
    (∃ row, known.findByEmail email = some row) ∧ unknown.findByEmail email = none := by
  obtain ⟨row, member, same⟩ := differ.registered
  constructor
  · unfold Users.UserTable.findByEmail
    rw [← Option.isSome_iff_exists, List.find?_isSome]
    exact ⟨row, member, beq_iff_eq.mpr same⟩
  · unfold Users.UserTable.findByEmail
    rw [List.find?_eq_none]
    intro other member' matches_
    exact ((differ.others other).mp member').2 (beq_iff_eq.mp matches_)

namespace ForgotPassword

variable {forgot : ForgotPassword} {replies : Replies} {users : UserTable}
  {rawToken email : String}

/-- The stored e-mail is in normal form, so the row of the user reads back. -/
theorem findByEmail_of_found {normalizedEmail : Email} {row : UserRow}
    (created : Email.create forgot.toLowerCase email = .ok normalizedEmail)
    (found : users.findByEmail normalizedEmail.value = some row) :
    ∃ user, user.id = row.id ∧
      forgot.findByEmail users normalizedEmail.value = .ok (some user) := by
  have stored : row.email = normalizedEmail.value := (UserTable.mem_of_findByEmail found).2
  have again : Email.create forgot.toLowerCase row.email = .ok normalizedEmail := by
    rw [stored]
    exact Email.create_value forgot.normalizes created
  unfold findByEmail toDomain
  simp only [found, again, Except.map]
  exact ⟨_, rfl, rfl⟩

/-- Whatever the queue answers, the reply to its failure is only logged. -/
theorem enqueue_ok (normalizedEmail userId : String) :
    forgot.enqueue (forgot.collaborators replies users) normalizedEmail userId rawToken =
      .ok () := by
  unfold enqueue
  change tryCatch (_ >>= fun _ => Except.ok ()) (fun _ => Except.ok ()) = Except.ok ()
  cases (forgot.collaborators replies users).add "email" "send-password-reset-email"
      (forgot.emailJob normalizedEmail userId rawToken)
      ("password-reset-email:" ++ forgot.sha256 rawToken) with
  | error rejection => rfl
  | ok jobId => rfl

theorem outcome_invalid {error : AppError}
    (invalid : Email.create forgot.toLowerCase email = .error error) :
    forgot.outcome replies users rawToken email = .error (.app error) := by
  unfold outcome execute
  rw [invalid]
  rfl

theorem outcome_unknown {normalizedEmail : Email}
    (created : Email.create forgot.toLowerCase email = .ok normalizedEmail)
    (absent : users.findByEmail normalizedEmail.value = none) :
    forgot.outcome replies users rawToken email = .ok { success := true } := by
  unfold outcome execute
  rw [created]
  simp only [collaborators, findByEmail, absent]
  rfl

/-- Nothing of the queue is seen: only the save can reject. -/
theorem outcome_known {normalizedEmail : Email} {row : UserRow}
    (created : Email.create forgot.toLowerCase email = .ok normalizedEmail)
    (found : users.findByEmail normalizedEmail.value = some row) :
    forgot.outcome replies users rawToken email =
      (save replies.tokenStore (forgot.saveInput row.id rawToken)).map
        fun _ => { success := true } := by
  obtain ⟨user, sameId, restored⟩ := findByEmail_of_found created found
  unfold outcome execute
  rw [created]
  change (forgot.findByEmail users normalizedEmail.value >>= _) = _
  rw [restored]
  change (save replies.tokenStore (forgot.saveInput user.id rawToken) >>= fun _ =>
    forgot.enqueue _ _ _ _ >>= fun _ => pure _) = _
  rw [enqueue_ok, sameId]
  cases save replies.tokenStore (forgot.saveInput row.id rawToken) with
  | error rejection => rfl
  | ok => rfl

theorem saved_iff {input : SaveInput} :
    (save replies.tokenStore input).map (fun _ => ({ success := true } : Success)) =
      .ok { success := true } ↔ replies.tokenStore.Accepts input := by
  rw [← save_eq_ok_iff]
  cases save replies.tokenStore input with
  | error rejection =>
      constructor
      · intro impossible
        cases impossible
      · intro impossible
        cases impossible
  | ok => exact ⟨fun _ => rfl, fun _ => rfl⟩

/-- The outcome is the same in both runs exactly if no user could have that e-mail, or
all the commands succeed that the save of the known user's token issues. -/
theorem sameOutcome_iff (forgot : ForgotPassword) (replies : Replies)
    {known unknown : UserTable} (rawToken rawToken' email : String)
    (differ : DifferIn (forgot.normalized email) known unknown) :
    forgot.outcome replies known rawToken email = forgot.outcome replies unknown rawToken' email ↔
      isEmail (forgot.normalized email) = false ∨
        ∀ row, known.findByEmail (forgot.normalized email) = some row →
          replies.tokenStore.Accepts (forgot.saveInput row.id rawToken) := by
  obtain ⟨⟨row, found⟩, absent⟩ := findByEmail_of_differIn differ
  cases created : Email.create forgot.toLowerCase email with
  | error error =>
      rw [outcome_invalid created, outcome_invalid created]
      exact ⟨fun _ => .inl (Email.not_isEmail_of_create created), fun _ => rfl⟩
  | ok normalizedEmail =>
      have same : normalizedEmail.value = forgot.normalized email :=
        Email.value_of_create created
      have wellFormed := normalizedEmail.wellFormed
      rw [← same] at found absent
      rw [outcome_known created found, outcome_unknown created absent, saved_iff, ← same,
        wellFormed, found]
      constructor
      · intro accepts
        right
        intro _ given
        obtain ⟨⟩ := given
        exact accepts
      · intro either
        rcases either with impossible | accepts
        · cases impossible
        · exact accepts row rfl

section Account

theorem isEmail_user : isEmail "user@example.com" = true := by
  decide +kernel

def userEmail : Email :=
  { value := "user@example.com"
    wellFormed := isEmail_user }

def userRow : UserRow :=
  { id := "user-1"
    email := "user@example.com"
    passwordHash := some "hash"
    googleSub := none
    roles := ["user"]
    authVersion := 0 }

def noUsers : UserTable :=
  { table := .empty
    emailUnique := fun _ member => absurd member List.not_mem_nil
    googleSubUnique := fun _ member => absurd member List.not_mem_nil }

/-- The options of the environment's defaults; one token is drawn, whose hash is known. -/
def starter : ForgotPassword :=
  { options :=
      { tokenTtlSeconds := 1800
        resetUrlBase := "" }
    sha256 := fun _ => "ea866a757e4c38babfa8127cbe9a409d3e1f93a00ff1488ff735fcf917afffd0"
    toLowerCase := String.toLower
    normalizes := Users.normalizes_toLower }

def drawnToken : String := "AAECAwQFBgcICQoLDA0ODxAREhMUFRYXGBkaGxwdHh8"

/-- A Redis that answers reads, and writes with the reply given. -/
def writing (reply : Except Rejection Unit) : Replies :=
  { tokenStore :=
      { get := fun _ => .ok none
        del := fun _ => reply
        set := fun _ _ _ => reply }
    add := fun _ _ _ jobId => .ok jobId }

theorem differIn_user : DifferIn (starter.normalized "user@example.com")
    (UserTable.single userRow) noUsers := by
  have normal : starter.normalized "user@example.com" = userRow.email := by decide +kernel
  rw [normal]
  constructor
  · exact ⟨userRow, List.mem_singleton.mpr rfl, rfl⟩
  · intro row
    constructor
    · intro member
      exact absurd member List.not_mem_nil
    · intro found
      obtain ⟨member, other⟩ := found
      rw [List.mem_singleton.mp member] at other
      exact absurd rfl other

theorem sameOutcome_iff_accepting :
    starter.outcome (writing (.ok ())) (UserTable.single userRow) drawnToken "user@example.com" =
        starter.outcome (writing (.ok ())) noUsers drawnToken "user@example.com" ↔
      isEmail (starter.normalized "user@example.com") = false ∨
        ∀ row, (UserTable.single userRow).findByEmail (starter.normalized "user@example.com") =
          some row →
        (writing (.ok ())).tokenStore.Accepts (starter.saveInput row.id drawnToken) :=
  sameOutcome_iff starter (writing (.ok ())) drawnToken drawnToken "user@example.com"
    differIn_user

/-- While Redis refuses writes, the request is rejected for a known e-mail only. -/
theorem not_enumerationSafe : ¬∀ forgot : ForgotPassword, forgot.EnumerationSafe := by
  intro claim
  have same := claim starter (writing (.error (.failure "READONLY"))) _ _ drawnToken drawnToken
    "user@example.com" differIn_user
  have created : Email.create starter.toLowerCase "user@example.com" = .ok userEmail := by
    decide +kernel
  have found : (UserTable.single userRow).findByEmail userEmail.value = some userRow := by
    decide +kernel
  rw [outcome_known created found, outcome_unknown created rfl] at same
  cases same

end Account

end ForgotPassword

end BackendFoundation.PasswordReset
