/-
A password change invalidates every earlier credential, under both drivers and whatever
becomes of the purge and the new session after its commit.

Every credential carries the version it was minted for, each check compares it with a
version read after the check began, and from the commit on no stored version is smaller.
-/

import BackendFoundation.Auth.Credentials

namespace BackendFoundation.Auth.Credentials

open Redis Transition
open Users (toDomain)

variable {Token Writer Call : Type}

def Phase.finished : Phase Token → Bool
  | issued => true
  | verified _ => true
  | thrown _ => true
  | _ => false

/-- The check has found the credential's version in the database. -/
def Phase.accepts : Phase Token → Bool
  | rotating _ _ => true
  | issued => true
  | verified (some _) => true
  | _ => false

/-- What findById returns. -/
def Setup.Reads (setup : Setup Token Writer Call) (users : Users.UserTable) (userId : String)
    (stored : Users.User) : Prop :=
  ∃ row, users.findById userId = some row ∧ toDomain setup.writers.toLowerCase row = .ok stored

/-- What the reply to a SELECT can do to a call. -/
inductive Setup.Answers (setup : Setup Token Writer Call) (users : Users.UserTable) :
    Phase Token → Phase Token → Prop
  | fails (phase : Phase Token) (error : Users.Failure) :
      Answers setup users phase (.thrown error)
  | rejects (phase : Phase Token) : Answers setup users phase (.verified none)
  | authenticates (email : Users.Email) (password : String) (user : CurrentUser) :
      Answers setup users (.findingByEmail email password) (.issuing user)
  | rotates {parsed : ParsedRefreshToken} {stored : Users.User}
      (reads : setup.Reads users parsed.userId stored)
      (same : stored.authVersion = parsed.authVersion) :
      Answers setup users (.loading parsed) (.rotating parsed (currentUser stored))
  | verifies {userId : String} {stored : Users.User} (reads : setup.Reads users userId stored) :
      Answers setup users (.resolving userId stored.authVersion)
        (.verified (some (currentUser stored)))

/-- The call that could mint under this origin has ended. -/
def State.Ended (state : State Token Writer Call) : Writer ⊕ Call → Prop
  | .inl writer => (state.users.calls writer).finished = true
  | .inr call => (state.calls call).finished = true

/-- The user and the version that a check reads in a token. -/
inductive Setup.Stands (setup : Setup Token Writer Call) (minted : List (Minted Token))
    (token : Token) (userId : String) (version : Nat) : Prop
  | signed {secret : Secret} {now : Nat} {payload : TokenPayload}
      (driver : setup.driver = .jwt) (verified : setup.verify secret now token = some payload)
      (user : payload.id = userId) (stamped : payload.version = version)
  | stored {mint : Minted Token} (driver : setup.driver = .session) (member : mint ∈ minted)
      (same : mint.token = token) (user : mint.userId = userId)
      (stamped : mint.authVersion = version)

/-- What is known of a call at its program point. -/
def Setup.PhaseKnown (setup : Setup Token Writer Call) (minted : List (Minted Token))
    (operation : Operation Token) : Phase Token → Prop
  | .findingByEmail _ _ | .issuing _ => ∃ email password, operation = .login email password
  | .loading parsed | .rotating parsed _ => ∃ token, operation = .refresh token ∧
      setup.Stands minted token parsed.userId parsed.authVersion
  | .checking payload => ∃ token secret now, operation = .verifyAccessToken token ∧
      setup.driver = .jwt ∧ setup.verify secret now token = some payload
  | .reading sessionId =>
      operation = .verifyAccessToken sessionId ∧ setup.driver = .session
  | .resolving userId version => ∃ token, operation = .verifyAccessToken token ∧
      setup.Stands minted token userId version
  | _ => True

/-- Of the credentials minted so far, and of the sessions that are stored. -/
structure Setup.Ledger (setup : Setup Token Writer Call) (state : State Token Writer Call) :
    Prop where
  signed : setup.driver = .jwt → ∀ mint ∈ state.minted, ∃ secret payload,
    mint.token = setup.sign secret payload ∧ payload.id = mint.userId ∧
      payload.version = mint.authVersion
  drawn : setup.driver = .session → ∀ mint ∈ state.minted, ∃ origin,
    mint.token = setup.sessionId origin ∧ state.Ended origin
  once : setup.driver = .session → ∀ first ∈ state.minted, ∀ second ∈ state.minted,
    first.token = second.token →
      first.userId = second.userId ∧ first.authVersion = second.authVersion
  sessions : ∀ token cell, state.sessions token = some cell → ∃ mint ∈ state.minted,
    mint.token = token ∧ mint.userId = cell.value.userId ∧
      mint.authVersion = cell.value.authVersion

def Setup.CallsKnown (setup : Setup Token Writer Call) (state : State Token Writer Call) :
    Prop :=
  ∀ call, setup.PhaseKnown state.minted (setup.operation call) (state.calls call)

section Tokens

variable {setup : Setup Token Writer Call} {state following : State Token Writer Call}
  {minted more : List (Minted Token)}

theorem Setup.Stands.grow {token : Token} {userId : String} {version : Nat}
    (stands : setup.Stands minted token userId version) (grows : minted ⊆ more) :
    setup.Stands more token userId version := by
  cases stands with
  | signed driver verified user stamped => exact .signed driver verified user stamped
  | stored driver member same user stamped =>
      exact .stored driver (grows member) same user stamped

theorem Setup.PhaseKnown.grow {operation : Operation Token} {phase : Phase Token}
    (known : setup.PhaseKnown minted operation phase) (grows : minted ⊆ more) :
    setup.PhaseKnown more operation phase := by
  cases phase with
  | loading | rotating | resolving =>
      obtain ⟨token, same, stands⟩ := known
      exact ⟨token, same, stands.grow grows⟩
  | ready | findingByEmail | issuing | checking | reading | issued | verified | thrown =>
      exact known

/-- A check reads in a credential what it was minted for. -/
theorem Setup.Ledger.stamped (ledger : setup.Ledger state) {mint : Minted Token}
    (member : mint ∈ state.minted) {userId : String} {version : Nat}
    (stands : setup.Stands state.minted mint.token userId version) :
    mint.userId = userId ∧ mint.authVersion = version := by
  cases stands with
  | signed driver verified user stamped =>
      obtain ⟨secret, payload, signed, user', stamped'⟩ := ledger.signed driver mint member
      rw [signed] at verified
      cases setup.verified _ _ _ _ _ verified
      exact ⟨user'.symm.trans user, stamped'.symm.trans stamped⟩
  | stored driver member' same user stamped =>
      obtain ⟨sameUser, sameVersion⟩ := ledger.once driver mint member _ member' same.symm
      exact ⟨sameUser.trans user, sameVersion.trans stamped⟩

theorem Setup.Ledger.keep (ledger : setup.Ledger state)
    (minted : following.minted = state.minted)
    (sessions : ∀ token cell, following.sessions token = some cell →
      state.sessions token = some cell)
    (ended : ∀ origin, state.Ended origin → following.Ended origin) :
    setup.Ledger following := by
  constructor
  · rw [minted]
    exact ledger.signed
  · rw [minted]
    intro driver mint member
    obtain ⟨origin, same, isOver⟩ := ledger.drawn driver mint member
    exact ⟨origin, same, ended origin isOver⟩
  · rw [minted]
    exact ledger.once
  · rw [minted]
    intro token cell stored
    exact ledger.sessions token cell (sessions token cell stored)

theorem Setup.mem_mints {origin : Writer ⊕ Call} {user : CurrentUser} {familyId : String}
    {mint : Minted Token} (member : mint ∈ setup.mints origin user familyId) :
    mint.userId = user.id ∧ mint.authVersion = user.authVersion ∧
      (setup.driver = .jwt → ∃ secret,
        mint.token = setup.sign secret (setup.payload origin user familyId secret)) ∧
      (setup.driver = .session → mint.token = setup.sessionId origin) := by
  unfold Setup.mints at member
  cases driver : setup.driver with
  | jwt =>
      rw [driver] at member
      obtain ⟨secret, _, rfl⟩ := List.mem_map.mp member
      exact ⟨rfl, rfl, fun _ => ⟨secret, rfl⟩, nofun⟩
  | session =>
      rw [driver] at member
      cases List.mem_singleton.mp member
      exact ⟨rfl, rfl, nofun, fun _ => rfl⟩

theorem TokenPayload.parse_eq {payload : TokenPayload} {parsed : ParsedRefreshToken}
    (accepted : payload.parse = some parsed) :
    payload.id = parsed.userId ∧ payload.version = parsed.authVersion := by
  unfold TokenPayload.parse at accepted
  split at accepted
  · cases accepted
  · split at accepted
    · cases accepted
      exact ⟨rfl, rfl⟩
    · cases accepted

theorem Setup.phaseKnown_start (now : Nat) (operation : Operation Token) :
    setup.PhaseKnown minted operation (setup.start now operation) := by
  cases operation with
  | login email password =>
      simp only [Setup.start]
      split
      · trivial
      · exact ⟨email, password, rfl⟩
  | refresh refreshToken =>
      simp only [Setup.start]
      split
      · trivial
      · rename_i driver
        split
        · trivial
        · rename_i payload verified
          split
          · trivial
          · rename_i parsed accepted
            obtain ⟨user, stamped⟩ := TokenPayload.parse_eq accepted
            exact ⟨refreshToken, rfl, .signed driver verified user stamped⟩
  | verifyAccessToken token =>
      simp only [Setup.start]
      split
      · rename_i driver
        exact ⟨rfl, driver⟩
      · rename_i driver
        split
        · trivial
        · rename_i payload verified
          split
          · exact ⟨token, _, now, rfl, driver, verified⟩
          · trivial

theorem Setup.answers {users : Users.UserTable} {phase next : Phase Token}
    (replied : setup.query users phase = some next) : setup.Answers users phase next := by
  unfold Setup.query at replied
  split at replied
  · rename_i email password
    split at replied
    · cases replied
      exact .fails _ _
    · split at replied
      · cases replied
        exact .fails _ _
      · cases replied
        unfold Setup.authenticate
        split
        · exact .fails _ _
        · split
          · exact .authenticates email password _
          · exact .fails _ _
  · rename_i parsed
    split at replied
    · cases replied
      exact .fails _ _
    · rename_i row found
      split at replied
      · cases replied
        exact .fails _ _
      · rename_i stored read
        cases replied
        unfold loadFreshUser
        split
        · exact .fails _ _
        · rename_i same
          exact .rotates ⟨row, found, read⟩ (not_not.mp same)
  · rename_i userId version
    split at replied
    · cases replied
      exact .rejects _
    · rename_i row found
      split at replied
      · cases replied
        unfold Driver.unreadable
        split
        · exact .rejects _
        · exact .fails _ _
      · rename_i stored read
        cases replied
        unfold resolve
        split
        · exact .rejects _
        · rename_i same
          cases not_not.mp same
          exact .verifies ⟨row, found, read⟩
  · cases replied

theorem Setup.phaseKnown_query {operation : Operation Token} {phase next : Phase Token}
    {users : Users.UserTable} (known : setup.PhaseKnown minted operation phase)
    (replied : setup.query users phase = some next) :
    setup.PhaseKnown minted operation next := by
  cases setup.answers replied with
  | fails | rejects | verifies => trivial
  | authenticates | rotates => exact known

theorem Setup.phaseKnown_reply (ledger : setup.Ledger state) {call : Call} {event : Event}
    {phase : Phase Token}
    (known : setup.PhaseKnown state.minted (setup.operation call) (state.calls call))
    (replied : setup.reply state call event = some phase) :
    setup.PhaseKnown state.minted (setup.operation call) phase := by
  cases event with
  | start =>
      simp only [Setup.reply] at replied
      split at replied
      · cases replied
        exact setup.phaseKnown_start _ _
      · cases replied
  | query => exact setup.phaseKnown_query known replied
  | isAccessTokenRevoked revoked =>
      simp only [Setup.reply] at replied
      split at replied
      · rename_i payload reached
        rw [reached] at known
        obtain ⟨token, secret, now, same, driver, verified⟩ := known
        cases replied
        cases revoked with
        | true => trivial
        | false => exact ⟨token, same, .signed driver verified rfl rfl⟩
      · cases replied
  | getSession =>
      simp only [Setup.reply] at replied
      split at replied
      · rename_i sessionId reached
        rw [reached] at known
        split at replied
        · cases replied
          trivial
        · rename_i record found
          cases replied
          obtain ⟨cell, live, rfl⟩ := Slot.get_eq_some_iff.mp found
          obtain ⟨mint, member, same, user, stamped⟩ :=
            ledger.sessions sessionId cell (Slot.live_some_iff.mp live).1
          exact ⟨sessionId, known.1, .stored known.2 member same user stamped⟩
      · cases replied

theorem Setup.reply_running {call : Call} {event : Event} {phase : Phase Token}
    (replied : setup.reply state call event = some phase) :
    (state.calls call).finished = false := by
  cases reached : state.calls call with
  | issued | verified | thrown =>
      cases event with
      | start | isAccessTokenRevoked | getSession =>
          simp only [Setup.reply, reached] at replied
          cases replied
      | query =>
          simp only [Setup.reply, Setup.query, reached] at replied
          cases replied
  | _ => rfl

theorem Setup.start_accepts (now : Nat) (operation : Operation Token) :
    (setup.start now operation).accepts = false := by
  cases operation with
  | login email password =>
      simp only [Setup.start]
      split <;> rfl
  | refresh refreshToken =>
      simp only [Setup.start]
      split
      · rfl
      · split
        · rfl
        · split <;> rfl
  | verifyAccessToken token =>
      simp only [Setup.start]
      split
      · rfl
      · split
        · rfl
        · split <;> rfl

/-- Both checks accept on the comparison with the stored version only. -/
theorem Setup.reply_accepts {call : Call} {event : Event} {phase : Phase Token}
    (replied : setup.reply state call event = some phase) (accepts : phase.accepts = true) :
    (∃ parsed stored, state.calls call = .loading parsed ∧
        setup.Reads state.users.users parsed.userId stored ∧
        stored.authVersion = parsed.authVersion ∧
        phase = .rotating parsed (currentUser stored)) ∨
      ∃ userId stored, state.calls call = .resolving userId stored.authVersion ∧
        setup.Reads state.users.users userId stored ∧
        phase = .verified (some (currentUser stored)) := by
  cases event with
  | start =>
      simp only [Setup.reply] at replied
      split at replied
      · cases replied
        rw [setup.start_accepts] at accepts
        cases accepts
      · cases replied
  | isAccessTokenRevoked revoked =>
      simp only [Setup.reply] at replied
      split at replied
      · cases replied
        cases revoked <;> cases accepts
      · cases replied
  | getSession =>
      simp only [Setup.reply] at replied
      split at replied
      · split at replied <;> cases replied <;> cases accepts
      · cases replied
  | query =>
      change setup.query state.users.users (state.calls call) = some phase at replied
      generalize reached : state.calls call = before at replied
      cases setup.answers replied with
      | fails | rejects | authenticates => cases accepts
      | @rotates parsed stored reads same =>
          exact .inl ⟨parsed, stored, rfl, reads, same, rfl⟩
      | @verifies userId stored reads => exact .inr ⟨userId, stored, rfl, reads, rfl⟩

theorem Setup.Reads.row {userId : String} {stored : Users.User}
    (reads : setup.Reads state.users.users userId stored) :
    ∃ row, state.users.users.findById userId = some row ∧ stored.id = userId ∧
      row.roles = stored.roles ∧ row.authVersion = stored.authVersion := by
  obtain ⟨row, found, read⟩ := reads
  obtain ⟨sameId, sameRoles, sameVersion⟩ := Users.toDomain_eq read
  exact ⟨row, found, sameId.trans (Users.UserTable.id_of_findById found), sameRoles.symm,
    sameVersion.symm⟩

end Tokens

section Minting

variable {setup : Setup Token Writer Call} {state following : State Token Writer Call}

theorem State.goto_ended [DecidableEq Call] {call : Call} {phase : Phase Token}
    (running : (state.calls call).finished = false) (calls : following.calls =
      Function.update state.calls call phase)
    (users : following.users = state.users) (origin : Writer ⊕ Call)
    (ended : state.Ended origin) : following.Ended origin := by
  cases origin with
  | inl writer =>
      unfold State.Ended
      rwa [users]
  | inr other =>
      have different : other ≠ call := by
        intro same
        subst same
        rw [State.Ended, running] at ended
        cases ended
      change (following.calls other).finished = true
      rwa [calls, Function.update_of_ne different]

variable [DecidableEq Token]

/-- A call mints once, under ids that are its own. -/
theorem Setup.Ledger.mint (ledger : setup.Ledger state) {origin : Writer ⊕ Call}
    {user : CurrentUser} {familyId : String}
    (minted : following.minted = setup.mints origin user familyId ++ state.minted)
    (stored : following.sessions = setup.storeSession state.now state.sessions origin user)
    (ended : ∀ other, state.Ended other → following.Ended other)
    (running : ¬state.Ended origin) (isOver : following.Ended origin) :
    setup.Ledger following := by
  -- The id of a session that has been minted before belongs to another call.
  have different : setup.driver = .session → ∀ mint ∈ state.minted,
      mint.token ≠ setup.sessionId origin := by
    intro driver mint member same
    obtain ⟨other, drawn, isOver⟩ := ledger.drawn driver mint member
    rw [setup.freshSession (drawn.symm.trans same)] at isOver
    exact running isOver
  constructor
  · intro driver mint member
    rw [minted] at member
    rcases List.mem_append.mp member with new | old
    · obtain ⟨sameUser, sameVersion, signed, _⟩ := setup.mem_mints new
      obtain ⟨secret, token⟩ := signed driver
      refine ⟨secret, _, token, ?_, ?_⟩
      · rw [sameUser]
        cases secret <;> rfl
      · rw [sameVersion]
        cases secret <;> rfl
    · exact ledger.signed driver mint old
  · intro driver mint member
    rw [minted] at member
    rcases List.mem_append.mp member with new | old
    · exact ⟨origin, (setup.mem_mints new).2.2.2 driver, isOver⟩
    · obtain ⟨other, drawn, isOver⟩ := ledger.drawn driver mint old
      exact ⟨other, drawn, ended other isOver⟩
  · intro driver first member second member' same
    rw [minted] at member member'
    rcases List.mem_append.mp member with new | old
    · obtain ⟨user', version', _, token'⟩ := setup.mem_mints new
      rcases List.mem_append.mp member' with new' | old'
      · obtain ⟨user'', version'', _, _⟩ := setup.mem_mints new'
        exact ⟨user'.trans user''.symm, version'.trans version''.symm⟩
      · exact absurd (same.symm.trans (token' driver)) (different driver second old')
    · rcases List.mem_append.mp member' with new' | old'
      · obtain ⟨_, _, _, token'⟩ := setup.mem_mints new'
        exact absurd (same.trans (token' driver)) (different driver first old)
      · exact ledger.once driver first old second old' same
  · intro token cell present
    rw [minted]
    rw [stored] at present
    rcases Setup.storeSession_eq present with before | ⟨driver, rfl, user', version⟩
    · obtain ⟨mint, member, facts⟩ := ledger.sessions token cell before
      exact ⟨mint, List.mem_append_right _ member, facts⟩
    · let mint : Minted Token :=
        { token := setup.sessionId origin
          userId := user.id
          authVersion := user.authVersion }
      refine ⟨mint, List.mem_append_left _ ?_, rfl, user'.symm, version.symm⟩
      unfold Setup.mints
      rw [driver]
      exact List.mem_singleton.mpr rfl

end Minting

variable [DecidableEq Token] [DecidableEq Writer] [DecidableEq Call]

/-- One step, by what it does to the users, the credentials and the calls. -/
inductive Setup.Turn (setup : Setup Token Writer Call) (state : State Token Writer Call) :
    Action Token Writer Call → State Token Writer Call → Prop
  | advance (milliseconds : Nat) :
      Turn setup state (.advance milliseconds) { state with now := state.now + milliseconds }
  | writes {action : Users.Action Writer} {users : Users.State Writer}
      (stepped : setup.writers.step state.users action = some users) :
      Turn setup state (.writer action) { state with users := users }
  | writerMints {writer : Writer} {user : Users.User} {users : Users.State Writer}
      {succeeds : Bool} (reached : state.users.calls writer = .issuing user)
      (stepped : setup.writers.step state.users (.createAuthSession writer succeeds) =
        some users) :
      Turn setup state (.writer (.createAuthSession writer succeeds))
        (({ state with users := users } : State Token Writer Call).mint setup (.inl writer)
          (currentUser user) (setup.familyId (.inl writer)))
  | deletes (sessionId : Token) :
      Turn setup state (.deleteSession sessionId)
        { state with sessions := Function.update state.sessions sessionId .del }
  | replies {call : Call} {event : Event} {phase : Phase Token}
      (replied : setup.reply state call event = some phase) :
      Turn setup state (.event call event) (state.goto call phase)
  | mints {call : Call} {user : CurrentUser} {familyId : String} {phase : Phase Token}
      {succeeds : Bool}
      (reached : state.calls call = .issuing user ∨
        ∃ parsed, state.calls call = .rotating parsed user)
      (ends : phase = .issued ∨ ∃ error, phase = .thrown error) :
      Turn setup state (.issue call succeeds)
        ((state.mint setup (.inr call) user familyId).goto call phase)

section Step

variable {setup : Setup Token Writer Call} {state following : State Token Writer Call}
  {action : Action Token Writer Call}

theorem Setup.turn (stepped : setup.step state action = some following) :
    setup.Turn state action following := by
  cases action with
  | advance milliseconds =>
      cases stepped
      exact .advance milliseconds
  | writer action =>
      obtain ⟨users, stepped', rfl⟩ := Option.map_eq_some_iff.mp stepped
      cases action with
      | createAuthSession writer succeeds =>
          simp only [issuer]
          split
          · exact .writes stepped'
          · rename_i writer' user issuing
            split at issuing
            · rename_i reached
              cases issuing
              exact .writerMints reached stepped'
            · cases issuing
      | start | consume | query | hash | write | create | revokeAllForUser =>
          exact .writes stepped'
  | deleteSession sessionId =>
      cases stepped
      exact .deletes sessionId
  | event call event =>
      obtain ⟨phase, replied, rfl⟩ := Option.map_eq_some_iff.mp stepped
      exact .replies replied
  | issue call succeeds =>
      simp only [Setup.step] at stepped
      split at stepped
      · rename_i user reached
        cases stepped
        refine .mints (.inl reached) ?_
        cases succeeds with
        | true => exact .inl rfl
        | false => exact .inr ⟨_, rfl⟩
      · rename_i parsed user reached
        cases stepped
        refine .mints (.inr ⟨parsed, reached⟩) ?_
        cases succeeds with
        | true => exact .inl rfl
        | false => exact .inr ⟨_, rfl⟩
      · cases stepped

theorem Setup.Ledger.step (ledger : setup.Ledger state)
    (stepped : setup.step state action = some following) : setup.Ledger following := by
  cases setup.turn stepped with
  | advance => exact ledger.keep rfl (fun _ _ stored => stored) fun _ ended => ended
  | @writes action users stepped' =>
      refine ledger.keep rfl (fun _ _ stored => stored) ?_
      intro origin ended
      cases origin with
      | inl writer => exact Users.Setup.stays_finished stepped' ended
      | inr call => exact ended
  | @writerMints writer user users succeeds reached stepped' =>
      apply ledger.mint rfl rfl
      · intro origin ended
        cases origin with
        | inl writer => exact Users.Setup.stays_finished stepped' ended
        | inr call => exact ended
      · intro ended
        rw [State.Ended, reached] at ended
        cases ended
      · exact Users.Setup.finished_of_createAuthSession stepped'
  | deletes sessionId =>
      refine ledger.keep rfl ?_ fun _ ended => ended
      intro token cell stored
      by_cases same : token = sessionId
      · subst same
        simp [Slot.del] at stored
      · simpa [Function.update_of_ne same] using stored
  | replies replied =>
      exact ledger.keep rfl (fun _ _ stored => stored)
        (State.goto_ended (Setup.reply_running replied) rfl rfl)
  | @mints call user familyId phase succeeds reached ends =>
      have running : (state.calls call).finished = false := by
        rcases reached with login | ⟨parsed, refresh⟩
        · rw [login]
          rfl
        · rw [refresh]
          rfl
      refine ledger.mint rfl rfl (State.goto_ended running rfl rfl) ?_ ?_
      · intro ended
        rw [State.Ended, running] at ended
        cases ended
      · have arrived : ((state.mint setup (.inr call) user familyId).goto call phase).calls call =
            phase := Function.update_self _ _ _
        rw [State.Ended, arrived]
        rcases ends with rfl | ⟨error, rfl⟩ <;> rfl

theorem Setup.minted_grows (stepped : setup.step state action = some following) :
    state.minted ⊆ following.minted := by
  cases setup.turn stepped with
  | advance | writes | deletes | replies => exact List.Subset.refl _
  | writerMints | mints => exact List.subset_append_right _ _

/-- What one step can do to a call. -/
theorem Setup.moved (stepped : setup.step state action = some following) (call : Call) :
    following.calls call = state.calls call ∨
      (∃ event, setup.reply state call event = some (following.calls call)) ∨
      (∃ user, state.calls call = .issuing user ∨
          ∃ parsed, state.calls call = .rotating parsed user) ∧
        (following.calls call = .issued ∨ ∃ error, following.calls call = .thrown error) := by
  cases setup.turn stepped with
  | advance | writes | deletes | writerMints => exact .inl rfl
  | @replies other event phase replied =>
      by_cases same : call = other
      · subst same
        have arrived : (state.goto call phase).calls call = phase := Function.update_self _ _ _
        rw [arrived]
        exact .inr (.inl ⟨event, replied⟩)
      · exact .inl (Function.update_of_ne same _ _)
  | @mints other user familyId phase succeeds reached ends =>
      by_cases same : call = other
      · subst same
        have arrived : ((state.mint setup (.inr call) user familyId).goto call phase).calls call =
            phase := Function.update_self _ _ _
        rw [arrived]
        exact .inr (.inr ⟨⟨user, reached⟩, ends⟩)
      · exact .inl (Function.update_of_ne same _ _)

theorem Setup.CallsKnown.step (known : setup.CallsKnown state) (ledger : setup.Ledger state)
    (stepped : setup.step state action = some following) : setup.CallsKnown following := by
  have grows := setup.minted_grows stepped
  intro call
  rcases setup.moved stepped call with same | ⟨event, replied⟩ | ⟨_, issued | ⟨error, thrown⟩⟩
  · rw [same]
    exact (known call).grow grows
  · exact (setup.phaseKnown_reply ledger (known call) replied).grow grows
  · rw [issued]
    trivial
  · rw [thrown]
    trivial

/-- verifyAccessToken returns a user from its own read of the stored row. -/
theorem Setup.verified_of_step (stepped : setup.step state action = some following)
    {call : Call} {user : CurrentUser} (before : state.calls call ≠ .verified (some user))
    (after : following.calls call = .verified (some user)) :
    ∃ userId stored, state.calls call = .resolving userId user.authVersion ∧
      setup.Reads state.users.users userId stored ∧ user = currentUser stored := by
  rcases setup.moved stepped call with same | ⟨event, replied⟩ | ⟨_, issued | ⟨error, thrown⟩⟩
  · exact absurd (same.symm.trans after) before
  · rw [after] at replied
    rcases setup.reply_accepts replied rfl with ⟨_, _, _, _, _, impossible⟩ |
      ⟨userId, stored, reached, reads, same⟩
    · cases impossible
    · cases same
      exact ⟨userId, stored, reached, reads, rfl⟩
  · rw [after] at issued
    cases issued
  · rw [after] at thrown
    cases thrown

/-- A refresh rotates after its own read of the stored row. -/
theorem Setup.rotating_of_step (known : setup.CallsKnown state)
    (stepped : setup.step state action = some following) {call : Call} {token : Token}
    (refreshing : setup.operation call = .refresh token)
    (before : ¬(state.calls call).accepts = true)
    (after : (following.calls call).accepts = true) :
    ∃ parsed stored, state.calls call = .loading parsed ∧
      setup.Reads state.users.users parsed.userId stored ∧
      stored.authVersion = parsed.authVersion := by
  have own := known call
  rcases setup.moved stepped call with same | ⟨event, replied⟩ | ⟨⟨user, reached⟩, _⟩
  · rw [same] at after
    exact absurd after before
  · rcases setup.reply_accepts replied after with ⟨parsed, stored, reached, reads, same, _⟩ |
      ⟨userId, stored, reached, _⟩
    · exact ⟨parsed, stored, reached, reads, same⟩
    · rw [reached] at own
      obtain ⟨_, impossible, _⟩ := own
      rw [refreshing] at impossible
      cases impossible
  · rcases reached with issuing | ⟨parsed, rotating⟩
    · rw [issuing] at own
      obtain ⟨_, _, impossible⟩ := own
      rw [refreshing] at impossible
      cases impossible
    · rw [rotating] at before
      exact absurd rfl before

end Step

section Runs

variable {setup : Setup Token Writer Call} {start finish : State Token Writer Call}
  {actions : List (Action Token Writer Call)}

def Setup.Sound (setup : Setup Token Writer Call) (state : State Token Writer Call) : Prop :=
  setup.Ledger state ∧ setup.CallsKnown state

theorem Setup.sound_of_reachable
    (reached : setup.system.Reachable State.Fresh finish) : setup.Sound finish := by
  apply reached.invariant
  · intro state initial
    obtain ⟨_, sessions, calls, minted⟩ := initial
    refine ⟨⟨?_, ?_, ?_, ?_⟩, ?_⟩
    · rw [minted]
      exact fun _ _ => nofun
    · rw [minted]
      exact fun _ _ => nofun
    · rw [minted]
      exact fun _ _ => nofun
    · rw [sessions]
      exact fun _ _ => nofun
    · intro call
      rw [calls]
      trivial
  · intro before action after sound _ stepped
    exact ⟨sound.1.step stepped, sound.2.step sound.1 stepped⟩

def State.Extends (state later : State Token Writer Call) : Prop :=
  state.minted ⊆ later.minted

theorem Setup.extends_of_run (run : setup.system.Run State.Fresh start actions finish) :
    start.Extends finish := by
  apply run.relates
  · exact fun _ => List.Subset.refl _
  · exact fun _ _ _ => List.Subset.trans
  · intro before action after _ stepped
    exact setup.minted_grows stepped

/-- The writers take the steps of their own system. -/
theorem Setup.users_run (run : setup.system.Run State.Fresh start actions finish) :
    ∃ inner, setup.writers.system.Run Users.State.Fresh start.users inner finish.users := by
  apply run.projects
  intro before action after fresh stepped
  cases setup.turn stepped with
  | advance | deletes | replies | mints => exact .inl rfl
  | @writes inner _ stepped' => exact .inr ⟨inner, fresh, stepped'⟩
  | @writerMints writer _ _ succeeds _ stepped' =>
      exact .inr ⟨.createAuthSession writer succeeds, fresh, stepped'⟩

/-- The read behind a user that verifyAccessToken has returned. -/
theorem Setup.read_of_verified (run : setup.system.Run State.Fresh start actions finish)
    {call : Call} {user : CurrentUser} (ready : start.calls call = .ready)
    (verified : finish.calls call = .verified (some user)) :
    ∃ earlier middle rest userId stored, setup.system.Run State.Fresh start earlier middle ∧
      setup.system.Run State.Fresh middle rest finish ∧
      middle.calls call = .resolving userId user.authVersion ∧
      setup.Reads middle.users.users userId stored ∧ user = currentUser stored := by
  have atStart : start.calls call ≠ .verified (some user) := by
    rw [ready]
    exact nofun
  obtain ⟨earlier, rest, middle, action, after, run', fresh, stepped, outside, inside, run''⟩ :=
    run.entered (fun state => state.calls call = .verified (some user)) atStart verified
  obtain ⟨userId, stored, reached, reads, same⟩ := setup.verified_of_step stepped outside inside
  have single : setup.system.Run State.Fresh middle ([] ++ [action]) after :=
    .snoc .nil fresh stepped
  exact ⟨earlier, middle, _, userId, stored, run', single.append run'', reached, reads, same⟩

/-- The read behind a refresh that has returned new tokens. -/
theorem Setup.read_of_issued (reached : setup.system.Reachable State.Fresh start)
    (run : setup.system.Run State.Fresh start actions finish) {call : Call} {token : Token}
    (refreshing : setup.operation call = .refresh token) (ready : start.calls call = .ready)
    (issued : finish.calls call = .issued) :
    ∃ earlier middle rest parsed stored, setup.system.Run State.Fresh start earlier middle ∧
      setup.system.Run State.Fresh middle rest finish ∧ middle.calls call = .loading parsed ∧
      setup.Reads middle.users.users parsed.userId stored ∧
      stored.authVersion = parsed.authVersion := by
  have atStart : ¬(start.calls call).accepts = true := by
    rw [ready]
    exact nofun
  have atFinish : (finish.calls call).accepts = true := by
    rw [issued]
    rfl
  obtain ⟨earlier, rest, middle, action, after, run', fresh, stepped, outside, inside, run''⟩ :=
    run.entered (fun state => (state.calls call).accepts = true) atStart atFinish
  obtain ⟨parsed, stored, loading, reads, same⟩ :=
    setup.rotating_of_step (setup.sound_of_reachable (reached.extend run')).2 stepped refreshing
      outside inside
  have single : setup.system.Run State.Fresh middle ([] ++ [action]) after :=
    .snoc .nil fresh stepped
  exact ⟨earlier, middle, _, parsed, stored, run', single.append run'', loading, reads, same⟩

/-- The update of a password change or reset has been committed. -/
def Setup.Commits (setup : Setup Token Writer Call) (before after : State Token Writer Call)
    (writer : Writer) (updated : Users.User) : Prop :=
  before.Fresh (.writer (.write writer)) ∧
    setup.system.step before (.writer (.write writer)) = some after ∧
    after.users.calls writer = .revoking updated

/-- From the commit on, no smaller version is stored. -/
theorem Setup.Commits.atLeast {before : State Token Writer Call} {writer : Writer}
    {updated : Users.User} (reached : setup.system.Reachable State.Fresh before)
    (commits : setup.Commits before start writer updated)
    (run : setup.system.Run State.Fresh start actions finish) :
    ∃ current, finish.users.users.authVersion updated.id = some current ∧
      updated.authVersion ≤ current := by
  obtain ⟨fresh, stepped, committed⟩ := commits
  obtain ⟨origin, _, initial, run'⟩ := reached
  obtain ⟨_, inner⟩ := setup.users_run (run'.snoc fresh stepped)
  obtain ⟨_, inner'⟩ := setup.users_run run
  have follows := setup.writers.follows_of_run initial.1 inner
  have stored : start.users.users.authVersion updated.id = some updated.authVersion := by
    obtain ⟨users, stepped', rfl⟩ := Option.map_eq_some_iff.mp stepped
    exact Users.Setup.version_of_commit stepped' committed
  exact (follows.atLeast inner' stored).2

end Runs

/-- From the commit of a password change or reset on, every verification and every refresh
that starts rejects the credentials that were or will be minted for a smaller version. -/
def Setup.Invalidates (setup : Setup Token Writer Call) : Prop :=
  ∀ before after writer updated, setup.system.Reachable State.Fresh before →
    setup.Commits before after writer updated →
    ∀ actions later, setup.system.Run State.Fresh after actions later →
      ∀ call, after.calls call = .ready → ∀ mint ∈ later.minted,
        mint.userId = updated.id → mint.authVersion < updated.authVersion →
        (setup.operation call = .verifyAccessToken mint.token →
          ∀ result, later.calls call = .verified result → result = none) ∧
        (setup.operation call = .refresh mint.token → later.calls call ≠ .issued)

/-- A user that verifyAccessToken returns is as stored at a moment after the call began. -/
def Setup.ReturnsStored (setup : Setup Token Writer Call) : Prop :=
  ∀ start actions later, setup.system.Reachable State.Fresh start →
    setup.system.Run State.Fresh start actions later →
    ∀ call user, start.calls call = .ready → later.calls call = .verified (some user) →
      ∃ earlier middle rest row, setup.system.Run State.Fresh start earlier middle ∧
        setup.system.Run State.Fresh middle rest later ∧
        middle.users.users.findById user.id = some row ∧ row.roles = user.roles ∧
        row.authVersion = user.authVersion

/-- The version that a check after the commit compares with is not smaller. -/
theorem Setup.Commits.le_read {setup : Setup Token Writer Call}
    {before after state : State Token Writer Call} {writer : Writer} {updated stored : Users.User}
    {actions : List (Action Token Writer Call)}
    (reached : setup.system.Reachable State.Fresh before)
    (commits : setup.Commits before after writer updated)
    (run : setup.system.Run State.Fresh after actions state)
    (reads : setup.Reads state.users.users updated.id stored) :
    updated.authVersion ≤ stored.authVersion := by
  obtain ⟨current, stored', order⟩ := commits.atLeast reached run
  obtain ⟨row, found, _, _, version⟩ := reads.row
  rw [Users.UserTable.authVersion, found] at stored'
  cases stored'
  exact version ▸ order

theorem invalidates_and_returnsStored (setup : Setup Token Writer Call) :
    setup.Invalidates ∧ setup.ReturnsStored := by
  constructor
  · intro before after writer updated reached commits actions later run call ready mint member
      user smaller
    have reached' := reached.next commits.1 commits.2.1
    have ledger := (setup.sound_of_reachable (reached'.extend run)).1
    -- The credential as the check has read it, against the version stored at that moment.
    have stale : ∀ earlier middle rest userId stored,
        setup.system.Run State.Fresh after earlier middle →
        setup.system.Run State.Fresh middle rest later →
        setup.Stands middle.minted mint.token userId stored.authVersion →
        ¬setup.Reads middle.users.users userId stored := by
      intro earlier middle rest userId stored run' run'' stands reads
      obtain ⟨sameUser, sameVersion⟩ :=
        ledger.stamped member (stands.grow (setup.extends_of_run run''))
      have order := commits.le_read reached run' (by rwa [← user, sameUser])
      omega
    constructor
    · intro verifying result verified
      cases result with
      | none => rfl
      | some returned =>
          obtain ⟨earlier, middle, rest, userId, stored, run', run'', resolving, reads, rfl⟩ :=
            setup.read_of_verified run ready verified
          have known := (setup.sound_of_reachable (reached'.extend run')).2 call
          rw [resolving] at known
          obtain ⟨token, same, stands⟩ := known
          rw [verifying] at same
          cases same
          exact absurd reads (stale _ middle _ userId stored run' run'' stands)
    · intro refreshing issued
      obtain ⟨earlier, middle, rest, parsed, stored, run', run'', loading, reads, version⟩ :=
        setup.read_of_issued reached' run refreshing ready issued
      have known := (setup.sound_of_reachable (reached'.extend run')).2 call
      rw [loading] at known
      obtain ⟨token, same, stands⟩ := known
      rw [refreshing] at same
      cases same
      rw [← version] at stands
      exact stale _ middle _ parsed.userId stored run' run'' stands reads
  · intro start actions later reached run call user ready verified
    obtain ⟨earlier, middle, rest, userId, stored, run', run'', resolving, reads, rfl⟩ :=
      setup.read_of_verified run ready verified
    obtain ⟨row, found, same, roles, version⟩ := reads.row
    refine ⟨earlier, middle, rest, row, run', run'', ?_, roles, version⟩
    change middle.users.users.findById stored.id = some row
    rwa [same]

abbrev Wire := Secret × TokenPayload ⊕ Unit ⊕ Fin 2

/-- A password change, a login, and a verification of the access token that it returns. -/
def loginDuringChange : Setup Wire Unit (Fin 2) :=
  { driver := .jwt
    writers :=
      { operation := fun _ => .changePassword "u1" "old" "new"
        compare := fun _ _ => true
        toLowerCase := String.toLower }
    operation := fun call =>
      if call = 0 then .login "user@example.com" "old"
      else .verifyAccessToken (.inl (.access,
        { id := "u1"
          email := "user@example.com"
          roles := ["user"]
          authVersion := some 0
          type := "access"
          jti := "a"
          familyId := none }))
    sign := fun secret payload => .inl (secret, payload)
    verify := fun secret _ token =>
      match token with
      | .inl (signer, payload) => if signer = secret then some payload else none
      | .inr _ => none
    verified := by
      intro secret now signer payload other found
      simp only at found
      split at found
      · cases found
        rfl
      · cases found
    accessTokenId := fun _ => "a"
    refreshTokenId := fun _ => "r"
    familyId := fun _ => "f"
    sessionId := .inr
    freshSession := fun _ _ same => Sum.inr.inj same
    sessionTtlSeconds := 604800 }

/-- The login has read the user before the change commits and signs its tokens after it. -/
example :
    (loginDuringChange.system.execute (fun _ _ => true)
      { now := 0
        users :=
          { users := .single Users.passwordAccount
            calls := fun _ => .ready
            bumps := fun _ => 0 }
        sessions := fun _ => none
        calls := fun _ => .ready
        minted := [] }
      [.event 0 .start, .event 0 .query, .writer (.start ()), .writer (.query ()),
        .writer (.hash () "hash"), .writer (.write ()), .issue 0 true, .event 1 .start,
        .event 1 (.isAccessTokenRevoked false), .event 1 .query]).map
      (fun state => (state.users.users.authVersion "u1", state.calls 1)) =
    some (some 1, .verified none) := by
  decide +kernel

end BackendFoundation.Auth.Credentials
