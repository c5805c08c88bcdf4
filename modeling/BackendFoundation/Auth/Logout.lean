/-
A logout is final for the refresh tokens of its family, and for its access token.

The entry of the denylist is kept for whole seconds, counted from a clock that is read
before the SET is executed; it therefore lives at least until the token's exp. A
verification that has passed the check of exp before that instant and looks the entry
up after it comes too late.
-/

import BackendFoundation.Auth.AccessTokens

namespace BackendFoundation.Auth

open Redis Transition

variable {Call Verifier : Type}

/-- The denylist has the token, up to its exp at least. -/
def State.Listed (state : State Call) (access : AccessTokenPayload) : Prop :=
  ∃ cell deadline, state.store.revokedAccess access.jti = some cell ∧
    cell.expireAt = some deadline ∧ access.exp * 1000 ≤ deadline

/-- The token has expired or is in the denylist. -/
def State.Denied (state : State Call) (access : AccessTokenPayload) : Prop :=
  access.exp * 1000 ≤ state.now ∨ state.Listed access

theorem State.listed_of_written {state : State Call} {access : AccessTokenPayload}
    {written ttlSeconds : Nat}
    (stored : state.store.revokedAccess access.jti = .setEx written "1" ttlSeconds)
    (covered : access.exp * 1000 ≤ written + ttlSeconds * 1000) : state.Listed access :=
  ⟨_, _, stored, rfl, covered⟩

/-- A logout at its program point: the family is revoked before the access token is. -/
def State.LogoutKnown (state : State Call) (refresh : ParsedRefreshToken)
    (access : Option AccessTokenPayload) : Phase → Prop
  | .awaiting await progress =>
      (await = .first ∧ progress = .revokingFamily refresh.familyId) ∨
        (await = .second ∧ refresh.familyId ∈ state.revoked ∧
          ∃ tokenId ttlSeconds, progress = .denylisting tokenId ttlSeconds)
  | .returned => refresh.familyId ∈ state.revoked ∧ ∀ payload ∈ access, state.Denied payload
  | _ => True

/-- What a verification of a denied token knows at its program point. -/
def State.Refuses (state : State Call) (access : AccessTokenPayload) : Verification → Prop
  | .ready => True
  | .checkingDenylist => state.Listed access
  | .resolving => False
  | .returned user => user = none

structure Setup.Closing (setup : Setup Call) (state : State Call) (call : Call)
    (phase : Phase) : Prop where
  logout : ∀ refresh access, setup.operation call = .revoke (some refresh) access →
    state.LogoutKnown refresh access phase
  denylists : ∀ await tokenId ttlSeconds,
    phase = .awaiting await (.denylisting tokenId ttlSeconds) →
    ∃ refresh access, setup.operation call = .revoke refresh (some access) ∧
      access.jti = tokenId ∧ access.exp * 1000 ≤ state.now + ttlSeconds * 1000

theorem State.Listed.revoked {state : State Call} {access : AccessTokenPayload}
    (listed : state.Listed access) (before : state.now ≤ access.exp * 1000) :
    state.store.isAccessTokenRevoked state.now access.jti = true := by
  obtain ⟨cell, deadline, found, expiry, covers⟩ := listed
  have alive : (state.store.revokedAccess access.jti).live state.now = some cell :=
    Slot.live_some_iff.mpr ⟨found, Slot.aliveAt_of_le expiry (Nat.le_trans before covers)⟩
  unfold JwtStore.isAccessTokenRevoked Slot.present
  rw [alive]
  rfl

/-- What a step leaves of the state that logouts rest on. -/
structure Setup.Retains (setup : Setup Call) (state following : State Call) : Prop where
  later : state.now ≤ following.now
  revoked : ∀ familyId ∈ state.revoked, familyId ∈ following.revoked
  listed : ∀ call refresh access, setup.operation call = .revoke refresh (some access) →
    state.Listed access → following.Listed access

section Growth

variable {setup : Setup Call} {state following : State Call} {call : Call} {phase : Phase}

theorem Setup.Retains.denied (retains : setup.Retains state following)
    {refresh : Option ParsedRefreshToken} {access : AccessTokenPayload}
    (revoking : setup.operation call = .revoke refresh (some access))
    (denied : state.Denied access) : following.Denied access :=
  denied.imp (fun expired => Nat.le_trans expired retains.later)
    (retains.listed call refresh access revoking)

theorem State.Refuses.grow {refresh : Option ParsedRefreshToken} {access : AccessTokenPayload}
    {verification : Verification} (retains : setup.Retains state following)
    (revoking : setup.operation call = .revoke refresh (some access))
    (refuses : state.Refuses access verification) : following.Refuses access verification := by
  cases verification with
  | checkingDenylist => exact retains.listed call refresh access revoking refuses
  | ready | resolving | returned => exact refuses

theorem Setup.Closing.grow (closing : setup.Closing state call phase)
    (retains : setup.Retains state following) : setup.Closing following call phase := by
  constructor
  · intro refresh access revoking
    have known := closing.logout refresh access revoking
    cases phase with
    | awaiting await progress =>
        refine known.imp_right ?_
        intro found
        obtain ⟨second, revoked, denylisting⟩ := found
        exact ⟨second, retains.revoked _ revoked, denylisting⟩
    | returned =>
        refine ⟨retains.revoked _ known.1, ?_⟩
        intro payload same
        subst same
        exact retains.denied revoking (known.2 payload rfl)
    | ready | thrown => trivial
  · intro await tokenId ttlSeconds waiting
    obtain ⟨refresh, access, revoking, jti, covered⟩ := closing.denylists _ _ _ waiting
    have later := retains.later
    exact ⟨refresh, access, revoking, jti, by omega⟩

end Growth

section Calls

variable {setup : Setup Call} {state : State Call} {call : Call}

/-- A clock that is read in whole seconds is read too early, if at all. -/
theorem remaining_covers (now expiresAt : Nat) :
    expiresAt * 1000 ≤ now + getRemainingTtlSeconds now expiresAt * 1000 := by
  unfold getRemainingTtlSeconds
  omega

/-- Of the operations that revoke no access token. -/
theorem Setup.closing_of_other {phase : Phase}
    (other : ∀ refresh access, setup.operation call ≠ .revoke refresh access)
    (listless : ∀ await tokenId ttlSeconds,
      phase ≠ .awaiting await (.denylisting tokenId ttlSeconds)) :
    setup.Closing state call phase :=
  { logout := fun _ _ revoking => absurd revoking (other _ _)
    denylists := fun _ _ _ waiting => absurd waiting (listless _ _ _) }

theorem Setup.closing_start (issued : List ParsedRefreshToken) :
    setup.Closing state call (setup.start issued call) := by
  unfold Setup.start
  split
  · rename_i user created
    refine setup.closing_of_other ?_ (fun _ _ _ => nofun)
    rw [created]
    exact fun _ _ => nofun
  · rename_i parsed user rotating
    refine setup.closing_of_other ?_ ?_
    · rw [rotating]
      exact fun _ _ => nofun
    · split
      · exact fun _ _ _ => nofun
      · exact fun _ _ _ => nofun
  · exact ⟨fun _ _ _ => trivial, fun _ _ _ => nofun⟩
  · rename_i refresh access revoking
    split
    · exact ⟨fun _ _ _ => trivial, fun _ _ _ => nofun⟩
    · split
      · exact ⟨fun _ _ _ => trivial, fun _ _ _ => nofun⟩
      · refine ⟨?_, fun _ _ _ => nofun⟩
        intro refresh' access' revoking'
        rw [revoking] at revoking'
        cases revoking'
        exact .inl ⟨rfl, rfl⟩
  · rename_i userId revoking
    refine setup.closing_of_other ?_ (fun _ _ _ => nofun)
    rw [revoking]
    exact fun _ _ => nofun

/-- The first reply is that of the revoked family, the second that of the denylist. -/
theorem Setup.closing_resume {await : Await} (reply : Reply)
    (revoked : ∀ refresh access, setup.operation call = .revoke (some refresh) access →
      refresh.familyId ∈ state.revoked)
    (denied : await = .second → ∀ refresh access,
      setup.operation call = .revoke (some refresh) (some access) → state.Denied access) :
    setup.Closing state call (setup.resume state.now call await reply) := by
  unfold Setup.resume
  split
  · rename_i parsed user rotating
    refine setup.closing_of_other ?_ ?_
    · rw [rotating]
      exact fun _ _ => nofun
    · split
      · exact fun _ _ _ => nofun
      · exact fun _ _ _ => nofun
  · exact ⟨fun _ _ _ => trivial, fun _ _ _ => nofun⟩
  · rename_i asked access revoking
    have covered := remaining_covers state.now access.exp
    by_cases passed : getRemainingTtlSeconds state.now access.exp = 0
    · simp only [StoreCall.start, if_pos passed]
      refine ⟨?_, fun _ _ _ => nofun⟩
      intro refresh access' revoking'
      refine ⟨revoked refresh access' revoking', ?_⟩
      intro payload equal
      subst equal
      rw [revoking] at revoking'
      cases revoking'
      left
      rw [passed] at covered
      omega
    · simp only [StoreCall.start, if_neg passed]
      constructor
      · intro refresh access' revoking'
        exact .inr ⟨rfl, revoked refresh access' revoking', _, _, rfl⟩
      · intro await tokenId ttlSeconds same
        cases same
        exact ⟨asked, access, revoking, rfl, covered⟩
  · rename_i reached _ _ _ _ unrevoked
    refine ⟨?_, fun _ _ _ => nofun⟩
    intro refresh access revoking
    refine ⟨revoked refresh access revoking, ?_⟩
    intro payload equal
    subst equal
    cases reached with
    | first => exact (unrevoked (some refresh) payload revoking rfl).elim
    | second => exact denied rfl refresh payload revoking

/-- Only a purge is left with another command. -/
theorem Progress.next_left {now : Nat} {store after : JwtStore} {progress left : Progress}
    (sent : progress.next now store = some (after, left)) :
    (∃ reply, left = .returned reply) ∨
      (∃ userId pending, left = .revokingEach userId pending) ∧
        (∀ familyId, progress ≠ .revokingFamily familyId) ∧
        ∀ tokenId ttlSeconds, progress ≠ .denylisting tokenId ttlSeconds := by
  cases progress with
  | listing userId =>
      cases sent
      exact .inr ⟨⟨_, _, rfl⟩, fun _ => nofun, fun _ _ => nofun⟩
  | revokingEach userId pending =>
      cases pending with
      | nil =>
          cases sent
          exact .inl ⟨_, rfl⟩
      | cons familyId rest =>
          cases sent
          exact .inr ⟨⟨_, _, rfl⟩, fun _ => nofun, fun _ _ => nofun⟩
  | saving | rotating | revokingFamily | denylisting =>
      cases sent
      exact .inl ⟨_, rfl⟩
  | returned reply => cases sent

theorem Setup.closing_proceed {following : State Call} {await : Await}
    {progress left : Progress} {after : JwtStore}
    (closing : setup.Closing state call (.awaiting await progress))
    (retains : setup.Retains state following) (simultaneous : following.now = state.now)
    (stored : following.store = after)
    (recorded : ∀ familyId ∈ progress.revokes, familyId ∈ following.revoked)
    (sent : progress.next state.now state.store = some (after, left)) :
    setup.Closing following call (setup.proceed state.now call await left) := by
  rcases Progress.next_left sent with ⟨reply, rfl⟩ | ⟨⟨userId, pending, rfl⟩, other, listless⟩
  · change setup.Closing following call (setup.resume state.now call await reply)
    rw [← simultaneous]
    apply setup.closing_resume
    · intro refresh access revoking
      rcases closing.logout refresh access revoking with ⟨_, rfl⟩ | ⟨_, revoked, _⟩
      · exact recorded _ (List.mem_singleton.mpr rfl)
      · exact retains.revoked _ revoked
    · intro equal refresh access revoking
      subst equal
      obtain ⟨tokenId, ttlSeconds, rfl⟩ : ∃ tokenId ttlSeconds,
          progress = .denylisting tokenId ttlSeconds := by
        rcases closing.logout refresh _ revoking with ⟨impossible, _⟩ | ⟨_, _, found⟩
        · cases impossible
        · exact found
      obtain ⟨refresh', access', revoking', rfl, covered⟩ := closing.denylists _ _ _ rfl
      rw [revoking] at revoking'
      cases revoking'
      cases sent
      refine .inr (State.listed_of_written ?_ covered)
      rw [stored]
      exact Function.update_self _ _ _
  · refine ⟨?_, fun _ _ _ => nofun⟩
    intro refresh access revoking
    rcases closing.logout refresh access revoking with ⟨_, same⟩ | ⟨_, _, _, _, same⟩
    · exact absurd same (other _)
    · exact absurd same (listless _ _)

end Calls

theorem AccessState.settle_of_ne [DecidableEq Verifier]
    {state : AccessState Call Verifier} {verifier other : Verifier} (different : verifier ≠ other)
    (verification : Verification) :
    (state.settle other verification).verifications verifier = state.verifications verifier :=
  Function.update_of_ne different _ _

theorem AccessState.settle_self [DecidableEq Verifier] {state : AccessState Call Verifier}
    {verifier : Verifier} (verification : Verification) :
    (state.settle verifier verification).verifications verifier = verification :=
  Function.update_self _ _ _

/-- What a verification does with the token: where it goes on. -/
inductive AccessSetup.Verifies (setup : AccessSetup Call Verifier)
    (state : AccessState Call Verifier) (verifier : Verifier) :
    AccessAction Call Verifier → Verification → Prop
  | checks (verifies : (setup.token verifier).verifies state.service.now = true) :
      Verifies setup state verifier (.verifyAccessToken verifier) .checkingDenylist
  | expires : Verifies setup state verifier (.verifyAccessToken verifier) (.returned none)
  | denies : Verifies setup state verifier (.isAccessTokenRevoked verifier) (.returned none)
  | passes {next : Verification} (checking : state.verifications verifier = .checkingDenylist)
      (absent : state.service.store.isAccessTokenRevoked state.service.now
        (setup.token verifier).jti = false) :
      Verifies setup state verifier (.isAccessTokenRevoked verifier) next
  | resolves {freshUser : Option CurrentUser} {next : Verification}
      (resolving : state.verifications verifier = .resolving) :
      Verifies setup state verifier (.resolveAccessUser verifier freshUser) next

variable [DecidableEq Call]

theorem Setup.receive_cases {setup : Setup Call} {state following : State Call} {call : Call}
    (received : setup.receive state call = some following) :
    ∃ refresh access tokenId ttlSeconds,
      setup.operation call = .revoke refresh (some access) ∧
      state.calls call = .awaiting .second (.denylisting tokenId ttlSeconds) ∧
      following = state.goto call (setup.resume state.now call .first .done) := by
  unfold Setup.receive at received
  split at received
  · rename_i refresh access tokenId ttlSeconds revoking waiting
    cases received
    exact ⟨refresh, access, tokenId, ttlSeconds, revoking, waiting, rfl⟩
  · cases received

/-- The two ways in which the calls of the service move. -/
def Setup.Moves (setup : Setup Call) (state following : State Call) : Prop :=
  (∃ action, setup.step state action = some following) ∨
    ∃ call, setup.receive state call = some following

theorem Setup.Coherent.moves {setup : Setup Call} {state following : State Call}
    (coherent : setup.Coherent state) (moves : setup.Moves state following) :
    setup.Coherent following := by
  rcases moves with ⟨action, stepped⟩ | ⟨call, received⟩
  · exact coherent.step stepped
  · obtain ⟨refresh, access, tokenId, ttlSeconds, revoking, waiting, rfl⟩ :=
      setup.receive_cases received
    apply coherent.goto
    · rw [waiting]
      exact nofun
    · apply setup.callKnown_resume
      rw [revoking]
      exact fun _ _ => nofun

theorem Setup.Moves.grows {setup : Setup Call} {state following : State Call}
    (moves : setup.Moves state following) : state.Grows following := by
  rcases moves with ⟨action, stepped⟩ | ⟨call, received⟩
  · exact state.grows_step stepped
  · obtain ⟨refresh, access, tokenId, ttlSeconds, revoking, waiting, rfl⟩ :=
      setup.receive_cases received
    refine state.goto_grows ?_ rfl fun _ revoked => revoked
    rw [waiting]
    exact nofun

/-- Where every call of the service is. -/
structure Setup.Sound (setup : Setup Call) (state : State Call) : Prop where
  coherent : setup.Coherent state
  closing : ∀ call, setup.Closing state call (state.calls call)

theorem State.retains_goto {setup : Setup Call} (state : State Call) (call : Call)
    (phase : Phase) : setup.Retains state (state.goto call phase) :=
  { later := Nat.le_refl _
    revoked := fun _ revoked => revoked
    listed := fun _ _ _ _ listed => listed }

/-- Two logouts with one access token write the same expiry or a later one. -/
theorem AccessSetup.retains_receive (setup : AccessSetup Call Verifier) {state : State Call}
    {call : Call} {await : Await} {progress left : Progress} {after : JwtStore}
    (closing : setup.service.Closing state call (.awaiting await progress))
    (sent : progress.next state.now state.store = some (after, left)) :
    setup.service.Retains state
      (state.receive setup.service call await progress after left) := by
  refine ⟨Nat.le_refl _, fun _ revoked => List.mem_append_right _ revoked, ?_⟩
  intro other refresh access revoking given
  obtain ⟨cell, deadline, found, expiry, covers⟩ := given
  rcases Progress.next_revokedAccess sent with same | ⟨tokenId, ttlSeconds, rfl, written⟩
  · refine ⟨cell, deadline, ?_, expiry, covers⟩
    exact (congrFun same _).trans found
  · by_cases sameToken : access.jti = tokenId
    · obtain ⟨refresh', access', revoking', jti, covered⟩ := closing.denylists _ _ _ rfl
      cases setup.genuineRevoke other call refresh refresh' access access' revoking revoking'
        (sameToken.trans jti.symm)
      subst sameToken
      refine State.listed_of_written ?_ covered
      exact (congrFun written _).trans (Function.update_self _ _ _)
    · refine ⟨cell, deadline, ?_, expiry, covers⟩
      exact ((congrFun written _).trans (Function.update_of_ne sameToken _ _)).trans found

theorem AccessSetup.retains (setup : AccessSetup Call Verifier) {state following : State Call}
    (sound : setup.service.Sound state) (moves : setup.service.Moves state following) :
    setup.service.Retains state following := by
  rcases moves with ⟨action, stepped⟩ | ⟨call, received⟩
  · cases Setup.stepped_of_step stepped with
    | advances milliseconds =>
        exact ⟨Nat.le_add_right _ _, fun _ revoked => revoked, fun _ _ _ _ listed => listed⟩
    | starts ready => exact state.retains_goto _ _
    | @receives call await progress left after waiting sent =>
        have closing := sound.closing call
        rw [waiting] at closing
        exact setup.retains_receive closing sent
  · obtain ⟨refresh, access, tokenId, ttlSeconds, revoking, waiting, rfl⟩ :=
      setup.service.receive_cases received
    exact state.retains_goto call _

/-- One call has moved; the others know what they knew. -/
theorem Setup.Closing.calls_goto {setup : Setup Call} {state following : State Call}
    (closing : ∀ call, setup.Closing state call (state.calls call)) {call : Call} {phase : Phase}
    (retains : setup.Retains state following)
    (calls : following.calls = (state.goto call phase).calls)
    (known : setup.Closing following call phase) (other : Call) :
    setup.Closing following other (following.calls other) := by
  rw [calls]
  by_cases same : other = call
  · subst same
    change setup.Closing following other (Function.update state.calls other phase other)
    rwa [Function.update_self]
  · change setup.Closing following other (Function.update state.calls call phase other)
    rw [Function.update_of_ne same]
    exact (closing other).grow retains

theorem AccessSetup.closing_moves (setup : AccessSetup Call Verifier)
    {state following : State Call} (sound : setup.service.Sound state)
    (moves : setup.service.Moves state following) (call : Call) :
    setup.service.Closing following call (following.calls call) := by
  have retains := setup.retains sound moves
  rcases moves with ⟨action, stepped⟩ | ⟨moved, received⟩
  · cases Setup.stepped_of_step stepped with
    | advances milliseconds => exact (sound.closing call).grow retains
    | starts ready =>
        exact Setup.Closing.calls_goto sound.closing retains rfl
          ((setup.service.closing_start _).grow retains) call
    | @receives moved await progress left after waiting sent =>
        have closing := sound.closing moved
        rw [waiting] at closing
        refine Setup.Closing.calls_goto sound.closing retains rfl
          (Setup.closing_proceed closing retains rfl rfl ?_ sent) call
        exact fun familyId revokes => List.mem_append_left _ revokes
  · obtain ⟨refresh, access, tokenId, ttlSeconds, revoking, waiting, rfl⟩ :=
      setup.service.receive_cases received
    have resumed : setup.service.Closing state moved
        (setup.service.resume state.now moved .first .done) := by
      apply setup.service.closing_resume
      · intro refresh' access' revoking'
        have closing := sound.closing moved
        rw [waiting] at closing
        rcases closing.logout refresh' access' revoking' with ⟨impossible, _⟩ | ⟨_, revoked, _⟩
        · cases impossible
        · exact revoked
      · intro impossible
        cases impossible
    exact Setup.Closing.calls_goto sound.closing retains rfl (resumed.grow retains) call

theorem AccessSetup.sound_moves (setup : AccessSetup Call Verifier)
    {state following : State Call} (sound : setup.service.Sound state)
    (moves : setup.service.Moves state following) : setup.service.Sound following :=
  { coherent := sound.coherent.moves moves
    closing := setup.closing_moves sound moves }

variable [DecidableEq Verifier]

section Step

variable {setup : AccessSetup Call Verifier} {state following : AccessState Call Verifier}
  {action : AccessAction Call Verifier}

theorem AccessSetup.moved (stepped : setup.step state action = some following) :
    (∃ service, setup.service.Moves state.service service ∧
      following = { state with service := service }) ∨
      ∃ verifier verification, setup.Verifies state verifier action verification ∧
        following = state.settle verifier verification := by
  cases action with
  | service inner =>
      obtain ⟨service, moved, rfl⟩ := Option.map_eq_some_iff.mp stepped
      exact .inl ⟨service, .inl ⟨inner, moved⟩, rfl⟩
  | receive call =>
      obtain ⟨service, moved, rfl⟩ := Option.map_eq_some_iff.mp stepped
      exact .inl ⟨service, .inr ⟨call, moved⟩, rfl⟩
  | verifyAccessToken verifier =>
      right
      simp only [AccessSetup.step] at stepped
      split at stepped
      · split at stepped
        · rename_i verifies
          cases stepped
          exact ⟨verifier, _, .checks verifies, rfl⟩
        · cases stepped
          exact ⟨verifier, _, .expires, rfl⟩
      · cases stepped
  | isAccessTokenRevoked verifier =>
      right
      simp only [AccessSetup.step] at stepped
      split at stepped
      · rename_i checking
        split at stepped
        · cases stepped
          exact ⟨verifier, _, .denies, rfl⟩
        · rename_i absent
          split at stepped
          · cases stepped
            exact ⟨verifier, _, .passes checking (Bool.eq_false_iff.mpr absent), rfl⟩
          · cases stepped
            exact ⟨verifier, _, .passes checking (Bool.eq_false_iff.mpr absent), rfl⟩
      · cases stepped
  | resolveAccessUser verifier freshUser =>
      right
      simp only [AccessSetup.step] at stepped
      split at stepped
      · rename_i resolving
        cases stepped
        exact ⟨verifier, _, .resolves resolving, rfl⟩
      · cases stepped

/-- Verifications leave the service as it is. -/
theorem AccessSetup.service_of_step (stepped : setup.step state action = some following) :
    setup.service.Moves state.service following.service ∨
      following.service = state.service := by
  rcases setup.moved stepped with ⟨service, moves, rfl⟩ | ⟨verifier, verification, _, rfl⟩
  · exact .inl moves
  · exact .inr rfl

theorem AccessSetup.sound_step (sound : setup.service.Sound state.service)
    (stepped : setup.step state action = some following) :
    setup.service.Sound following.service := by
  rcases setup.service_of_step stepped with moves | same
  · exact setup.sound_moves sound moves
  · rw [same]
    exact sound

end Step

/-- The denylist answers before the token's exp has passed. -/
def AccessSetup.Prompt (setup : AccessSetup Call Verifier) (verifier : Verifier)
    (state : AccessState Call Verifier) (action : AccessAction Call Verifier) : Prop :=
  action = .isAccessTokenRevoked verifier →
    state.service.now ≤ (setup.token verifier).exp * 1000

section Refusal

variable {setup : AccessSetup Call Verifier} {state following : AccessState Call Verifier}
  {action : AccessAction Call Verifier} {call : Call} {refresh : Option ParsedRefreshToken}
  {access : AccessTokenPayload} {verifier : Verifier}

/-- The token either fails the check of exp or is found in the denylist. -/
theorem AccessSetup.refuses_step (sound : setup.service.Sound state.service)
    (revoking : setup.service.operation call = .revoke refresh (some access))
    (sameToken : (setup.token verifier).jti = access.jti)
    (denied : state.service.Denied access)
    (refuses : state.service.Refuses access (state.verifications verifier))
    (prompt : setup.Prompt verifier state action)
    (stepped : setup.step state action = some following) :
    following.service.Refuses access (following.verifications verifier) := by
  have payload := setup.genuine call refresh access revoking verifier sameToken
  have expiry : (setup.token verifier).exp = access.exp := congrArg AccessTokenPayload.exp payload
  rcases setup.moved stepped with ⟨service, moves, rfl⟩ | ⟨other, verification, verifies, rfl⟩
  · exact refuses.grow (setup.retains sound moves) revoking
  · by_cases same : verifier = other
    · subst same
      rw [AccessState.settle_self]
      cases verifies with
      | checks genuine =>
          rcases denied with expired | listed
          · simp only [AccessToken.verifies, decide_eq_true_eq] at genuine
            omega
          · exact listed
      | expires => rfl
      | denies => rfl
      | passes checking absent =>
          rw [checking] at refuses
          have listed : state.service.Listed access := refuses
          have before := prompt rfl
          rw [expiry] at before
          rw [sameToken, listed.revoked before] at absent
          cases absent
      | resolves resolving =>
          rw [resolving] at refuses
          cases refuses
    · rwa [AccessState.settle_of_ne same]

end Refusal

/-- From the return of a logout on, no refresh token of the family would be rotated, and no
rotateAuthSession of it returns that has not returned by then. -/
def AccessSetup.FamilyFinal (setup : AccessSetup Call Verifier) : Prop :=
  ∀ state, setup.system.Reachable anyAction state → ∀ call refresh access,
    setup.service.operation call = .revoke (some refresh) access →
    state.service.calls call = .returned →
    ∀ actions later, setup.system.Run anyAction state actions later →
      (∀ input, input.familyId = refresh.familyId → ¬later.service.Rotates input) ∧
      ∀ other parsed user, setup.service.operation other = .rotateAuthSession parsed user →
        parsed.familyId = refresh.familyId → later.service.calls other = .returned →
        state.service.calls other = .returned

/-- A verification of the access token that is called from then on finds nobody, in any
later run whose steps are allowed. -/
def AccessSetup.TokenFinal (setup : AccessSetup Call Verifier)
    (allowed : Verifier → AccessState Call Verifier → AccessAction Call Verifier → Prop) : Prop :=
  ∀ state, setup.system.Reachable anyAction state → ∀ call refresh access,
    setup.service.operation call = .revoke (some refresh) (some access) →
    state.service.calls call = .returned →
    ∀ verifier, (setup.token verifier).jti = access.jti →
      state.verifications verifier = .ready →
      ∀ actions later, setup.system.Run (allowed verifier) state actions later →
        ∀ user, later.verifications verifier ≠ .returned (some user)

def AccessAction.caller : AccessAction Call Verifier → Option Call
  | .service (.start call) | .service (.command call) | .receive call => some call
  | _ => none

/-- No step of a logout that throws for tokens of different users has changed a key. -/
def AccessSetup.MismatchWritesNothing (setup : AccessSetup Call Verifier) : Prop :=
  ∀ before action after call, setup.step before action = some after →
    action.caller = some call →
    ∀ actions later, setup.system.Run anyAction after actions later →
      later.service.calls call = .thrown tokensOfDifferentUsers →
      after.service.store = before.service.store

def AccessSetup.LogoutFinal (setup : AccessSetup Call Verifier)
    (allowed : Verifier → AccessState Call Verifier → AccessAction Call Verifier → Prop) : Prop :=
  setup.FamilyFinal ∧ setup.TokenFinal allowed ∧ setup.MismatchWritesNothing

theorem AccessSetup.sound_of_reachable {setup : AccessSetup Call Verifier}
    {state : AccessState Call Verifier} (reached : setup.system.Reachable anyAction state) :
    setup.service.Sound state.service := by
  apply reached.invariant
  · intro initial found
    obtain ⟨service, _⟩ := found
    have coherent : setup.service.Coherent initial.service :=
      setup.service.coherent_of_reachable ⟨_, [], service, .nil⟩
    obtain ⟨_, calls, _⟩ := service
    refine ⟨coherent, ?_⟩
    intro call
    rw [calls]
    exact ⟨fun _ _ _ => trivial, fun _ _ _ => nofun⟩
  · intro before action after sound _ stepped
    exact setup.sound_step sound stepped

/-- What a move can do to one call. -/
theorem Setup.Moves.call_cases {setup : Setup Call} {state following : State Call}
    (moves : setup.Moves state following) (call : Call) :
    following.calls call = state.calls call ∨
      (state.calls call = .ready ∧ following.calls call = setup.start state.issued call) ∨
      (∃ await progress after left, state.calls call = .awaiting await progress ∧
        progress.next state.now state.store = some (after, left) ∧
        following.calls call = setup.proceed state.now call await left) ∨
      ∃ refresh access, setup.operation call = .revoke refresh (some access) ∧
        (∃ await progress, state.calls call = .awaiting await progress) ∧
        following.calls call = setup.resume state.now call .first .done := by
  rcases moves with ⟨action, stepped⟩ | ⟨moved, received⟩
  · cases Setup.stepped_of_step stepped with
    | advances milliseconds => exact .inl rfl
    | @starts moved ready =>
        by_cases same : call = moved
        · subst same
          exact .inr (.inl ⟨ready, Function.update_self _ _ _⟩)
        · exact .inl (Function.update_of_ne same _ _)
    | @receives moved await progress left after waiting sent =>
        by_cases same : call = moved
        · subst same
          exact .inr (.inr (.inl
            ⟨await, progress, after, left, waiting, sent, Function.update_self _ _ _⟩))
        · exact .inl (Function.update_of_ne same _ _)
  · obtain ⟨refresh, access, tokenId, ttlSeconds, revoking, waiting, rfl⟩ :=
      setup.receive_cases received
    by_cases same : call = moved
    · subst same
      exact .inr (.inr (.inr
        ⟨refresh, access, revoking, ⟨_, _, waiting⟩, Function.update_self _ _ _⟩))
    · exact .inl (Function.update_of_ne same _ _)

/-- A rotation of a revoked family is refused. -/
theorem Setup.Moves.returned_before {setup : Setup Call} {state following : State Call}
    (moves : setup.Moves state following) (coherent : setup.Coherent state) {call : Call}
    {parsed : ParsedRefreshToken} {user : CurrentUser}
    (rotating : setup.operation call = .rotateAuthSession parsed user)
    (revoked : parsed.familyId ∈ state.revoked) (returned : following.calls call = .returned) :
    state.calls call = .returned := by
  rcases moves.call_cases call with same | ⟨_, started⟩ |
    ⟨await, progress, after, left, waiting, sent, proceeded⟩ | ⟨_, _, revoking, _, _⟩
  · exact same.symm.trans returned
  · rw [started] at returned
    simp only [Setup.start, rotating] at returned
    split at returned
    · cases returned
    · cases returned
  · rw [proceeded] at returned
    have known := coherent.calls call
    rw [waiting] at known
    cases known.1.rotate_returns rotating sent returned
    obtain ⟨_, _, _, rfl, _⟩ := known.1.rotates _ rfl
    have dead : state.store.rotates state.now (setup.rotateInput call parsed) = false :=
      JwtStore.not_rotates_of_dead (coherent.revoked _ revoked).1
    rcases Progress.next_rotating sent with ⟨rotates, _⟩ | ⟨_, _, rfl⟩
    · rw [dead] at rotates
      cases rotates
    · simp only [Setup.proceed, Setup.resume, rotating] at returned
      rw [if_neg (by decide)] at returned
      cases returned
  · rw [rotating] at revoking
    cases revoking

theorem AccessSetup.grows_of_run {setup : AccessSetup Call Verifier}
    {state later : AccessState Call Verifier} {actions : List (AccessAction Call Verifier)}
    (run : setup.system.Run anyAction state actions later) :
    state.service.Grows later.service := by
  apply run.relates
  · exact fun state => .refl state.service
  · exact fun _ _ _ earlier later => earlier.trans later
  · intro before action after _ stepped
    rcases setup.service_of_step stepped with moves | same
    · exact moves.grows
    · rw [same]
      exact .refl _

theorem AccessSetup.familyFinal (setup : AccessSetup Call Verifier) : setup.FamilyFinal := by
  intro state reached call refresh access revoking returned actions later run
  have closed : refresh.familyId ∈ state.service.revoked := by
    have closing := (setup.sound_of_reachable reached).closing call
    rw [returned] at closing
    exact (closing.logout refresh access revoking).1
  constructor
  · intro input same granted
    have revoked := (setup.grows_of_run run).revoked _ closed
    rw [← same] at revoked
    have dead := ((setup.sound_of_reachable (reached.extend run)).coherent.revoked _ revoked).1
    rw [State.rotates_iff, JwtStore.not_rotates_of_dead dead] at granted
    cases granted
  · intro other parsed user rotating same finished
    by_contra running
    obtain ⟨earlier, _, before, action, after, run', _, stepped, waiting, left, _⟩ :=
      run.entered (fun current => current.service.calls other = .returned) running finished
    rcases setup.service_of_step stepped with moves | unmoved
    · have revoked := (setup.grows_of_run run').revoked _ closed
      rw [← same] at revoked
      exact waiting (moves.returned_before
        (setup.sound_of_reachable (reached.extend run')).coherent rotating revoked left)
    · rw [unmoved] at left
      exact waiting left

theorem AccessSetup.tokenFinal (setup : AccessSetup Call Verifier) :
    setup.TokenFinal setup.Prompt := by
  intro state reached call refresh access revoking returned verifier sameToken ready
  have sound := setup.sound_of_reachable reached
  have refuses : ∀ actions later, setup.system.Run (setup.Prompt verifier) state actions later →
      later.service.Refuses access (later.verifications verifier) := by
    intro actions later run
    induction run with
    | nil =>
        rw [ready]
        trivial
    | @snoc actions action before after run prompt stepped ih =>
        have run' := run.weaken fun _ _ _ => trivial
        have sound := setup.sound_of_reachable (reached.extend run')
        have closing := sound.closing call
        rw [(setup.grows_of_run run').returned call returned] at closing
        exact setup.refuses_step sound revoking sameToken
          ((closing.logout refresh _ revoking).2 access rfl) ih prompt stepped
  intro actions later run user found
  have last := refuses actions later run
  rw [found] at last
  cases last

/-- The call is past the checks that revoke makes before its first command. -/
def Phase.Checked (phase : Phase) : Prop :=
  phase ≠ .ready ∧ phase ≠ .thrown tokensOfDifferentUsers

omit [DecidableEq Call] in
theorem Setup.checked_resume (setup : Setup Call) (now : Nat) (call : Call) (await : Await)
    (reply : Reply) : (setup.resume now call await reply).Checked := by
  unfold Setup.resume
  split
  · split
    · exact ⟨nofun, nofun⟩
    · exact ⟨nofun, nofun⟩
  · exact ⟨nofun, by decide⟩
  · split
    · exact ⟨nofun, nofun⟩
    · exact ⟨nofun, nofun⟩
  · exact ⟨nofun, nofun⟩

omit [DecidableEq Call] in
theorem Setup.checked_proceed (setup : Setup Call) (now : Nat) (call : Call) (await : Await)
    (left : Progress) : (setup.proceed now call await left).Checked := by
  unfold Setup.proceed
  split
  · exact setup.checked_resume now call await _
  · exact ⟨nofun, nofun⟩

theorem Setup.Moves.checked {setup : Setup Call} {state following : State Call}
    (moves : setup.Moves state following) {call : Call} (checked : (state.calls call).Checked) :
    (following.calls call).Checked := by
  rcases moves.call_cases call with same | ⟨ready, _⟩ | ⟨_, _, _, _, _, _, proceeded⟩ |
    ⟨_, _, _, _, resumed⟩
  · rwa [same]
  · exact absurd ready checked.1
  · rw [proceeded]
    exact setup.checked_proceed _ _ _ _
  · rw [resumed]
    exact setup.checked_resume _ _ _ _

theorem AccessSetup.mismatchWritesNothing (setup : AccessSetup Call Verifier) :
    setup.MismatchWritesNothing := by
  intro before action after call stepped caller actions later run thrown
  have unchecked : ¬(after.service.calls call).Checked := by
    intro checked
    have last : (later.service.calls call).Checked := by
      apply run.preserves
      · intro current action following checked _ stepped
        rcases setup.service_of_step stepped with moves | same
        · exact moves.checked checked
        · rwa [same]
      · exact checked
    exact last.2 thrown
  cases action with
  | service inner =>
      cases inner with
      | advance milliseconds => cases caller
      | start started =>
          obtain ⟨service, moved, rfl⟩ := Option.map_eq_some_iff.mp stepped
          simp only [Setup.step] at moved
          split at moved
          · cases moved
            rfl
          · cases moved
      | command sender =>
          cases caller
          obtain ⟨service, moved, rfl⟩ := Option.map_eq_some_iff.mp stepped
          simp only [Setup.step] at moved
          split at moved
          · obtain ⟨⟨store, left⟩, sent, rfl⟩ := Option.map_eq_some_iff.mp moved
            refine absurd ?_ unchecked
            change (Function.update before.service.calls call _ call).Checked
            rw [Function.update_self]
            exact setup.service.checked_proceed _ _ _ _
          · cases moved
  | receive receiver =>
      obtain ⟨service, moved, rfl⟩ := Option.map_eq_some_iff.mp stepped
      obtain ⟨_, _, _, _, _, _, rfl⟩ := setup.service.receive_cases moved
      rfl
  | verifyAccessToken | isAccessTokenRevoked | resolveAccessUser => cases caller

/-- Of a verification that is called after a logout has returned, in every run in which the
denylist answers it before the token's exp has passed. -/
theorem logoutFinal_of_prompt (setup : AccessSetup Call Verifier) :
    setup.LogoutFinal setup.Prompt :=
  ⟨setup.familyFinal, setup.tokenFinal, setup.mismatchWritesNothing⟩

def loggedIn : CurrentUser :=
  { id := "u1"
    email := "user@example.com"
    roles := ["user"]
    authVersion := 0 }

/-- What a login at time 0 signs for fifteen minutes. -/
def quarterHour : AccessToken :=
  { user := loggedIn
    jti := "a0"
    exp := 900 }

/-- A login, and the logout with both of its tokens. -/
def loginAndLogout : Setup (Fin 4) :=
  { replayedToken with
    operation := fun call =>
      if call.val = 0 then .createAuthSession loggedIn
      else .revoke
        (some
          { userId := "u1"
            familyId := "f0"
            tokenId := "t0"
            authVersion := 0 })
        (some quarterHour.payload) }

theorem presented_at_logout {call : Fin 4} {refresh : Option ParsedRefreshToken}
    {access : AccessTokenPayload}
    (revoking : loginAndLogout.operation call = .revoke refresh (some access)) :
    access = quarterHour.payload := by
  simp only [loginAndLogout] at revoking
  split at revoking
  · cases revoking
  · cases revoking
    rfl

def lateLookup : AccessSetup (Fin 4) Unit :=
  { service := loginAndLogout
    token := fun _ => quarterHour
    resolvesAccessUser := false
    genuine := fun _ _ _ revoking _ _ => (presented_at_logout revoking).symm
    genuineRevoke := fun _ _ _ _ _ _ revoking revoking' _ =>
      (presented_at_logout revoking).trans (presented_at_logout revoking').symm }

/-- The token passes the check of exp in its last millisecond, and is looked up when the
entry has just expired. -/
theorem not_logoutFinal : ¬lateLookup.LogoutFinal fun _ => anyAction := by
  intro found
  obtain ⟨_, final, _⟩ := found
  let start : AccessState (Fin 4) Unit :=
    { service :=
        { now := 0
          store := .empty
          calls := fun _ => .ready
          issued := []
          rotated := []
          revoked := [] }
      verifications := fun _ => .ready }
  have executed :
      ((lateLookup.system.execute (fun _ _ => true) start
        [.service (.start 0), .service (.command 0), .service (.start 1), .service (.command 1),
          .service (.command 1)]).bind fun before =>
          (lateLookup.system.execute (fun _ _ => true) before
            [.service (.advance 899999), .verifyAccessToken (), .service (.advance 2),
              .isAccessTokenRevoked ()]).map fun after =>
              (before.service.calls 1, before.verifications (), after.verifications ())) =
      some (.returned, .ready, .returned (some loggedIn)) := by decide +kernel
  obtain ⟨before, run, executed'⟩ := Option.bind_eq_some_iff.mp executed
  obtain ⟨after, run', facts⟩ := Option.map_eq_some_iff.mp executed'
  simp only [Prod.mk.injEq] at facts
  obtain ⟨returned, ready, verified⟩ := facts
  exact final before
    (.of_execute (fun _ _ _ => trivial) ⟨⟨rfl, rfl, rfl, rfl, rfl⟩, rfl⟩ run) 1 _ _ rfl returned
    () rfl ready _ after (.of_execute (fun _ _ _ => trivial) run') loggedIn verified

end BackendFoundation.Auth
