/-
Refresh-token rotation is single-use with reuse detection.

Reuse is detected after a rotation has failed, by a second script; a legitimate rotation
may come in between. What the law rests on is who can bring a key into being: a token is
stored by its own call alone, and a family only by its save, before any token of it is
handed out.
-/

import BackendFoundation.Auth.TokenService
import Mathlib.Data.List.Nodup

namespace BackendFoundation.Auth

open Transition Redis

variable {Call : Type}

/-- The call that has drawn the token id has returned. -/
def Setup.Stored (setup : Setup Call) (state : State Call) (id : String) : Prop :=
  ∃ call, setup.tokenId call = id ∧ state.calls call = .returned

/-- The family has been saved, by a login that has returned. -/
def Setup.Founded (setup : Setup Call) (state : State Call) (familyId : String) : Prop :=
  ∃ call user, setup.operation call = .createAuthSession user ∧
    setup.familyId call = familyId ∧ state.calls call = .returned

/-- The commands of a call are those of its operation. -/
structure Setup.Own (setup : Setup Call) (call : Call) (await : Await) (progress : Progress) :
    Prop where
  saves : ∀ input, progress = .saving input →
    ∃ user, setup.operation call = .createAuthSession user ∧ input = setup.saveInput call user
  rotates : ∀ input, progress = .rotating input → ∃ parsed user,
    setup.operation call = .rotateAuthSession parsed user ∧ await = .first ∧
      input = setup.rotateInput call parsed
  first : ∀ parsed user, setup.operation call = .rotateAuthSession parsed user →
    await = .first → progress = .rotating (setup.rotateInput call parsed)
  second : ∀ parsed user, setup.operation call = .rotateAuthSession parsed user →
    await = .second → progress = .revokingFamily parsed.familyId

/-- What is known of a call at its program point. -/
def Setup.CallKnown (setup : Setup Call) (state : State Call) (call : Call) : Phase → Prop
  | .awaiting await progress => setup.Own call await progress ∧
      ∀ familyId, progress.Names familyId → setup.Founded state familyId
  | .thrown error => error = refreshTokenUsedOrRevoked → ∀ parsed user,
      setup.operation call = .rotateAuthSession parsed user → parsed.familyId ∈ state.revoked
  | _ => True

structure Setup.Coherent (setup : Setup Call) (state : State Call) : Prop where
  calls : ∀ call, setup.CallKnown state call (state.calls call)
  tokens : ∀ id cell, state.store.token id = some cell → setup.Stored state id
  rotated : ∀ id ∈ state.rotated, state.store.token id = none ∧ setup.Stored state id
  once : state.rotated.Nodup
  issued : ∀ parsed ∈ state.issued, setup.Founded state parsed.familyId
  indexed : ∀ userId familyId, (state.store.index userId).Holds familyId →
    setup.Founded state familyId
  revoked : ∀ familyId ∈ state.revoked,
    (state.store.family familyId).live state.now = none ∧ setup.Founded state familyId

/-- Calls that have returned and families that are revoked stay so. -/
structure State.Grows (state following : State Call) : Prop where
  returned : ∀ call, state.calls call = .returned → following.calls call = .returned
  revoked : ∀ familyId ∈ state.revoked, familyId ∈ following.revoked

section Growth

variable {setup : Setup Call} {state following : State Call}

theorem State.Grows.refl (state : State Call) : state.Grows state :=
  ⟨fun _ returned => returned, fun _ revoked => revoked⟩

theorem State.Grows.trans {later : State Call} (first : state.Grows following)
    (second : following.Grows later) : state.Grows later :=
  ⟨fun call returned => second.returned call (first.returned call returned),
    fun familyId revoked => second.revoked familyId (first.revoked familyId revoked)⟩

theorem Setup.Stored.grow {id : String} (stored : setup.Stored state id)
    (grows : state.Grows following) : setup.Stored following id := by
  obtain ⟨call, drawn, returned⟩ := stored
  exact ⟨call, drawn, grows.returned call returned⟩

theorem Setup.Founded.grow {familyId : String} (founded : setup.Founded state familyId)
    (grows : state.Grows following) : setup.Founded following familyId := by
  obtain ⟨call, user, created, drawn, returned⟩ := founded
  exact ⟨call, user, created, drawn, grows.returned call returned⟩

theorem Setup.CallKnown.grow {call : Call} {phase : Phase}
    (known : setup.CallKnown state call phase) (grows : state.Grows following) :
    setup.CallKnown following call phase := by
  cases phase with
  | awaiting await progress =>
      exact ⟨known.1, fun familyId named => (known.2 familyId named).grow grows⟩
  | thrown error =>
      intro same parsed user rotating
      exact grows.revoked _ (known same parsed user rotating)
  | ready | returned => trivial

/-- Ids that two calls have drawn are different. -/
theorem Setup.Stored.ne_of_awaiting {id : String} {call : Call}
    (stored : setup.Stored state id) (running : state.calls call ≠ .returned) :
    setup.tokenId call ≠ id := by
  obtain ⟨other, rfl, returned⟩ := stored
  intro same
  rw [setup.freshToken same] at running
  exact running returned

theorem Setup.Founded.ne_of_awaiting {familyId : String} {call : Call}
    (founded : setup.Founded state familyId) (running : state.calls call ≠ .returned) :
    setup.familyId call ≠ familyId := by
  obtain ⟨other, user, _, rfl, returned⟩ := founded
  intro same
  rw [setup.freshFamily same] at running
  exact running returned

end Growth

section Calls

variable {setup : Setup Call} {state : State Call} {call : Call} {now : Nat}
  {store after : JwtStore} {await : Await} {progress left : Progress}

/-- The script of a save, or of a rotation that is granted, is the last command. -/
theorem Setup.Own.puts_returns (own : setup.Own call await progress)
    (sent : progress.next now store = some (after, left)) {id : String}
    (puts : progress.Puts left id) :
    setup.tokenId call = id ∧ setup.proceed now call await left = .returned := by
  cases progress with
  | saving input =>
      cases sent
      obtain ⟨user, created, rfl⟩ := own.saves input rfl
      refine ⟨puts, ?_⟩
      simp only [Setup.proceed, Setup.resume, created]
  | rotating input =>
      obtain ⟨parsed, user, rotating, rfl, rfl⟩ := own.rotates input rfl
      rcases Progress.next_rotating sent with ⟨_, rfl, rfl⟩ | ⟨_, rfl, rfl⟩
      · refine ⟨puts, ?_⟩
        simp only [Setup.proceed, Setup.resume, rotating, if_true]
      · cases puts
  | revokingFamily | revokingEach | listing | denylisting | returned => cases puts

theorem Setup.Own.saves_returns (own : setup.Own call await progress)
    (sent : progress.next now store = some (after, left)) {familyId : String}
    (saves : progress.Saves familyId) :
    (∃ user, setup.operation call = .createAuthSession user) ∧
      setup.familyId call = familyId ∧ setup.proceed now call await left = .returned := by
  cases progress with
  | saving input =>
      cases sent
      obtain ⟨user, created, rfl⟩ := own.saves input rfl
      refine ⟨⟨user, created⟩, saves, ?_⟩
      simp only [Setup.proceed, Setup.resume, created]
  | rotating | revokingFamily | revokingEach | listing | denylisting | returned => cases saves

/-- A rotateAuthSession call returns through a granted rotation only. -/
theorem Setup.Own.rotate_returns (own : setup.Own call await progress)
    {parsed : ParsedRefreshToken} {user : CurrentUser}
    (rotating : setup.operation call = .rotateAuthSession parsed user)
    (sent : progress.next now store = some (after, left))
    (returned : setup.proceed now call await left = .returned) :
    progress = .rotating (setup.rotateInput call parsed) := by
  cases await with
  | first => exact own.first parsed user rotating rfl
  | second =>
      cases own.second parsed user rotating rfl
      cases sent
      simp only [Setup.proceed, Setup.resume, rotating] at returned
      cases returned

/-- Of the calls that rotate nothing. -/
theorem Setup.Own.of_other
    (other : ∀ parsed user, setup.operation call ≠ .rotateAuthSession parsed user)
    (unsaved : ∀ input, progress ≠ .saving input)
    (unrotated : ∀ input, progress ≠ .rotating input) : setup.Own call await progress :=
  { saves := fun input same => absurd same (unsaved input)
    rotates := fun input same => absurd same (unrotated input)
    first := fun parsed user rotating => absurd rotating (other parsed user)
    second := fun parsed user rotating => absurd rotating (other parsed user) }

theorem Setup.callKnown_start (coherent : setup.Coherent state) :
    setup.CallKnown state call (setup.start state.issued call) := by
  unfold Setup.start
  split
  · rename_i user created
    refine ⟨?_, fun _ named => nomatch named⟩
    constructor
    · intro input same
      cases same
      exact ⟨user, created, rfl⟩
    · intro input same
      cases same
    · intro parsed user' rotating
      rw [created] at rotating
      cases rotating
    · intro parsed user' rotating
      rw [created] at rotating
      cases rotating
  · rename_i parsed user rotating
    split
    · rename_i handedOut
      constructor
      · constructor
        · intro input same
          cases same
        · intro input same
          cases same
          exact ⟨parsed, user, rotating, rfl, rfl⟩
        · intro other user' rotating' _
          rw [rotating] at rotating'
          cases rotating'
          rfl
        · intro other user' _ impossible
          cases impossible
      · intro familyId equal
        subst equal
        exact coherent.issued parsed handedOut
    · exact fun impossible => absurd impossible (by decide)
  · exact fun impossible => absurd impossible (by decide)
  · rename_i refresh access revoking
    split
    · exact fun impossible => absurd impossible (by decide)
    · rename_i handedOut
      split
      · exact fun impossible => absurd impossible (by decide)
      · constructor
        · refine .of_other ?_ (fun _ => nofun) (fun _ => nofun)
          rw [revoking]
          exact fun _ _ => nofun
        · intro familyId equal
          subst equal
          exact coherent.issued refresh (not_not.mp handedOut)
  · rename_i userId revoking
    refine ⟨.of_other ?_ (fun _ => nofun) (fun _ => nofun), fun _ named => nomatch named⟩
    rw [revoking]
    exact fun _ _ => nofun

theorem Setup.callKnown_resume
    (other : ∀ parsed user, setup.operation call ≠ .rotateAuthSession parsed user)
    (reply : Reply) : setup.CallKnown state call (setup.resume now call await reply) := by
  unfold Setup.resume
  split
  · exact absurd ‹_› (other _ _)
  · exact absurd ‹_› (other _ _)
  · rename_i access _
    rcases StoreCall.start_revokeAccessToken access.jti (getRemainingTtlSeconds now access.exp)
      with expired | running
    · rw [expired]
      trivial
    · rw [running]
      exact ⟨.of_other other (fun _ => nofun) (fun _ => nofun), fun _ named => nomatch named⟩
  · trivial

/-- The program point after a command. -/
theorem Setup.callKnown_proceed {following : State Call}
    (known : setup.CallKnown state call (.awaiting await progress))
    (indexed : ∀ userId familyId, (store.index userId).Holds familyId →
      setup.Founded state familyId)
    (grows : state.Grows following)
    (recorded : ∀ familyId ∈ progress.revokes, familyId ∈ following.revoked)
    (sent : progress.next now store = some (after, left)) :
    setup.CallKnown following call (setup.proceed now call await left) := by
  obtain ⟨own, named⟩ := known
  have rotating_or : (∀ input, progress ≠ .rotating input) →
      (∀ familyId, progress ≠ .revokingFamily familyId) →
      ∀ parsed user, setup.operation call ≠ .rotateAuthSession parsed user := by
    intro unrotated unrevoked parsed user rotating
    cases await with
    | first => exact unrotated _ (own.first parsed user rotating rfl)
    | second => exact unrevoked _ (own.second parsed user rotating rfl)
  -- Only a purge has more than one command.
  have purges : ∀ userId pending, left = .revokingEach userId pending →
      (∀ input, progress ≠ .rotating input) →
      (∀ familyId, progress ≠ .revokingFamily familyId) →
      setup.CallKnown following call (.awaiting await left) := by
    intro userId pending equal unrotated unrevoked
    subst equal
    refine ⟨.of_other (rotating_or unrotated unrevoked) (fun _ => nofun) (fun _ => nofun), ?_⟩
    intro familyId names
    rcases Progress.next_names sent names with before | ⟨owner, held⟩
    · exact (named familyId before).grow grows
    · exact (indexed owner familyId held).grow grows
  cases progress with
  | saving input =>
      cases sent
      obtain ⟨user, created, rfl⟩ := own.saves input rfl
      simp only [Setup.proceed, Setup.resume, created]
      trivial
  | rotating input =>
      obtain ⟨parsed, user, rotating, rfl, rfl⟩ := own.rotates input rfl
      rcases Progress.next_rotating sent with ⟨_, rfl, rfl⟩ | ⟨_, rfl, rfl⟩
      · simp only [Setup.proceed, Setup.resume, rotating, if_true]
        trivial
      · simp only [Setup.proceed, Setup.resume, rotating]
        rw [if_neg (by decide)]
        constructor
        · constructor
          · exact fun _ => nofun
          · exact fun _ => nofun
          · exact fun _ _ _ => nofun
          · intro other user' rotating' _
            rw [rotating] at rotating'
            cases rotating'
            rfl
        · intro familyId equal
          subst equal
          exact (named _ rfl).grow grows
  | revokingFamily familyId =>
      cases sent
      unfold Setup.proceed
      by_cases rotating : ∃ parsed user, setup.operation call = .rotateAuthSession parsed user
      · obtain ⟨parsed, user, rotating⟩ := rotating
        cases await with
        | first => cases own.first parsed user rotating rfl
        | second =>
            simp only [Setup.resume, rotating]
            intro _ other user' rotating'
            rw [rotating] at rotating'
            cases rotating'
            cases own.second parsed user rotating rfl
            exact recorded _ (List.mem_singleton.mpr rfl)
      · exact setup.callKnown_resume (fun parsed user same => rotating ⟨parsed, user, same⟩) _
  | listing userId =>
      cases sent
      exact purges _ _ rfl (fun _ => nofun) (fun _ => nofun)
  | revokingEach userId pending =>
      cases pending with
      | nil =>
          cases sent
          exact setup.callKnown_resume (rotating_or (fun _ => nofun) (fun _ => nofun)) _
      | cons familyId rest =>
          cases sent
          exact purges _ _ rfl (fun _ => nofun) (fun _ => nofun)
  | denylisting tokenId ttlSeconds =>
      cases sent
      exact setup.callKnown_resume (rotating_or (fun _ => nofun) (fun _ => nofun)) _
  | returned reply => cases sent

end Calls

variable [DecidableEq Call]

theorem State.goto_grows {state following : State Call} {call : Call} {phase : Phase}
    (running : state.calls call ≠ .returned)
    (calls : following.calls = (state.goto call phase).calls)
    (revoked : ∀ familyId ∈ state.revoked, familyId ∈ following.revoked) :
    state.Grows following := by
  refine ⟨?_, revoked⟩
  intro other returned
  have different : other ≠ call := by
    intro same
    subst same
    exact running returned
  rw [calls]
  exact (Function.update_of_ne different _ _).trans returned

/-- One call has moved; the others are where they were. -/
theorem Setup.Coherent.calls_goto {setup : Setup Call} {state following : State Call}
    (coherent : setup.Coherent state) {call : Call} {phase : Phase}
    (grows : state.Grows following) (calls : following.calls = (state.goto call phase).calls)
    (known : setup.CallKnown following call phase) (other : Call) :
    setup.CallKnown following other (following.calls other) := by
  rw [calls]
  by_cases same : other = call
  · subst same
    change setup.CallKnown following other (Function.update state.calls other phase other)
    rwa [Function.update_self]
  · change setup.CallKnown following other (Function.update state.calls call phase other)
    rw [Function.update_of_ne same]
    exact (coherent.calls other).grow grows

section Step

variable {setup : Setup Call} {state following : State Call}

theorem State.grows_receive {call : Call} {await : Await} {progress left : Progress}
    {after : JwtStore} (waiting : state.calls call = .awaiting await progress) :
    state.Grows (state.receive setup call await progress after left) := by
  refine state.goto_grows ?_ rfl fun familyId earlier => List.mem_append_right _ earlier
  rw [waiting]
  exact nofun

theorem State.grows_step {action : Action Call}
    (stepped : setup.step state action = some following) : state.Grows following := by
  cases Setup.stepped_of_step stepped with
  | advances milliseconds => exact ⟨fun _ returned => returned, fun _ revoked => revoked⟩
  | starts ready =>
      refine state.goto_grows ?_ rfl fun _ revoked => revoked
      rw [ready]
      exact nofun
  | receives waiting sent => exact state.grows_receive waiting

theorem Setup.Coherent.receive (coherent : setup.Coherent state) {call : Call} {await : Await}
    {progress left : Progress} {after : JwtStore}
    (waiting : state.calls call = .awaiting await progress)
    (sent : progress.next state.now state.store = some (after, left)) :
    setup.Coherent (state.receive setup call await progress after left) := by
  have running : state.calls call ≠ .returned := by
    rw [waiting]
    exact nofun
  have known := coherent.calls call
  rw [waiting] at known
  have own := known.1
  have grows : state.Grows (state.receive setup call await progress after left) :=
    state.grows_receive waiting
  have arrived : ∀ phase, setup.proceed state.now call await left = phase →
      (state.receive setup call await progress after left).calls call = phase := by
    intro phase same
    subst same
    exact Function.update_self _ _ _
  have stored : ∀ id, progress.Puts left id →
      setup.Stored (state.receive setup call await progress after left) id := by
    intro id puts
    obtain ⟨drawn, returned⟩ := own.puts_returns sent puts
    exact ⟨call, drawn, arrived _ returned⟩
  have founded : ∀ familyId, progress.Saves familyId →
      setup.Founded (state.receive setup call await progress after left) familyId := by
    intro familyId saves
    obtain ⟨⟨user, created⟩, drawn, returned⟩ := own.saves_returns sent saves
    exact ⟨call, user, created, drawn, arrived _ returned⟩
  -- A token that is gone has been stored by a call that has returned, so not by this one.
  have kept : ∀ id, setup.Stored state id →
      (∀ cell, after.token id = some cell → progress.Puts left id) → after.token id = none := by
    intro id earlier only
    apply Option.eq_none_iff_forall_ne_some.mpr
    intro cell present
    exact earlier.ne_of_awaiting running (own.puts_returns sent (only cell present)).1
  constructor
  · refine coherent.calls_goto grows rfl (setup.callKnown_proceed known coherent.indexed grows
      ?_ sent)
    exact fun familyId revokes => List.mem_append_left _ revokes
  · intro id cell present
    rcases Progress.next_token sent present with before | puts
    · exact (coherent.tokens id cell before).grow grows
    · exact stored id puts
  · intro id spent
    rcases List.mem_append.mp spent with now | earlier
    · obtain ⟨present, only⟩ := Progress.next_spent sent now
      obtain ⟨cell, found⟩ := Option.ne_none_iff_exists'.mp present
      have before := coherent.tokens id cell found
      exact ⟨kept id before only, before.grow grows⟩
    · obtain ⟨absent, before⟩ := coherent.rotated id earlier
      refine ⟨kept id before ?_, before.grow grows⟩
      intro cell present
      rcases Progress.next_token sent present with found | puts
      · rw [absent] at found
        cases found
      · exact puts
  · refine List.nodup_append.mpr ⟨?_, coherent.once, ?_⟩
    · unfold Progress.spent
      split
      · exact List.nodup_singleton _
      · exact List.nodup_nil
    · intro id now _ earlier same
      subst same
      exact (Progress.next_spent sent now).1 (coherent.rotated id earlier).1
  · intro parsed handedOut
    rcases List.mem_append.mp handedOut with now | earlier
    · split at now
      · rename_i returned
        unfold Setup.signed at now
        split at now
        · rename_i user created
          cases List.mem_singleton.mp now
          exact ⟨call, user, created, rfl, arrived _ returned⟩
        · rename_i rotated user rotating
          cases List.mem_singleton.mp now
          cases own.rotate_returns rotating sent returned
          exact (known.2 rotated.familyId rfl).grow grows
        · cases now
      · cases now
    · exact (coherent.issued parsed earlier).grow grows
  · intro userId familyId held
    rcases Progress.next_index sent held with before | saves | names
    · exact (coherent.indexed userId familyId before).grow grows
    · exact founded familyId saves
    · exact (known.2 familyId names).grow grows
  · intro familyId revoked
    rcases List.mem_append.mp revoked with now | earlier
    · obtain ⟨dead, names⟩ := Progress.next_revokes sent now
      exact ⟨dead, (known.2 familyId names).grow grows⟩
    · obtain ⟨dead, before⟩ := coherent.revoked familyId earlier
      refine ⟨?_, before.grow grows⟩
      rcases Progress.next_family sent dead with dead | saves
      · exact dead
      · exact absurd (own.saves_returns sent saves).2.1 (before.ne_of_awaiting running)

/-- A call goes on without a command. -/
theorem Setup.Coherent.goto (coherent : setup.Coherent state) {call : Call} {phase : Phase}
    (running : state.calls call ≠ .returned) (known : setup.CallKnown state call phase) :
    setup.Coherent (state.goto call phase) := by
  have grows : state.Grows (state.goto call phase) :=
    state.goto_grows running rfl fun _ revoked => revoked
  exact
    { calls := coherent.calls_goto grows rfl (known.grow grows)
      tokens := fun id cell found => (coherent.tokens id cell found).grow grows
      rotated := fun id spent => (coherent.rotated id spent).imp_right (·.grow grows)
      once := coherent.once
      issued := fun parsed handedOut => (coherent.issued parsed handedOut).grow grows
      indexed := fun userId familyId held => (coherent.indexed userId familyId held).grow grows
      revoked := fun familyId revoked => (coherent.revoked familyId revoked).imp_right
        (·.grow grows) }

theorem Setup.Coherent.step (coherent : setup.Coherent state) {action : Action Call}
    (stepped : setup.step state action = some following) : setup.Coherent following := by
  have grows := state.grows_step stepped
  cases Setup.stepped_of_step stepped with
  | advances milliseconds =>
      exact
        { calls := fun call => (coherent.calls call).grow grows
          tokens := coherent.tokens
          rotated := coherent.rotated
          once := coherent.once
          issued := coherent.issued
          indexed := coherent.indexed
          revoked := fun familyId revoked => (coherent.revoked familyId revoked).imp_left
            (Slot.live_none_later (Nat.le_add_right _ _)) }
  | starts ready =>
      refine coherent.goto ?_ (setup.callKnown_start coherent)
      rw [ready]
      exact nofun
  | receives waiting sent => exact coherent.receive waiting sent

end Step

theorem Setup.coherent_of_reachable {setup : Setup Call} {state : State Call}
    (reached : setup.system.Reachable anyAction state) : setup.Coherent state := by
  apply reached.invariant
  · intro initial given
    obtain ⟨store, calls, issued, rotated, revoked⟩ := given
    constructor
    · intro call
      rw [calls]
      trivial
    · intro id cell found
      rw [store] at found
      cases found
    · rw [rotated]
      exact fun _ => nofun
    · rw [rotated]
      exact List.nodup_nil
    · rw [issued]
      exact fun _ => nofun
    · intro userId familyId given
      obtain ⟨cell, found, _⟩ := given
      rw [store] at found
      cases found
    · rw [revoked]
      exact fun _ => nofun
  · intro before action after coherent _ stepped
    exact coherent.step stepped

/-- rotateRefreshToken would return true. -/
def State.Rotates (state : State Call) (input : RotateRefreshTokenInput) : Prop :=
  (state.store.rotateRefreshToken state.now input).2 = true

/-- The family has been revoked, or a rotation of one of its tokens has been answered with
REFRESH_TOKEN_USED_OR_REVOKED. -/
def Setup.Closed (setup : Setup Call) (state : State Call) (familyId : String) : Prop :=
  familyId ∈ state.revoked ∨ ∃ call parsed user,
    setup.operation call = .rotateAuthSession parsed user ∧ parsed.familyId = familyId ∧
      state.calls call = .thrown refreshTokenUsedOrRevoked

/-- Of every reachable state: no token has been rotated twice, a family has at most one
token that would be, and once it is closed it has none in any later state. -/
def Setup.SingleUse (setup : Setup Call) : Prop :=
  ∀ state, setup.system.Reachable anyAction state →
    state.rotated.Nodup ∧
    (∀ first second, state.Rotates first → state.Rotates second →
      first.familyId = second.familyId → first.currentTokenId = second.currentTokenId) ∧
    ∀ familyId, setup.Closed state familyId → ∀ actions later,
      setup.system.Run anyAction state actions later →
        ∀ input, input.familyId = familyId → ¬later.Rotates input

omit [DecidableEq Call] in
theorem State.rotates_iff {state : State Call} {input : RotateRefreshTokenInput} :
    state.Rotates input ↔ state.store.rotates state.now input = true := by
  unfold State.Rotates JwtStore.rotateRefreshToken
  split
  · rename_i granted
    exact ⟨fun _ => granted, fun _ => rfl⟩
  · rename_i refused
    exact ⟨nofun, fun granted => absurd granted refused⟩

theorem Setup.grows_of_run {setup : Setup Call} {state later : State Call}
    {actions : List (Action Call)} (run : setup.system.Run anyAction state actions later) :
    state.Grows later := by
  apply run.relates
  · exact State.Grows.refl
  · exact fun _ _ _ earlier later => earlier.trans later
  · intro before action after _ stepped
    exact before.grows_step stepped

theorem singleUse_always (setup : Setup Call) : setup.SingleUse := by
  intro state reached
  have coherent := setup.coherent_of_reachable reached
  refine ⟨coherent.once, ?_, ?_⟩
  · intro first second granted granted' same
    have pointer := (JwtStore.rotates_iff.mp (State.rotates_iff.mp granted)).2
    have pointer' := (JwtStore.rotates_iff.mp (State.rotates_iff.mp granted')).2
    rw [same] at pointer
    exact Option.some.inj (pointer.symm.trans pointer')
  · intro familyId closed actions later run input equal granted
    subst equal
    have revoked : input.familyId ∈ state.revoked := by
      rcases closed with revoked | ⟨call, parsed, user, rotating, same, thrown⟩
      · exact revoked
      · have known := coherent.calls call
        rw [thrown] at known
        exact same ▸ known rfl parsed user rotating
    have dead := (setup.coherent_of_reachable (reached.extend run)).revoked _
      ((setup.grows_of_run run).revoked _ revoked)
    rw [State.rotates_iff, JwtStore.not_rotates_of_dead dead.1] at granted
    cases granted

theorem distinctFamilies : ["f0", "f1", "f2", "f3"].Nodup := by decide

theorem distinctTokens : ["t0", "t1", "t2", "t3"].Nodup := by decide

/-- A login, a rotation of its refresh token, a replay of the same token, and a rotation of
the token that the first rotation has issued. -/
def replayedToken : Setup (Fin 4) :=
  { operation := fun call =>
      let user : CurrentUser :=
        { id := "u1"
          email := "user@example.com"
          roles := ["user"]
          authVersion := 0 }
      if call = 0 then .createAuthSession user
      else .rotateAuthSession
        { userId := "u1"
          familyId := "f0"
          tokenId := if call = 3 then "t1" else "t0"
          authVersion := 0 } user
    familyId := ["f0", "f1", "f2", "f3"].get
    tokenId := ["t0", "t1", "t2", "t3"].get
    refreshTtlSeconds := fun _ => 604800
    positive := fun _ => sevenDays_pos
    freshFamily := List.nodup_iff_injective_get.mp distinctFamilies
    freshToken := List.nodup_iff_injective_get.mp distinctTokens }

/-- The replay closes the family, and the issued token is refused with it. -/
example :
    (replayedToken.system.execute (fun _ _ => true)
      { now := 0
        store := .empty
        calls := fun _ => .ready
        issued := []
        rotated := []
        revoked := [] }
      [.start 0, .command 0, .start 1, .start 2, .command 1, .command 2, .command 2, .start 3,
        .command 3, .command 3]).map
      (fun state => (state.rotated, state.revoked, state.calls 3)) =
    some (["t0"], ["f0", "f0"], .thrown refreshTokenUsedOrRevoked) := by
  decide +kernel

end BackendFoundation.Auth
