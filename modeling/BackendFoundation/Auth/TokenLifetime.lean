/-
A refresh token that still verifies is still known to Redis.

The lifetime is computed twice: the JWT expires by a clock of whole seconds, its record by
a TTL that is rounded up and starts later. So the record is the one that lasts longer, and
only a rotation or a revocation takes it away before.
-/

import BackendFoundation.Auth.Rotation
import BackendFoundation.Transition.History
import Mathlib.Algebra.Order.Floor.Semiring
import Mathlib.Data.Rat.Floor

namespace BackendFoundation.Auth

open Transition Redis

/-- ms throws, or answers undefined or a number of milliseconds. -/
abbrev Ms := String → Except String (Option Rat)

def parseDurationToSeconds (ms : Ms) (value : String) : Except String Nat :=
  match ms value with
  | .error message => .error message
  | .ok none => .error ("Invalid JWT duration: " ++ value)
  | .ok (some durationMilliseconds) =>
      if durationMilliseconds ≤ 0 then .error ("Invalid JWT duration: " ++ value)
      else .ok ⌈durationMilliseconds / 1000⌉₊

/-- iat, on a clock in milliseconds. -/
def issuedAtSeconds (signedAt : Nat) : Nat :=
  signedAt / 1000

/-- exp, as the JWT library computes it from iat. -/
def expiresAtSeconds (signedAt : Nat) (durationMilliseconds : Rat) : Int :=
  ⌊(issuedAtSeconds signedAt : Rat) + durationMilliseconds / 1000⌋

/-- A token is rejected once the clock has reached exp. -/
def Verifies (now signedAt : Nat) (durationMilliseconds : Rat) : Prop :=
  ((now / 1000 : Nat) : Int) < expiresAtSeconds signedAt durationMilliseconds

theorem expiresAtSeconds_le (signedAt : Nat) (durationMilliseconds : Rat) :
    expiresAtSeconds signedAt durationMilliseconds ≤
      (issuedAtSeconds signedAt : Int) + ⌈durationMilliseconds / 1000⌉₊ := by
  have rounded : durationMilliseconds / 1000 ≤ (⌈durationMilliseconds / 1000⌉₊ : Rat) :=
    Nat.le_ceil _
  unfold expiresAtSeconds
  rw [Int.floor_natCast_add]
  have seconds := Int.floor_le_floor rounded
  rw [Int.floor_natCast] at seconds
  omega

/-- A token that verifies is younger than the TTL. -/
theorem lt_of_verifies {now signedAt ttlSeconds : Nat} {durationMilliseconds : Rat}
    {ms : Ms} {value : String} (read : ms value = .ok (some durationMilliseconds))
    (parsed : parseDurationToSeconds ms value = .ok ttlSeconds)
    (verifies : Verifies now signedAt durationMilliseconds) :
    now < signedAt + ttlSeconds * 1000 := by
  have expires := expiresAtSeconds_le signedAt durationMilliseconds
  unfold parseDurationToSeconds at parsed
  rw [read] at parsed
  dsimp only at parsed
  split at parsed
  · cases parsed
  · cases parsed
    unfold Verifies at verifies
    unfold issuedAtSeconds at expires
    omega

section Commands

variable {now : Nat} {store after : JwtStore} {progress left : Progress}

/-- A pointer is set to the token that is saved, or to the next one of a rotation. -/
theorem Progress.next_pointer (sent : progress.next now store = some (after, left))
    {familyId : String} {pointer : Cell String}
    (stored : after.family familyId = some pointer) :
    store.family familyId = some pointer ∨
      (∃ input, progress = .saving input ∧ input.familyId = familyId ∧
        input.tokenId = pointer.value) ∨
      ∃ input, progress = .rotating input ∧ input.familyId = familyId ∧
        input.nextTokenId = pointer.value := by
  have revoked : ∀ other,
      (store.revokeRefreshTokenFamily now other).family familyId = some pointer →
        store.family familyId = some pointer := by
    intro other found
    rw [JwtStore.family_revoke] at found
    by_cases same : familyId = other
    · rw [same, Function.update_self] at found
      cases found
    · rwa [Function.update_of_ne same] at found
  cases Progress.sent_of_next sent with
  | saves input =>
      by_cases same : familyId = input.familyId
      · subst same
        change Function.update store.family _ _ _ = some pointer at stored
        rw [Function.update_self] at stored
        cases stored
        exact Or.inr (Or.inl ⟨input, rfl, rfl, rfl⟩)
      · left
        simpa [JwtStore.saveRefreshToken, Function.update_of_ne same] using stored
  | @rotates input granted =>
      by_cases same : familyId = input.familyId
      · subst same
        change Function.update store.family _ _ _ = some pointer at stored
        rw [Function.update_self] at stored
        cases stored
        exact Or.inr (Or.inr ⟨input, rfl, rfl, rfl⟩)
      · left
        simpa [JwtStore.replaceToken, Function.update_of_ne same] using stored
  | @revokesFamily _ _ other => exact Or.inl (revoked other stored)
  | refuses | lists | clears | denylists => exact Or.inl stored

variable {tokenId familyId : String} {pointer : Cell String}

/-- Revoking another family leaves a token alone to which that family does not point. -/
theorem JwtStore.revoke_keeps {other : String} (different : familyId ≠ other)
    (own : ∀ pointer, store.family other = some pointer → pointer.value ≠ tokenId) :
    (store.revokeRefreshTokenFamily now other).token tokenId = store.token tokenId ∧
      (store.revokeRefreshTokenFamily now other).family familyId = store.family familyId := by
  constructor
  · unfold revokeRefreshTokenFamily
    split
    · rfl
    · rename_i currentTokenId current
      obtain ⟨pointer, alive, same⟩ := Slot.get_eq_some_iff.mp current
      have apart : tokenId ≠ currentTokenId := by
        intro equal
        exact own pointer (Slot.live_some_iff.mp alive).1 (same.trans equal.symm)
      exact Function.update_of_ne apart _ _
  · rw [JwtStore.family_revoke]
    exact Function.update_of_ne different _ _

/-- The current token of a family and the pointer to it stay as they are, unless the
command saves one of them anew, rotates the token or revokes the family. -/
theorem Progress.next_keeps (sent : progress.next now store = some (after, left))
    (points : store.family familyId = some pointer) (current : pointer.value = tokenId)
    (own : ∀ other pointer, store.family other = some pointer → pointer.value = tokenId →
      other = familyId)
    (unwritten : ¬ progress.Puts left tokenId) (unsaved : ¬ progress.Saves familyId)
    (unspent : tokenId ∉ progress.spent left) (unrevoked : familyId ∉ progress.revokes) :
    after.token tokenId = store.token tokenId ∧
      after.family familyId = store.family familyId := by
  have revoking : ∀ other, familyId ≠ other →
      (store.revokeRefreshTokenFamily now other).token tokenId = store.token tokenId ∧
        (store.revokeRefreshTokenFamily now other).family familyId = store.family familyId := by
    intro other different
    apply JwtStore.revoke_keeps different
    intro pointer' found same
    exact different (own other pointer' found same).symm
  cases Progress.sent_of_next sent with
  | saves input =>
      exact ⟨Function.update_of_ne (fun same => unwritten same.symm) _ _,
        Function.update_of_ne (fun same => unsaved same.symm) _ _⟩
  | @rotates input granted =>
      have spared : tokenId ≠ input.currentTokenId := by
        intro same
        exact unspent (List.mem_singleton.mpr same)
      have elsewhere : familyId ≠ input.familyId := by
        intro same
        subst same
        have pointed := (JwtStore.rotates_iff.mp granted).2
        obtain ⟨live, alive, value⟩ := Slot.get_eq_some_iff.mp pointed
        have equal := (Slot.live_some_iff.mp alive).1.symm.trans points
        cases equal
        exact spared (current.symm.trans value)
      constructor
      · change Function.update (Function.update _ _ _) _ _ _ = _
        rw [Function.update_of_ne fun same => unwritten same.symm,
          Function.update_of_ne spared]
      · exact Function.update_of_ne elsewhere _ _
  | @revokesFamily _ _ other family named =>
      apply revoking other
      intro same
      rw [family] at unrevoked
      exact unrevoked (List.mem_singleton.mpr same)
  | refuses | lists | clears | denylists => exact ⟨rfl, rfl⟩

end Commands

/-- The refresh token that a call signs names the family and the id that it stores. -/
def Setup.Signs (setup : Setup Call) (call : Call) (tokenId familyId : String) : Prop :=
  ∃ parsed ∈ setup.signed call, parsed.tokenId = tokenId ∧ parsed.familyId = familyId

section Signing

variable {setup : Setup Call} {call other : Call} {tokenId familyId : String}

theorem Setup.signed_eq {parsed : ParsedRefreshToken} (member : parsed ∈ setup.signed call) :
    setup.signed call = [parsed] := by
  unfold Setup.signed at member ⊢
  split at member
  · cases List.mem_singleton.mp member
    rfl
  · cases List.mem_singleton.mp member
    rfl
  · cases member

theorem Setup.tokenId_of_signs (signs : setup.Signs call tokenId familyId) :
    setup.tokenId call = tokenId := by
  obtain ⟨parsed, member, rfl, rfl⟩ := signs
  unfold Setup.signed at member
  split at member
  · cases List.mem_singleton.mp member
    rfl
  · cases List.mem_singleton.mp member
    rfl
  · cases member

/-- A token id belongs to one family. -/
theorem Setup.Signs.unique {familyId' : String} (signs : setup.Signs call tokenId familyId)
    (signs' : setup.Signs other tokenId familyId') : familyId = familyId' := by
  have same : call = other :=
    setup.freshToken ((tokenId_of_signs signs).trans (tokenId_of_signs signs').symm)
  subst same
  obtain ⟨parsed, member, rfl, rfl⟩ := signs
  obtain ⟨parsed', member', _, rfl⟩ := signs'
  rw [signed_eq member, List.mem_singleton] at member'
  rw [member']

theorem Setup.signs_saveInput {user : CurrentUser}
    (created : setup.operation call = .createAuthSession user) :
    setup.Signs call (setup.saveInput call user).tokenId (setup.saveInput call user).familyId := by
  unfold Setup.Signs Setup.signed
  rw [created]
  exact ⟨_, List.mem_singleton_self _, rfl, rfl⟩

theorem Setup.signs_rotateInput {parsed : ParsedRefreshToken} {user : CurrentUser}
    (rotating : setup.operation call = .rotateAuthSession parsed user) :
    setup.Signs call (setup.rotateInput call parsed).nextTokenId
      (setup.rotateInput call parsed).familyId := by
  unfold Setup.Signs Setup.signed
  rw [rotating]
  exact ⟨_, List.mem_singleton_self _, rfl, rfl⟩

end Signing

/-- GET would still find the token and the pointer to it at the instant. -/
def JwtStore.Lasts (store : JwtStore) (instant : Nat) (tokenId familyId : String) : Prop :=
  (∃ record, (store.token tokenId).get instant = some record) ∧
    (store.family familyId).get instant = some tokenId

/-- When the TTL ends that began at the signature. -/
def Setup.deadline (setup : Setup Call) (signedAt : Call → Nat) (call : Call) : Nat :=
  signedAt call + setup.refreshTtlSeconds call * 1000

structure Setup.Timed (setup : Setup Call) (state : State Call) (signedAt : Call → Nat) :
    Prop where
  started : ∀ call, state.calls call ≠ .ready → signedAt call ≤ state.now
  saving : ∀ call user await progress, setup.operation call = .createAuthSession user →
    state.calls call = .awaiting await progress → progress = .saving (setup.saveInput call user)
  pointers : ∀ familyId pointer, state.store.family familyId = some pointer →
    ∃ call, setup.Signs call pointer.value familyId
  issued : ∀ call, state.calls call = .returned → ∀ parsed ∈ setup.signed call,
    parsed ∈ state.issued
  lasts : ∀ call, state.calls call = .returned → ∀ parsed ∈ setup.signed call,
    parsed.tokenId ∉ state.rotated → parsed.familyId ∉ state.revoked →
      state.store.Lasts (setup.deadline signedAt call) parsed.tokenId parsed.familyId

theorem JwtStore.lasts_save {now instant : Nat} {store : JwtStore}
    {input : SaveRefreshTokenInput} (early : instant ≤ now + input.ttlSeconds * 1000) :
    (store.saveRefreshToken now input).Lasts instant input.tokenId input.familyId := by
  unfold Lasts saveRefreshToken
  simp only [Function.update_self]
  exact ⟨⟨input.record, Slot.get_setEx early⟩, Slot.get_setEx early⟩

theorem JwtStore.lasts_replace {now instant : Nat} {store : JwtStore}
    {input : RotateRefreshTokenInput} (early : instant ≤ now + input.ttlSeconds * 1000) :
    (store.replaceToken now input).Lasts instant input.nextTokenId input.familyId := by
  unfold Lasts replaceToken
  simp only [Function.update_self]
  exact ⟨⟨input.nextRecord, Slot.get_setEx early⟩, Slot.get_setEx early⟩

/-- A token that lasts is the current one, and only its family points to it. -/
theorem JwtStore.Lasts.keeps {now instant : Nat} {store after : JwtStore}
    {progress left : Progress} {tokenId familyId : String}
    (lasts : store.Lasts instant tokenId familyId)
    (sent : progress.next now store = some (after, left))
    (own : ∀ other pointer, store.family other = some pointer → pointer.value = tokenId →
      other = familyId)
    (unwritten : ¬ progress.Puts left tokenId) (unsaved : ¬ progress.Saves familyId)
    (unspent : tokenId ∉ progress.spent left) (unrevoked : familyId ∉ progress.revokes) :
    after.Lasts instant tokenId familyId := by
  obtain ⟨pointer, alive, current⟩ := Slot.get_eq_some_iff.mp lasts.2
  obtain ⟨token, family⟩ := Progress.next_keeps sent (Slot.live_some_iff.mp alive).1 current own
    unwritten unsaved unspent unrevoked
  unfold Lasts
  rw [token, family]
  exact lasts

variable [DecidableEq Call]

/-- The clock at which a call has signed its tokens. -/
def recordSignature (state : State Call) (action : Action Call) (_ : State Call)
    (signedAt : Call → Nat) : Call → Nat :=
  match action with
  | .start call => Function.update signedAt call state.now
  | _ => signedAt

/-- The service with the instants of its signatures. -/
def Setup.signing (setup : Setup Call) :
    System (State Call × (Call → Nat)) (Action Call) :=
  setup.system.recording recordSignature fun _ => 0

section Step

variable {setup : Setup Call} {state following : State Call} {signedAt : Call → Nat}

omit [DecidableEq Call] in
/-- What a command that returns has stored lasts for the TTL. -/
theorem Setup.lasts_of_returned (timed : setup.Timed state signedAt)
    (coherent : setup.Coherent state) {call : Call} {await : Await} {progress left : Progress}
    {after : JwtStore} (waiting : state.calls call = .awaiting await progress)
    (sent : progress.next state.now state.store = some (after, left))
    (returned : setup.proceed state.now call await left = .returned)
    {parsed : ParsedRefreshToken} (member : parsed ∈ setup.signed call) :
    after.Lasts (setup.deadline signedAt call) parsed.tokenId parsed.familyId := by
  have own : setup.Own call await progress := by
    have known := coherent.calls call
    rw [waiting] at known
    exact known.1
  have early : setup.deadline signedAt call ≤ state.now + setup.refreshTtlSeconds call * 1000 := by
    apply Nat.add_le_add_right
    apply timed.started call
    rw [waiting]
    intro impossible
    cases impossible
  unfold Setup.signed at member
  split at member
  · rename_i user created
    cases timed.saving call user await progress created waiting
    cases sent
    cases List.mem_singleton.mp member
    exact JwtStore.lasts_save early
  · rename_i rotated user rotating
    cases own.rotate_returns rotating sent returned
    cases List.mem_singleton.mp member
    rcases Progress.next_rotating sent with ⟨_, rfl, rfl⟩ | ⟨_, rfl, rfl⟩
    · exact JwtStore.lasts_replace early
    · simp only [Setup.proceed, Setup.resume, rotating] at returned
      rw [own.rotates _ rfl |>.choose_spec.choose_spec.2.1] at returned
      cases returned
  · cases member

omit [DecidableEq Call] in
/-- What a command leaves of the token of another call, which has returned before. -/
theorem Setup.lasts_of_other (timed : setup.Timed state signedAt)
    (coherent : setup.Coherent state) {call other : Call} {await : Await}
    {progress left : Progress} {after : JwtStore}
    (waiting : state.calls call = .awaiting await progress)
    (sent : progress.next state.now state.store = some (after, left))
    (returned : state.calls other = .returned) {parsed : ParsedRefreshToken}
    (member : parsed ∈ setup.signed other)
    (unspent : parsed.tokenId ∉ progress.spent left ++ state.rotated)
    (unrevoked : parsed.familyId ∉ progress.revokes ++ state.revoked) :
    after.Lasts (setup.deadline signedAt other) parsed.tokenId parsed.familyId := by
  have running : state.calls call ≠ .returned := by
    rw [waiting]
    intro impossible
    cases impossible
  have own : setup.Own call await progress := by
    have known := coherent.calls call
    rw [waiting] at known
    exact known.1
  have signs : setup.Signs other parsed.tokenId parsed.familyId := ⟨parsed, member, rfl, rfl⟩
  have drawn := setup.tokenId_of_signs signs
  have stored : setup.Stored state parsed.tokenId := ⟨other, drawn, returned⟩
  have founded := coherent.issued parsed (timed.issued other returned parsed member)
  rw [List.mem_append, not_or] at unspent unrevoked
  have before := timed.lasts other returned parsed member unspent.2 unrevoked.2
  refine before.keeps sent ?_ ?_ ?_ unspent.1 unrevoked.1
  · intro familyId pointer found same
    obtain ⟨signer, signs'⟩ := timed.pointers familyId pointer found
    rw [same] at signs'
    exact signs'.unique signs
  · intro puts
    exact stored.ne_of_awaiting running (own.puts_returns sent puts).1
  · intro saves
    exact founded.ne_of_awaiting running (own.saves_returns sent saves).2.1

theorem Setup.Timed.receive (timed : setup.Timed state signedAt)
    (coherent : setup.Coherent state) {call : Call} {await : Await} {progress left : Progress}
    {after : JwtStore} (waiting : state.calls call = .awaiting await progress)
    (sent : progress.next state.now state.store = some (after, left)) :
    setup.Timed (state.receive setup call await progress after left) signedAt := by
  have own : setup.Own call await progress := by
    have known := coherent.calls call
    rw [waiting] at known
    exact known.1
  have arrived : (state.receive setup call await progress after left).calls call =
      setup.proceed state.now call await left := Function.update_self _ _ _
  have stayed : ∀ other, other ≠ call →
      (state.receive setup call await progress after left).calls other = state.calls other :=
    fun other different => Function.update_of_ne different _ _
  constructor
  · intro other begun
    by_cases same : other = call
    · subst same
      apply timed.started other
      rw [waiting]
      intro impossible
      cases impossible
    · rw [stayed other same] at begun
      exact timed.started other begun
  · intro other user await' progress' created reached
    by_cases same : other = call
    · subst same
      cases timed.saving other user await progress created waiting
      cases sent
      rw [arrived] at reached
      simp only [Setup.proceed, Setup.resume, created] at reached
      cases reached
    · rw [stayed other same] at reached
      exact timed.saving other user await' progress' created reached
  · intro familyId pointer found
    rcases Progress.next_pointer sent found with before | ⟨input, same, family, token⟩ |
      ⟨input, same, family, token⟩
    · exact timed.pointers familyId pointer before
    · obtain ⟨user, created, equal⟩ := own.saves input same
      refine ⟨call, ?_⟩
      rw [← family, ← token, equal]
      exact setup.signs_saveInput created
    · obtain ⟨parsed, user, rotating, _, equal⟩ := own.rotates input same
      refine ⟨call, ?_⟩
      rw [← family, ← token, equal]
      exact setup.signs_rotateInput rotating
  · intro other returned parsed member
    by_cases same : other = call
    · subst same
      rw [arrived] at returned
      apply List.mem_append_left
      rw [if_pos returned]
      exact member
    · rw [stayed other same] at returned
      exact List.mem_append_right _ (timed.issued other returned parsed member)
  · intro other returned parsed member unspent unrevoked
    by_cases same : other = call
    · subst same
      rw [arrived] at returned
      exact setup.lasts_of_returned timed coherent waiting sent returned member
    · rw [stayed other same] at returned
      exact setup.lasts_of_other timed coherent waiting sent returned member unspent unrevoked

omit [DecidableEq Call] in
theorem Setup.start_ne_returned (issued : List ParsedRefreshToken) (call : Call) :
    setup.start issued call ≠ .returned := by
  unfold Setup.start
  split
  · intro impossible
    cases impossible
  · split <;> intro impossible <;> cases impossible
  · intro impossible
    cases impossible
  · split
    · intro impossible
      cases impossible
    · split <;> intro impossible <;> cases impossible
  · intro impossible
    cases impossible

theorem Setup.Timed.start (timed : setup.Timed state signedAt) {call : Call}
    (ready : state.calls call = .ready) :
    setup.Timed (state.goto call (setup.start state.issued call))
      (Function.update signedAt call state.now) := by
  have arrived : (state.goto call (setup.start state.issued call)).calls call =
      setup.start state.issued call := Function.update_self _ _ _
  have stayed : ∀ other, other ≠ call →
      (state.goto call (setup.start state.issued call)).calls other = state.calls other :=
    fun other different => Function.update_of_ne different _ _
  have earlier : ∀ other,
      (state.goto call (setup.start state.issued call)).calls other = .returned →
        other ≠ call ∧ state.calls other = .returned := by
    intro other returned
    by_cases same : other = call
    · subst same
      rw [arrived] at returned
      exact absurd returned (setup.start_ne_returned _ _)
    · rw [stayed other same] at returned
      exact ⟨same, returned⟩
  constructor
  · intro other begun
    by_cases same : other = call
    · subst same
      rw [Function.update_self]
      exact Nat.le_refl _
    · rw [Function.update_of_ne same]
      rw [stayed other same] at begun
      exact timed.started other begun
  · intro other user await progress created reached
    by_cases same : other = call
    · subst same
      rw [arrived] at reached
      simp only [Setup.start, created] at reached
      cases reached
      rfl
    · rw [stayed other same] at reached
      exact timed.saving other user await progress created reached
  · exact timed.pointers
  · intro other returned
    exact timed.issued other (earlier other returned).2
  · intro other returned parsed member unspent unrevoked
    obtain ⟨different, before⟩ := earlier other returned
    unfold Setup.deadline
    rw [Function.update_of_ne different]
    exact timed.lasts other before parsed member unspent unrevoked

theorem Setup.Timed.step (timed : setup.Timed state signedAt) (coherent : setup.Coherent state)
    {action : Action Call} (stepped : setup.step state action = some following) :
    setup.Timed following (recordSignature state action following signedAt) := by
  cases Setup.stepped_of_step stepped with
  | advances milliseconds =>
      exact
        { started := fun call begun => (timed.started call begun).trans (Nat.le_add_right _ _)
          saving := timed.saving
          pointers := timed.pointers
          issued := timed.issued
          lasts := timed.lasts }
  | starts ready => exact timed.start ready
  | receives waiting sent => exact timed.receive coherent waiting sent

end Step

theorem Setup.timed_of_reachable (setup : Setup Call) {recorded : State Call × (Call → Nat)}
    (reached : setup.signing.Reachable (fun recorded => anyAction recorded.1) recorded) :
    setup.Timed recorded.1 recorded.2 := by
  have known : ∀ state, setup.system.Reachable anyAction state → setup.Coherent state :=
    fun _ reached => setup.coherent_of_reachable reached
  apply System.Reachable.history setup.Timed known _ _ reached
  · intro state initial
    obtain ⟨store, calls, issued, _, _⟩ := initial
    constructor
    · intro call begun
      rw [calls] at begun
      exact absurd rfl begun
    · intro call user await progress _ reached
      rw [calls] at reached
      cases reached
    · intro familyId pointer found
      rw [store] at found
      cases found
    · intro call returned
      rw [calls] at returned
      cases returned
    · intro call returned
      rw [calls] at returned
      cases returned
  · intro state signedAt action following coherent timed _ stepped
    exact timed.step coherent stepped

/-- The store would rotate the token, and a rotateAuthSession call that is about to ask for
it returns at its next command: it neither revokes the family nor throws. -/
structure Setup.Accepted (setup : Setup Call) (state : State Call)
    (parsed : ParsedRefreshToken) : Prop where
  record : ∃ record, (state.store.token parsed.tokenId).get state.now = some record
  pointer : (state.store.family parsed.familyId).get state.now = some parsed.tokenId
  rotates : ∀ input : RotateRefreshTokenInput, input.currentTokenId = parsed.tokenId →
    input.familyId = parsed.familyId →
      (state.store.rotateRefreshToken state.now input).2 = true
  returns : ∀ call user, setup.operation call = .rotateAuthSession parsed user →
    state.calls call = .awaiting .first (.rotating (setup.rotateInput call parsed)) →
      ∃ following, setup.step state (.command call) = some following ∧
        following.calls call = .returned

theorem Setup.accepted_of_lasts {setup : Setup Call} {state : State Call} {instant : Nat}
    {parsed : ParsedRefreshToken} (before : state.now ≤ instant)
    (lasts : state.store.Lasts instant parsed.tokenId parsed.familyId) :
    setup.Accepted state parsed := by
  obtain ⟨⟨record, found⟩, current⟩ := lasts
  have present := Slot.get_earlier before found
  have points := Slot.get_earlier before current
  have granted : ∀ input : RotateRefreshTokenInput, input.currentTokenId = parsed.tokenId →
      input.familyId = parsed.familyId → state.store.rotates state.now input = true := by
    intro input sameToken sameFamily
    rw [JwtStore.rotates_iff, sameToken, sameFamily]
    exact ⟨⟨record, present⟩, points⟩
  constructor
  · exact ⟨record, present⟩
  · exact points
  · intro input sameToken sameFamily
    exact State.rotates_iff.mpr (granted input sameToken sameFamily)
  · intro call user rotating waiting
    have rotated := granted (setup.rotateInput call parsed) rfl rfl
    simp only [Setup.step, waiting, Progress.next, JwtStore.rotateRefreshToken, rotated, if_true,
      Option.map_some]
    refine ⟨_, rfl, ?_⟩
    change Function.update state.calls call _ call = _
    rw [Function.update_self]
    simp only [Setup.proceed, Setup.resume, rotating, if_true]

/-- In every reachable state, whatever a token was issued by and whenever: as long as it
verifies, and unless it was rotated or its family was revoked, its rotation succeeds. -/
theorem valid_refresh_rotates (setup : Setup Call) (ms : Ms) (refreshExpiresIn : String)
    {durationMilliseconds : Rat} (read : ms refreshExpiresIn = .ok (some durationMilliseconds))
    (configured : ∀ call,
      parseDurationToSeconds ms refreshExpiresIn = .ok (setup.refreshTtlSeconds call))
    {state : State Call} {signedAt : Call → Nat}
    (reached : setup.signing.Reachable (fun recorded => anyAction recorded.1) (state, signedAt))
    (call : Call) (returned : state.calls call = .returned) {parsed : ParsedRefreshToken}
    (signed : parsed ∈ setup.signed call)
    (verifies : Verifies state.now (signedAt call) durationMilliseconds)
    (unrotated : parsed.tokenId ∉ state.rotated) (unrevoked : parsed.familyId ∉ state.revoked) :
    setup.Accepted state parsed := by
  have young := lt_of_verifies read (configured call) verifies
  have timed := setup.timed_of_reachable reached
  exact setup.accepted_of_lasts (Nat.le_of_lt young)
    (timed.lasts call returned parsed signed unrotated unrevoked)

/-- The default, JWT_REFRESH_EXPIRES_IN=7d. -/
def sevenDays : Ms := fun value =>
  if value = "7d" then .ok (some 604800000) else .ok none

/-- A login that signs at 1.5 s and is stored 0.2 s later, in the last millisecond at which
its token verifies. -/
theorem valid_refresh_rotates_last :
    ∃ recorded, replayedToken.signing.Reachable (fun recorded => anyAction recorded.1) recorded ∧
      recorded.1.now = 604800999 ∧ recorded.2 0 = 1500 ∧
      replayedToken.Accepted recorded.1
        { userId := "u1"
          familyId := "f0"
          tokenId := "t0"
          authVersion := 0 } := by
  let start : State (Fin 4) :=
    { now := 1500
      store := .empty
      calls := fun _ => .ready
      issued := []
      rotated := []
      revoked := [] }
  obtain ⟨recorded, executed, now, signed, returned, rotated, revoked⟩ :
      ∃ recorded, replayedToken.signing.execute (fun _ _ => true) (start, fun _ => 0)
          [.start 0, .advance 200, .command 0, .advance 604799299] = some recorded ∧
        recorded.1.now = 1500 + 200 + 604799299 ∧ recorded.2 0 = 1500 ∧
        recorded.1.calls 0 = .returned ∧ recorded.1.rotated = [] ∧ recorded.1.revoked = [] :=
    ⟨_, rfl, rfl, rfl, rfl, rfl, rfl⟩
  have reached : replayedToken.signing.Reachable (fun recorded => anyAction recorded.1)
      recorded :=
    .of_execute (fun _ _ _ => trivial) ⟨⟨rfl, rfl, rfl, rfl, rfl⟩, rfl⟩ executed
  refine ⟨recorded, reached, now, signed, ?_⟩
  refine valid_refresh_rotates replayedToken sevenDays "7d" rfl ?_ reached 0 returned
    (List.mem_singleton_self _) ?_ ?_ ?_
  · intro call
    decide +kernel +revert
  · rw [now, signed]
    unfold Verifies
    decide +kernel
  · rw [rotated]
    exact List.not_mem_nil
  · rw [revoked]
    exact List.not_mem_nil

end BackendFoundation.Auth
