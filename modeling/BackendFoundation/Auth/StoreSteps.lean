/-
What one command of RedisJwtTokenStore can do: which tokens, families and index
entries appear, and what is gone afterwards.
-/

import BackendFoundation.Auth.JwtTokenStore

namespace BackendFoundation.Auth

open Redis

theorem StoreCall.start_revokeAccessToken (tokenId : String) (ttlSeconds : Nat) :
    (revokeAccessToken tokenId ttlSeconds).start = .returned .done ∨
      (revokeAccessToken tokenId ttlSeconds).start = .denylisting tokenId ttlSeconds := by
  simp only [start]
  split
  · exact .inl rfl
  · exact .inr rfl

theorem StoreCall.start_ne_revokingEach (operation : StoreCall) (userId : String)
    (pending : List String) : operation.start ≠ .revokingEach userId pending := by
  intro impossible
  cases operation with
  | revokeAccessToken tokenId ttlSeconds =>
      rcases start_revokeAccessToken tokenId ttlSeconds with expired | running
      · rw [expired] at impossible
        cases impossible
      · rw [running] at impossible
        cases impossible
  | saveRefreshToken | rotateRefreshToken | revokeRefreshTokenFamily
  | revokeAllRefreshTokenFamilies => cases impossible

namespace Progress

/-- The command is the save of the family. -/
def Saves : Progress → String → Prop
  | saving input, familyId => input.familyId = familyId
  | _, _ => False

/-- The call is going to rotate or revoke the family. -/
def Names : Progress → String → Prop
  | rotating input, familyId => input.familyId = familyId
  | revokingFamily revoked, familyId => revoked = familyId
  | revokingEach _ pending, familyId => familyId ∈ pending
  | _, _ => False

/-- The command has stored the token. -/
def Puts : Progress → Progress → String → Prop
  | saving input, _, tokenId => input.tokenId = tokenId
  | rotating input, returned (.rotated true), tokenId => input.nextTokenId = tokenId
  | _, _, _ => False

/-- A rotation that the script has granted. -/
def spent : Progress → Progress → List String
  | rotating input, returned (.rotated true) => [input.currentTokenId]
  | _, _ => []

/-- The family that the command revokes. -/
def revokes : Progress → List String
  | revokingFamily familyId => [familyId]
  | revokingEach _ (familyId :: _) => [familyId]
  | _ => []

variable {now : Nat} {store after : JwtStore} {progress left : Progress}

theorem next_rotating {input : RotateRefreshTokenInput}
    (sent : (rotating input).next now store = some (after, left)) :
    store.rotates now input = true ∧ after = store.replaceToken now input ∧
        left = .returned (.rotated true) ∨
      store.rotates now input = false ∧ after = store ∧ left = .returned (.rotated false) := by
  simp only [next, JwtStore.rotateRefreshToken] at sent
  split at sent
  · rename_i granted
    cases sent
    exact .inl ⟨granted, rfl, rfl⟩
  · rename_i refused
    cases sent
    exact .inr ⟨Bool.eq_false_iff.mpr refused, rfl, rfl⟩

/-- What a command does, by the store that it leaves. -/
inductive Sent (now : Nat) (store : JwtStore) : Progress → Progress → JwtStore → Prop
  | saves (input : SaveRefreshTokenInput) :
      Sent now store (saving input) (returned .done) (store.saveRefreshToken now input)
  | rotates {input : RotateRefreshTokenInput} (granted : store.rotates now input = true) :
      Sent now store (rotating input) (returned (.rotated true)) (store.replaceToken now input)
  | refuses {input : RotateRefreshTokenInput} (refused : store.rotates now input = false) :
      Sent now store (rotating input) (returned (.rotated false)) store
  | revokesFamily {progress left : Progress} {familyId : String}
      (family : progress.revokes = [familyId]) (named : progress.Names familyId) :
      Sent now store progress left (store.revokeRefreshTokenFamily now familyId)
  | lists (userId : String) :
      Sent now store (listing userId) (revokingEach userId ((store.index userId).smembers now))
        store
  | clears (userId : String) :
      Sent now store (revokingEach userId []) (returned .done) (store.clearIndex userId)
  | denylists (tokenId : String) (ttlSeconds : Nat) :
      Sent now store (denylisting tokenId ttlSeconds) (returned .done)
        (store.denylist now tokenId ttlSeconds)

theorem sent_of_next (sent : progress.next now store = some (after, left)) :
    Sent now store progress left after := by
  cases progress with
  | saving input =>
      cases sent
      exact .saves input
  | rotating input =>
      rcases next_rotating sent with ⟨granted, rfl, rfl⟩ | ⟨refused, rfl, rfl⟩
      · exact .rotates granted
      · exact .refuses refused
  | revokingFamily familyId =>
      cases sent
      exact .revokesFamily rfl rfl
  | revokingEach userId pending =>
      cases pending with
      | nil =>
          cases sent
          exact .clears userId
      | cons familyId rest =>
          cases sent
          exact .revokesFamily rfl List.mem_cons_self
  | listing userId =>
      cases sent
      exact .lists userId
  | denylisting tokenId ttlSeconds =>
      cases sent
      exact .denylists tokenId ttlSeconds
  | returned reply => cases sent

theorem next_token (sent : progress.next now store = some (after, left)) {id : String}
    {cell : Cell RefreshTokenRecord} (stored : after.token id = some cell) :
    store.token id = some cell ∨ progress.Puts left id := by
  cases sent_of_next sent with
  | saves input =>
      by_cases same : id = input.tokenId
      · exact .inr same.symm
      · left
        simpa [JwtStore.saveRefreshToken, Function.update_of_ne same] using stored
  | @rotates input granted =>
      by_cases same : id = input.nextTokenId
      · exact .inr same.symm
      · simp only [JwtStore.replaceToken, Function.update_of_ne same] at stored
        by_cases spent : id = input.currentTokenId
        · subst spent
          simp [Slot.del] at stored
        · rw [Function.update_of_ne spent] at stored
          exact .inl stored
  | revokesFamily => exact .inl (JwtStore.token_revoke stored)
  | refuses | lists | clears | denylists => exact .inl stored

/-- Only the save of a family brings it to life. -/
theorem next_family (sent : progress.next now store = some (after, left)) {familyId : String}
    (dead : (store.family familyId).live now = none) :
    (after.family familyId).live now = none ∨ progress.Saves familyId := by
  cases sent_of_next sent with
  | saves input =>
      by_cases same : familyId = input.familyId
      · exact .inr same.symm
      · left
        simpa [JwtStore.saveRefreshToken, Function.update_of_ne same] using dead
  | @rotates input granted =>
      have different : familyId ≠ input.familyId := by
        intro equal
        subst equal
        rw [JwtStore.not_rotates_of_dead dead] at granted
        cases granted
      left
      simpa [JwtStore.replaceToken, Function.update_of_ne different] using dead
  | revokesFamily => exact .inl (JwtStore.dead_revoke _ dead)
  | refuses | lists | clears | denylists => exact .inl dead

theorem eq_saving_of_saves {familyId : String} (saves : progress.Saves familyId) :
    ∃ input, progress = .saving input ∧ input.familyId = familyId := by
  cases progress with
  | saving input => exact ⟨input, rfl, saves⟩
  | rotating | revokingFamily | listing | revokingEach | denylisting | returned => cases saves

/-- A purge goes through what it has listed. -/
theorem next_revokingEach {userId : String} {pending : List String}
    (sent : progress.next now store = some (after, .revokingEach userId pending)) :
    progress = .listing userId ∧ pending = (store.index userId).smembers now ∧ after = store ∨
      ∃ familyId, progress = .revokingEach userId (familyId :: pending) ∧
        after = store.revokeRefreshTokenFamily now familyId := by
  cases progress with
  | listing listed =>
      cases sent
      exact .inl ⟨rfl, rfl, rfl⟩
  | revokingEach listed families =>
      cases families with
      | nil => cases sent
      | cons familyId rest =>
          cases sent
          exact .inr ⟨familyId, rfl, rfl⟩
  | saving | rotating | revokingFamily | denylisting | returned => cases sent

/-- A family enters an index when it is saved or rotated. -/
theorem next_index (sent : progress.next now store = some (after, left))
    {userId familyId : String} (held : (after.index userId).Holds familyId) :
    (store.index userId).Holds familyId ∨ progress.Saves familyId ∨ progress.Names familyId := by
  have added : ∀ owner added ttlSeconds,
      (Function.update store.index owner
        (indexFamily now (store.index owner) added ttlSeconds) userId).Holds familyId →
      (store.index userId).Holds familyId ∨ added = familyId := by
    intro owner added ttlSeconds member
    by_cases same : userId = owner
    · subst same
      rw [Function.update_self] at member
      exact (holds_indexFamily member).imp_right Eq.symm
    · rw [Function.update_of_ne same] at member
      exact .inl member
  cases sent_of_next sent with
  | saves input => exact (added _ _ _ held).imp_right .inl
  | rotates granted => exact (added _ _ _ held).imp_right .inr
  | @revokesFamily _ _ revoked =>
      left
      rcases @JwtStore.index_revoke now store revoked userId with same | removed
      · rwa [same] at held
      · rw [removed] at held
        exact Slot.holds_srem held
  | clears owner =>
      by_cases same : userId = owner
      · subst same
        obtain ⟨cell, stored, _⟩ := held
        simp [JwtStore.clearIndex, Slot.del] at stored
      · left
        simpa [JwtStore.clearIndex, Function.update_of_ne same] using held
  | refuses | lists | denylists => exact .inl held

/-- What a call goes on to rotate or revoke, it has named before or read in an index. -/
theorem next_names (sent : progress.next now store = some (after, left)) {familyId : String}
    (named : left.Names familyId) :
    progress.Names familyId ∨ ∃ userId, (store.index userId).Holds familyId := by
  cases progress with
  | listing userId =>
      cases sent
      exact .inr ⟨userId, Slot.holds_of_smembers named⟩
  | revokingEach userId pending =>
      cases pending with
      | nil =>
          cases sent
          cases named
      | cons revoked rest =>
          cases sent
          exact .inl (List.mem_cons_of_mem _ named)
  | saving | rotating | revokingFamily | denylisting =>
      cases sent
      cases named
  | returned reply => cases sent

theorem next_revokes (sent : progress.next now store = some (after, left)) {familyId : String}
    (revoked : familyId ∈ progress.revokes) :
    (after.family familyId).live now = none ∧ progress.Names familyId := by
  cases sent_of_next sent with
  | revokesFamily family named =>
      rw [family] at revoked
      cases List.mem_singleton.mp revoked
      exact ⟨JwtStore.dead_of_revoke _, named⟩
  | saves | rotates | refuses | lists | clears | denylists => cases revoked

/-- Entries of the denylist are written one at a time and never removed. -/
theorem next_revokedAccess (sent : progress.next now store = some (after, left)) :
    after.revokedAccess = store.revokedAccess ∨ ∃ tokenId ttlSeconds,
      progress = .denylisting tokenId ttlSeconds ∧
        after.revokedAccess =
          Function.update store.revokedAccess tokenId (.setEx now "1" ttlSeconds) := by
  cases sent_of_next sent with
  | revokesFamily => exact .inl JwtStore.revokedAccess_revoke
  | denylists tokenId ttlSeconds => exact .inr ⟨tokenId, ttlSeconds, rfl, rfl⟩
  | saves | rotates | refuses | lists | clears => exact .inl rfl

/-- A granted rotation takes the token, which was there, out of the store. -/
theorem next_spent (sent : progress.next now store = some (after, left)) {id : String}
    (spent : id ∈ progress.spent left) :
    store.token id ≠ none ∧ ∀ cell, after.token id = some cell → progress.Puts left id := by
  cases progress with
  | rotating input =>
      rcases next_rotating sent with ⟨granted, rfl, rfl⟩ | ⟨_, rfl, rfl⟩
      · cases List.mem_singleton.mp spent
        obtain ⟨record, present⟩ := (JwtStore.rotates_iff.mp granted).1
        constructor
        · intro missing
          rw [missing] at present
          cases present
        · intro cell stored
          by_cases same : input.currentTokenId = input.nextTokenId
          · exact same.symm
          · simp [JwtStore.replaceToken, Function.update_of_ne same, Slot.del] at stored
      · cases spent
  | saving | revokingFamily | revokingEach | listing | denylisting | returned => cases spent

end Progress

end BackendFoundation.Auth
