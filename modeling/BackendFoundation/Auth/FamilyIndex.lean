/-
Completeness of revokeAllRefreshTokenFamilies, over runs of RedisJwtTokenStore alone.

A purge reads the index of a user and deletes it in separate commands. A save in between
loses its entry, and so does a family that outlives a refreshed index: the refresh rounds
the TTL it reads. In every run in which no save of the user comes in between, and no refresh
reads less than a live family has left, the purge revokes all families before it deletes the
index, the index has all live families, and the purge is complete.
-/

import BackendFoundation.Auth.StoreSteps
import BackendFoundation.Transition.System

namespace BackendFoundation.Auth

open Transition Redis

/-- The calls of the store. A family is saved once, and rotated under its user. -/
structure StoreSetup (Call : Type) where
  operation : Call → StoreCall
  owner : String → String
  saved : ∀ call input, operation call = .saveRefreshToken input →
    input.record.userId = owner input.familyId
  rotated : ∀ call input, operation call = .rotateRefreshToken input →
    input.nextRecord.userId = owner input.familyId
  fresh : ∀ first second input other, operation first = .saveRefreshToken input →
    operation second = .saveRefreshToken other → input.familyId = other.familyId →
    first = second

/-- A call that has not begun has no program point. -/
structure StoreState (Call : Type) where
  now : Nat
  store : JwtStore
  calls : Call → Option Progress

namespace JwtStore

variable {now later : Nat} {store after : JwtStore} {userId familyId : String}

/-- A live family is in the live index of the user, which lasts at least as long. -/
def Covered (now : Nat) (store : JwtStore) (userId familyId : String) : Prop :=
  ∀ pointer, (store.family familyId).live now = some pointer →
    ∃ cell deadline expiry, (store.index userId).live now = some cell ∧
      familyId ∈ cell.value ∧ pointer.expireAt = some deadline ∧
      cell.expireAt = some expiry ∧ deadline ≤ expiry

/-- No other live family of the index has more time left than the new TTL and the reply of
TTL, which rounds to seconds. -/
def Unshortened (now : Nat) (store : JwtStore) (userId familyId : String)
    (ttlSeconds : Nat) : Prop :=
  ∀ other ∈ (store.index userId).smembers now, other ≠ familyId →
    ∀ pointer deadline, (store.family other).live now = some pointer →
      pointer.expireAt = some deadline →
      deadline ≤ now + ttlSeconds * 1000 ∨
        (deadline : Int) ≤ now + (store.index userId).ttl now * 1000

/-- No other live family of the index outlives it once it is refreshed. -/
def KeepsExpiry (now : Nat) (store : JwtStore) (userId familyId : String)
    (ttlSeconds : Nat) : Prop :=
  ∀ other ∈ (store.index userId).smembers now, other ≠ familyId →
    ∀ pointer deadline, (store.family other).live now = some pointer →
      pointer.expireAt = some deadline →
      deadline ≤ now + indexTtl now (store.index userId) ttlSeconds * 1000

/-- The refresh sets the larger of the two. -/
theorem Unshortened.keepsExpiry {ttlSeconds : Nat}
    (unshortened : store.Unshortened now userId familyId ttlSeconds) :
    store.KeepsExpiry now userId familyId ttlSeconds := by
  intro other listed different pointer deadline found ends
  have longer := le_indexTtl now (store.index userId) ttlSeconds
  have read := ttl_le_indexTtl now (store.index userId) ttlSeconds
  have bound := unshortened other listed different pointer deadline found ends
  omega

theorem Covered.wait (covered : store.Covered now userId familyId) (order : now ≤ later) :
    store.Covered later userId familyId := by
  intro pointer found
  obtain ⟨cell, deadline, expiry, indexed, inside, ends, ends', longer⟩ :=
    covered pointer (Slot.live_earlier order found)
  have alive := (Slot.live_some_iff.mp found).2
  simp only [Cell.aliveAt, ends, decide_eq_true_eq] at alive
  exact ⟨cell, deadline, expiry, Slot.live_until indexed ends' (by omega), inside, ends, ends',
    longer⟩

theorem Covered.of_dead (dead : (store.family familyId).live now = none) :
    store.Covered now userId familyId := by
  intro pointer found
  rw [dead] at found
  cases found

/-- What a save and a granted rotation do to the families and the indexes. -/
theorem covered_indexed {owner : String → String} {tokenId : String} {ttlSeconds : Nat}
    (covered : ∀ other, store.Covered now (owner other) other) (owned : userId = owner familyId)
    (keeps : store.KeepsExpiry now userId familyId ttlSeconds)
    (family : after.family =
      Function.update store.family familyId (.setEx now tokenId ttlSeconds))
    (index : after.index =
      Function.update store.index userId
        (indexFamily now (store.index userId) familyId ttlSeconds))
    (other : String) : after.Covered now (owner other) other := by
  obtain ⟨cell, indexed, inside, expiry, kept⟩ :=
    indexFamily_eq now (store.index userId) familyId ttlSeconds
  have live : Slot.live now (some cell) = some cell :=
    Slot.live_some_iff.mpr ⟨rfl, Slot.aliveAt_of_le expiry (Nat.le_add_right _ _)⟩
  intro pointer found
  rw [family] at found
  rw [index, indexed]
  by_cases same : other = familyId
  · subst same
    rw [Function.update_self, Slot.live_setEx_now] at found
    cases found
    rw [← owned, Function.update_self]
    have longer := le_indexTtl now (store.index userId) ttlSeconds
    exact ⟨cell, _, _, live, inside, rfl, expiry, by omega⟩
  · rw [Function.update_of_ne same] at found
    obtain ⟨before, deadline, earlier, indexed', inside', ends, ends', longer⟩ :=
      covered other pointer found
    by_cases sameUser : owner other = userId
    · rw [sameUser] at indexed' ⊢
      rw [Function.update_self]
      have listed : other ∈ (store.index userId).smembers now :=
        Slot.mem_smembers_iff.mpr ⟨before, indexed', inside'⟩
      exact ⟨cell, deadline, _, live, kept before indexed' other inside', ends, expiry,
        keeps other listed same pointer deadline found ends⟩
    · rw [Function.update_of_ne sameUser]
      exact ⟨before, deadline, earlier, indexed', inside', ends, ends', longer⟩

theorem covered_revoke {owner : String → String}
    (covered : ∀ other, store.Covered now (owner other) other) (revoked other : String) :
    (store.revokeRefreshTokenFamily now revoked).Covered now (owner other) other := by
  by_cases same : other = revoked
  · subst same
    exact .of_dead (dead_of_revoke other)
  · intro pointer found
    rw [family_revoke, Function.update_of_ne same] at found
    obtain ⟨cell, deadline, expiry, indexed, inside, ends, ends', longer⟩ :=
      covered other pointer found
    rcases @index_revoke now store revoked (owner other) with kept | removed
    · rw [kept]
      exact ⟨cell, deadline, expiry, indexed, inside, ends, ends', longer⟩
    · obtain ⟨cell', indexed', inside', expiry'⟩ := Slot.live_srem indexed inside same
      rw [removed]
      exact ⟨cell', deadline, expiry, indexed', inside', ends, expiry'.trans ends', longer⟩

/-- Deleting an index loses nothing when none of its families is live. -/
theorem covered_clear {owner : String → String}
    (covered : ∀ other, store.Covered now (owner other) other)
    (dead : ∀ other, owner other = userId → (store.family other).live now = none)
    (other : String) : (store.clearIndex userId).Covered now (owner other) other := by
  intro pointer found
  obtain ⟨cell, deadline, expiry, indexed, inside, ends, ends', longer⟩ :=
    covered other pointer found
  have different : owner other ≠ userId := by
    intro same
    subst same
    have gone := dead other rfl
    change (store.family other).live now = some pointer at found
    rw [gone] at found
    cases found
  refine ⟨cell, deadline, expiry, ?_, inside, ends, ends', longer⟩
  exact (congrArg (Slot.live now) (Function.update_of_ne different _ _)).trans indexed

end JwtStore

variable {Call : Type}

/-- A purge deletes no index of a user with a live family, and a refresh leaves no live family
that outlives the index. -/
def StoreSetup.Keeps (setup : StoreSetup Call) (state : StoreState Call) : Action Call → Prop
  | .command call =>
      match state.calls call with
      | some (.saving input) =>
          state.store.KeepsExpiry state.now input.record.userId input.familyId input.ttlSeconds
      | some (.rotating input) => state.store.rotates state.now input = true →
          state.store.KeepsExpiry state.now input.nextRecord.userId input.familyId
            input.ttlSeconds
      | some (.revokingEach userId []) => ∀ familyId, setup.owner familyId = userId →
          (state.store.family familyId).live state.now = none
      | _ => True
  | _ => True

/-- No purge of the user stands between its SMEMBERS and its DEL. -/
def StoreState.Unpurged (state : StoreState Call) (userId : String) : Prop :=
  ∀ call pending, state.calls call ≠ some (.revokingEach userId pending)

/-- Families of a user are saved before or after a purge, and no refresh of an index reads
less than one of its live families has left. -/
def StoreState.Undisturbed (state : StoreState Call) : Action Call → Prop
  | .command call =>
      match state.calls call with
      | some (.saving input) =>
          state.Unpurged input.record.userId ∧
            state.store.Unshortened state.now input.record.userId input.familyId
              input.ttlSeconds
      | some (.rotating input) => state.store.rotates state.now input = true →
          state.store.Unshortened state.now input.nextRecord.userId input.familyId
            input.ttlSeconds
      | _ => True
  | _ => True

/-- The commands of a call are those of its operation. -/
def StoreCall.Runs (operation : StoreCall) : Progress → Prop
  | .saving input => operation = .saveRefreshToken input
  | .rotating input => operation = .rotateRefreshToken input
  | .listing userId => operation = .revokeAllRefreshTokenFamilies userId
  | .revokingEach userId _ => operation = .revokeAllRefreshTokenFamilies userId
  | _ => True

theorem StoreCall.runs_start (operation : StoreCall) : operation.Runs operation.start := by
  cases operation with
  | revokeAccessToken tokenId ttlSeconds =>
      rcases start_revokeAccessToken tokenId ttlSeconds with expired | running
      · rw [expired]
        trivial
      · rw [running]
        trivial
  | saveRefreshToken | rotateRefreshToken | revokeAllRefreshTokenFamilies => rfl
  | revokeRefreshTokenFamily => trivial

theorem StoreCall.runs_next {operation : StoreCall} {now : Nat} {store after : JwtStore}
    {progress left : Progress} (runs : operation.Runs progress)
    (sent : progress.next now store = some (after, left)) : operation.Runs left := by
  cases progress with
  | listing userId =>
      cases sent
      exact runs
  | revokingEach userId pending =>
      cases pending with
      | nil =>
          cases sent
          trivial
      | cons familyId rest =>
          cases sent
          exact runs
  | saving | rotating | revokingFamily | denylisting =>
      cases sent
      trivial
  | returned reply => cases sent

def StoreSetup.Runs (setup : StoreSetup Call) (state : StoreState Call) : Prop :=
  ∀ call progress, state.calls call = some progress → (setup.operation call).Runs progress

/-- Every live family is in the index of its user. -/
def StoreSetup.Indexed (setup : StoreSetup Call) (state : StoreState Call) : Prop :=
  ∀ familyId, state.store.Covered state.now (setup.owner familyId) familyId

/-- Every live family of a user that is being purged is still to be revoked. -/
def StoreSetup.Chased (setup : StoreSetup Call) (state : StoreState Call) : Prop :=
  ∀ call userId pending, state.calls call = some (.revokingEach userId pending) →
    ∀ familyId, setup.owner familyId = userId →
      (state.store.family familyId).live state.now ≠ none → familyId ∈ pending

/-- The family has been saved, by a call that has returned. -/
def StoreSetup.Saved (setup : StoreSetup Call) (state : StoreState Call) (familyId : String) :
    Prop :=
  ∃ call input, setup.operation call = .saveRefreshToken input ∧ input.familyId = familyId ∧
    ∃ reply, state.calls call = some (.returned reply)

/-- Saved, and without a live pointer to its current token. -/
def StoreSetup.Dead (setup : StoreSetup Call) (familyId : String) (state : StoreState Call) :
    Prop :=
  setup.Saved state familyId ∧ (state.store.family familyId).live state.now = none

/-- A purge has not listed the index yet, or is going to revoke the family. -/
def Progress.Ahead (familyId : String) : Option Progress → Prop
  | none => True
  | some (listing _) => True
  | some (revokingEach _ pending) => familyId ∈ pending
  | _ => False

def StoreSetup.Purging (setup : StoreSetup Call) (purge : Call) (familyId : String)
    (state : StoreState Call) : Prop :=
  setup.Dead familyId state ∨
    setup.Saved state familyId ∧ Progress.Ahead familyId (state.calls purge)

/-- The save of a family is over, and no other call saves it again. -/
theorem StoreSetup.Saved.not_saves {setup : StoreSetup Call} {state : StoreState Call}
    {familyId : String} (saved : setup.Saved state familyId) (runs : setup.Runs state)
    {call : Call} {progress : Progress} (running : state.calls call = some progress) :
    ¬progress.Saves familyId := by
  intro saves
  cases progress with
  | saving input =>
      obtain ⟨other, input', saving, same, reply, returned⟩ := saved
      have own := runs call _ running
      cases setup.fresh call other input input' own saving
        (Eq.trans saves same.symm)
      rw [running] at returned
      cases returned
  | rotating | revokingFamily | listing | revokingEach | denylisting | returned => cases saves

variable [DecidableEq Call]

def StoreState.goto (state : StoreState Call) (call : Call) (progress : Progress) :
    StoreState Call :=
  { state with calls := Function.update state.calls call (some progress) }

def StoreSetup.step (setup : StoreSetup Call) (state : StoreState Call) :
    Action Call → Option (StoreState Call)
  | .advance milliseconds => some { state with now := state.now + milliseconds }
  | .start call =>
      match state.calls call with
      | none => some (state.goto call (setup.operation call).start)
      | some _ => none
  | .command call =>
      match state.calls call with
      | none => none
      | some progress =>
          (progress.next state.now state.store).map fun (store, left) =>
            { state.goto call left with store := store }

def StoreState.initial (state : StoreState Call) : Prop :=
  state.store = .empty ∧ state.calls = fun _ => none

def StoreSetup.system (setup : StoreSetup Call) :
    Transition.System (StoreState Call) (Action Call) :=
  { initial := StoreState.initial
    step := setup.step }

/-- One step: time passes, a call begins, or a call executes its next command. -/
inductive StoreSetup.Turn (setup : StoreSetup Call) (state : StoreState Call) :
    Action Call → StoreState Call → Prop
  | advance (milliseconds : Nat) :
      Turn setup state (.advance milliseconds) { state with now := state.now + milliseconds }
  | start {call : Call} (waiting : state.calls call = none) :
      Turn setup state (.start call) (state.goto call (setup.operation call).start)
  | command {call : Call} {progress left : Progress} {store : JwtStore}
      (running : state.calls call = some progress)
      (sent : progress.next state.now state.store = some (store, left)) :
      Turn setup state (.command call) { state.goto call left with store := store }

section Step

variable {setup : StoreSetup Call} {state following : StoreState Call} {action : Action Call}

theorem StoreSetup.turn (stepped : setup.step state action = some following) :
    setup.Turn state action following := by
  cases action with
  | advance milliseconds =>
      cases stepped
      exact .advance milliseconds
  | start call =>
      simp only [step] at stepped
      split at stepped
      · cases stepped
        exact .start ‹_›
      · cases stepped
  | command call =>
      simp only [step] at stepped
      split at stepped
      · cases stepped
      · obtain ⟨⟨store, left⟩, sent, rfl⟩ := Option.map_eq_some_iff.mp stepped
        exact .command ‹_› sent

theorem StoreSetup.Runs.goto (runs : setup.Runs state) {call : Call} {progress : Progress}
    (known : (setup.operation call).Runs progress) : setup.Runs (state.goto call progress) := by
  intro other progress' reached
  change Function.update state.calls call (some progress) other = some progress' at reached
  by_cases same : other = call
  · subst same
    rw [Function.update_self] at reached
    cases reached
    exact known
  · rw [Function.update_of_ne same] at reached
    exact runs other progress' reached

theorem StoreSetup.Runs.step (runs : setup.Runs state)
    (stepped : setup.step state action = some following) : setup.Runs following := by
  cases setup.turn stepped with
  | advance => exact runs
  | start => exact runs.goto (StoreCall.runs_start _)
  | command running sent => exact runs.goto (StoreCall.runs_next (runs _ _ running) sent)

theorem StoreSetup.Indexed.step (indexed : setup.Indexed state) (runs : setup.Runs state)
    (keeps : setup.Keeps state action) (stepped : setup.step state action = some following) :
    setup.Indexed following := by
  cases setup.turn stepped with
  | advance milliseconds => exact fun familyId => (indexed familyId).wait (Nat.le_add_right _ _)
  | start => exact indexed
  | @command call progress left store running sent =>
      have own := runs call progress running
      simp only [Keeps, running] at keeps
      cases Progress.sent_of_next sent with
      | saves input =>
          exact JwtStore.covered_indexed indexed (setup.saved call input own) keeps rfl rfl
      | @rotates input granted =>
          exact JwtStore.covered_indexed indexed (setup.rotated call input own) (keeps granted)
            rfl rfl
      | revokesFamily => exact JwtStore.covered_revoke indexed _
      | clears userId => exact JwtStore.covered_clear indexed keeps
      | refuses | lists | denylists => exact indexed

omit [DecidableEq Call] in
/-- At the end of its loop nothing of the user is live. -/
theorem StoreSetup.Chased.keeps (chased : setup.Chased state)
    (undisturbed : state.Undisturbed action) : setup.Keeps state action := by
  cases action with
  | advance | start => trivial
  | command call =>
      cases running : state.calls call with
      | none => simp only [Keeps, running]
      | some progress =>
          simp only [StoreState.Undisturbed, running] at undisturbed
          simp only [Keeps, running]
          cases progress with
          | saving input => exact undisturbed.2.keepsExpiry
          | rotating input => exact fun granted => (undisturbed granted).keepsExpiry
          | revokingEach userId pending =>
              cases pending with
              | nil =>
                  intro familyId owned
                  by_contra alive
                  cases chased call userId [] running familyId owned alive
              | cons => trivial
          | revokingFamily | listing | denylisting | returned => trivial

omit [DecidableEq Call] in
/-- The purge lists every live family of its user, and revokes the families one by one. -/
theorem StoreSetup.Indexed.chases (indexed : setup.Indexed state) (chased : setup.Chased state)
    {call : Call} {progress : Progress} {store : JwtStore} {userId familyId : String}
    {pending : List String} (running : state.calls call = some progress)
    (sent : progress.next state.now state.store = some (store, .revokingEach userId pending))
    (owned : setup.owner familyId = userId)
    (alive : (store.family familyId).live state.now ≠ none) : familyId ∈ pending := by
  rcases Progress.next_revokingEach sent with ⟨_, rfl, rfl⟩ | ⟨revoked, rfl, rfl⟩
  · obtain ⟨pointer, found⟩ := Option.ne_none_iff_exists'.mp alive
    obtain ⟨cell, _, _, listed, inside, _⟩ := indexed familyId pointer found
    rw [owned] at listed
    exact Slot.mem_smembers_iff.mpr ⟨cell, listed, inside⟩
  · have before : (state.store.family familyId).live state.now ≠ none :=
      fun dead => alive (JwtStore.dead_revoke revoked dead)
    rcases List.mem_cons.mp (chased call userId _ running familyId owned before) with same | later
    · rw [same] at alive
      exact absurd (JwtStore.dead_of_revoke revoked) alive
    · exact later

/-- What is live after a step was live before it, or has been saved while no purge of its user
was under way. -/
theorem StoreSetup.Chased.step (chased : setup.Chased state) (runs : setup.Runs state)
    (indexed : setup.Indexed state) (undisturbed : state.Undisturbed action)
    (stepped : setup.step state action = some following) : setup.Chased following := by
  cases setup.turn stepped with
  | advance milliseconds =>
      intro call userId pending chasing familyId owned alive
      apply chased call userId pending chasing familyId owned
      exact fun dead => alive (Slot.live_none_later (Nat.le_add_right _ _) dead)
  | @start call waiting =>
      intro other userId pending chasing familyId owned alive
      change Function.update state.calls call _ other = _ at chasing
      by_cases same : other = call
      · subst same
        rw [Function.update_self] at chasing
        exact absurd (Option.some.inj chasing) (StoreCall.start_ne_revokingEach _ _ _)
      · rw [Function.update_of_ne same] at chasing
        exact chased other userId pending chasing familyId owned alive
  | @command call progress left store running sent =>
      intro other userId pending chasing familyId owned alive
      change Function.update state.calls call _ other = _ at chasing
      by_cases same : other = call
      · subst same
        rw [Function.update_self] at chasing
        cases chasing
        exact indexed.chases chased running sent owned alive
      · rw [Function.update_of_ne same] at chasing
        by_cases earlier : (state.store.family familyId).live state.now = none
        · rcases Progress.next_family sent earlier with gone | saves
          · exact absurd gone alive
          · obtain ⟨input, rfl, rfl⟩ := Progress.eq_saving_of_saves saves
            simp only [StoreState.Undisturbed, running] at undisturbed
            rw [setup.saved call input (runs call _ running), owned] at undisturbed
            exact absurd chasing (undisturbed.1 other pending)
        · exact chased other userId pending chasing familyId owned earlier

/-- A call that has returned stays so. -/
theorem StoreSetup.Saved.step {familyId : String} (saved : setup.Saved state familyId)
    (stepped : setup.step state action = some following) : setup.Saved following familyId := by
  obtain ⟨call, input, saving, same, reply, returned⟩ := saved
  refine ⟨call, input, saving, same, reply, ?_⟩
  cases setup.turn stepped with
  | advance => exact returned
  | @start other waiting =>
      have different : call ≠ other := by
        intro equal
        subst equal
        rw [waiting] at returned
        cases returned
      exact (Function.update_of_ne different _ _).trans returned
  | @command other progress left store running sent =>
      have different : call ≠ other := by
        intro equal
        subst equal
        rw [returned] at running
        cases running
        cases sent
      exact (Function.update_of_ne different _ _).trans returned

theorem StoreSetup.Dead.step {familyId : String} (dead : setup.Dead familyId state)
    (runs : setup.Runs state) (stepped : setup.step state action = some following) :
    setup.Dead familyId following := by
  refine ⟨dead.1.step stepped, ?_⟩
  cases setup.turn stepped with
  | advance => exact Slot.live_none_later (Nat.le_add_right _ _) dead.2
  | start => exact dead.2
  | @command call progress left store running sent =>
      rcases Progress.next_family sent dead.2 with gone | saves
      · exact gone
      · exact absurd saves (dead.1.not_saves runs running)

/-- A family that is in the index is listed, and what is listed is revoked. -/
theorem Progress.Ahead.next {now : Nat} {store after : JwtStore} {progress left : Progress}
    {userId familyId : String} (ahead : Ahead familyId (some progress))
    (runs : (StoreCall.revokeAllRefreshTokenFamilies userId).Runs progress)
    (covered : store.Covered now userId familyId)
    (sent : progress.next now store = some (after, left)) :
    (after.family familyId).live now = none ∨ Ahead familyId (some left) := by
  cases progress with
  | listing listed =>
      cases runs
      cases sent
      cases found : (store.family familyId).live now with
      | none => exact .inl rfl
      | some pointer =>
          obtain ⟨cell, deadline, expiry, indexed, inside, _⟩ := covered pointer found
          exact .inr (Slot.mem_smembers_iff.mpr ⟨cell, indexed, inside⟩)
  | revokingEach listed pending =>
      cases pending with
      | nil => cases ahead
      | cons head rest =>
          cases sent
          rcases List.mem_cons.mp ahead with same | later
          · subst same
            exact .inl (JwtStore.dead_of_revoke familyId)
          · exact .inr later
  | saving | rotating | revokingFamily | denylisting | returned => cases ahead

theorem StoreSetup.Purging.step {purge : Call} {familyId : String}
    (purging : setup.Purging purge familyId state) (runs : setup.Runs state)
    (indexed : setup.Indexed state)
    (whole : setup.operation purge = .revokeAllRefreshTokenFamilies (setup.owner familyId))
    (stepped : setup.step state action = some following) :
    setup.Purging purge familyId following := by
  rcases purging with dead | ⟨saved, ahead⟩
  · exact .inl (dead.step runs stepped)
  · have saved' := saved.step stepped
    -- Only the purge itself moves its program point.
    have kept : ∀ call progress, purge ≠ call → (state.goto call progress).calls purge =
        state.calls purge :=
      fun call progress different => Function.update_of_ne different _ _
    have moved : ∀ progress, (state.goto purge progress).calls purge = some progress :=
      fun progress => Function.update_self _ _ _
    cases setup.turn stepped with
    | advance => exact .inr ⟨saved', ahead⟩
    | @start call unstarted =>
        refine .inr ⟨saved', ?_⟩
        by_cases same : purge = call
        · subst same
          rw [moved, whole]
          trivial
        · rwa [kept call _ same]
    | @command call progress left store running sent =>
        by_cases same : purge = call
        · subst same
          rw [running] at ahead
          have own := runs purge progress running
          rw [whole] at own
          rcases ahead.next own (indexed familyId) sent with dead | ahead'
          · exact .inl ⟨saved', dead⟩
          · refine .inr ⟨saved', ?_⟩
            change Progress.Ahead familyId ((state.goto purge left).calls purge)
            rwa [moved]
        · refine .inr ⟨saved', ?_⟩
          change Progress.Ahead familyId ((state.goto call left).calls purge)
          rwa [kept call _ same]

end Step

/-- In every reachable state the live index of a user has all live families of the user;
and when a purge returns, no family of the user whose save had returned before the purge
began can be rotated any more. -/
def StoreSetup.PurgesAll (setup : StoreSetup Call)
    (allowed : StoreState Call → Action Call → Prop) : Prop :=
  ∀ before, setup.system.Reachable allowed before →
    (∀ familyId pointer, (before.store.family familyId).live before.now = some pointer →
      familyId ∈ (before.store.index (setup.owner familyId)).smembers before.now) ∧
    ∀ saver purge input, setup.operation saver = .saveRefreshToken input →
      before.calls saver = some (.returned .done) →
      setup.operation purge = .revokeAllRefreshTokenFamilies input.record.userId →
      before.calls purge = none →
      ∀ actions after, setup.system.Run allowed before actions after →
        after.calls purge = some (.returned .done) →
        ∀ actions' later, setup.system.Run anyAction after actions' later →
          ∀ rotation, rotation.familyId = input.familyId →
            (later.store.rotateRefreshToken later.now rotation).2 = false

/-- What holds in every run that keeps the index. -/
def StoreSetup.Sound (setup : StoreSetup Call) (state : StoreState Call) : Prop :=
  setup.Runs state ∧ setup.Indexed state

theorem StoreSetup.Sound.step {setup : StoreSetup Call} {state following : StoreState Call}
    {action : Action Call} (sound : setup.Sound state) (keeps : setup.Keeps state action)
    (stepped : setup.step state action = some following) : setup.Sound following :=
  ⟨sound.1.step stepped, sound.2.step sound.1 keeps stepped⟩

omit [DecidableEq Call] in
theorem StoreSetup.sound_initial (setup : StoreSetup Call) {state : StoreState Call}
    (initial : state.initial) : setup.Sound state := by
  obtain ⟨store, calls⟩ := initial
  constructor
  · intro call progress reached
    rw [calls] at reached
    cases reached
  · intro familyId pointer found
    rw [store] at found
    cases found

theorem StoreSetup.sound_of_reachable {setup : StoreSetup Call} {state : StoreState Call}
    (reached : setup.system.Reachable setup.Keeps state) : setup.Sound state := by
  apply reached.invariant fun state => setup.sound_initial
  intro before action after sound keeps stepped
  exact sound.step keeps stepped

/-- While a purge is running. -/
def StoreSetup.Watched (setup : StoreSetup Call) (purge : Call) (familyId : String)
    (state : StoreState Call) : Prop :=
  setup.Sound state ∧ setup.Purging purge familyId state

/-- After it. -/
def StoreSetup.Purged (setup : StoreSetup Call) (familyId : String) (state : StoreState Call) :
    Prop :=
  setup.Runs state ∧ setup.Dead familyId state

theorem purgesAll_of_keeps (setup : StoreSetup Call) : setup.PurgesAll setup.Keeps := by
  intro before reached
  have sound := setup.sound_of_reachable reached
  constructor
  · intro familyId pointer found
    obtain ⟨cell, deadline, expiry, indexed, inside, _⟩ := sound.2 familyId pointer found
    exact Slot.mem_smembers_iff.mpr ⟨cell, indexed, inside⟩
  · intro saver purge input saving saved whole unstarted actions after run returned
      actions' later run' rotation same
    rw [setup.saved saver input saving] at whole
    have watched : setup.Watched purge input.familyId after := by
      apply run.preserves
      · intro state action following watched keeps stepped
        exact ⟨watched.1.step keeps stepped,
          watched.2.step watched.1.1 watched.1.2 whole stepped⟩
      · refine ⟨sound, .inr ⟨⟨saver, input, saving, rfl, _, saved⟩, ?_⟩⟩
        rw [unstarted]
        trivial
    have purged : setup.Purged input.familyId after := by
      refine ⟨watched.1.1, ?_⟩
      rcases watched.2 with dead | ⟨_, ahead⟩
      · exact dead
      · rw [returned] at ahead
        cases ahead
    have still : setup.Purged input.familyId later := by
      refine run'.preserves ?_ purged
      intro state action following purged _ stepped
      exact ⟨purged.1.step stepped, purged.2.step purged.1 stepped⟩
    have dead := still.2.2
    rw [← same] at dead
    unfold JwtStore.rotateRefreshToken
    rw [JwtStore.not_rotates_of_dead dead]
    rfl

/-- What holds in every run that leaves the purges undisturbed. -/
def StoreSetup.Orderly (setup : StoreSetup Call) (state : StoreState Call) : Prop :=
  setup.Sound state ∧ setup.Chased state

omit [DecidableEq Call] in
theorem StoreSetup.orderly_initial (setup : StoreSetup Call) (state : StoreState Call)
    (initial : state.initial) : setup.Orderly state := by
  refine ⟨setup.sound_initial initial, ?_⟩
  intro call userId pending chasing
  rw [initial.2] at chasing
  cases chasing

theorem StoreSetup.Orderly.step {setup : StoreSetup Call} (state : StoreState Call)
    (action : Action Call) (following : StoreState Call) (orderly : setup.Orderly state)
    (undisturbed : state.Undisturbed action)
    (stepped : setup.step state action = some following) :
    setup.Keeps state action ∧ setup.Orderly following := by
  obtain ⟨sound, chased⟩ := orderly
  have keeps := chased.keeps undisturbed
  exact ⟨keeps, sound.step keeps stepped,
    chased.step sound.1 sound.2 undisturbed stepped⟩

theorem purgesAll_of_undisturbed (setup : StoreSetup Call) :
    setup.PurgesAll StoreState.Undisturbed := by
  intro before reached
  obtain ⟨kept, orderly⟩ :=
    reached.establishes setup.orderly_initial StoreSetup.Orderly.step
  obtain ⟨indexed, complete⟩ := purgesAll_of_keeps setup before kept
  refine ⟨indexed, ?_⟩
  intro saver purge input saving saved whole unstarted actions after run
  exact complete saver purge input saving saved whole unstarted actions after
    (run.establishes StoreSetup.Orderly.step orderly).1

/-- A login of the user between the commands of one purge, and a second purge. -/
def loginDuringPurge : StoreSetup (Fin 3) :=
  { operation := fun call =>
      if call = 1 then .saveRefreshToken
        { tokenId := "t1"
          familyId := "f1"
          record :=
            { userId := "u1"
              familyId := "f1" }
          ttlSeconds := 604800
          positive := sevenDays_pos }
      else .revokeAllRefreshTokenFamilies "u1"
    owner := fun _ => "u1"
    saved := by
      intro call input saving
      split at saving
      · cases saving
        rfl
      · cases saving
    rotated := by
      intro call input rotating
      split at rotating <;> cases rotating
    fresh := by
      intro first second input other saving saving' _
      split at saving
      · split at saving'
        · rename_i same same'
          exact same.trans same'.symm
        · cases saving'
      · cases saving }

/-- The first purge deletes the index entry of the family that it has not listed; the
second one finds no index and leaves the family to be rotated. -/
theorem not_purgesAll : ¬∀ setup : StoreSetup (Fin 3), setup.PurgesAll anyAction := by
  intro claim
  let start : StoreState (Fin 3) :=
    { now := 0
      store := .empty
      calls := fun _ => none }
  let rotation : RotateRefreshTokenInput :=
    { currentTokenId := "t1"
      nextTokenId := "t2"
      familyId := "f1"
      nextRecord :=
        { userId := "u1"
          familyId := "f1" }
      ttlSeconds := 604800
      positive := sevenDays_pos }
  have executed :
      ((loginDuringPurge.system.execute (fun _ _ => true) start
        [.start 0, .command 0, .start 1, .command 1, .command 0]).bind fun before =>
          (loginDuringPurge.system.execute (fun _ _ => true) before
            [.start 2, .command 2, .command 2]).map fun after =>
              (before.calls 1, before.calls 2, after.calls 2,
                (after.store.rotateRefreshToken after.now rotation).2)) =
      some (some (.returned .done), none, some (.returned .done), true) := by decide +kernel
  obtain ⟨before, run, executed'⟩ := Option.bind_eq_some_iff.mp executed
  obtain ⟨after, run', facts⟩ := Option.map_eq_some_iff.mp executed'
  simp only [Prod.mk.injEq] at facts
  obtain ⟨saved, unstarted, returned, rotated⟩ := facts
  have refused := (claim loginDuringPurge before
      (.of_execute (fun _ _ _ => trivial) ⟨rfl, rfl⟩ run)).2 1 2 _ rfl saved rfl unstarted _ after
    (.of_execute (fun _ _ _ => trivial) run') returned [] after .nil rotation rfl
  rw [rotated] at refused
  cases refused

/-- The refresh alone: 1499 ms are read as a TTL of 1 s, and the family outlives its index. -/
example :
    let long : SaveRefreshTokenInput :=
      { tokenId := "t1"
        familyId := "f1"
        record :=
          { userId := "u1"
            familyId := "f1" }
        ttlSeconds := 2
        positive := by decide }
    let short : SaveRefreshTokenInput :=
      { tokenId := "t2"
        familyId := "f2"
        record :=
          { userId := "u1"
            familyId := "f2" }
        ttlSeconds := 1
        positive := by decide }
    let store := (JwtStore.empty.saveRefreshToken 0 long).saveRefreshToken 501 short
    ((store.family "f1").get 1502, (store.index "u1").smembers 1502) = (some "t1", []) := by
  decide +kernel

end BackendFoundation.Auth
