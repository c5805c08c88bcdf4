/-
The service over the keys of Redis does what the service over ids does, whatever the other
features of the application write meanwhile, and it changes no key but those of its store.
-/

import BackendFoundation.Auth.KeysService
import BackendFoundation.Auth.Rotation

namespace BackendFoundation.Auth

open Redis Transition

section Names

variable {builder : RedisKeyBuilder}

theorem physicalKey_append (front rest : String) :
    physicalKey builder (front ++ rest) = physicalKey builder front ++ utf8 rest := by
  unfold physicalKey RedisKeyBuilder.toPhysicalKey
  rw [utf8_append, utf8_append, utf8_append, List.append_assoc]

theorem storeKey_of_mem {front : String} (member : front ∈ storePrefixes) (rest : String) :
    storeKey builder (physicalKey builder (front ++ rest)) = true := by
  refine List.any_eq_true.mpr ⟨front, member, List.isPrefixOf_iff_prefix.mpr ?_⟩
  rw [physicalKey_append]
  exact List.prefix_append _ _

/-- One of the texts begins with the other. -/
def meets (front other : String) : Bool :=
  (utf8 front).isPrefixOf (utf8 other) || (utf8 other).isPrefixOf (utf8 front)

theorem not_storeKey {other : String}
    (apart : (storePrefixes.any fun front => meets front other) = false) (rest : String) :
    storeKey builder (physicalKey builder (other ++ rest)) = false := by
  apply List.any_eq_false.mpr
  intro front member begins
  have parted := List.any_eq_false.mp apart front member
  rw [physicalKey_append] at begins
  unfold physicalKey RedisKeyBuilder.toPhysicalKey at begins
  rw [utf8_append, utf8_append, List.append_assoc, List.isPrefixOf_iff_prefix,
    List.prefix_append_right_inj] at begins
  apply parted
  rw [meets, Bool.or_eq_true, List.isPrefixOf_iff_prefix, List.isPrefixOf_iff_prefix]
  exact List.prefix_or_prefix_of_prefix begins (List.prefix_append _ _)

theorem counter_apart (keyPrefix : Sessions.KeyPrefix) :
    (storePrefixes.any fun front => meets front (keyPrefix.value ++ ":")) = false := by
  cases keyPrefix <;> rfl

theorem idempotency_foreign (scope key kind : String) :
    storeKey builder (physicalKey builder ("idem:" ++ scope ++ ":" ++ key ++ kind)) = false := by
  rw [String.append_assoc, String.append_assoc, String.append_assoc]
  exact not_storeKey (by rfl) _

/-- No feature writes a key of the token store. -/
theorem OtherKey.foreign (key : OtherKey) :
    storeKey builder (physicalKey builder key.key) = false := by
  cases key with
  | session sessionId => exact not_storeKey (by rfl) sessionId
  | sessionIndex userId => exact not_storeKey (by rfl) userId
  | counter keyPrefix ip => exact not_storeKey (counter_apart keyPrefix) ip
  | idempotencyResult scope key => exact idempotency_foreign scope key ":result"
  | idempotencyLock scope key => exact idempotency_foreign scope key ":lock"
  | idempotencyFence scope key => exact idempotency_foreign scope key ":fence"
  | jobExecution key => exact not_storeKey (by rfl) key
  | distributedLock key => exact not_storeKey (by rfl) key
  | passwordResetToken tokenHash => exact not_storeKey (by rfl) tokenHash
  | passwordResetUser userId => exact not_storeKey (by rfl) userId
  | googleOAuthState state => exact not_storeKey (by rfl) state

end Names

section Frames

variable {builder : RedisKeyBuilder} {owned : List UInt8 → Prop} {now : Nat}
  {keys : PhysicalKeys}

theorem within_indexFamilyAt {indexKey : List UInt8} (owns : owned indexKey) (familyId : String)
    (ttlSeconds : Nat) :
    PhysicalKeys.Within owned keys (indexFamilyAt now keys indexKey familyId ttlSeconds).1 := by
  unfold indexFamilyAt
  split
  · exact .refl keys
  · rename_i indexed added
    exact (PhysicalKeys.Within.changeSet owns added).trans (.update owns _)

theorem within_saveScript {tokenKey familyKey indexKey : List UInt8} (ownsToken : owned tokenKey)
    (ownsFamily : owned familyKey) (ownsIndex : owned indexKey) (record : String)
    (ttlSeconds : Nat) (tokenId familyId : String) :
    PhysicalKeys.Within owned keys
      (saveScript now keys tokenKey familyKey indexKey record ttlSeconds tokenId familyId).1 :=
  ((PhysicalKeys.Within.update ownsToken _).trans (.update ownsFamily _)).trans
    (within_indexFamilyAt ownsIndex familyId ttlSeconds)

theorem within_rotateScript {currentTokenKey nextTokenKey familyKey indexKey : List UInt8}
    (ownsCurrent : owned currentTokenKey) (ownsNext : owned nextTokenKey)
    (ownsFamily : owned familyKey) (ownsIndex : owned indexKey)
    (currentTokenId nextRecord : String) (ttlSeconds : Nat) (nextTokenId familyId : String) :
    PhysicalKeys.Within owned keys
      (rotateScript now keys currentTokenKey nextTokenKey familyKey indexKey currentTokenId
        nextRecord ttlSeconds nextTokenId familyId).1 := by
  unfold rotateScript
  split
  · exact .refl keys
  · exact .refl keys
  · split
    · exact .refl keys
    · exact .refl keys
    · split
      · exact .refl keys
      · exact (((PhysicalKeys.Within.update ownsCurrent _).trans (.update ownsNext _)).trans
          (.update ownsFamily _)).trans (within_indexFamilyAt ownsIndex familyId ttlSeconds)

theorem within_revokeAt {familyKey : List UInt8} {tokenKey indexKey : String → List UInt8}
    (ownsFamily : owned familyKey) (ownsToken : ∀ tokenId, owned (tokenKey tokenId))
    (ownsIndex : ∀ userId, owned (indexKey userId)) (userIdOf : String → Option String)
    (familyId : String) :
    PhysicalKeys.Within owned keys
      (revokeAt userIdOf now keys familyKey tokenKey indexKey familyId).1 := by
  unfold revokeAt
  split
  · exact .refl keys
  · exact .update ownsFamily _
  · rename_i currentTokenId _
    split
    · exact .refl keys
    · have spent : PhysicalKeys.Within owned keys (keys.del (tokenKey currentTokenId)) :=
        .update (ownsToken currentTokenId) _
      dsimp only
      split
      · exact spent.trans (.update ownsFamily _)
      · split
        · exact spent.trans (.update ownsFamily _)
        · split
          · exact spent
          · rename_i unindexed removed
            exact (spent.trans (.changeSet (ownsIndex _) removed)).trans (.update ownsFamily _)

/-- The keys that the scripts work on. -/
def ScriptKey (builder : RedisKeyBuilder) (key : List UInt8) : Prop :=
  (∃ tokenId, key = physicalKey builder (getRefreshTokenKey tokenId)) ∨
    (∃ familyId, key = physicalKey builder (getRefreshFamilyKey familyId)) ∨
    ∃ userId, key = physicalKey builder (getUserFamilyIndexKey userId)

theorem scriptKey_token (tokenId : String) :
    ScriptKey builder (physicalKey builder (getRefreshTokenKey tokenId)) :=
  .inl ⟨tokenId, rfl⟩

theorem scriptKey_family (familyId : String) :
    ScriptKey builder (physicalKey builder (getRefreshFamilyKey familyId)) :=
  .inr (.inl ⟨familyId, rfl⟩)

theorem scriptKey_index (userId : String) :
    ScriptKey builder (physicalKey builder (getUserFamilyIndexKey userId)) :=
  .inr (.inr ⟨userId, rfl⟩)

theorem ScriptKey.storeKey {key : List UInt8} (scripted : ScriptKey builder key) :
    storeKey builder key = true := by
  rcases scripted with ⟨tokenId, rfl⟩ | ⟨familyId, rfl⟩ | ⟨userId, rfl⟩
  · exact storeKey_of_mem (by simp [storePrefixes]) tokenId
  · exact storeKey_of_mem (by simp [storePrefixes, familyMarker]) familyId
  · exact storeKey_of_mem (by simp [storePrefixes]) userId

theorem within_save (stringify : RefreshTokenRecord → String) (input : SaveRefreshTokenInput) :
    PhysicalKeys.Within (ScriptKey builder) keys
      (saveRefreshToken builder stringify now keys input).1 :=
  within_saveScript (scriptKey_token _) (scriptKey_family _) (scriptKey_index _) _ _ _ _

theorem within_rotate (stringify : RefreshTokenRecord → String)
    (input : RotateRefreshTokenInput) :
    PhysicalKeys.Within (ScriptKey builder) keys
      (rotateRefreshToken builder stringify now keys input).1 :=
  within_rotateScript (scriptKey_token _) (scriptKey_token _) (scriptKey_family _)
    (scriptKey_index _) _ _ _ _ _

theorem within_revoke (unmarked : ¬familyMarker.toList <:+: builder.keyPrefix.toList)
    (userIdOf : String → Option String) (familyId : String) :
    PhysicalKeys.Within (ScriptKey builder) keys
      (revokeRefreshTokenFamily builder userIdOf now keys familyId).1 := by
  rw [revokeRefreshTokenFamily_eq unmarked]
  exact within_revokeAt (scriptKey_family _) scriptKey_token scriptKey_index _ _

end Frames

section Refinement

variable {Call : Type} {setup : KeysSetup Call}

theorem access_not_script (tokenId : String) :
    ¬ScriptKey setup.builder (setup.accessKey tokenId) := by
  intro scripted
  rcases scripted with ⟨other, same⟩ | ⟨other, same⟩ | ⟨other, same⟩
  · exact @append_ne _ _ 7 'v' 'f' (by decide) (by decide) (by decide) tokenId other
      (physicalKey_injective same)
  · exact @append_ne _ _ 7 'v' 'f' (by decide) (by decide) (by decide) tokenId other
      (physicalKey_injective same)
  · exact @append_ne _ _ 7 'v' 'f' (by decide) (by decide) (by decide) tokenId other
      (physicalKey_injective same)

/-- The keys show the store under ids, the denylist included. -/
structure KeysSetup.Shows (setup : KeysSetup Call) (keys : PhysicalKeys) (store : JwtStore) :
    Prop where
  represents : Represents setup.builder setup.codec keys store
  access : keys.Holds setup.accessKey .text store.revokedAccess

variable {keys following : PhysicalKeys} {store after : JwtStore} {now : Nat}

/-- The scripts leave the denylist alone. -/
theorem KeysSetup.Shows.scripted (shows_ : setup.Shows keys store)
    (within : PhysicalKeys.Within (ScriptKey setup.builder) keys following)
    (represents : Represents setup.builder setup.codec following after)
    (kept : after.revokedAccess = store.revokedAccess) : setup.Shows following after := by
  refine ⟨represents, ?_⟩
  intro tokenId
  rw [within _ (access_not_script tokenId), kept]
  exact shows_.access tokenId

theorem KeysSetup.Shows.revoke (shows_ : setup.Shows keys store)
    (unmarked : ¬familyMarker.toList <:+: setup.builder.keyPrefix.toList) (familyId : String) :
    ∃ following,
      revokeRefreshTokenFamily setup.builder setup.codec.userId now keys familyId =
        (following, .ok 1) ∧
      setup.Shows following (store.revokeRefreshTokenFamily now familyId) := by
  obtain ⟨following, executed, represents⟩ :=
    @Represents.revoke _ _ _ _ now shows_.represents unmarked familyId
  have within := @within_revoke _ now keys unmarked setup.codec.userId familyId
  rw [executed] at within
  exact ⟨following, executed, shows_.scripted within represents JwtStore.revokedAccess_revoke⟩

theorem KeysSetup.Shows.delIndex (shows_ : setup.Shows keys store) (userId : String) :
    setup.Shows (keys.del (setup.indexKey userId)) (store.clearIndex userId) :=
  shows_.scripted (.update (scriptKey_index userId) _)
    (shows_.represents.setIndex userId .del) rfl

theorem KeysSetup.Shows.denylist (shows_ : setup.Shows keys store) (tokenId : String)
    (ttlSeconds : Nat) :
    setup.Shows (keys.setEx now (setup.accessKey tokenId) "1" ttlSeconds)
      (store.denylist now tokenId ttlSeconds) := by
  have apart : ∀ key, ScriptKey setup.builder key → key ≠ setup.accessKey tokenId := by
    intro key scripted same
    exact access_not_script tokenId (same ▸ scripted)
  constructor
  · constructor
    · exact shows_.represents.token.update_other (fun id => apart _ (scriptKey_token id)) _
    · exact shows_.represents.family.update_other (fun id => apart _ (scriptKey_family id)) _
    · exact shows_.represents.index.update_other (fun id => apart _ (scriptKey_index id)) _
  · have injective : ∀ first second, setup.accessKey first = setup.accessKey second →
        first = second := fun _ _ same =>
      (String.append_right_inj _).mp (physicalKey_injective same)
    exact shows_.access.update injective tokenId (.setEx now "1" ttlSeconds)

/-- A key of another feature does not matter. -/
theorem KeysSetup.Shows.other (shows_ : setup.Shows keys store) {key : List UInt8}
    (foreign : storeKey setup.builder key = false) (slot : Slot (Stored String)) :
    setup.Shows (Function.update keys key slot) store := by
  have apart : ∀ own, storeKey setup.builder own = true → own ≠ key := by
    intro own owned same
    rw [same, foreign] at owned
    cases owned
  constructor
  · constructor
    · exact shows_.represents.token.update_other (fun id => apart _ (scriptKey_token id).storeKey) _
    · exact shows_.represents.family.update_other
        (fun id => apart _ (scriptKey_family id).storeKey) _
    · exact shows_.represents.index.update_other (fun id => apart _ (scriptKey_index id).storeKey) _
  · refine shows_.access.update_other (fun id => apart _ ?_) _
    exact storeKey_of_mem (by simp [storePrefixes]) id

/-- One command on the keys is one command on the store under ids, with the same reply, and
never meets a key of the wrong type. -/
theorem KeysSetup.Shows.next (shows_ : setup.Shows keys store)
    (unmarked : ¬familyMarker.toList <:+: setup.builder.keyPrefix.toList)
    {progress : Progress} {outcome : PhysicalKeys × Except WrongType Progress}
    (sent : setup.next now keys progress = some outcome) :
    ∃ after left, progress.next now store = some (after, left) ∧ outcome.2 = .ok left ∧
      setup.Shows outcome.1 after := by
  cases progress with
  | saving input =>
      obtain ⟨following, executed, represents⟩ :=
        @Represents.save _ _ _ _ now shows_.represents input
      have within := @within_save setup.builder now keys setup.codec.stringify input
      rw [executed] at within
      cases sent
      unfold answered
      rw [executed]
      exact ⟨_, _, rfl, rfl, shows_.scripted within represents rfl⟩
  | rotating input =>
      obtain ⟨following, executed, represents⟩ :=
        @Represents.rotate _ _ _ _ now shows_.represents input
      have within := @within_rotate setup.builder now keys setup.codec.stringify input
      rw [executed] at within
      cases sent
      unfold answered
      rw [executed]
      refine ⟨(store.rotateRefreshToken now input).1,
        .returned (.rotated (store.rotateRefreshToken now input).2), rfl, ?_,
        shows_.scripted within represents ?_⟩
      · unfold JwtStore.rotateRefreshToken
        cases store.rotates now input <;> rfl
      · unfold JwtStore.rotateRefreshToken
        cases store.rotates now input <;> rfl
  | revokingFamily familyId =>
      obtain ⟨following, executed, shown⟩ :=
        @KeysSetup.Shows.revoke _ _ _ _ now shows_ unmarked familyId
      cases sent
      unfold answered
      rw [executed]
      exact ⟨_, _, rfl, rfl, shown⟩
  | listing userId =>
      cases sent
      refine ⟨_, _, rfl, ?_, shows_⟩
      unfold KeysSetup.indexKey
      rw [shows_.represents.index.smembers userId]
      rfl
  | revokingEach userId pending =>
      cases pending with
      | nil =>
          cases sent
          exact ⟨_, _, rfl, rfl, shows_.delIndex userId⟩
      | cons familyId pending =>
          obtain ⟨following, executed, shown⟩ :=
            @KeysSetup.Shows.revoke _ _ _ _ now shows_ unmarked familyId
          cases sent
          unfold answered
          rw [executed]
          exact ⟨_, _, rfl, rfl, shown⟩
  | denylisting tokenId ttlSeconds =>
      cases sent
      exact ⟨_, _, rfl, rfl, shows_.denylist tokenId ttlSeconds⟩
  | returned reply => cases sent

/-- What the service over ids has in place of a state over the keys. -/
structure KeysSetup.Images (setup : KeysSetup Call) (state : KeysState Call)
    (image : State Call) : Prop where
  now : image.now = state.now
  shown : setup.Shows state.keys image.store
  calls : state.calls = fun call => .running (image.calls call)
  issued : image.issued = state.issued
  rotated : image.rotated = state.rotated
  revoked : image.revoked = state.revoked

/-- What a step is for the service. -/
def KeysAction.own : KeysAction Call → List (Action Call)
  | .service action => [action]
  | .other _ _ => []

variable {state next : KeysState Call} {image : State Call}

theorem KeysSetup.Images.phase (images : setup.Images state image) {call : Call} {phase : Phase}
    (running : state.calls call = .running phase) : image.calls call = phase := by
  rw [images.calls] at running
  exact KeysPhase.running.inj running

/-- The state of the service over ids at a time. -/
def State.empty (now : Nat) : State Call :=
  { now := now
    store := .empty
    calls := fun _ => .ready
    issued := []
    rotated := []
    revoked := [] }

theorem KeysSetup.images_initial (initial : setup.initial state) :
    setup.Images state (State.empty state.now) := by
  obtain ⟨vacant, ready, unissued, unrotated, unrevoked⟩ := initial
  have missing : ∀ key, ScriptKey setup.builder key → state.keys key = none :=
    fun key scripted => vacant key scripted.storeKey
  exact
    { now := rfl
      shown :=
        { represents :=
            { token := fun id => missing _ (scriptKey_token id)
              family := fun id => missing _ (scriptKey_family id)
              index := fun id => missing _ (scriptKey_index id) }
          access := fun id => vacant _ (storeKey_of_mem (by simp [storePrefixes]) id) }
      calls := ready
      issued := unissued.symm
      rotated := unrotated.symm
      revoked := unrevoked.symm }

/-- One command changes keys of the token store only. -/
theorem KeysSetup.within_next
    (unmarked : ¬familyMarker.toList <:+: setup.builder.keyPrefix.toList) {progress : Progress}
    {outcome : PhysicalKeys × Except WrongType Progress}
    (sent : setup.next now keys progress = some outcome) :
    PhysicalKeys.Within (fun key => storeKey setup.builder key = true) keys outcome.1 := by
  have owned : ∀ {following}, PhysicalKeys.Within (ScriptKey setup.builder) keys following →
      PhysicalKeys.Within (fun key => storeKey setup.builder key = true) keys following :=
    fun within key foreign => within key fun scripted => foreign scripted.storeKey
  cases progress with
  | saving input =>
      cases sent
      exact owned (within_save _ input)
  | rotating input =>
      cases sent
      exact owned (within_rotate _ input)
  | revokingFamily familyId =>
      cases sent
      exact owned (within_revoke unmarked _ familyId)
  | listing userId =>
      cases sent
      exact .refl keys
  | revokingEach userId pending =>
      cases pending with
      | nil =>
          cases sent
          exact owned (.update (scriptKey_index userId) _)
      | cons familyId pending =>
          cases sent
          exact owned (within_revoke unmarked _ familyId)
  | denylisting tokenId ttlSeconds =>
      cases sent
      exact .update (storeKey_of_mem (by simp [storePrefixes]) tokenId) _
  | returned reply => cases sent

variable [DecidableEq Call]

theorem KeysSetup.Images.goto {phases : Call → Phase} (call : Call) (phase : Phase) :
    Function.update (fun call => KeysPhase.running (phases call)) call (.running phase) =
      fun other => .running (Function.update phases call phase other) := by
  funext other
  by_cases same : other = call
  · subst same
    rw [Function.update_self, Function.update_self]
  · rw [Function.update_of_ne same, Function.update_of_ne same]

theorem KeysSetup.Images.step (images : setup.Images state image)
    (unmarked : ¬familyMarker.toList <:+: setup.builder.keyPrefix.toList)
    {action : KeysAction Call} (stepped : setup.step state action = some next) :
    ∃ image', setup.service.system.Run anyAction image action.own image' ∧
      setup.Images next image' := by
  have single : ∀ {action : Action Call} {image' : State Call},
      setup.service.step image action = some image' →
      setup.service.system.Run anyAction image [action] image' :=
    fun stepped => .snoc .nil trivial stepped
  cases action with
  | service action =>
      cases action with
      | advance milliseconds =>
          cases stepped
          refine ⟨_, single rfl, ?_⟩
          exact
            { now := congrArg (· + milliseconds) images.now
              shown := images.shown
              calls := images.calls
              issued := images.issued
              rotated := images.rotated
              revoked := images.revoked }
      | start call =>
          simp only [KeysSetup.step] at stepped
          split at stepped
          · rename_i ready
            cases stepped
            have taken : setup.service.step image (.start call) =
                some (image.goto call (setup.service.start image.issued call)) := by
              simp only [Setup.step, images.phase ready]
            refine ⟨_, single taken, ?_⟩
            exact
              { now := images.now
                shown := images.shown
                calls := by
                  rw [← images.issued]
                  change Function.update state.calls call _ = _
                  rw [images.calls]
                  exact KeysSetup.Images.goto call _
                issued := images.issued
                rotated := images.rotated
                revoked := images.revoked }
          · cases stepped
      | command call =>
          simp only [KeysSetup.step] at stepped
          split at stepped
          · rename_i await progress waiting
            obtain ⟨⟨keys, reply⟩, sent, rfl⟩ := Option.map_eq_some_iff.mp stepped
            obtain ⟨after, left, moved, replied, shown⟩ := images.shown.next unmarked sent
            change reply = .ok left at replied
            subst replied
            rw [← images.now] at moved
            have taken : setup.service.step image (.command call) =
                some (image.receive setup.service call await progress after left) := by
              simp only [Setup.step, images.phase waiting, moved, Option.map_some]
            refine ⟨_, single taken, ?_⟩
            unfold State.receive KeysState.receive
            rw [images.now]
            exact
              { now := images.now
                shown := shown
                calls := by
                  change Function.update state.calls call _ = _
                  rw [images.calls]
                  exact KeysSetup.Images.goto call _
                issued := congrArg _ images.issued
                rotated := congrArg _ images.rotated
                revoked := congrArg _ images.revoked }
          · cases stepped
  | other key slot =>
      simp only [KeysSetup.step] at stepped
      split at stepped
      · cases stepped
      · rename_i foreign
        cases stepped
        refine ⟨image, .nil, ?_⟩
        exact
          { now := images.now
            shown := images.shown.other (Bool.eq_false_iff.mpr foreign) slot
            calls := images.calls
            issued := images.issued
            rotated := images.rotated
            revoked := images.revoked }

theorem KeysSetup.keys_step
    (unmarked : ¬familyMarker.toList <:+: setup.builder.keyPrefix.toList)
    {action : KeysAction Call} (stepped : setup.step state action = some next)
    {key : List UInt8} (foreign : storeKey setup.builder key = false)
    (unwritten : ∀ slot, action ≠ .other key slot) : next.keys key = state.keys key := by
  cases action with
  | service action =>
      cases action with
      | advance milliseconds =>
          cases stepped
          rfl
      | start call =>
          simp only [KeysSetup.step] at stepped
          split at stepped
          · cases stepped
            rfl
          · cases stepped
      | command call =>
          simp only [KeysSetup.step] at stepped
          split at stepped
          · obtain ⟨⟨keys, reply⟩, sent, rfl⟩ := Option.map_eq_some_iff.mp stepped
            have same : keys key = state.keys key :=
              KeysSetup.within_next unmarked sent key (Bool.eq_false_iff.mp foreign)
            cases reply with
            | error error => exact same
            | ok left => exact same
          · cases stepped
  | other written slot =>
      simp only [KeysSetup.step] at stepped
      split at stepped
      · cases stepped
      · cases stepped
        apply Function.update_of_ne
        intro same
        subst same
        exact unwritten slot rfl

variable {start finish : KeysState Call} {actions : List (KeysAction Call)}

theorem KeysSetup.images_of_run
    (unmarked : ¬familyMarker.toList <:+: setup.builder.keyPrefix.toList)
    (initial : setup.initial start) (run : setup.system.Run anyAction start actions finish) :
    ∃ image, setup.service.system.Run anyAction (State.empty start.now)
        (actions.flatMap KeysAction.own) image ∧
      setup.Images finish image := by
  apply Transition.System.Run.simulated _ (KeysSetup.images_initial initial) run
  intro state action following image images _ stepped
  exact images.step unmarked stepped

end Refinement

section Sample

/-- The token store under the default prefix. -/
def sharedRedis : KeysSetup (Fin 4) :=
  { service := replayedToken
    builder := .ofKeyPrefix (some "app")
    codec := default }

theorem sharedRedis_unmarked :
    ¬familyMarker.toList <:+: sharedRedis.builder.keyPrefix.toList := by
  decide +kernel

def KeysState.empty {Call : Type} : KeysState Call :=
  { now := 0
    keys := fun _ => none
    calls := fun _ => .running .ready
    issued := []
    rotated := []
    revoked := [] }

/-- A session is stored, a login and a rotation return, and the replay closes the family. -/
def replaying {Call : Type} (login refresh replay : Call) : List (KeysAction Call) :=
  [.other (physicalKey sharedRedis.builder (OtherKey.session "s1").key)
      (some
        { value := .text "\x7b\x7d"
          expireAt := none }),
    .service (.start login), .service (.command login), .service (.start refresh),
    .service (.command refresh), .service (.start replay), .service (.command replay),
    .service (.command replay)]

theorem replaying_executed : ∃ finish,
    sharedRedis.system.Run anyAction .empty (replaying 0 1 2) finish ∧
      finish.rotated = ["t0"] ∧ finish.revoked = ["f0"] := by
  have executed :
      (sharedRedis.system.execute (fun _ _ => true) .empty (replaying 0 1 2)).map
        (fun state => (state.rotated, state.revoked)) = some (["t0"], ["f0"]) := by
    rfl
  obtain ⟨finish, run, facts⟩ := Option.map_eq_some_iff.mp executed
  obtain ⟨rotated, revoked⟩ := Prod.mk.inj facts
  exact ⟨finish, .of_execute (fun _ _ _ => trivial) run, rotated, revoked⟩

end Sample

section Results

variable {Call : Type} [DecidableEq Call] {setup : KeysSetup Call} {start finish : KeysState Call}
  {actions : List (KeysAction Call)}

/-- Every run over the keys of Redis is a run of the service over ids: the same steps, the same
phases of the calls and the same history, and no script meets a key of the wrong type. -/
theorem keys_refine_store
    (unmarked : ¬familyMarker.toList <:+: setup.builder.keyPrefix.toList)
    (initial : setup.system.initial start)
    (run : setup.system.Run anyAction start actions finish) :
    ∃ image, setup.service.system.Run anyAction (State.empty start.now)
        (actions.flatMap KeysAction.own) image ∧
      setup.Images finish image :=
  KeysSetup.images_of_run unmarked initial run

theorem replaying_refined : ∃ finish image,
    sharedRedis.system.Run anyAction .empty (replaying 0 1 2) finish ∧ finish.rotated = ["t0"] ∧
      replayedToken.system.Run anyAction (State.empty 0)
        ((replaying 0 1 2).flatMap KeysAction.own) image ∧ image.rotated = ["t0"] := by
  obtain ⟨finish, run, rotated, _⟩ := replaying_executed
  obtain ⟨image, run', images⟩ := keys_refine_store sharedRedis_unmarked
    ⟨fun _ _ => rfl, rfl, rfl, rfl, rfl⟩ run
  exact ⟨finish, image, run, rotated, run', images.rotated.trans rotated⟩

/-- A key of another feature holds what that feature has written last, in every run of the
service from any keys at all. -/
theorem other_keys_kept
    (unmarked : ¬familyMarker.toList <:+: setup.builder.keyPrefix.toList)
    (run : setup.system.Run anyAction start actions finish) (other : OtherKey)
    (unwritten : ∀ slot, .other (physicalKey setup.builder other.key) slot ∉ actions) :
    finish.keys (physicalKey setup.builder other.key) =
      start.keys (physicalKey setup.builder other.key) := by
  induction run with
  | nil => rfl
  | @snoc actions action middle finish _ _ stepped ih =>
      have kept := ih fun slot member => unwritten slot (List.mem_append_left _ member)
      rw [← kept]
      apply KeysSetup.keys_step unmarked stepped other.foreign
      intro slot same
      exact unwritten slot (List.mem_append_right _ (same ▸ List.mem_singleton_self _))

theorem replaying_keeps : ∃ finish,
    sharedRedis.system.Run anyAction .empty (replaying 0 1 2) finish ∧
      finish.keys (physicalKey sharedRedis.builder (OtherKey.distributedLock "cron").key) =
        none := by
  obtain ⟨finish, run, _, _⟩ := replaying_executed
  refine ⟨finish, run, (other_keys_kept sharedRedis_unmarked run _ ?_).trans rfl⟩
  intro slot member
  have same : physicalKey sharedRedis.builder (OtherKey.distributedLock "cron").key =
      physicalKey sharedRedis.builder (OtherKey.session "s1").key := by
    simp only [replaying, List.mem_cons, KeysAction.other.injEq, reduceCtorEq, or_false,
      List.not_mem_nil] at member
    exact member.1
  exact absurd (physicalKey_injective same) (by decide)

/-- A refresh token that has been rotated has no key any more, and the family key of a family
that has been revoked answers nothing, whatever the other features write. -/
theorem spent_keys_stay_gone
    (unmarked : ¬familyMarker.toList <:+: setup.builder.keyPrefix.toList)
    (initial : setup.system.initial start)
    (run : setup.system.Run anyAction start actions finish) :
    finish.rotated.Nodup ∧
      (∀ tokenId ∈ finish.rotated, finish.keys (setup.tokenKey tokenId) = none) ∧
      ∀ familyId ∈ finish.revoked,
        finish.keys.get finish.now (setup.familyKey familyId) = .ok none := by
  obtain ⟨image, run', images⟩ := KeysSetup.images_of_run unmarked initial run
  have coherent := setup.service.coherent_of_reachable
    ⟨State.empty start.now, _, ⟨rfl, rfl, rfl, rfl, rfl⟩, run'⟩
  rw [← images.rotated, ← images.revoked, ← images.now]
  refine ⟨coherent.once, ?_, ?_⟩
  · intro tokenId member
    change finish.keys (physicalKey setup.builder (getRefreshTokenKey tokenId)) = none
    rw [images.shown.represents.token tokenId, (coherent.rotated tokenId member).1]
    rfl
  · intro familyId member
    have dead := (coherent.revoked familyId member).1
    change finish.keys.get image.now (physicalKey setup.builder (getRefreshFamilyKey familyId)) = _
    rw [images.shown.represents.get_family familyId, Slot.get_eq_none_iff.mpr dead]

theorem replaying_gone : ∃ finish,
    sharedRedis.system.Run anyAction .empty (replaying 0 1 2) finish ∧
      finish.keys (sharedRedis.tokenKey "t0") = none ∧
      finish.keys.get finish.now (sharedRedis.familyKey "f0") = .ok none := by
  obtain ⟨finish, run, rotated, revoked⟩ := replaying_executed
  obtain ⟨_, spent, closed⟩ := spent_keys_stay_gone sharedRedis_unmarked
    ⟨fun _ _ => rfl, rfl, rfl, rfl, rfl⟩ run
  refine ⟨finish, run, spent "t0" ?_, closed "f0" ?_⟩
  · rw [rotated]
    exact List.mem_singleton_self _
  · rw [revoked]
    exact List.mem_singleton_self _

end Results

end BackendFoundation.Auth
