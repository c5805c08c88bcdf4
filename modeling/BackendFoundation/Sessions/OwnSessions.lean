/-
What a call of the session management has done by the time it returns, seen from the
state in which it began, when all that comes between its steps is the time and work on
the sessions of other users.
-/

import BackendFoundation.Sessions.Management

namespace BackendFoundation.Sessions

open Transition Redis

variable {Call Manager : Type}

/-- The record of a session that is alive. -/
def State.Stores (state : State Call) (sessionId : String) (record : SessionRecord) : Prop :=
  ∃ text, Slot.get state.now (state.keys (sessionKey sessionId)) = some (.text text) ∧
    parseRecord (some text) = some record

/-- The index of the user lists the session, and neither expires before the date. -/
def State.Lasts (state : State Call) (date : Nat) (userId sessionId : String) : Prop :=
  sessionId ∈ Slot.smembers date (state.index userId) ∧
    Slot.live date (state.keys (sessionKey sessionId)) ≠ none

/-- Time passes, and others work on their own keys. -/
structure Setup.Elsewhere (setup : Setup Call) (current following : State Call)
    (userId : String) : Prop where
  passed : current.now ≤ following.now
  same : ∀ key, setup.Owned userId key → following.keys key = current.keys key

section Elsewhere

variable {setup : Setup Call} {current following : State Call} {userId : String}

theorem Setup.Elsewhere.index (elsewhere : setup.Elsewhere current following userId) :
    following.index userId = current.index userId := by
  unfold State.index
  rw [elsewhere.same _ (.inl rfl)]

/-- A step that writes nothing. -/
theorem Setup.Elsewhere.of_keys (now : following.now = current.now)
    (keys : following.keys = current.keys) : setup.Elsewhere current following userId :=
  { passed := Nat.le_of_eq now.symm
    same := fun key _ => congrFun keys key }

theorem Setup.Move.elsewhere [DecidableEq Call] {action : Action Call}
    (move : setup.Move current action following) (uuids : setup.Plain)
    (works : ∀ call, setup.Works (setup.operation call) (current.calls call))
    (apart : ∀ call, action = .command call →
      ¬setup.Concerns userId (setup.operation call)) :
    setup.Elsewhere current following userId :=
  { passed := move.now_le
    same := fun _ owned => move.leaves uuids works owned apart }

end Elsewhere

/-- Of all sessions of the user exactly the given ones have been removed since, and the
index has lost no other one that is alive. -/
structure Setup.Since (setup : Setup Call) (start current : State Call) (userId : String)
    (removed : List String) : Prop where
  passed : start.now ≤ current.now
  kept : ∀ sessionId, setup.Draws userId sessionId → sessionId ∉ removed →
    current.keys (sessionKey sessionId) = start.keys (sessionKey sessionId)
  gone : ∀ sessionId ∈ removed, setup.Draws userId sessionId ∧
    current.keys (sessionKey sessionId) = none
  indexed : ∀ sessionId ∉ removed, start.Lasts current.now userId sessionId →
    ∃ before after, Slot.live current.now (start.index userId) = some before ∧
      Slot.live current.now (current.index userId) = some after ∧ sessionId ∈ after.value ∧
      after.expireAt = before.expireAt

section Since

variable {setup : Setup Call} {start current following : State Call}
  {userId sessionId : String} {removed : List String}

theorem State.Lasts.earlier {date later : Nat} (order : date ≤ later)
    (lasts : start.Lasts later userId sessionId) : start.Lasts date userId sessionId := by
  obtain ⟨listed, alive⟩ := lasts
  obtain ⟨index, found, inside⟩ := Slot.mem_smembers_iff.mp listed
  obtain ⟨cell, alive⟩ := Option.ne_none_iff_exists'.mp alive
  refine ⟨Slot.mem_smembers_iff.mpr ⟨index, Slot.live_earlier order found, inside⟩, ?_⟩
  rw [Slot.live_earlier order alive]
  exact nofun

theorem Setup.Kept.draws (kept : setup.Kept start) {date : Nat}
    (listed : sessionId ∈ Slot.smembers date (start.index userId)) :
    setup.Draws userId sessionId :=
  (kept.sound.members userId sessionId (Slot.holds_of_smembers listed)).draws

theorem Setup.Since.refl (state : State Call) : setup.Since state state userId [] := by
  constructor
  · exact Nat.le_refl _
  · exact fun _ _ _ => rfl
  · exact fun _ inside => absurd inside List.not_mem_nil
  · intro sessionId _ given
    obtain ⟨listed, _⟩ := given
    obtain ⟨index, found, inside⟩ := Slot.mem_smembers_iff.mp listed
    exact ⟨index, index, found, found, inside, rfl⟩

/-- The session is still alive, and listed. -/
theorem Setup.Since.alive (since : setup.Since start current userId removed)
    (kept : setup.Kept start) (left : sessionId ∉ removed)
    (lasts : start.Lasts current.now userId sessionId) : ¬current.Gone sessionId := by
  unfold State.Gone
  rw [since.kept sessionId (kept.draws lasts.1) left]
  exact lasts.2

theorem Setup.Since.leaves (since : setup.Since start current userId removed)
    (elsewhere : setup.Elsewhere current following userId) :
    setup.Since start following userId removed := by
  constructor
  · exact Nat.le_trans since.passed elsewhere.passed
  · intro sessionId draws left
    rw [elsewhere.same _ (.inr ⟨sessionId, draws, rfl⟩)]
    exact since.kept sessionId draws left
  · intro sessionId inside
    obtain ⟨draws, gone⟩ := since.gone sessionId inside
    exact ⟨draws, (elsewhere.same _ (.inr ⟨sessionId, draws, rfl⟩)).trans gone⟩
  · intro sessionId left lasts
    obtain ⟨before, after, found, found', inside, expiry⟩ :=
      since.indexed sessionId left (lasts.earlier elsewhere.passed)
    obtain ⟨later, found'', _⟩ := Slot.mem_smembers_iff.mp lasts.1
    have earlier := Slot.live_earlier elsewhere.passed found''
    rw [found] at earlier
    cases earlier
    refine ⟨before, after, found'', ?_, inside, expiry⟩
    rw [elsewhere.index]
    exact Slot.live_alike found' expiry found''

/-- The SREM of a session that is gone. -/
theorem Setup.Since.removes (since : setup.Since start current userId removed)
    (kept : setup.Kept start) {target : String} (gone : current.Gone target)
    (now : following.now = current.now)
    (same : ∀ sessionId, setup.Draws userId sessionId →
      following.keys (sessionKey sessionId) = current.keys (sessionKey sessionId))
    (index : following.index userId = Slot.srem current.now (current.index userId) target) :
    setup.Since start following userId removed := by
  constructor
  · rw [now]
    exact since.passed
  · intro sessionId draws left
    rw [same sessionId draws]
    exact since.kept sessionId draws left
  · intro sessionId inside
    obtain ⟨draws, gone⟩ := since.gone sessionId inside
    exact ⟨draws, (same sessionId draws).trans gone⟩
  · intro sessionId left lasts
    rw [now] at lasts
    obtain ⟨before, after, found, found', inside, expiry⟩ := since.indexed sessionId left lasts
    have different : sessionId ≠ target := by
      intro equal
      subst equal
      exact since.alive kept left lasts gone
    obtain ⟨after', found'', inside', expiry'⟩ := Slot.live_srem found' inside different
    rw [now, index]
    exact ⟨before, after', found, found'', inside', expiry'.trans expiry⟩

/-- The DEL of a session. -/
theorem Setup.Since.deletes (since : setup.Since start current userId removed)
    (draws : setup.Draws userId sessionId) (now : following.now = current.now)
    (keys : following.keys = Function.update current.keys (sessionKey sessionId) none) :
    setup.Since start following userId (removed ++ [sessionId]) := by
  have index : following.index userId = current.index userId := by
    unfold State.index
    rw [keys, Function.update_of_ne (sessionKey_ne_userIndexKey draws.plain userId).symm]
  have others (other : String) (different : other ≠ sessionId) :
      following.keys (sessionKey other) = current.keys (sessionKey other) := by
    rw [keys]
    exact Function.update_of_ne (fun same => different (sessionKey_injective same)) _ _
  constructor
  · rw [now]
    exact since.passed
  · intro other drawn left
    rw [List.mem_append, List.mem_singleton, not_or] at left
    rw [others other left.2]
    exact since.kept other drawn left.1
  · intro other inside
    by_cases same : other = sessionId
    · rw [keys, same, Function.update_self]
      exact ⟨draws, rfl⟩
    · rw [others other same]
      exact since.gone other
        ((List.mem_append.mp inside).resolve_right fun last => same (List.mem_singleton.mp last))
  · intro other left lasts
    rw [now] at lasts
    rw [List.mem_append, not_or] at left
    rw [now, index]
    exact since.indexed other left.1 lasts

end Since

/-- How far listByUserId has come with the sessions that are listed at the start. -/
structure State.Progress (start : State Call) (date : Nat) (userId : String)
    (rest : List String) (entries : List SessionListEntry) : Prop where
  distinct : (entries.map SessionListEntry.id ++ rest).Nodup
  waiting : ∀ sessionId ∈ rest, sessionId ∈ Slot.smembers start.now (start.index userId)
  entered : ∀ entry ∈ entries, entry.id ∈ Slot.smembers start.now (start.index userId) ∧
    start.Stores entry.id entry.record
  complete : ∀ sessionId, start.Lasts date userId sessionId →
    sessionId ∈ entries.map SessionListEntry.id ∨ sessionId ∈ rest

/-- A listByUserId of the user, phase by phase. -/
def State.Gathers (start current : State Call) (userId : String) : Phase → Prop
  | .listing _ => current.index userId = start.index userId
  | .visiting _ sessionId rest entries =>
      start.Progress current.now userId (sessionId :: rest) entries
  | .pruning _ _ rest entries => start.Progress current.now userId rest entries
  | .askingSessionTtl _ sessionId record rest entries =>
      start.Progress current.now userId (sessionId :: rest) entries ∧
        start.Stores sessionId record
  | .returned (.entries entries) => start.Progress current.now userId [] entries
  | _ => False

section Listing

variable {setup : Setup Call} {start current following : State Call} {call : Call}
  {userId sessionId : String} {rest : List String} {entries : List SessionListEntry}

theorem State.Progress.later {date later : Nat} (order : date ≤ later)
    (progress : start.Progress date userId rest entries) :
    start.Progress later userId rest entries :=
  { progress with
    complete := fun sessionId lasts => progress.complete sessionId (lasts.earlier order) }

theorem State.Gathers.later {phase : Phase} (gathers : start.Gathers current userId phase)
    (passed : current.now ≤ following.now)
    (index : following.index userId = current.index userId) :
    start.Gathers following userId phase := by
  cases phase with
  | listing => exact index.trans gathers
  | visiting | pruning => exact State.Progress.later passed gathers
  | askingSessionTtl => exact ⟨gathers.1.later passed, gathers.2⟩
  | returned reply =>
      cases reply with
      | entries => exact State.Progress.later passed gathers
      | _ => exact gathers.elim
  | _ => exact gathers.elim

theorem State.gathers_visit (progress : start.Progress current.now userId rest entries) :
    start.Gathers current userId
      ((Operation.listByUserId userId).visit userId rest entries) := by
  cases rest with
  | nil => exact progress
  | cons => exact progress

theorem Slot.smembers_earlier {now later : Nat} {slot : Slot (List String)} (order : now ≤ later)
    {member : String} (listed : member ∈ Slot.smembers later slot) :
    member ∈ Slot.smembers now slot := by
  obtain ⟨cell, found, inside⟩ := Slot.mem_smembers_iff.mp listed
  exact Slot.mem_smembers_iff.mpr ⟨cell, Slot.live_earlier order found, inside⟩

theorem State.Progress.begins (kept : setup.Kept start) {date : Nat} (passed : start.now ≤ date) :
    start.Progress date userId (Slot.smembers date (start.index userId)) [] := by
  constructor
  · rw [List.map_nil, List.nil_append]
    cases found : Slot.live date (start.index userId) with
    | none =>
        have missing : Slot.get date (start.index userId) = none :=
          Slot.get_eq_none_iff.mpr found
        rw [Slot.smembers, missing]
        exact List.nodup_nil
    | some cell =>
        rw [Slot.smembers_of_live found]
        exact kept.distinct userId cell (Slot.live_some_iff.mp found).1
  · exact fun _ listed => Slot.smembers_earlier passed listed
  · exact fun _ inside => absurd inside List.not_mem_nil
  · exact fun _ lasts => .inr lasts.1

/-- The session has been visited and is not there any more. -/
theorem State.Progress.skips (progress : start.Progress current.now userId
    (sessionId :: rest) entries) (gone : ¬start.Lasts current.now userId sessionId) :
    start.Progress current.now userId rest entries := by
  constructor
  · exact progress.distinct.sublist ((List.sublist_cons_self _ _).append_left _)
  · exact fun member inside => progress.waiting member (List.mem_cons_of_mem _ inside)
  · exact progress.entered
  · intro member lasts
    rcases progress.complete member lasts with entered | waiting
    · exact .inl entered
    · rcases List.mem_cons.mp waiting with rfl | later
      · exact absurd lasts gone
      · exact .inr later

theorem State.Progress.enters {record : SessionRecord} (expiry : Nat)
    (progress : start.Progress current.now userId (sessionId :: rest) entries)
    (stores : start.Stores sessionId record) :
    start.Progress current.now userId rest
      (entries ++ [{ id := sessionId, record := record, expiresAt := expiry }]) := by
  constructor
  · have distinct := progress.distinct
    rw [List.map_append, List.append_assoc]
    exact distinct
  · exact fun member inside => progress.waiting member (List.mem_cons_of_mem _ inside)
  · intro entry inside
    rcases List.mem_append.mp inside with old | new
    · exact progress.entered entry old
    · rw [List.mem_singleton.mp new]
      exact ⟨progress.waiting sessionId List.mem_cons_self, stores⟩
  · intro member lasts
    rw [List.map_append, List.mem_append]
    rcases progress.complete member lasts with entered | waiting
    · exact .inl (.inl entered)
    · rcases List.mem_cons.mp waiting with rfl | later
      · exact .inl (.inr List.mem_cons_self)
      · exact .inr later

/-- What is read of a session that has not been removed was stored at the start. -/
theorem Setup.Since.stores {removed : List String} {raw : Option Text} {record : SessionRecord}
    (since : setup.Since start current userId removed) (draws : setup.Draws userId sessionId)
    (left : sessionId ∉ removed)
    (replied : current.keys.get current.now (sessionKey sessionId) = .ok raw)
    (parsed : parseRecord raw = some record) : start.Stores sessionId record := by
  cases raw with
  | none => cases parsed
  | some text =>
      have stored := Keyspace.get_ok_iff.mp replied
      rw [since.kept sessionId draws left] at stored
      obtain ⟨cell, alive, value⟩ := Slot.get_eq_some_iff.mp stored
      exact ⟨text, Slot.get_eq_some_iff.mpr
        ⟨cell, Slot.live_earlier since.passed alive, value⟩, parsed⟩

variable [DecidableEq Call]

theorem State.Gathers.step (gathers : start.Gathers current userId (current.calls call))
    (began : setup.Kept start) (kept : setup.Kept current) (uuids : setup.Plain)
    (since : setup.Since start current userId [])
    (lists : setup.operation call = .listByUserId userId)
    (stepped : setup.step current (.command call) = some following) :
    setup.Since start following userId [] ∧
      start.Gathers following userId (following.calls call) := by
  have works := kept.works call
  have knows := kept.sound.knows call
  have unrejected := setup.not_rejected uuids kept.sound works stepped
  rw [lists] at works
  have own (other : String) (listing : (Operation.listByUserId userId).Lists other) :
      other = userId := by
    rcases listing with same | same <;> cases same
    rfl
  cases setup.moved stepped with
  | @reads _ next reads =>
      rw [State.goto_self] at unrejected ⊢
      refine ⟨since.leaves (.of_keys rfl rfl), ?_⟩
      change start.Gathers current userId next
      generalize current.calls call = phase at gathers works knows reads
      cases reads with
      | @lists other members replied =>
          obtain rfl := own other works
          rw [kept.sound.smembers_index] at replied
          cases replied
          rw [lists, show current.index other = start.index other from gathers]
          exact State.gathers_visit (.begins began since.passed)
      | misses replied missing =>
          have gone := kept.sound.gone knows.1 replied missing
          exact State.Progress.skips gathers fun lasts =>
            since.alive began List.not_mem_nil lasts gone
      | @finds other sessionId rest entries raw record replied found =>
          obtain rfl := own other works.1
          exact ⟨gathers, since.stores (works.2.1 sessionId List.mem_cons_self)
            List.not_mem_nil replied found⟩
      | @enters other sessionId record rest entries expiry =>
          obtain rfl := own other works.1
          rw [lists]
          exact State.gathers_visit (gathers.1.enters expiry gathers.2)
      | rejects => exact absurd rfl unrejected
      | asksIndexTtl | gets | reads => exact gathers.elim
  | @writes _ key slot next writes =>
      change _ ∧ start.Gathers _ userId ((current.goto call next).calls call)
      rw [State.goto_self]
      generalize current.calls call = phase at gathers works knows writes
      cases writes with
      | @prunes other sessionId rest entries =>
          obtain rfl := own other works.1
          rw [lists]
          refine ⟨since.removes began knows.1.2 rfl ?_ ?_, State.gathers_visit gathers⟩
          · intro other draws
            exact Function.update_of_ne (sessionKey_ne_userIndexKey draws.plain _) _ _
          · simp only [State.index, Function.update_self, Keyspace.asSet_ofSet]
      | sets | adds | expires | deletes | removes => exact gathers.elim

end Listing

/-- A delete of a session of the user, phase by phase. -/
def Setup.Deleting (setup : Setup Call) (start current : State Call) (userId : String)
    (removed : List String) (sessionId : String) : Phase → Prop
  | .reading target rest | .deleting target _ rest =>
      (target = sessionId ∧ rest = []) ∧ setup.Since start current userId removed
  | .removing target _ rest =>
      (target = sessionId ∧ rest = []) ∧
        setup.Since start current userId (removed ++ [sessionId])
  | .returned .done => setup.Since start current userId (removed ++ [sessionId])
  | _ => False

/-- A get of a session, phase by phase: a record that it has returned was there at the
start, and a session of the user that it has not found has expired. -/
def Setup.Fetches (setup : Setup Call) (start current : State Call)
    (userId sessionId : String) : Phase → Prop
  | .getting target => target = sessionId
  | .returned (.record found) =>
      (∀ record ∈ found, setup.Draws userId sessionId → start.Stores sessionId record) ∧
        ((∀ record ∈ found, record.userId ≠ userId) → setup.Draws userId sessionId →
          Slot.live current.now (start.keys (sessionKey sessionId)) = none)
  | _ => False

section OneSession

variable {setup : Setup Call} {start current following : State Call} {call : Call}
  {userId sessionId : String} {removed : List String}

theorem Setup.Deleting.leaves {phase : Phase}
    (deleting : setup.Deleting start current userId removed sessionId phase)
    (elsewhere : setup.Elsewhere current following userId) :
    setup.Deleting start following userId removed sessionId phase := by
  cases phase with
  | reading | deleting | removing => exact ⟨deleting.1, deleting.2.leaves elsewhere⟩
  | returned reply =>
      cases reply with
      | done => exact Setup.Since.leaves deleting elsewhere
      | _ => exact deleting.elim
  | _ => exact deleting.elim

theorem Setup.Fetches.later {phase : Phase}
    (fetches : setup.Fetches start current userId sessionId phase)
    (passed : current.now ≤ following.now) :
    setup.Fetches start following userId sessionId phase := by
  cases phase with
  | getting => exact fetches
  | returned reply =>
      cases reply with
      | record found =>
          exact ⟨fetches.1, fun foreign draws =>
            Slot.live_none_later passed (fetches.2 foreign draws)⟩
      | _ => exact fetches.elim
  | _ => exact fetches.elim

variable [DecidableEq Call]

theorem Setup.Deleting.step
    (deleting : setup.Deleting start current userId removed sessionId (current.calls call))
    (began : setup.Kept start) (kept : setup.Kept current) (uuids : setup.Plain)
    (draws : setup.Draws userId sessionId)
    (stepped : setup.step current (.command call) = some following) :
    setup.Deleting start following userId removed sessionId (following.calls call) := by
  have works := kept.works call
  have knows := kept.sound.knows call
  have unrejected := setup.not_rejected uuids kept.sound works stepped
  cases setup.moved stepped with
  | @reads _ next reads =>
      rw [State.goto_self] at unrejected ⊢
      generalize current.calls call = phase at deleting reads
      cases reads with
      | reads => exact ⟨deleting.1, deleting.2.leaves (.of_keys rfl rfl)⟩
      | rejects => exact absurd rfl unrejected
      | asksIndexTtl | gets | lists | misses | finds | enters => exact deleting.elim
  | @writes _ key slot next writes =>
      change setup.Deleting start _ userId removed sessionId ((current.goto call next).calls call)
      rw [State.goto_self]
      generalize current.calls call = phase at deleting works knows writes
      cases writes with
      | @deletes target record rest =>
          obtain ⟨⟨rfl, rfl⟩, since⟩ := deleting
          cases record with
          | none => exact since.deletes draws rfl rfl
          | some record => exact ⟨⟨rfl, rfl⟩, since.deletes draws rfl rfl⟩
      | @removes target record rest =>
          obtain ⟨⟨rfl, rfl⟩, since⟩ := deleting
          obtain rfl := works.2.unique draws
          refine since.removes began knows.2 rfl ?_ ?_
          · intro other drawn
            exact Function.update_of_ne (sessionKey_ne_userIndexKey drawn.plain _) _ _
          · simp only [State.index, Function.update_self, Keyspace.asSet_ofSet]
      | sets | adds | expires | prunes => exact deleting.elim

theorem Setup.Fetches.step
    (fetches : setup.Fetches start current userId sessionId (current.calls call))
    (kept : setup.Kept current) (uuids : setup.Plain)
    (since : setup.Since start current userId [])
    (stepped : setup.step current (.command call) = some following) :
    setup.Elsewhere current following userId ∧
      setup.Fetches start following userId sessionId (following.calls call) := by
  have works := kept.works call
  have unrejected := setup.not_rejected uuids kept.sound works stepped
  cases setup.moved stepped with
  | @reads _ next reads =>
      refine ⟨.of_keys rfl rfl, ?_⟩
      have reached : (current.goto call next).calls call = next := State.goto_self _ _ _
      rw [reached] at unrejected ⊢
      generalize phase : current.calls call = before at fetches reads
      cases reads with
      | @gets target found =>
          obtain rfl : target = sessionId := fetches
          obtain ⟨raw, replied, rfl⟩ := setup.replied_get stepped phase reached
          constructor
          · intro record parsed draws
            exact since.stores draws List.not_mem_nil replied parsed
          · intro foreign draws
            rw [← since.kept target draws List.not_mem_nil]
            cases alive : Slot.live current.now (current.keys (sessionKey target)) with
            | none => exact alive
            | some cell =>
                obtain ⟨text, record, value, parsed, user⟩ :=
                  kept.sound.record_of_draws draws (Slot.live_some_iff.mp alive).1
                have read : Slot.get current.now (current.keys (sessionKey target)) =
                    (some text).map .text := Slot.get_eq_some_iff.mpr ⟨cell, alive, value⟩
                cases (Keyspace.get_ok_iff.mpr read).symm.trans replied
                exact absurd user (foreign record parsed)
      | rejects => exact absurd rfl unrejected
      | asksIndexTtl | lists | misses | finds | enters | reads => exact fetches.elim
  | @writes _ key slot next writes =>
      generalize current.calls call = phase at fetches writes
      cases writes <;> exact fetches.elim

end OneSession

/-- The listed sessions of the user that are wanted: those that were alive at the start,
but for some that have expired by the date. -/
structure State.Sweeps (start : State Call) (date : Nat) (userId : String)
    (wanted : String → Prop) (targets : List String) : Prop where
  distinct : targets.Nodup
  listed : ∀ sessionId ∈ targets, wanted sessionId ∧ start.Lasts start.now userId sessionId
  complete : ∀ sessionId, start.Lasts date userId sessionId → wanted sessionId →
    sessionId ∈ targets

/-- The items of the listed sessions of one version. -/
structure State.Shows (start : State Call) (date : Nat) (userId currentSessionId : String)
    (currentAuthVersion : Int) (items : List SessionListItem) : Prop where
  distinct : (items.map SessionListItem.id).Nodup
  listed : ∀ item ∈ items, start.Lasts start.now userId item.id ∧
    ∃ record expiresAt, start.Stores item.id record ∧
      record.authVersion = currentAuthVersion ∧
      item = SessionListEntry.toItem
        { id := item.id
          record := record
          expiresAt := expiresAt } currentSessionId
  complete : ∀ sessionId record, start.Lasts date userId sessionId →
    start.Stores sessionId record → record.authVersion = currentAuthVersion →
    ∃ item ∈ items, item.id = sessionId

/-- What a request that revokes has to delete. -/
def State.Aims (start : State Call) (date : Nat) (targets : List String) : Request → Prop
  | .listForUser _ _ _ => False
  | .revokeOne userId sessionId _ =>
      targets = [sessionId] ∧ ∃ record, start.Stores sessionId record ∧ record.userId = userId
  | .revokeOthers userId currentSessionId =>
      start.Sweeps date userId (fun sessionId => sessionId ≠ currentSessionId) targets
  | .revokeAll userId => start.Sweeps date userId (fun _ => True) targets

/-- What a request has done when it returns. -/
def Setup.Meets (setup : Setup Call) (start current : State Call) :
    Request → Result → Prop
  | .listForUser userId currentSessionId currentAuthVersion, .listed items =>
      setup.Since start current userId [] ∧
        start.Shows current.now userId currentSessionId currentAuthVersion items
  | .revokeOne userId sessionId currentSessionId, .revokedOne clearedCurrent =>
      clearedCurrent = (sessionId == currentSessionId) ∧
        (∃ record, start.Stores sessionId record ∧ record.userId = userId) ∧
        setup.Since start current userId [sessionId]
  | .revokeOthers userId currentSessionId, .revokedOthers revokedCount =>
      ∃ targets, targets.length = revokedCount ∧
        start.Sweeps current.now userId (fun sessionId => sessionId ≠ currentSessionId) targets ∧
        setup.Since start current userId targets
  | .revokeAll userId, .done =>
      ∃ targets, start.Sweeps current.now userId (fun _ => True) targets ∧
        setup.Since start current userId targets
  | _, _ => False

/-- A request on one session is turned down: nothing of the user's has changed, and the
session is not one of theirs, or has expired. -/
def Setup.TurnsDown (setup : Setup Call) (start current : State Call) : Request → Prop
  | .revokeOne userId sessionId _ =>
      setup.Since start current userId [] ∧ current.index userId = start.index userId ∧
        (setup.Draws userId sessionId →
          Slot.live current.now (start.keys (sessionKey sessionId)) = none)
  | _ => False

/-- A call of the service, stage by stage. -/
inductive Setup.Follows (setup : Setup Call) (start current : State Call)
    (request : Request) : Stage Call → Prop
  | begins (since : setup.Since start current request.userId [])
      (index : current.index request.userId = start.index request.userId) :
      Follows setup start current request (.asking request.first [] 0)
  | lists {call : Call} (first : request.first = .listByUserId request.userId)
      (operation : setup.operation call = .listByUserId request.userId)
      (since : setup.Since start current request.userId [])
      (gathers : start.Gathers current request.userId (current.calls call)) :
      Follows setup start current request (.awaiting call [] 0)
  | gets {call : Call} {sessionId : String} (first : request.first = .get sessionId)
      (operation : setup.operation call = .get sessionId)
      (since : setup.Since start current request.userId [])
      (index : current.index request.userId = start.index request.userId)
      (fetches : setup.Fetches start current request.userId sessionId (current.calls call)) :
      Follows setup start current request (.awaiting call [] 0)
  | deletes {sessionId : String} {rest removed : List String}
      (aims : start.Aims current.now (removed ++ sessionId :: rest) request)
      (since : setup.Since start current request.userId removed) :
      Follows setup start current request (.asking (.delete sessionId) rest removed.length)
  | deleting {call : Call} {sessionId : String} {rest removed : List String}
      (aims : start.Aims current.now (removed ++ sessionId :: rest) request)
      (operation : setup.operation call = .delete sessionId)
      (deleting : setup.Deleting start current request.userId removed sessionId
        (current.calls call)) :
      Follows setup start current request (.awaiting call rest removed.length)
  | resolves {result : Result} (meets : setup.Meets start current request result) :
      Follows setup start current request (.resolved result)
  | turnsDown (down : setup.TurnsDown start current request) :
      Follows setup start current request (.rejected (.notFound sessionNotFound))

section Requests

variable {setup : Setup Call} {start current following : State Call} {call : Call}
  {request : Request} {userId sessionId : String} {stage : Stage Call}

theorem State.Stores.unique {record other : SessionRecord}
    (first : start.Stores sessionId record) (second : start.Stores sessionId other) :
    record = other := by
  obtain ⟨text, stored, parsed⟩ := first
  obtain ⟨text', stored', parsed'⟩ := second
  rw [stored] at stored'
  cases stored'
  exact Option.some.inj (parsed.symm.trans parsed')

theorem State.Stores.alive {record : SessionRecord} (stores : start.Stores sessionId record) :
    Slot.live start.now (start.keys (sessionKey sessionId)) ≠ none := by
  obtain ⟨text, stored, _⟩ := stores
  obtain ⟨cell, alive, _⟩ := Slot.get_eq_some_iff.mp stored
  rw [alive]
  exact nofun

theorem State.Stores.draws {record : SessionRecord} (began : setup.Kept start)
    (stores : start.Stores sessionId record) : setup.Draws record.userId sessionId := by
  obtain ⟨text, stored, parsed⟩ := stores
  have replied : start.keys.get start.now (sessionKey sessionId) = .ok (some text) :=
    Keyspace.get_ok_iff.mpr stored
  exact (began.sound.issued replied parsed).draws

theorem State.Sweeps.later {date later : Nat} {wanted : String → Prop} {targets : List String}
    (order : date ≤ later) (sweeps : start.Sweeps date userId wanted targets) :
    start.Sweeps later userId wanted targets :=
  { sweeps with
    complete := fun sessionId lasts => sweeps.complete sessionId (lasts.earlier order) }

theorem State.Aims.later {date later : Nat} {targets : List String} (order : date ≤ later)
    (aims : start.Aims date targets request) : start.Aims later targets request := by
  cases request with
  | listForUser => exact aims
  | revokeOne => exact aims
  | revokeOthers | revokeAll => exact State.Sweeps.later order aims

theorem State.Aims.draws {date : Nat} {targets : List String} (began : setup.Kept start)
    (aims : start.Aims date targets request) (target : sessionId ∈ targets) :
    setup.Draws request.userId sessionId := by
  cases request with
  | listForUser => exact aims.elim
  | revokeOne userId other =>
      obtain ⟨rfl, record, stores, rfl⟩ := aims
      rw [List.mem_singleton.mp target]
      exact stores.draws began
  | revokeOthers | revokeAll => exact began.draws (aims.listed sessionId target).2.1

theorem State.Progress.sweeps {date : Nat} {entries : List SessionListEntry}
    (progress : start.Progress date userId [] entries) (wanted : String → Bool) :
    start.Sweeps date userId (fun sessionId => wanted sessionId = true)
      ((entries.map SessionListEntry.id).filter wanted) := by
  constructor
  · have distinct := progress.distinct
    rw [List.append_nil] at distinct
    exact distinct.filter _
  · intro sessionId member
    obtain ⟨listed, kept⟩ := List.mem_filter.mp member
    obtain ⟨entry, inside, rfl⟩ := List.mem_map.mp listed
    obtain ⟨indexed, stores⟩ := progress.entered entry inside
    exact ⟨kept, indexed, stores.alive⟩
  · intro sessionId lasts kept
    exact List.mem_filter.mpr
      ⟨(progress.complete sessionId lasts).resolve_right List.not_mem_nil, kept⟩

theorem State.Progress.shows {date : Nat} {entries : List SessionListEntry}
    (progress : start.Progress date userId [] entries) (currentSessionId : String)
    (currentAuthVersion : Int) :
    start.Shows date userId currentSessionId currentAuthVersion
      (itemsOf entries currentSessionId currentAuthVersion) := by
  constructor
  · have distinct := progress.distinct
    rw [List.append_nil] at distinct
    have ids : (itemsOf entries currentSessionId currentAuthVersion).map SessionListItem.id =
        (entries.filter fun entry => entry.record.authVersion == currentAuthVersion).map
          SessionListEntry.id := List.map_map
    rw [ids]
    exact distinct.sublist (List.filter_sublist.map _)
  · intro item member
    obtain ⟨entry, kept, rfl⟩ := List.mem_map.mp member
    obtain ⟨inside, version⟩ := List.mem_filter.mp kept
    obtain ⟨indexed, stores⟩ := progress.entered entry inside
    exact ⟨⟨indexed, stores.alive⟩, entry.record, entry.expiresAt, stores,
      beq_iff_eq.mp version, rfl⟩
  · intro sessionId record lasts stores version
    obtain ⟨entry, inside, rfl⟩ := List.mem_map.mp
      ((progress.complete sessionId lasts).resolve_right List.not_mem_nil)
    rw [stores.unique (progress.entered entry inside).2] at version
    refine ⟨_, List.mem_map_of_mem (List.mem_filter.mpr ⟨inside, ?_⟩), rfl⟩
    exact beq_iff_eq.mpr version

theorem Setup.Meets.elsewhere {result : Result} (meets : setup.Meets start current request result)
    (elsewhere : setup.Elsewhere current following request.userId) :
    setup.Meets start following request result := by
  have later {removed : List String}
      (since : setup.Since start current request.userId removed) :
      setup.Since start following request.userId removed :=
    since.leaves elsewhere
  cases request with
  | listForUser =>
      cases result with
      | listed =>
          exact ⟨later meets.1, { meets.2 with
            complete := fun sessionId record lasts =>
              meets.2.complete sessionId record (lasts.earlier elsewhere.passed) }⟩
      | _ => exact meets.elim
  | revokeOne =>
      cases result with
      | revokedOne => exact ⟨meets.1, meets.2.1, later meets.2.2⟩
      | _ => exact meets.elim
  | revokeOthers =>
      cases result with
      | revokedOthers =>
          obtain ⟨targets, count, sweeps, since⟩ := meets
          exact ⟨targets, count, sweeps.later elsewhere.passed, later since⟩
      | _ => exact meets.elim
  | revokeAll =>
      cases result with
      | done =>
          obtain ⟨targets, sweeps, since⟩ := meets
          exact ⟨targets, sweeps.later elsewhere.passed, later since⟩
      | _ => exact meets.elim

theorem Setup.TurnsDown.elsewhere (down : setup.TurnsDown start current request)
    (elsewhere : setup.Elsewhere current following request.userId) :
    setup.TurnsDown start following request := by
  cases request with
  | revokeOne =>
      obtain ⟨since, index, missing⟩ := down
      exact ⟨since.leaves elsewhere, elsewhere.index.trans index,
        fun draws => Slot.live_none_later elsewhere.passed (missing draws)⟩
  | _ => exact down.elim

theorem Setup.Follows.elsewhere (follows : setup.Follows start current request stage)
    (elsewhere : setup.Elsewhere current following request.userId)
    (calls : ∀ call rest revokedCount, stage = .awaiting call rest revokedCount →
      following.calls call = current.calls call) :
    setup.Follows start following request stage := by
  have later {removed : List String}
      (since : setup.Since start current request.userId removed) :
      setup.Since start following request.userId removed :=
    since.leaves elsewhere
  cases follows with
  | begins since index => exact .begins (later since) (elsewhere.index.trans index)
  | lists first operation since gathers =>
      have gathers' := gathers.later elsewhere.passed elsewhere.index
      exact .lists first operation (later since) ((calls _ _ _ rfl).symm ▸ gathers')
  | gets first operation since index fetches =>
      exact .gets first operation (later since) (elsewhere.index.trans index)
        ((calls _ _ _ rfl).symm ▸ fetches.later elsewhere.passed)
  | deletes aims since => exact .deletes (aims.later elsewhere.passed) (later since)
  | deleting aims operation deleting =>
      exact .deleting (aims.later elsewhere.passed) operation
        ((calls _ _ _ rfl).symm ▸ deleting.leaves elsewhere)
  | resolves meets => exact .resolves (meets.elsewhere elsewhere)
  | turnsDown down => exact .turnsDown (down.elsewhere elsewhere)

/-- The call that the service waits for has begun, and has not failed. -/
theorem Setup.Follows.running {rest : List String} {revokedCount : Nat}
    (follows : setup.Follows start current request (.awaiting call rest revokedCount)) :
    current.calls call ≠ .ready ∧ current.calls call ≠ .rejected := by
  have not_idle (phase : Phase) (idle : phase = .ready ∨ phase = .rejected)
      (reached : current.calls call = phase) : False := by
    cases follows with
    | lists _ _ _ gathers =>
        rw [reached] at gathers
        rcases idle with rfl | rfl <;> exact gathers.elim
    | gets _ _ _ _ fetches =>
        rw [reached] at fetches
        rcases idle with rfl | rfl <;> exact fetches.elim
    | deleting _ _ deleting =>
        rw [reached] at deleting
        rcases idle with rfl | rfl <;> exact deleting.elim
  exact ⟨not_idle _ (.inl rfl), not_idle _ (.inr rfl)⟩

theorem Setup.Follows.next (removed : List String) {targets rest : List String}
    (aims : start.Aims current.now targets request)
    (since : setup.Since start current request.userId removed)
    (split : targets = removed ++ rest) :
    setup.Follows start current request (request.deleteNext removed.length rest) := by
  subst split
  cases rest with
  | cons sessionId rest => exact .deletes aims since
  | nil =>
      rw [List.append_nil] at aims
      apply Setup.Follows.resolves
      cases request with
      | listForUser => exact aims.elim
      | revokeOne =>
          obtain ⟨rfl, stores⟩ := aims
          exact ⟨rfl, stores, since⟩
      | revokeOthers => exact ⟨removed, rfl, aims, since⟩
      | revokeAll => exact ⟨removed, aims, since⟩

/-- The service has the entries of its user. -/
theorem Setup.Follows.listed {entries : List SessionListEntry}
    (first : request.first = .listByUserId request.userId)
    (since : setup.Since start current request.userId [])
    (progress : start.Progress current.now request.userId [] entries)
    (resumed : request.resume [] 0 (.entries entries) = some stage) :
    setup.Follows start current request stage := by
  cases request with
  | revokeOne => cases first
  | listForUser userId currentSessionId currentAuthVersion =>
      cases resumed
      exact .resolves ⟨since, progress.shows currentSessionId currentAuthVersion⟩
  | revokeOthers userId currentSessionId =>
      cases resumed
      have sweeps := progress.sweeps fun sessionId => sessionId != currentSessionId
      simp only [bne_iff_ne] at sweeps
      exact Setup.Follows.next [] sweeps since rfl
  | revokeAll userId =>
      cases resumed
      have sweeps := progress.sweeps fun _ => true
      rw [List.filter_true] at sweeps
      simp only at sweeps
      exact Setup.Follows.next [] sweeps since rfl

theorem Setup.Follows.resumes {rest : List String} {revokedCount : Nat} {reply : Reply}
    (follows : setup.Follows start current request (.awaiting call rest revokedCount))
    (works : setup.Works (setup.operation call) (.returned reply))
    (returned : current.calls call = .returned reply)
    (resumed : request.resume rest revokedCount reply = some stage) :
    setup.Follows start current request stage := by
  cases follows with
  | lists first operation since gathers =>
      rw [returned] at gathers
      cases reply with
      | entries => exact Setup.Follows.listed first since gathers resumed
      | _ => exact gathers.elim
  | @gets _ sessionId first operation since index fetches =>
      rw [returned] at fetches
      cases reply with
      | record found =>
          cases request with
          | listForUser | revokeOthers | revokeAll => cases first
          | revokeOne userId =>
              cases first
              cases found with
              | none =>
                  cases resumed
                  exact .turnsDown ⟨since, index, fetches.2 nofun⟩
              | some record =>
                  simp only [Request.resume] at resumed
                  split at resumed
                  · rename_i user
                    cases resumed
                    obtain ⟨_, operation', draws⟩ := works
                    have same := Operation.get.inj (operation.symm.trans operation')
                    have drawn : setup.Draws userId sessionId := by
                      rw [same, ← user]
                      exact draws record rfl
                    exact Setup.Follows.next [] ⟨rfl, record, fetches.1 record rfl drawn, user⟩
                      since rfl
                  · rename_i foreign
                    cases resumed
                    refine .turnsDown ⟨since, index, fetches.2 ?_⟩
                    intro other same
                    cases same
                    exact foreign
      | _ => exact fetches.elim
  | @deleting _ sessionId rest removed aims operation deleting =>
      rw [returned] at deleting
      cases reply with
      | done =>
          cases resumed
          have counted : removed.length + 1 = (removed ++ [sessionId]).length := by
            rw [List.length_append]
            rfl
          rw [counted]
          exact Setup.Follows.next _ aims deleting (List.append_cons removed sessionId rest)
      | _ => exact deleting.elim

variable [DecidableEq Call]

theorem Setup.Follows.command {rest : List String} {revokedCount : Nat}
    (follows : setup.Follows start current request (.awaiting call rest revokedCount))
    (began : setup.Kept start) (kept : setup.Kept current) (uuids : setup.Plain)
    (stepped : setup.step current (.command call) = some following) :
    setup.Follows start following request (.awaiting call rest revokedCount) := by
  cases follows with
  | lists first operation since gathers =>
      obtain ⟨since', gathers'⟩ := gathers.step began kept uuids since operation stepped
      exact .lists first operation since' gathers'
  | gets first operation since index fetches =>
      obtain ⟨elsewhere, fetches'⟩ := fetches.step kept uuids since stepped
      exact .gets first operation (since.leaves elsewhere)
        (elsewhere.index.trans index) fetches'
  | deleting aims operation deleting =>
      have draws := aims.draws began (List.mem_append_right _ List.mem_cons_self)
      exact .deleting (aims.later (setup.moved stepped).now_le) operation
        (deleting.step began kept uuids draws stepped)

theorem Setup.Follows.asks {asked : Asked} {rest : List String} {revokedCount : Nat}
    (follows : setup.Follows start current request (.asking asked rest revokedCount))
    (asks : (setup.operation call).asked = some asked)
    (stepped : setup.step current (.start call) = some following) :
    setup.Follows start following request (.awaiting call rest revokedCount) := by
  have operation := Operation.eq_of_asked asks
  cases setup.moved stepped with
  | starts ready =>
      have later {removed : List String}
          (since : setup.Since start current request.userId removed) :
          setup.Since start (current.goto call (setup.operation call).start) request.userId
            removed := since.leaves (.of_keys rfl rfl)
      cases follows with
      | begins since index =>
          cases request with
          | revokeOne =>
              refine .gets rfl operation (later since) index ?_
              rw [State.goto_self, operation]
              rfl
          | listForUser | revokeOthers | revokeAll =>
              refine .lists rfl operation (later since) ?_
              rw [State.goto_self, operation]
              exact index
      | @deletes sessionId _ removed aims since =>
          have started : (current.goto call (setup.operation call).start).calls call =
              .reading sessionId [] := by
            rw [State.goto_self, operation]
            rfl
          refine .deleting aims operation ?_
          rw [started]
          exact ⟨⟨rfl, rfl⟩, later since⟩

end Requests

section Service

variable [DecidableEq Call] [DecidableEq Manager] {setup : ServiceSetup Call Manager}
  {state following : ServiceState Call Manager} {action : ServiceAction Call Manager}
  {manager : Manager} {start : State Call}

/-- A step of the call of the service, or one that does not work on the sessions of its
user. -/
def ServiceSetup.Apart (setup : ServiceSetup Call Manager) (manager : Manager)
    (state : ServiceState Call Manager) : ServiceAction Call Manager → Prop
  | .store (.start call) | .store (.command call) =>
      (∃ rest revokedCount, state.stages manager = .awaiting call rest revokedCount) ∨
        ¬setup.store.Concerns (setup.request manager).userId (setup.store.operation call)
  | .store _ => True
  | .ask actor _ | .resume actor =>
      actor = manager ∨ (setup.request actor).userId ≠ (setup.request manager).userId

theorem ServiceSetup.follows_step (began : setup.store.Kept start) (kept : setup.Kept state)
    (uuids : setup.store.Plain) (apart : setup.Apart manager state action)
    (stepped : setup.step state action = some following)
    (follows : setup.store.Follows start state.store (setup.request manager)
      (state.stages manager)) :
    setup.store.Follows start following.store (setup.request manager)
      (following.stages manager) := by
  cases setup.moved stepped with
  | @stores action store inner =>
      have move := setup.store.moved inner
      by_cases own : ∃ call rest revokedCount, action = .command call ∧
          state.stages manager = .awaiting call rest revokedCount
      · obtain ⟨call, rest, revokedCount, rfl, waits⟩ := own
        change setup.store.Follows start store _ (state.stages manager)
        rw [waits] at follows ⊢
        exact follows.command began kept.store uuids inner
      · refine follows.elsewhere (move.elsewhere uuids kept.store.works ?_) ?_
        · intro call equal concerns
          subst equal
          rcases apart with ⟨rest, revokedCount, waits⟩ | other
          · exact own ⟨call, rest, revokedCount, rfl, waits⟩
          · exact other concerns
        · intro call rest revokedCount waits
          rw [waits] at follows
          refine move.calls_kept follows.running.1 ?_
          intro equal
          subst equal
          exact own ⟨call, rest, revokedCount, rfl, waits⟩
  | @asks actor call asked rest revokedCount store stage asks inner =>
      change setup.store.Follows start store _ ((state.goto actor _).stages manager)
      by_cases same : manager = actor
      · subst same
        rw [stage] at follows
        rw [ServiceState.goto_self]
        exact follows.asks asks inner
      · have move := setup.store.moved inner
        rw [ServiceState.goto_other _ _ same]
        refine follows.elsewhere (move.elsewhere uuids kept.store.works nofun) ?_
        intro call' rest' revokedCount' waits
        rw [waits] at follows
        exact move.calls_kept follows.running.1 nofun
  | @resumes actor call rest revokedCount reply stage waits returned resumed =>
      change setup.store.Follows start state.store _ ((state.goto actor _).stages manager)
      by_cases same : manager = actor
      · subst same
        have works := kept.store.works call
        rw [returned] at works
        rw [waits] at follows
        rw [ServiceState.goto_self]
        exact follows.resumes works returned resumed
      · rw [ServiceState.goto_other _ _ same]
        exact follows
  | @fails actor call rest revokedCount waits rejected =>
      change setup.store.Follows start state.store _ ((state.goto actor _).stages manager)
      by_cases same : manager = actor
      · subst same
        rw [waits] at follows
        exact absurd rejected follows.running.2
      · rw [ServiceState.goto_other _ _ same]
        exact follows

theorem ServiceSetup.follows_of_run {begin_ finish : ServiceState Call Manager}
    {actions : List (ServiceAction Call Manager)} (uuids : setup.store.Plain)
    (reached : setup.system.Reachable anyAction begin_)
    (ready : begin_.stages manager = .asking (setup.request manager).first [] 0)
    (run : setup.system.Run (setup.Apart manager) begin_ actions finish) :
    setup.store.Follows begin_.store finish.store (setup.request manager)
      (finish.stages manager) := by
  have began := setup.kept_of_reachable reached
  suffices both : setup.Kept finish ∧ setup.store.Follows begin_.store finish.store
      (setup.request manager) (finish.stages manager) from both.2
  have invariant : (fun state : ServiceState Call Manager => setup.Kept state ∧
      setup.store.Follows begin_.store state.store (setup.request manager)
        (state.stages manager)) finish := by
    apply run.preserves
    · intro before action after found apart stepped
      obtain ⟨kept, follows⟩ := found
      exact ⟨kept.step stepped, setup.follows_step began.store kept uuids apart stepped follows⟩
    · refine ⟨began, ?_⟩
      rw [ready]
      exact .begins (.refl _) rfl
  exact invariant

/-- What a call of the service comes to. -/
def ServiceSetup.Concludes (setup : ServiceSetup Call Manager) (start current : State Call)
    (request : Request) : Stage Call → Prop
  | .resolved result => setup.store.Meets start current request result
  | .rejected failure =>
      failure = .notFound sessionNotFound ∧ setup.store.TurnsDown start current request
  | .asking _ _ _ | .awaiting _ _ _ => True

/-- A call of the service touches the sessions of its user, and these exactly as it is
meant to when nobody else works on them. -/
structure ServiceSetup.TouchesOwnSessions (setup : ServiceSetup Call Manager) : Prop where
  members : ∀ state userId sessionId cell, setup.system.Reachable anyAction state →
    sessionId ∈ Slot.smembers state.store.now (state.store.index userId) →
    Slot.live state.store.now (state.store.keys (sessionKey sessionId)) = some cell →
    ∃ text record, cell.value = .text text ∧ parseRecord (some text) = some record ∧
      record.userId = userId
  leaves : ∀ state manager action following userId key, setup.system.Reachable anyAction state →
    setup.step state action = some following → state.ActsFor manager action →
    userId ≠ (setup.request manager).userId → setup.store.Owned userId key →
    following.store.keys key = state.store.keys key
  leavesInStore : ∀ state call following userId key, setup.system.Reachable anyAction state →
    setup.step state (.store (.command call)) = some following →
    ¬setup.store.Concerns userId (setup.store.operation call) → setup.store.Owned userId key →
    following.store.keys key = state.store.keys key
  lists : ∀ state manager items, setup.system.Reachable anyAction state →
    state.stages manager = .resolved (.listed items) → ∀ item ∈ items,
      setup.store.Draws (setup.request manager).userId item.id
  concludes : ∀ start manager actions finish, setup.system.Reachable anyAction start →
    start.stages manager = .asking (setup.request manager).first [] 0 →
    setup.system.Run (setup.Apart manager) start actions finish →
    setup.Concludes start.store finish.store (setup.request manager) (finish.stages manager)
  advances : ∀ state manager call rest revokedCount, setup.system.Reachable anyAction state →
    state.stages manager = .awaiting call rest revokedCount →
    ∃ action following, state.ActsFor manager action ∧
      setup.step state action = some following

theorem touchesOwnSessions (setup : ServiceSetup Call Manager) (uuids : setup.store.Plain) :
    setup.TouchesOwnSessions := by
  constructor
  · intro state userId sessionId cell reached member alive
    exact (setup.kept_of_reachable reached).store.sound.record_of_member member alive
  · intro state manager action following userId key reached stepped acts different owned
    exact (setup.kept_of_reachable reached).isolates uuids stepped acts different owned
  · intro state call following userId key reached stepped apart owned
    obtain ⟨store, inner, rfl⟩ := Option.map_eq_some_iff.mp stepped
    refine (setup.store.moved inner).leaves uuids (setup.kept_of_reachable reached).store.works
      owned ?_
    intro other same
    cases same
    exact apart
  · intro state manager items reached resolved
    have owns := (setup.kept_of_reachable reached).owns manager
    rw [resolved] at owns
    exact owns
  · intro start manager actions finish reached ready run
    have follows := setup.follows_of_run uuids reached ready run
    generalize finish.stages manager = stage at follows
    cases follows with
    | begins | lists | gets | deletes | deleting => trivial
    | resolves meets => exact meets
    | turnsDown down => exact ⟨rfl, down⟩
  · intro state manager call rest revokedCount reached waits
    exact (setup.kept_of_reachable reached).advances waits

end Service

/-- Two devices of one user, a stranger, and what the session management needs. -/
inductive Visit
  | laptop
  | phone
  | stranger
  | list
  | delete
deriving DecidableEq, Repr

def Visit.sessionId : Visit → String
  | laptop => "a4f6"
  | phone => "b7c1"
  | stranger => "c2d8"
  | list => "d9e3"
  | delete => "e5a0"

theorem Visit.sessionId_injective : Function.Injective Visit.sessionId := by
  intro first second same
  cases first <;> cases second <;> first | rfl | exact absurd same (by decide)

theorem Visit.sessionId_plain (visit : Visit) : ':' ∉ visit.sessionId.toList := by
  cases visit <;> decide

def Visit.login (userId : String) : Operation :=
  .create
    { record := { loginRecord with userId := userId }
      ttlSeconds := 3600
      positive := hour_pos }

/-- The laptop revokes the other sessions of its user. -/
def visits : ServiceSetup Visit Unit :=
  { store :=
      { operation := fun visit =>
          match visit with
          | .laptop | .phone => Visit.login "u1"
          | .stranger => Visit.login "u2"
          | .list => .listByUserId "u1"
          | .delete => .delete "b7c1"
        sessionId := Visit.sessionId
        sessionId_injective := Visit.sessionId_injective
        sessionId_plain := Visit.sessionId_plain }
    request := fun _ => .revokeOthers "u1" "a4f6" }

theorem visits_plain : visits.store.Plain := by
  intro visit sessionId client
  cases visit <;> cases client
  decide

theorem touchesOwnSessions_visits : visits.TouchesOwnSessions ∧
    ∃ state, visits.system.Reachable anyAction state ∧
      state.stages () = .resolved (.revokedOthers 1) ∧
      Slot.smembers state.store.now (state.store.index "u1") = ["a4f6"] ∧
      Slot.smembers state.store.now (state.store.index "u2") = ["c2d8"] := by
  refine ⟨touchesOwnSessions visits visits_plain, ?_⟩
  have executed :
      (visits.system.execute (fun _ _ => true)
        { store := State.empty
          stages := fun _ => .asking (.listByUserId "u1") [] 0 }
        [.store (.start .laptop), .store (.command .laptop), .store (.command .laptop),
          .store (.command .laptop), .store (.command .laptop), .store (.start .phone),
          .store (.command .phone), .store (.command .phone), .store (.command .phone),
          .store (.command .phone), .store (.start .stranger), .store (.command .stranger),
          .store (.command .stranger), .store (.command .stranger),
          .store (.command .stranger), .ask () .list, .store (.command .list),
          .store (.command .list), .store (.command .list), .store (.command .list),
          .store (.command .list), .resume (), .ask () .delete, .store (.command .delete),
          .store (.command .delete), .store (.command .delete), .resume ()]).map
        (fun state => (state.stages (),
          Slot.smembers state.store.now (state.store.index "u1"),
          Slot.smembers state.store.now (state.store.index "u2"))) =
      some (.resolved (.revokedOthers 1), ["a4f6"], ["c2d8"]) := by
    decide +kernel
  obtain ⟨state, run, facts⟩ := Option.map_eq_some_iff.mp executed
  simp only [Prod.mk.injEq] at facts
  exact ⟨state, .of_execute (fun _ _ _ => trivial) ⟨⟨rfl, rfl⟩, rfl⟩ run, facts⟩

end BackendFoundation.Sessions
