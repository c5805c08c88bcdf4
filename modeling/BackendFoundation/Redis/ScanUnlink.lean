/-
A client that deletes what it scans: UNLINK of every page of a SCAN, while others add and
remove keys.

SCAN keeps one promise. When the cursor comes back as 0, every matching key that was there
from start to end has been on some page. Pages may be empty and may repeat a key.
-/

import BackendFoundation.Transition.System

namespace BackendFoundation.Redis

open Transition

/-- A batch carries the keys under the client's own names. -/
inductive ScanPhase (Key : Type)
  | scanning (cursor : String)
  | unlinking (batch : List Key) (cursor : String)
  | returned
  | rejected
deriving DecidableEq

structure ScanState (Name Key : Type) where
  keys : List Name
  /-- Present from the start on, but for what this client has removed. -/
  stable : List Name
  scanned : List Name
  removed : List Name
  phase : ScanPhase Key

inductive ScanAction (Name : Type)
  | add (key : Name)
  | remove (key : Name)
  | scan (page : List Name) (nextCursor : String)
  | unlink (answered : Bool)
  | fail

section Machine

variable {Name Key : Type} [DecidableEq Name] (matching : Name → Bool) (toKey : Name → Key)
  (toName : Key → Name)

def ScanState.promised (state : ScanState Name Key) (page : List Name) (nextCursor : String) :
    Bool :=
  page.all (fun key => decide (key ∈ state.keys) && matching key) &&
    (decide (nextCursor ≠ "0") || state.stable.all fun key =>
      !matching key || decide (key ∈ state.removed) || decide (key ∈ state.scanned ++ page))

/-- The condition of the loop. -/
def resume (cursor : String) : ScanPhase Key :=
  if cursor = "0" then .returned else .scanning cursor

def ScanState.scan (state : ScanState Name Key) (page : List Name) (nextCursor : String) :
    ScanState Name Key :=
  { state with
    scanned := state.scanned ++ page
    phase := if page = [] then resume nextCursor else .unlinking (page.map toKey) nextCursor }

/-- UNLINK is one command, so its keys go together. -/
def ScanState.unlink (state : ScanState Name Key) (batch : List Key) (cursor : String)
    (answered : Bool) : ScanState Name Key :=
  { state with
    keys := state.keys.filter fun key => decide (key ∉ batch.map toName)
    removed := state.removed ++ state.keys.filter fun key => decide (key ∈ batch.map toName)
    phase := if answered then resume cursor else .rejected }

def scanStep (state : ScanState Name Key) :
    ScanAction Name → Option (ScanState Name Key)
  | .add key => some { state with keys := key :: state.keys }
  | .remove key =>
      if key ∈ state.keys then
        some { state with
          keys := state.keys.filter fun other => decide (other ≠ key)
          stable := state.stable.filter fun other => decide (other ≠ key) }
      else none
  | .scan page nextCursor =>
      match state.phase with
      | .scanning _ =>
          if state.promised matching page nextCursor then
            some (state.scan toKey page nextCursor)
          else none
      | _ => none
  | .unlink answered =>
      match state.phase with
      | .unlinking batch cursor => some (state.unlink toName batch cursor answered)
      | _ => none
  | .fail =>
      match state.phase with
      | .scanning _ | .unlinking _ _ => some { state with phase := .rejected }
      | _ => none

def scanStart (keys : List Name) : ScanState Name Key :=
  { keys := keys
    stable := keys
    scanned := []
    removed := []
    phase := .scanning "0" }

def scanUnlink : System (ScanState Name Key) (ScanAction Name) where
  initial state := ∃ keys, state = scanStart keys
  step := scanStep matching toKey toName

end Machine

section Steps

variable {Name Key : Type} [DecidableEq Name] {matching : Name → Bool} {toKey : Name → Key}
  {toName : Key → Name}

/-- Another client takes a key out of both lists or out of neither. -/
structure OtherStep (state following : ScanState Name Key) : Prop where
  stable : following.stable ⊆ state.stable
  present : ∀ key ∈ state.keys, key ∈ following.stable → key ∈ following.keys
  scanned : following.scanned = state.scanned
  removed : following.removed = state.removed
  phase : following.phase = state.phase

theorem scanStep_cases {state following : ScanState Name Key} {action : ScanAction Name}
    (stepped : scanStep matching toKey toName state action = some following) :
    OtherStep state following ∨
      (∃ cursor page nextCursor, state.phase = .scanning cursor ∧
        state.promised matching page nextCursor = true ∧
        following = state.scan toKey page nextCursor) ∨
      (∃ batch cursor answered, state.phase = .unlinking batch cursor ∧
        following = state.unlink toName batch cursor answered) ∨
      following = { state with phase := .rejected } := by
  cases action with
  | add key =>
      cases stepped
      exact .inl
        { stable := fun _ member => member
          present := fun _ member _ => List.mem_cons_of_mem key member
          scanned := rfl
          removed := rfl
          phase := rfl }
  | remove key =>
      simp only [scanStep] at stepped
      split at stepped
      · cases stepped
        exact .inl
          { stable := fun _ member => List.mem_of_mem_filter member
            present := fun other member stays =>
              List.mem_filter.mpr ⟨member, (List.mem_filter.mp stays).2⟩
            scanned := rfl
            removed := rfl
            phase := rfl }
      · cases stepped
  | scan page nextCursor =>
      simp only [scanStep] at stepped
      split at stepped
      · rename_i cursor scanning
        split at stepped
        · rename_i promised
          cases stepped
          exact .inr (.inl ⟨cursor, page, nextCursor, scanning, promised, rfl⟩)
        · cases stepped
      · cases stepped
  | unlink answered =>
      simp only [scanStep] at stepped
      split at stepped
      · rename_i batch cursor unlinking
        cases stepped
        exact .inr (.inr (.inl ⟨batch, cursor, answered, unlinking, rfl⟩))
      · cases stepped
  | fail =>
      simp only [scanStep] at stepped
      split at stepped
      · cases stepped
        exact .inr (.inr (.inr rfl))
      · cases stepped
        exact .inr (.inr (.inr rfl))
      · cases stepped

theorem reachable_scan {state : ScanState Name Key} {cursor nextCursor : String}
    {page : List Name} (reached : (scanUnlink matching toKey toName).Reachable anyAction state)
    (scanning : state.phase = .scanning cursor)
    (promised : state.promised matching page nextCursor = true) :
    (scanUnlink matching toKey toName).Reachable anyAction
      (state.scan toKey page nextCursor) := by
  have stepped : (scanUnlink matching toKey toName).step state (.scan page nextCursor) =
      some (state.scan toKey page nextCursor) := by
    simp only [scanUnlink, scanStep, scanning, if_pos promised]
  exact reached.next trivial stepped

theorem reachable_unlink {state : ScanState Name Key} {batch : List Key} {cursor : String}
    (reached : (scanUnlink matching toKey toName).Reachable anyAction state)
    (unlinking : state.phase = .unlinking batch cursor) (answered : Bool) :
    (scanUnlink matching toKey toName).Reachable anyAction
      (state.unlink toName batch cursor answered) := by
  have stepped : (scanUnlink matching toKey toName).step state (.unlink answered) =
      some (state.unlink toName batch cursor answered) := by
    simp only [scanUnlink, scanStep, unlinking]
  exact reached.next trivial stepped

theorem matching_of_promised {state : ScanState Name Key} {page : List Name}
    {nextCursor : String} (promised : state.promised matching page nextCursor = true) :
    ∀ key ∈ page, matching key = true := by
  intro key member
  unfold ScanState.promised at promised
  rw [Bool.and_eq_true, List.all_eq_true] at promised
  exact (Bool.and_eq_true_iff.mp (promised.1 key member)).2

theorem scanned_of_promised {state : ScanState Name Key} {page : List Name}
    (promised : state.promised matching page "0" = true) {key : Name}
    (stable : key ∈ state.stable) (matched : matching key = true) :
    key ∈ state.removed ∨ key ∈ state.scanned ++ page := by
  unfold ScanState.promised at promised
  rw [Bool.and_eq_true] at promised
  have all := promised.2
  rw [decide_eq_false fun different => different rfl, Bool.false_or, List.all_eq_true] at all
  have each := all key stable
  simp only [matched, Bool.not_true, Bool.false_or, Bool.or_eq_true, decide_eq_true_eq] at each
  exact each

end Steps

def ScanPhase.batch {Key : Type} : ScanPhase Key → List Key
  | .unlinking batch _ => batch
  | _ => []

/-- The last page has come. -/
def ScanPhase.finished {Key : Type} : ScanPhase Key → Prop
  | .unlinking _ cursor => cursor = "0"
  | .returned => True
  | _ => False

@[simp] theorem batch_resume {Key : Type} (cursor : String) :
    (resume cursor : ScanPhase Key).batch = [] := by
  unfold resume
  split
  · rfl
  · rfl

theorem finished_resume {Key : Type} {cursor : String} :
    (resume cursor : ScanPhase Key).finished ↔ cursor = "0" := by
  unfold resume
  split
  · rename_i last
    exact ⟨fun _ => last, fun _ => trivial⟩
  · rename_i more
    exact ⟨False.elim, more⟩

section Invariants

variable {Name Key : Type} [DecidableEq Name] {matching : Name → Bool} {toKey : Name → Key}
  {toName : Key → Name} {state : ScanState Name Key}

omit [DecidableEq Name] in
@[simp] theorem batch_scan (page : List Name) (nextCursor : String) :
    (state.scan toKey page nextCursor).phase.batch = page.map toKey := by
  unfold ScanState.scan
  by_cases empty : page = []
  · subst empty
    exact batch_resume nextCursor
  · simp only [if_neg empty, ScanPhase.batch]

omit [DecidableEq Name] in
theorem finished_scan {page : List Name} {nextCursor : String} :
    (state.scan toKey page nextCursor).phase.finished ↔ nextCursor = "0" := by
  unfold ScanState.scan
  by_cases empty : page = []
  · simp only [if_pos empty, finished_resume]
  · simp only [if_neg empty, ScanPhase.finished]

@[simp] theorem batch_unlink (batch : List Key) (cursor : String) (answered : Bool) :
    (state.unlink toName batch cursor answered).phase.batch = [] := by
  cases answered with
  | true => exact batch_resume cursor
  | false => rfl

theorem accounted_of_reachable
    (reached : (scanUnlink matching toKey toName).Reachable anyAction state) :
    ∀ key ∈ state.stable, key ∈ state.keys ∨ key ∈ state.removed := by
  apply reached.invariant
  · intro start initial key stable
    obtain ⟨keys, rfl⟩ := initial
    exact .inl stable
  · intro state action following ih _ stepped key stable
    rcases scanStep_cases stepped with other | ⟨_, page, _, _, _, rfl⟩ |
      ⟨batch, cursor, answered, _, rfl⟩ | rfl
    · rw [other.removed]
      rcases ih key (other.stable stable) with present | removed
      · exact .inl (other.present key present stable)
      · exact .inr removed
    · exact ih key stable
    · rcases ih key stable with present | removed
      · by_cases taken : key ∈ batch.map toName
        · exact .inr (List.mem_append_right _ (List.mem_filter.mpr ⟨present, decide_eq_true taken⟩))
        · exact .inl (List.mem_filter.mpr ⟨present, decide_eq_true taken⟩)
      · exact .inr (List.mem_append_left _ removed)
    · exact ih key stable

/-- A key that was on a page is gone, on its way out, or left behind by a failure. -/
theorem handled_of_reachable (recovers : ∀ key, matching key = true → toName (toKey key) = key)
    (reached : (scanUnlink matching toKey toName).Reachable anyAction state) :
    ∀ key ∈ state.scanned, key ∈ state.stable → matching key = true →
      key ∈ state.removed ∨ toKey key ∈ state.phase.batch ∨ state.phase = .rejected := by
  have known (state : ScanState Name Key)
      (reached : (scanUnlink matching toKey toName).Reachable anyAction state) :=
    accounted_of_reachable reached
  apply reached.invariant_using known
  · intro start initial key scanned
    obtain ⟨keys, rfl⟩ := initial
    cases scanned
  · intro state action following accounted ih _ stepped key scanned stable matched
    rcases scanStep_cases stepped with other | ⟨cursor, page, nextCursor, scanning, _, rfl⟩ |
      ⟨batch, cursor, answered, unlinking, rfl⟩ | rfl
    · rw [other.scanned] at scanned
      rw [other.removed, other.phase]
      exact ih key scanned (other.stable stable) matched
    · rcases List.mem_append.mp scanned with before | onPage
      · rcases ih key before stable matched with removed | waiting | failed
        · exact .inl removed
        · rw [scanning] at waiting
          cases waiting
        · rw [scanning] at failed
          cases failed
      · rw [batch_scan]
        exact .inr (.inl (List.mem_map_of_mem onPage))
    · rcases ih key scanned stable matched with removed | waiting | failed
      · exact .inl (List.mem_append_left _ removed)
      · rw [unlinking] at waiting
        have named : toName (toKey key) ∈ batch.map toName := List.mem_map_of_mem waiting
        rw [recovers key matched] at named
        rcases accounted key stable with present | removed
        · exact .inl (List.mem_append_right _
            (List.mem_filter.mpr ⟨present, decide_eq_true named⟩))
        · exact .inl (List.mem_append_left _ removed)
      · rw [unlinking] at failed
        cases failed
    · exact .inr (.inr rfl)

/-- What SCAN has promised holds from its last page on. -/
theorem covered_of_reachable
    (reached : (scanUnlink matching toKey toName).Reachable anyAction state) :
    state.phase.finished → ∀ key ∈ state.stable, matching key = true →
      key ∈ state.removed ∨ key ∈ state.scanned := by
  apply reached.invariant
  · intro start initial finished
    obtain ⟨keys, rfl⟩ := initial
    cases finished
  · intro state action following ih _ stepped finished key stable matched
    rcases scanStep_cases stepped with other | ⟨_, page, nextCursor, _, promised, rfl⟩ |
      ⟨batch, cursor, answered, unlinking, rfl⟩ | rfl
    · rw [other.phase] at finished
      rw [other.removed, other.scanned]
      exact ih finished key (other.stable stable) matched
    · have last := finished_scan.mp finished
      subst last
      exact scanned_of_promised promised stable matched
    · have last : cursor = "0" := by
        cases answered with
        | true => exact finished_resume.mp finished
        | false => cases finished
      rw [unlinking] at ih
      rcases ih last key stable matched with removed | scanned
      · exact .inl (List.mem_append_left _ removed)
      · exact .inr scanned
    · cases finished

/-- When the client returns, no matching key is left of those that were there all along. -/
theorem scanUnlink_complete (recovers : ∀ key, matching key = true → toName (toKey key) = key)
    (reached : (scanUnlink matching toKey toName).Reachable anyAction state)
    (returned : state.phase = .returned) {key : Name} (stable : key ∈ state.stable)
    (matched : matching key = true) : key ∈ state.removed := by
  have finished : state.phase.finished := by
    rw [returned]
    trivial
  rcases covered_of_reachable reached finished key stable matched with removed | scanned
  · exact removed
  · rcases handled_of_reachable recovers reached key scanned stable matched with
      removed | waiting | failed
    · exact removed
    · rw [returned] at waiting
      cases waiting
    · rw [returned] at failed
      cases failed

theorem batch_of_reachable
    (reached : (scanUnlink matching toKey toName).Reachable anyAction state) :
    ∀ key ∈ state.phase.batch, ∃ found, matching found = true ∧ toKey found = key := by
  apply reached.invariant
  · intro start initial key member
    obtain ⟨keys, rfl⟩ := initial
    cases member
  · intro state action following ih _ stepped key member
    rcases scanStep_cases stepped with other | ⟨_, page, _, _, promised, rfl⟩ |
      ⟨batch, cursor, answered, _, rfl⟩ | rfl
    · rw [other.phase] at member
      exact ih key member
    · rw [batch_scan] at member
      obtain ⟨found, onPage, rfl⟩ := List.mem_map.mp member
      exact ⟨found, matching_of_promised promised found onPage, rfl⟩
    · rw [batch_unlink] at member
      cases member
    · cases member

/-- In every state what the client has removed comes from keys that matched. -/
theorem scanUnlink_removed
    (reached : (scanUnlink matching toKey toName).Reachable anyAction state) :
    ∀ name ∈ state.removed, ∃ found, matching found = true ∧ toName (toKey found) = name := by
  have known (state : ScanState Name Key)
      (reached : (scanUnlink matching toKey toName).Reachable anyAction state) :=
    batch_of_reachable reached
  apply reached.invariant_using known
  · intro start initial name member
    obtain ⟨keys, rfl⟩ := initial
    cases member
  · intro state action following batches ih _ stepped name member
    rcases scanStep_cases stepped with other | ⟨_, page, _, _, _, rfl⟩ |
      ⟨batch, cursor, answered, unlinking, rfl⟩ | rfl
    · rw [other.removed] at member
      exact ih name member
    · exact ih name member
    · rcases List.mem_append.mp member with before | taken
      · exact ih name before
      · have named := of_decide_eq_true (List.mem_filter.mp taken).2
        obtain ⟨key, inBatch, rfl⟩ := List.mem_map.mp named
        rw [unlinking] at batches
        obtain ⟨found, matched, rfl⟩ := batches key inBatch
        exact ⟨found, matched, rfl⟩
    · exact ih name member

/-- A quiet keyspace that fits on one page. -/
theorem scanUnlink_onePage (matching : Name → Bool) (toKey : Name → Key) (toName : Key → Name)
    (keys : List Name) :
    ∃ state, (scanUnlink matching toKey toName).Reachable anyAction state ∧
      state.phase = .returned ∧ state.stable = keys ∧
      state.removed = keys.filter fun key =>
        decide (key ∈ ((keys.filter matching).map toKey).map toName) := by
  have start : (scanUnlink matching toKey toName).Reachable anyAction (scanStart keys) :=
    ⟨scanStart keys, [], ⟨keys, rfl⟩, .nil⟩
  have promised : (scanStart keys : ScanState Name Key).promised matching
      (keys.filter matching) "0" = true := by
    unfold ScanState.promised
    rw [Bool.and_eq_true, List.all_eq_true, Bool.or_eq_true, List.all_eq_true]
    constructor
    · intro key member
      obtain ⟨present, matched⟩ := List.mem_filter.mp member
      rw [Bool.and_eq_true]
      exact ⟨decide_eq_true present, matched⟩
    · right
      intro key present
      cases matched : matching key with
      | false => rfl
      | true =>
          rw [Bool.or_eq_true]
          exact .inr (decide_eq_true (List.mem_filter.mpr ⟨present, matched⟩))
  have scanned := reachable_scan start rfl promised
  by_cases empty : keys.filter matching = []
  · refine ⟨_, scanned, ?_, rfl, ?_⟩
    · exact if_pos empty
    · rw [empty]
      exact (List.filter_eq_nil_iff.mpr fun _ _ impossible => by cases impossible).symm
  · have unlinking : ((scanStart keys).scan toKey (keys.filter matching) "0").phase =
        .unlinking ((keys.filter matching).map toKey) "0" := if_neg empty
    exact ⟨_, reachable_unlink scanned unlinking true, rfl, rfl, rfl⟩

end Invariants

end BackendFoundation.Redis
