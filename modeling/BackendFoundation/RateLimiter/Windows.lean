/-
All calls of RedisRateLimiter.check for one key, with one limit and one integer TTL. The
windows are the lifetimes of the counter: each begins with the call that creates it.
-/

import BackendFoundation.RateLimiter.RedisRateLimiter
import BackendFoundation.Transition.System

namespace BackendFoundation.RateLimiter

open Transition Redis Redis.Slot

structure Setup where
  exactly : Bool
  limit : Nat
  ttlSeconds : Nat
  ttlSeconds_pos : 0 < ttlSeconds

/-- A call that has been answered: when it was made, when its counter was created, and
the answer. -/
structure Call where
  moment : Nat
  window : Nat
  result : CheckResult
deriving DecidableEq

/-- The calls, newest first, and the creation of the last counter are history. -/
structure State where
  now : Nat
  key : Slot Nat
  window : Nat
  calls : List Call

inductive Action
  | advance (milliseconds : Nat)
  | check (clientNow : Nat)
deriving DecidableEq, Repr

namespace Setup

def ttlMs (setup : Setup) : Nat := setup.ttlSeconds * 1000

def step (setup : Setup) (state : State) : Action → Option State
  | .advance milliseconds => some { state with now := state.now + milliseconds }
  | .check clientNow =>
      match RateLimiter.check setup.exactly state.now state.key setup.limit setup.ttlSeconds
          clientNow with
      | (key, none) => some { state with key := key }
      | (key, some result) =>
          let window :=
            if (live (readAt setup.exactly state.now) state.key).isSome then state.window
            else state.now
          some
            { now := state.now
              key := key
              window := window
              calls :=
                { moment := state.now
                  window := window
                  result := result } :: state.calls }

def system (setup : Setup) : Transition.System State Action :=
  { initial := fun state => state.key = none ∧ state.calls = []
    step := setup.step }

/-- The counter can expire: its expiry is one that Redis can store. -/
def Expires (setup : Setup) (state : State) : Action → Prop
  | .advance _ => True
  | .check _ => state.now + setup.ttlMs ≤ maxExpireAt

end Setup

/-- The number of calls of a window. -/
def tally (window : Nat) (calls : List Call) : Nat :=
  calls.countP fun call => decide (call.window = window)

/-- The number of calls allowed in a window. -/
def admitted (window : Nat) (calls : List Call) : Nat :=
  calls.countP fun call => call.result.allowed && decide (call.window = window)

/-- The number of calls allowed between two instants. -/
def allowedWithin (first last : Nat) (calls : List Call) : Nat :=
  calls.countP fun call =>
    call.result.allowed && (decide (first ≤ call.moment) && decide (call.moment ≤ last))

/-- What one call of check is told, given the calls before it. -/
structure Setup.Answers (setup : Setup) (state : State) (call : Call) : Prop where
  moment : call.moment = state.now
  denied : call.result.allowed = false →
    setup.limit ≤ allowedWithin (state.now - setup.ttlMs) state.now state.calls
  remaining : call.result.remaining =
    ((setup.limit - tally call.window (call :: state.calls) : Nat) : Rat)
  restarts : state.window + setup.ttlMs < readAt setup.exactly state.now →
    call.window = state.now ∧ tally call.window state.calls = 0

/-- The limiter never over-admits and never blocks without cause. -/
structure Setup.Limits (setup : Setup) : Prop where
  interval : ∀ state, setup.system.Reachable setup.Expires state → ∀ start,
    allowedWithin start (start + setup.ttlMs) state.calls ≤ 2 * setup.limit
  lifetime : ∀ state, setup.system.Reachable setup.Expires state → ∀ window,
    admitted window state.calls ≤ setup.limit
  windows : ∀ state, setup.system.Reachable setup.Expires state → ∀ call ∈ state.calls,
    (∃ first ∈ state.calls, first.window = call.window ∧ first.moment = call.window) ∧
      call.window ≤ call.moment ∧
        readAt setup.exactly call.moment ≤ call.window + setup.ttlMs
  answers : ∀ state clientNow following, setup.system.Reachable setup.Expires state →
    setup.Expires state (.check clientNow) →
    setup.system.step state (.check clientNow) = some following →
    ∃ call, following.calls = call :: state.calls ∧ following.window = call.window ∧
      setup.Answers state call

theorem readAt_le (exactly : Bool) (now : Nat) : readAt exactly now ≤ now + 1 := by
  cases exactly with
  | true => exact Nat.le_refl _
  | false => exact Nat.le_succ _

theorem le_readAt (exactly : Bool) (now : Nat) : now ≤ readAt exactly now := by
  cases exactly with
  | true => exact Nat.le_succ _
  | false => exact Nat.le_refl _

theorem lt_of_readAt_lt {exactly : Bool} {earlier later : Nat}
    (order : readAt exactly earlier < readAt exactly later) : earlier < later := by
  cases exactly with
  | true => exact Nat.lt_of_succ_lt_succ order
  | false => exact order

section Lists

variable {window : Nat} {call : Call} {calls : List Call}

theorem tally_cons (window : Nat) (call : Call) (calls : List Call) :
    tally window (call :: calls) =
      tally window calls + if call.window = window then 1 else 0 := by
  simp only [tally, List.countP_cons, decide_eq_true_eq]

theorem admitted_cons (window : Nat) (call : Call) (calls : List Call) :
    admitted window (call :: calls) =
      admitted window calls +
        if call.result.allowed = true ∧ call.window = window then 1 else 0 := by
  simp only [admitted, List.countP_cons, Bool.and_eq_true, decide_eq_true_eq]

theorem countP_le_add {first second third : Call → Bool}
    (covered : ∀ call ∈ calls, first call = true → second call = true ∨ third call = true) :
    calls.countP first ≤ calls.countP second + calls.countP third := by
  induction calls with
  | nil => exact Nat.zero_le _
  | cons head rest ih =>
      have tail := ih fun call member => covered call (List.mem_cons_of_mem _ member)
      have here := covered head List.mem_cons_self
      simp only [List.countP_cons]
      cases isFirst : first head with
      | false =>
          simp only [Bool.false_eq_true, if_false]
          omega
      | true =>
          rcases here isFirst with isSecond | isThird
          · simp only [isSecond, if_true]
            omega
          · simp only [isThird, if_true]
            omega

theorem tally_eq_zero (fresh : ∀ call ∈ calls, call.window ≠ window) :
    tally window calls = 0 := by
  refine List.countP_eq_zero.mpr fun call member same => ?_
  exact fresh call member (of_decide_eq_true same)

end Lists

/-- The answer to a call that creates a counter. -/
theorem check_created {exactly : Bool} {now : Nat} {key : Slot Nat} {ttlSeconds : Nat}
    (limit : Rat) (clientNow : Nat) (free : live (readAt exactly now) key = none)
    (range : now + ttlSeconds * 1000 ≤ maxExpireAt) :
    check exactly now key limit ttlSeconds clientNow =
      (setEx now 1 ttlSeconds,
        some (checkResult limit clientNow
          { count := 1
            ttl := ttlReply now
              { value := 1
                expireAt := some (now + ttlSeconds * 1000) } })) := by
  simp only [check, incrementWithTtl_free free (expiryOf_natCast range), Option.map_some, setEx]

/-- The answer to a call that finds its counter. -/
theorem check_counted {exactly : Bool} {now : Nat} {key : Slot Nat} {cell : Cell Nat}
    (limit ttlSeconds : Rat) (clientNow : Nat)
    (found : live (readAt exactly now) key = some cell) (counted : 0 < cell.value) :
    check exactly now key limit ttlSeconds clientNow =
      (some { cell with value := cell.value + 1 },
        some (checkResult limit clientNow
          { count := cell.value + 1
            ttl := ttlReply now { cell with value := cell.value + 1 } })) := by
  simp only [check, incrementWithTtl_found ttlSeconds found counted, Option.map_some]

theorem allowed_iff {limit count clientNow : Nat} {ttl : Int} :
    (checkResult (limit : Rat) clientNow { count := count, ttl := ttl }).allowed = true ↔
      count ≤ limit := by
  simp only [checkResult, decide_eq_true_eq, Rat.natCast_le_natCast]

theorem remaining_eq {limit count clientNow : Nat} {ttl : Int} :
    (checkResult (limit : Rat) clientNow { count := count, ttl := ttl }).remaining =
      ((limit - count : Nat) : Rat) := by
  change (if (limit : Rat) - count ≤ 0 then 0 else (limit : Rat) - count) = _
  by_cases order : count ≤ limit
  · obtain ⟨rest, rfl⟩ := Nat.exists_eq_add_of_le order
    have difference : ((count + rest : Nat) : Rat) - count = (rest : Rat) := by
      rw [Rat.natCast_add, Rat.add_comm, Rat.sub_eq_add_neg, Rat.add_assoc,
        ← Rat.sub_eq_add_neg, Rat.sub_self, Rat.add_zero]
    rw [difference, Nat.add_sub_cancel_left]
    split
    · rename_i nonpositive
      exact Rat.le_antisymm Rat.natCast_nonneg nonpositive
    · rfl
  · have negative : (limit : Rat) - count ≤ 0 := by
      refine Rat.le_add_iff_sub_le.mp ?_
      rw [Rat.zero_add]
      exact Rat.natCast_le_natCast.mpr (Nat.le_of_not_le order)
    rw [if_pos negative, Nat.sub_eq_zero_of_le (Nat.le_of_not_le order)]
    rfl

/-- A call that is answered counts on, or opens a window. -/
inductive Setup.Moves (setup : Setup) (state : State) : Action → State → Prop
  | advances (milliseconds : Nat) :
      Moves setup state (.advance milliseconds)
        { state with now := state.now + milliseconds }
  | opens {clientNow : Nat} {ttl : Int}
      (free : live (readAt setup.exactly state.now) state.key = none) :
      Moves setup state (.check clientNow)
        { now := state.now
          key := setEx state.now 1 setup.ttlSeconds
          window := state.now
          calls :=
            { moment := state.now
              window := state.now
              result := checkResult setup.limit clientNow { count := 1, ttl := ttl } } ::
              state.calls }
  | counts {clientNow : Nat} {ttl : Int} {cell : Cell Nat}
      (found : live (readAt setup.exactly state.now) state.key = some cell) :
      Moves setup state (.check clientNow)
        { now := state.now
          key := some { cell with value := cell.value + 1 }
          window := state.window
          calls :=
            { moment := state.now
              window := state.window
              result :=
                checkResult setup.limit clientNow
                  { count := cell.value + 1, ttl := ttl } } :: state.calls }

theorem Setup.moved {setup : Setup} {state following : State} {action : Action}
    (counted : ∀ cell, state.key = some cell → 0 < cell.value)
    (expires : setup.Expires state action) (stepped : setup.step state action = some following) :
    setup.Moves state action following := by
  cases action with
  | advance milliseconds =>
      cases stepped
      exact .advances milliseconds
  | check clientNow =>
      cases found : live (readAt setup.exactly state.now) state.key with
      | none =>
          have answer := check_created (setup.limit : Rat) clientNow found expires
          simp only [step, answer, found] at stepped
          cases stepped
          exact .opens found
      | some cell =>
          have answer := check_counted (setup.limit : Rat) setup.ttlSeconds clientNow found
            (counted cell (live_some_iff.mp found).1)
          simp only [step, answer, found] at stepped
          cases stepped
          exact .counts found

/-- What every reachable state satisfies: the counter counts the calls of its window, no
call outlives its window, and windows do not overlap. -/
structure Setup.Consistent (setup : Setup) (state : State) : Prop where
  unused : state.key = none → state.calls = []
  expiry : ∀ cell, state.key = some cell →
    cell.expireAt = some (state.window + setup.ttlMs)
  counted : ∀ cell, state.key = some cell → 0 < cell.value
  tallied : ∀ cell, state.key = some cell → cell.value = tally state.window state.calls
  past : ∀ call ∈ state.calls, call.moment ≤ state.now ∧ call.window ≤ state.window
  inside : ∀ call ∈ state.calls, call.window ≤ call.moment ∧
    readAt setup.exactly call.moment ≤ call.window + setup.ttlMs
  opened : ∀ call ∈ state.calls,
    ∃ first ∈ state.calls, first.window = call.window ∧ first.moment = call.window
  apart : ∀ call ∈ state.calls, ∀ later ∈ state.calls, call.window < later.window →
    call.window + setup.ttlMs < readAt setup.exactly later.window
  admits : ∀ window, admitted window state.calls = min (tally window state.calls) setup.limit

namespace Setup

variable {setup : Setup} {state : State}

/-- A window whose counter has expired lies in the past. -/
theorem window_lt {window now : Nat} (over_ : window + setup.ttlMs < readAt setup.exactly now) :
    window < now := by
  have later := readAt_le setup.exactly now
  have positive : 1000 ≤ setup.ttlMs := Nat.le_mul_of_pos_left 1000 setup.ttlSeconds_pos
  omega

/-- Where no counter is left, every window has ended. -/
theorem Consistent.ended (consistent : setup.Consistent state)
    (free : live (readAt setup.exactly state.now) state.key = none) :
    ∀ call ∈ state.calls,
      call.window + setup.ttlMs < readAt setup.exactly state.now := by
  intro call member
  cases stored : state.key with
  | none =>
      rw [consistent.unused stored] at member
      cases member
  | some cell =>
      have expired : ¬readAt setup.exactly state.now ≤ state.window + setup.ttlMs := by
        intro unexpired
        have found := live_some_iff.mpr
          ⟨stored, aliveAt_of_le (consistent.expiry cell stored) unexpired⟩
        rw [free] at found
        cases found
      have order := (consistent.past call member).2
      omega

/-- The counter of a live key is still within its window. -/
theorem Consistent.running {cell : Cell Nat} (consistent : setup.Consistent state)
    (found : live (readAt setup.exactly state.now) state.key = some cell) :
    readAt setup.exactly state.now ≤ state.window + setup.ttlMs := by
  obtain ⟨stored, alive⟩ := live_some_iff.mp found
  have expiry := consistent.expiry cell stored
  simp only [Cell.aliveAt, expiry, decide_eq_true_eq] at alive
  exact alive

/-- A limit that counts the calls of its window admits the first ones. -/
theorem admits_cons {calls : List Call} {call : Call} {limit window : Nat}
    (admits : admitted window calls = min (tally window calls) limit)
    (allowed : call.window = window →
      (call.result.allowed = true ↔ tally window calls < limit)) :
    admitted window (call :: calls) = min (tally window (call :: calls)) limit := by
  rw [admitted_cons, tally_cons, admits]
  by_cases same : call.window = window
  · have iff_ := allowed same
    by_cases below : tally window calls < limit
    · simp only [iff_.mpr below, same, and_self, if_true]
      omega
    · have denied : call.result.allowed = false :=
        Bool.eq_false_iff.mpr fun granted => below (iff_.mp granted)
      simp only [denied, Bool.false_eq_true, false_and, if_false, same, if_true]
      omega
  · simp only [same, and_false, if_false, Nat.add_zero]

theorem Consistent.advance (consistent : setup.Consistent state) (milliseconds : Nat) :
    setup.Consistent { state with now := state.now + milliseconds } where
  unused := consistent.unused
  expiry := consistent.expiry
  counted := consistent.counted
  tallied := consistent.tallied
  past := fun call member =>
    ⟨Nat.le_trans (consistent.past call member).1 (Nat.le_add_right _ _),
      (consistent.past call member).2⟩
  inside := consistent.inside
  opened := consistent.opened
  apart := consistent.apart
  admits := consistent.admits

theorem Consistent.fresh (consistent : setup.Consistent state)
    (free : live (readAt setup.exactly state.now) state.key = none) :
    tally state.now state.calls = 0 :=
  tally_eq_zero fun call member same =>
    Nat.ne_of_lt (window_lt (consistent.ended free call member)) same

theorem Consistent.opens {result : CheckResult} (consistent : setup.Consistent state)
    (free : live (readAt setup.exactly state.now) state.key = none)
    (allowed : result.allowed = true ↔ 1 ≤ setup.limit) :
    setup.Consistent
      { now := state.now
        key := setEx state.now 1 setup.ttlSeconds
        window := state.now
        calls :=
          { moment := state.now
            window := state.now
            result := result } :: state.calls } where
  unused := fun impossible => by cases impossible
  expiry := fun cell stored => by cases stored; rfl
  counted := fun cell stored => by cases stored; exact Nat.one_pos
  tallied := by
    intro cell stored
    cases stored
    rw [tally_cons, consistent.fresh free, if_pos rfl]
  past := by
    intro call member
    rcases List.mem_cons.mp member with rfl | earlier
    · exact ⟨Nat.le_refl _, Nat.le_refl _⟩
    · exact ⟨(consistent.past call earlier).1,
        Nat.le_of_lt (window_lt (consistent.ended free call earlier))⟩
  inside := by
    intro call member
    rcases List.mem_cons.mp member with rfl | earlier
    · refine ⟨Nat.le_refl _, Nat.le_trans (readAt_le _ _) ?_⟩
      exact Nat.add_le_add_left
        (Nat.le_trans (by decide) (Nat.le_mul_of_pos_left 1000 setup.ttlSeconds_pos)) _
    · exact consistent.inside call earlier
  opened := by
    intro call member
    rcases List.mem_cons.mp member with rfl | earlier
    · exact ⟨_, List.mem_cons_self, rfl, rfl⟩
    · obtain ⟨first, found, same⟩ := consistent.opened call earlier
      exact ⟨first, List.mem_cons_of_mem _ found, same⟩
  apart := by
    intro call member later member' order
    rcases List.mem_cons.mp member with rfl | earlier
    · rcases List.mem_cons.mp member' with rfl | earlier'
      · exact absurd order (Nat.lt_irrefl _)
      · have before := window_lt (consistent.ended free later earlier')
        exact absurd order (Nat.lt_asymm before)
    · rcases List.mem_cons.mp member' with rfl | earlier'
      · exact consistent.ended free call earlier
      · exact consistent.apart call earlier later earlier' order
  admits := by
    intro window
    refine admits_cons (consistent.admits window) fun same => ?_
    subst same
    rw [allowed, consistent.fresh free]
    exact Iff.rfl

/-- A counter has a call. -/
theorem Consistent.current {cell : Cell Nat} (consistent : setup.Consistent state)
    (stored : state.key = some cell) : ∃ call ∈ state.calls, call.window = state.window := by
  have positive := consistent.counted cell stored
  rw [consistent.tallied cell stored] at positive
  obtain ⟨call, member, same⟩ := List.countP_pos_iff.mp positive
  exact ⟨call, member, of_decide_eq_true same⟩

theorem Consistent.counts {result : CheckResult} {cell : Cell Nat}
    (consistent : setup.Consistent state)
    (found : live (readAt setup.exactly state.now) state.key = some cell)
    (allowed : result.allowed = true ↔ cell.value + 1 ≤ setup.limit) :
    setup.Consistent
      { now := state.now
        key := some { cell with value := cell.value + 1 }
        window := state.window
        calls :=
          { moment := state.now
            window := state.window
            result := result } :: state.calls } where
  unused := fun impossible => by cases impossible
  expiry := by
    intro later stored
    cases stored
    exact consistent.expiry cell (live_some_iff.mp found).1
  counted := fun later stored => by cases stored; exact Nat.succ_pos _
  tallied := by
    intro later stored
    cases stored
    rw [tally_cons, if_pos rfl, ← consistent.tallied cell (live_some_iff.mp found).1]
  past := by
    intro call member
    rcases List.mem_cons.mp member with rfl | earlier
    · exact ⟨Nat.le_refl _, Nat.le_refl _⟩
    · exact consistent.past call earlier
  inside := by
    intro call member
    rcases List.mem_cons.mp member with rfl | earlier
    · obtain ⟨first, present, same⟩ := consistent.current (live_some_iff.mp found).1
      have begun := Nat.le_trans (consistent.inside first present).1
        (consistent.past first present).1
      rw [same] at begun
      exact ⟨begun, consistent.running found⟩
    · exact consistent.inside call earlier
  opened := by
    intro call member
    rcases List.mem_cons.mp member with rfl | earlier
    · obtain ⟨other, present, same⟩ := consistent.current (live_some_iff.mp found).1
      obtain ⟨first, present', window, moment⟩ := consistent.opened other present
      exact ⟨first, List.mem_cons_of_mem _ present', window.trans same, moment.trans same⟩
    · obtain ⟨first, present, same⟩ := consistent.opened call earlier
      exact ⟨first, List.mem_cons_of_mem _ present, same⟩
  apart := by
    intro call member later member' order
    rcases List.mem_cons.mp member with rfl | earlier
    · rcases List.mem_cons.mp member' with rfl | earlier'
      · exact absurd order (Nat.lt_irrefl _)
      · exact absurd order (Nat.not_lt_of_le (consistent.past later earlier').2)
    · rcases List.mem_cons.mp member' with rfl | earlier'
      · obtain ⟨other, present, same⟩ := consistent.current (live_some_iff.mp found).1
        have behind := consistent.apart call earlier other present (by rw [same]; exact order)
        rw [same] at behind
        exact behind
      · exact consistent.apart call earlier later earlier' order
  admits := by
    intro window
    refine admits_cons (consistent.admits window) fun same => ?_
    subst same
    rw [allowed, consistent.tallied cell (live_some_iff.mp found).1]
    exact Nat.succ_le_iff

theorem consistent_unused (now window : Nat) :
    setup.Consistent
      { now := now
        key := none
        window := window
        calls := [] } where
  unused := fun _ => rfl
  expiry := nofun
  counted := nofun
  tallied := nofun
  past := nofun
  inside := nofun
  opened := nofun
  apart := nofun
  admits := fun _ => (Nat.zero_min _).symm

theorem consistent_of_reachable (reached : setup.system.Reachable setup.Expires state) :
    setup.Consistent state := by
  apply reached.invariant
  · intro initial begun
    obtain ⟨now, key, window, calls⟩ := initial
    obtain ⟨rfl, rfl⟩ := begun
    exact consistent_unused now window
  · intro state action following consistent expires stepped
    cases setup.moved consistent.counted expires stepped with
    | advances milliseconds => exact consistent.advance milliseconds
    | opens free => exact consistent.opens free allowed_iff
    | counts found => exact consistent.counts found allowed_iff

/-- Of three calls within the length of a window, two are in the same window. -/
theorem Consistent.not_three (consistent : setup.Consistent state) {start : Nat}
    {first second third : Call} (member : first ∈ state.calls) (member' : second ∈ state.calls)
    (member'' : third ∈ state.calls) (after : start ≤ first.moment)
    (before : third.moment ≤ start + setup.ttlMs) (order : first.window < second.window) :
    third.window ≤ second.window := by
  by_contra later
  have apart := consistent.apart first member second member' order
  have apart' := consistent.apart second member' third member'' (Nat.lt_of_not_le later)
  have inside := (consistent.inside first member).2
  have inside' := (consistent.inside third member'').1
  have earlier : first.moment < second.window :=
    lt_of_readAt_lt (Nat.lt_of_le_of_lt inside apart)
  have reads := readAt_le setup.exactly third.window
  omega

/-- Calls within the length of a window belong to two windows. -/
theorem Consistent.one_of_two (consistent : setup.Consistent state) {start : Nat}
    (within : Call → Prop)
    (known : ∀ call, within call →
      call ∈ state.calls ∧ start ≤ call.moment ∧ call.moment ≤ start + setup.ttlMs)
    {one other call : Call} (first : within one) (second : within other) (third : within call)
    (different : one.window ≠ other.window) :
    call.window = one.window ∨ call.window = other.window := by
  have order : ∀ a b c, within a → within b → within c → a.window < b.window →
      c.window ≤ b.window := fun a b c inA inB inC =>
    consistent.not_three (known a inA).1 (known b inB).1 (known c inC).1 (known a inA).2.1
      (known c inC).2.2
  by_contra neither
  obtain ⟨notOne, notOther⟩ := not_or.mp neither
  rcases Nat.lt_or_gt_of_ne different with below | below
  · have least := order one other call first second third below
    rcases Nat.lt_or_gt_of_ne notOne with under | above
    · have impossible := order call one other third first second under
      omega
    · have impossible := order one call other first third second above
      omega
  · have least := order other one call second first third below
    rcases Nat.lt_or_gt_of_ne notOther with under | above
    · have impossible := order call other one third second first under
      omega
    · have impossible := order other call one second third first above
      omega

theorem Consistent.lifetime (consistent : setup.Consistent state) (window : Nat) :
    admitted window state.calls ≤ setup.limit := by
  rw [consistent.admits]
  exact Nat.min_le_right _ _

/-- The calls allowed within the length of a window were allowed in two windows. -/
theorem Consistent.interval (consistent : setup.Consistent state) (start : Nat) :
    allowedWithin start (start + setup.ttlMs) state.calls ≤ 2 * setup.limit := by
  obtain ⟨within, known⟩ : ∃ within : Call → Prop, ∀ call, within call ↔
      call ∈ state.calls ∧ start ≤ call.moment ∧ call.moment ≤ start + setup.ttlMs :=
    ⟨_, fun _ => Iff.rfl⟩
  have counted : ∀ call ∈ state.calls,
      (call.result.allowed && (decide (start ≤ call.moment) &&
        decide (call.moment ≤ start + setup.ttlMs))) = true →
      call.result.allowed = true ∧ within call := by
    intro call member passes
    simp only [Bool.and_eq_true, decide_eq_true_eq] at passes
    exact ⟨passes.1, (known call).mpr ⟨member, passes.2⟩⟩
  have covered : ∃ one other : Nat, ∀ call, within call →
      call.window = one ∨ call.window = other := by
    by_cases some_ : ∃ call, within call
    · obtain ⟨one, first⟩ := some_
      by_cases another : ∃ other, within other ∧ one.window ≠ other.window
      · obtain ⟨other, second, different⟩ := another
        exact ⟨one.window, other.window, fun call third =>
          consistent.one_of_two within (fun call => (known call).mp) first second third
            different⟩
      · refine ⟨one.window, one.window, fun call third => .inl ?_⟩
        by_contra different
        exact another ⟨call, third, Ne.symm different⟩
    · exact ⟨0, 0, fun call third => absurd ⟨call, third⟩ some_⟩
  obtain ⟨one, other, covered⟩ := covered
  have split_ : allowedWithin start (start + setup.ttlMs) state.calls ≤
      admitted one state.calls + admitted other state.calls := by
    refine countP_le_add fun call member passes => ?_
    obtain ⟨allowed, inside⟩ := counted call member passes
    simp only [allowed, Bool.true_and, decide_eq_true_eq]
    exact covered call inside
  have first := consistent.lifetime one
  have second := consistent.lifetime other
  omega

/-- A call is denied only after its window has admitted as many as the limit. -/
theorem Consistent.denied {cell : Cell Nat} (consistent : setup.Consistent state)
    (found : live (readAt setup.exactly state.now) state.key = some cell)
    (exceeded : setup.limit < cell.value + 1) :
    setup.limit ≤ allowedWithin (state.now - setup.ttlMs) state.now state.calls := by
  have full : admitted state.window state.calls = setup.limit := by
    rw [consistent.admits, ← consistent.tallied cell (live_some_iff.mp found).1]
    exact Nat.min_eq_right (Nat.le_of_lt_succ exceeded)
  have recent : admitted state.window state.calls ≤
      allowedWithin (state.now - setup.ttlMs) state.now state.calls := by
    refine List.countP_mono_left fun call member passes => ?_
    simp only [Bool.and_eq_true, decide_eq_true_eq] at passes ⊢
    have running := Nat.le_trans (le_readAt setup.exactly state.now) (consistent.running found)
    have begun := (consistent.inside call member).1
    have past := (consistent.past call member).1
    exact ⟨passes.1, by omega, past⟩
  omega

theorem Consistent.answers {following : State} {clientNow : Nat}
    (consistent : setup.Consistent state) (moves : setup.Moves state (.check clientNow) following) :
    ∃ call, following.calls = call :: state.calls ∧ following.window = call.window ∧
      setup.Answers state call := by
  cases moves with
  | opens free =>
      refine ⟨_, rfl, rfl, rfl, fun denied => ?_, ?_, fun _ => ⟨rfl, consistent.fresh free⟩⟩
      · have exceeded : ¬1 ≤ setup.limit := fun within =>
          Bool.eq_false_iff.mp denied (allowed_iff.mpr within)
        omega
      · rw [tally_cons, if_pos rfl, consistent.fresh free]
        exact remaining_eq
  | @counts _ _ cell found =>
      have stored := (live_some_iff.mp found).1
      refine ⟨_, rfl, rfl, rfl, fun denied => ?_, ?_, fun expired => ?_⟩
      · refine consistent.denied found (Nat.lt_of_not_le fun within => ?_)
        exact Bool.eq_false_iff.mp denied (allowed_iff.mpr within)
      · rw [tally_cons, if_pos rfl, ← consistent.tallied cell stored]
        exact remaining_eq
      · exact absurd (consistent.running found) (Nat.not_le_of_lt expired)

theorem limits (setup : Setup) : setup.Limits where
  interval := fun _ reached => (consistent_of_reachable reached).interval
  lifetime := fun _ reached => (consistent_of_reachable reached).lifetime
  windows := by
    intro state reached call member
    have consistent := consistent_of_reachable reached
    exact ⟨consistent.opened call member, consistent.inside call member⟩
  answers := by
    intro state clientNow following reached expires stepped
    have consistent := consistent_of_reachable reached
    exact consistent.answers (setup.moved consistent.counted expires stepped)

end Setup

/-- The limit of AuthController.me. -/
def meSetup : Setup :=
  { exactly := false
    limit := 3
    ttlSeconds := 300
    ttlSeconds_pos := by decide }

def meStart : State :=
  { now := 0
    key := none
    window := 0
    calls := [] }

/-- The fourth call of a window is denied, and the first one after it is not. -/
example :
    (meSetup.system.execute (fun _ _ => true) meStart
        [.check 0, .check 0, .check 0, .check 0, .advance 300001, .check 300001]).map
      (fun state => state.calls.map fun call => (call.window, call.result.allowed)) =
        some [(300001, true), (0, false), (0, true), (0, true), (0, true)] := by
  rfl

end BackendFoundation.RateLimiter
