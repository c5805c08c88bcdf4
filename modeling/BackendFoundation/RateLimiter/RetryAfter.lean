/-
The Retry-After of RateLimiterGuard over whole runs: what becomes of a client that waits
as long as each refusal has told it. TTL answers in seconds rounded to the nearest, so a
wait can end up to half a second before the counter does.
-/

import BackendFoundation.RateLimiter.NoLockOut
import BackendFoundation.RateLimiter.Windows
import BackendFoundation.Transition.History

namespace BackendFoundation.RateLimiter

open Transition Redis Redis.Slot

/-- What a request has been told. -/
structure Answer where
  request : Request
  moment : Nat
  checkedAt : Nat
  answeredAt : Nat
  verdict : Verdict
deriving DecidableEq

namespace Answer

def activated (answer : Answer) : Bool :=
  match answer.verdict with
  | .activates _ => true
  | _ => false

def retryAfter (answer : Answer) : Option Int :=
  match answer.verdict with
  | .throws _ retryAfter _ => some retryAfter
  | _ => none

/-- When the wait is over, on Redis' clock: the API process has answered no earlier than
the time between its two readings after the script. -/
def retryAt (answer : Answer) : Option Int :=
  answer.retryAfter.map fun retryAfter =>
    answer.moment + (answer.answeredAt - answer.checkedAt) + retryAfter * 1000

theorem retryAfter_of_activated {answer : Answer} (activated : answer.activated = true) :
    answer.retryAfter = none := by
  unfold Answer.activated at activated
  unfold Answer.retryAfter
  cases told : answer.verdict with
  | activates headers => rfl
  | throws headers retryAfter exception =>
      rw [told] at activated
      cases activated
  | rejects => rfl

end Answer

/-- The answers for one key, newest first. -/
def answersFor (key : String) (answers : List Answer) : List Answer :=
  answers.filter fun answer => decide (answer.request.key = key)

namespace Limiter

def answer (limiter : Limiter) (counters : Counters) (request : Request)
    (checkedAt answeredAt : Nat) : Answer :=
  { request := request
    moment := counters.now
    checkedAt := checkedAt
    answeredAt := answeredAt
    verdict :=
      (canActivate limiter.options limiter.exactly counters.now (counters.keys request.key)
        request checkedAt answeredAt).2 }

def record (limiter : Limiter) (counters : Counters) (traffic : Traffic) (_ : Counters)
    (answers : List Answer) : List Answer :=
  match traffic with
  | .advance _ => answers
  | .request request checkedAt answeredAt =>
      limiter.answer counters request checkedAt answeredAt :: answers

def answering (limiter : Limiter) : System (Counters × List Answer) Traffic :=
  limiter.system.recording limiter.record []

/-- Nobody asks for the key before the last refusal's wait is over, and slack milliseconds
more. -/
structure Waits (limiter : Limiter) (key : String) (slack : Nat)
    (recorded : Counters × List Answer) (request : Request) (checkedAt answeredAt : Nat) :
    Prop where
  limit : 1 ≤ limiter.options.limit request
  clock : checkedAt ≤ answeredAt
  patient : ∀ last ∈ (answersFor key recorded.2).head?, ∀ retryAt ∈ last.retryAt,
    retryAt + slack ≤ recorded.1.now

def Patient (limiter : Limiter) (key : String) (slack : Nat)
    (recorded : Counters × List Answer) : Traffic → Prop
  | .advance _ => True
  | .request request checkedAt answeredAt =>
      request.Routed ∧
        (request.key = key → limiter.Waits key slack recorded request checkedAt answeredAt)

/-- What a patient client can rely on. -/
structure Served (limiter : Limiter) (key : String) (slack : Nat) (answers : List Answer) :
    Prop where
  third : ∀ newest middle oldest, [newest, middle, oldest] <:+: answersFor key answers →
    newest.activated ∨ middle.activated ∨ oldest.activated
  second : 500 ≤ slack → ∀ newer older, [newer, older] <:+: answersFor key answers →
    newer.activated ∨ older.activated
  bounded : ∀ answer ∈ answersFor key answers, ∀ retryAfter ∈ answer.retryAfter,
    1 ≤ retryAfter ∧ (retryAfter : Rat) ≤ limiter.options.ttlSeconds answer.request

end Limiter

/-- What max and ceil make of a TTL reply. -/
theorem retryAfter_bounds {now deadline checkedAt answeredAt : Nat} {retryAfter : Int}
    (alive : now ≤ deadline) (clock : checkedAt ≤ answeredAt)
    (told : retryAfter = max (ceilSeconds
      (checkedAt + (((deadline - now + 500) / 1000 : Nat) : Int) * 1000 - answeredAt)) 1) :
    (deadline : Int) < now + (answeredAt - checkedAt) + retryAfter * 1000 + 500 ∧
      1 ≤ retryAfter ∧
        ∀ ttl : Nat, 0 < ttl → deadline ≤ now + ttl * 1000 → retryAfter ≤ ttl := by
  unfold ceilSeconds at told
  refine ⟨by omega, by omega, fun ttl positive bound => by omega⟩

theorem canActivate_created {options : RateLimiterModuleOptions} {exactly : Bool}
    {now deadline : Nat} {key : Slot Nat} {request : Request} (checkedAt answeredAt : Nat)
    (free : live (readAt exactly now) key = none)
    (accepted : expiryOf now (options.ttlSeconds request) = some deadline)
    (limit : 1 ≤ options.limit request) :
    ∃ headers, (canActivate options exactly now key request checkedAt answeredAt).2 =
      .activates headers := by
  have one : ((1 : Nat) : Rat) = 1 := rfl
  simp only [canActivate, check, incrementWithTtl_free free accepted, Option.map_some,
    checkResult, one, limit, decide_true, if_true]
  exact ⟨_, rfl⟩

theorem canActivate_found {exactly : Bool} {now : Nat} {key : Slot Nat} {cell : Cell Nat}
    (options : RateLimiterModuleOptions) (request : Request) (checkedAt answeredAt : Nat)
    (found : live (readAt exactly now) key = some cell) (counted : 0 < cell.value) :
    (∃ headers, (canActivate options exactly now key request checkedAt answeredAt).2 =
        .activates headers) ∨
      ∃ headers retryAfter exception,
        (canActivate options exactly now key request checkedAt answeredAt).2 =
          .throws headers retryAfter exception ∧
        retryAfter = max (ceilSeconds (checkedAt + ttlReply now cell * 1000 - answeredAt)) 1 := by
  simp only [canActivate, check,
    incrementWithTtl_found (options.ttlSeconds request) found counted, Option.map_some]
  split
  · exact .inl ⟨_, rfl⟩
  · exact .inr ⟨_, _, _, rfl, rfl⟩

namespace Limiter

variable {limiter : Limiter} {counters : Counters} {request : Request}
  {checkedAt answeredAt : Nat} {key : String} {slack : Nat}

/-- A refusal, the counter that it comes from, and how long it has to wait. -/
structure Refuses (limiter : Limiter) (counters : Counters) (answer : Answer)
    (cell : Cell Nat) (deadline : Nat) (retryAfter : Int) : Prop where
  found : live (readAt limiter.exactly counters.now) (counters.keys answer.request.key) =
    some cell
  expiry : cell.expireAt = some deadline
  told : answer.retryAfter = some retryAfter
  waits : (deadline : Int) < answer.moment + (answer.answeredAt - answer.checkedAt) +
    retryAfter * 1000 + 500
  positive : 1 ≤ retryAfter
  within : (retryAfter : Rat) ≤ limiter.options.ttlSeconds answer.request

theorem Refuses.alive {answer : Answer} {cell : Cell Nat} {deadline : Nat} {retryAfter : Int}
    (refuses : limiter.Refuses counters answer cell deadline retryAfter) :
    counters.now ≤ deadline := by
  have alive := (live_some_iff.mp refuses.found).2
  simp only [Cell.aliveAt, refuses.expiry, decide_eq_true_eq] at alive
  exact Nat.le_trans (le_readAt _ _) alive

theorem Refuses.retryAt {answer : Answer} {cell : Cell Nat} {deadline : Nat}
    {retryAfter : Int} (refuses : limiter.Refuses counters answer cell deadline retryAfter) :
    answer.retryAt =
      some (answer.moment + (answer.answeredAt - answer.checkedAt) + retryAfter * 1000) := by
  simp only [Answer.retryAt, refuses.told, Option.map_some]

/-- An answer lets its request through or refuses it with its wait. -/
theorem answer_cases (expiring : limiter.Expiring) (bounded : limiter.Bounded counters)
    (routed : request.Routed) (limit : 1 ≤ limiter.options.limit request)
    (clock : checkedAt ≤ answeredAt) :
    (limiter.answer counters request checkedAt answeredAt).activated = true ∨
      ∃ cell deadline retryAfter,
        limiter.Refuses counters (limiter.answer counters request checkedAt answeredAt) cell
          deadline retryAfter := by
  cases found : live (readAt limiter.exactly counters.now) (counters.keys request.key) with
  | none =>
      have accepted := expiryOf_of_expirable (expiring.expirable routed) bounded.1
      obtain ⟨headers, activates⟩ :=
        canActivate_created checkedAt answeredAt found accepted limit
      exact .inl (by simp only [Answer.activated, answer, activates])
  | some cell =>
      obtain ⟨counted, other, deadline, routed', same, expiry, bound⟩ :=
        bounded.2 request.key cell (live_some_iff.mp found).1
      rcases canActivate_found limiter.options request checkedAt answeredAt found counted with
        activates | throws
      · obtain ⟨headers, activates⟩ := activates
        exact .inl (by simp only [Answer.activated, answer, activates])
      · obtain ⟨headers, retryAfter, exception, throws, told⟩ := throws
        have alive := (live_some_iff.mp found).2
        simp only [Cell.aliveAt, expiry, decide_eq_true_eq] at alive
        simp only [ttlReply, expiry] at told
        obtain ⟨waits, least, most⟩ :=
          retryAfter_bounds (Nat.le_trans (le_readAt _ _) alive) clock told
        have some_ := expiring.ttlSeconds_pos routed
        have seconds := natCast_of_expirable (expiring.expirable routed) some_
        rw [← seconds] at some_
        rw [routed'.ttlSeconds_eq limiter.options routed same] at bound
        have within := Rat.intCast_le_intCast.mpr (most _ (Rat.natCast_pos.mp some_) bound)
        rw [Rat.intCast_natCast, seconds] at within
        refine .inr ⟨cell, deadline, retryAfter, found, expiry, ?_, waits, least, within⟩
        simp only [Answer.retryAfter, answer, throws]

/-- What ties the answers to the counters: the last refusal for the key was by the counter
that is still stored, and after two refusals in a row the second wait outlasts it. -/
structure Told (limiter : Limiter) (key : String) (slack : Nat)
    (recorded : Counters × List Answer) : Prop where
  counters : limiter.Bounded recorded.1
  served : limiter.Served key slack recorded.2
  refused : ∀ last rest, answersFor key recorded.2 = last :: rest → last.activated = false →
    ∃ cell deadline retryAt, recorded.1.keys key = some cell ∧
      cell.expireAt = some deadline ∧ last.retryAt = some retryAt ∧
        (deadline : Int) < retryAt + 500 ∧
          ∀ before ∈ rest.head?, before.activated = false → (deadline : Int) < retryAt

theorem answersFor_record {traffic : Traffic} {answers : List Answer} (following : Counters)
    (elsewhere : ∀ request checkedAt answeredAt,
      traffic = .request request checkedAt answeredAt → request.key ≠ key) :
    answersFor key (limiter.record counters traffic following answers) =
      answersFor key answers := by
  cases traffic with
  | advance milliseconds => rfl
  | request request checkedAt answeredAt =>
      have other := elsewhere request checkedAt answeredAt rfl
      exact List.filter_cons_of_neg (by simp only [answer, other, decide_false, Bool.false_eq_true,
        not_false_eq_true])

/-- Steps for other keys leave the key and its answers alone. -/
theorem Told.elsewhere {recorded : Counters × List Answer} {traffic : Traffic}
    {following : Counters} (told : limiter.Told key slack recorded)
    (bounded : limiter.Bounded following)
    (stepped : limiter.step recorded.1 traffic = some following)
    (elsewhere : ∀ request checkedAt answeredAt,
      traffic = .request request checkedAt answeredAt → request.key ≠ key) :
    limiter.Told key slack
      (following, limiter.record recorded.1 traffic following recorded.2) := by
  have answers : answersFor key (limiter.record recorded.1 traffic following recorded.2) =
      answersFor key recorded.2 := answersFor_record following elsewhere
  have stored : following.keys key = recorded.1.keys key := by
    cases traffic with
    | advance milliseconds =>
        simp only [step] at stepped
        split at stepped
        · cases stepped
          rfl
        · cases stepped
    | request request checkedAt answeredAt =>
        rw [step_request] at stepped
        cases stepped
        exact Function.update_of_ne (Ne.symm (elsewhere request checkedAt answeredAt rfl)) _ _
  refine ⟨bounded, ⟨?_, ?_, ?_⟩, ?_⟩
  · rw [answers]
    exact told.served.third
  · rw [answers]
    exact told.served.second
  · rw [answers]
    exact told.served.bounded
  · simp only [answers, stored]
    exact told.refused

/-- A second refusal in a row comes in the half second that rounding has cut off, and a
third one in a row does not come. -/
theorem Told.again {recorded : Counters × List Answer} {last answer : Answer}
    {rest : List Answer} {cell : Cell Nat} {deadline : Nat} {retryAfter : Int}
    (told : limiter.Told answer.request.key slack recorded)
    (waits : limiter.Waits answer.request.key slack recorded request checkedAt answeredAt)
    (refuses : limiter.Refuses recorded.1 answer cell deadline retryAfter)
    (answers : answersFor answer.request.key recorded.2 = last :: rest)
    (refused : last.activated = false) :
    (deadline : Int) + slack < recorded.1.now + 500 ∧
      ∀ before ∈ rest.head?, before.activated = true := by
  obtain ⟨cell', deadline', retryAt, stored, expiry, wait, close, twice⟩ :=
    told.refused last rest answers refused
  have same : cell' = cell :=
    Option.some.inj (stored.symm.trans (live_some_iff.mp refuses.found).1)
  subst same
  have same : deadline' = deadline := Option.some.inj (expiry.symm.trans refuses.expiry)
  subst same
  have waited := waits.patient last (by rw [answers]; exact rfl) retryAt wait
  have alive := refuses.alive
  refine ⟨by omega, fun before first => ?_⟩
  cases outcome : before.activated with
  | true => rfl
  | false =>
      have outlasted := twice before first outcome
      omega

theorem answersFor_cons (answer : Answer) (answers : List Answer) :
    answersFor answer.request.key (answer :: answers) =
      answer :: answersFor answer.request.key answers :=
  List.filter_cons_of_pos (decide_eq_true rfl)

theorem Served.cons {answers : List Answer} {answer : Answer}
    (served : limiter.Served answer.request.key slack answers)
    (again : ∀ last rest, answersFor answer.request.key answers = last :: rest →
      answer.activated = true ∨ last.activated = true ∨
        slack < 500 ∧ ∀ before ∈ rest.head?, before.activated = true)
    (bounded : ∀ retryAfter ∈ answer.retryAfter,
      1 ≤ retryAfter ∧ (retryAfter : Rat) ≤ limiter.options.ttlSeconds answer.request) :
    limiter.Served answer.request.key slack (answer :: answers) := by
  constructor
  · intro newest middle oldest listed
    rw [answersFor_cons] at listed
    rcases List.infix_cons_iff.mp listed with first | earlier
    · obtain ⟨rfl, rest⟩ := List.cons_prefix_cons.mp first
      obtain ⟨tail, rest⟩ := rest
      rcases again middle (oldest :: tail) rest.symm with found | found | found
      · exact .inl found
      · exact .inr (.inl found)
      · exact .inr (.inr (found.2 oldest rfl))
    · exact served.third newest middle oldest earlier
  · intro roomy newer older listed
    rw [answersFor_cons] at listed
    rcases List.infix_cons_iff.mp listed with first | earlier
    · obtain ⟨rfl, rest⟩ := List.cons_prefix_cons.mp first
      obtain ⟨tail, rest⟩ := rest
      rcases again older tail rest.symm with found | found | found
      · exact .inl found
      · exact .inr found
      · exact absurd roomy (Nat.not_le_of_lt found.1)
    · exact served.second roomy newer older earlier
  · intro found member
    rw [answersFor_cons] at member
    rcases List.mem_cons.mp member with rfl | earlier
    · exact bounded
    · exact served.bounded found earlier

/-- A request for the key itself. -/
theorem Told.requested {recorded : Counters × List Answer} {following : Counters}
    (answer : Answer) (told : limiter.Told answer.request.key slack recorded)
    (bounded : limiter.Bounded following)
    (waits : limiter.Waits answer.request.key slack recorded answer.request answer.checkedAt
      answer.answeredAt)
    (moment : answer.moment = recorded.1.now)
    (outcome : answer.activated = true ∨ ∃ cell deadline retryAfter,
      limiter.Refuses recorded.1 answer cell deadline retryAfter)
    (kept : ∀ cell,
      live (readAt limiter.exactly recorded.1.now) (recorded.1.keys answer.request.key) =
        some cell → ∃ cell', following.keys answer.request.key = some cell' ∧
          cell'.expireAt = cell.expireAt) :
    limiter.Told answer.request.key slack (following, answer :: recorded.2) := by
  rcases outcome with activated | refused
  · refine ⟨bounded, told.served.cons (fun _ _ _ => .inl activated) ?_, ?_⟩
    · rw [Answer.retryAfter_of_activated activated]
      exact nofun
    · intro last rest answers refused
      rw [answersFor_cons] at answers
      obtain ⟨rfl, _⟩ := List.cons.inj answers
      rw [activated] at refused
      cases refused
  · obtain ⟨cell, deadline, retryAfter, refuses⟩ := refused
    refine ⟨bounded, told.served.cons ?_ ?_, ?_⟩
    · intro last rest answers
      cases outcome : last.activated with
      | true => exact .inr (.inl rfl)
      | false =>
          obtain ⟨close, first⟩ := told.again waits refuses answers outcome
          have alive := refuses.alive
          exact .inr (.inr ⟨by omega, first⟩)
    · intro found told
      cases refuses.told.symm.trans told
      exact ⟨refuses.positive, refuses.within⟩
    · intro last rest answers _
      rw [answersFor_cons] at answers
      obtain ⟨rfl, rfl⟩ := List.cons.inj answers
      obtain ⟨cell', stored, expiry⟩ := kept cell refuses.found
      refine ⟨cell', deadline, _, stored, expiry.trans refuses.expiry, refuses.retryAt,
        refuses.waits, fun before first outcome => ?_⟩
      -- The refusal before this one: its wait has ended within half a second of the expiry.
      cases earlier : answersFor answer.request.key recorded.2 with
      | nil =>
          rw [earlier] at first
          cases first
      | cons previous rest =>
          rw [earlier] at first
          cases first
          obtain ⟨close, _⟩ := told.again waits refuses earlier outcome
          have positive := refuses.positive
          have clock := waits.clock
          omega

theorem Served.empty : limiter.Served key slack [] where
  third := by
    intro newest middle oldest listed
    have length := listed.length_le
    cases length
  second := by
    intro _ newer older listed
    have length := listed.length_le
    cases length
  bounded := by
    intro answer member
    cases member

/-- A request keeps the expiry of a counter that it finds. -/
theorem expiry_kept {following : Counters} {cell : Cell Nat}
    (bounded : limiter.Bounded counters)
    (stepped : limiter.step counters (.request request checkedAt answeredAt) = some following)
    (found : live (readAt limiter.exactly counters.now) (counters.keys request.key) =
      some cell) :
    ∃ cell', following.keys request.key = some cell' ∧ cell'.expireAt = cell.expireAt := by
  have counted := (bounded.2 request.key cell (live_some_iff.mp found).1).1
  rw [step_request, incrementWithTtl_found _ found counted] at stepped
  cases stepped
  exact ⟨_, Function.update_self _ _ _, rfl⟩

theorem Told.step {recorded : Counters × List Answer} {traffic : Traffic}
    {following : Counters} (expiring : limiter.Expiring)
    (told : limiter.Told key slack recorded)
    (patient : limiter.Patient key slack recorded traffic)
    (stepped : limiter.step recorded.1 traffic = some following) :
    limiter.Told key slack
      (following, limiter.record recorded.1 traffic following recorded.2) := by
  cases traffic with
  | advance milliseconds =>
      have bounded := bounded_step expiring told.counters
        (show recorded.1.Routed (.advance milliseconds) from trivial) stepped
      exact told.elsewhere bounded stepped nofun
  | request request checkedAt answeredAt =>
      obtain ⟨routed, waits⟩ := patient
      have bounded := bounded_step expiring told.counters
        (show recorded.1.Routed (.request request checkedAt answeredAt) from routed) stepped
      by_cases same : request.key = key
      · subst same
        have waits := waits rfl
        have outcome := answer_cases expiring told.counters routed waits.limit waits.clock
        exact Told.requested (limiter.answer recorded.1 request checkedAt answeredAt) told
          bounded waits rfl outcome fun _ found => expiry_kept told.counters stepped found
      · apply told.elsewhere bounded stepped
        intro other checkedAt' answeredAt' requested
        cases requested
        exact same

theorem told_of_reachable {recorded : Counters × List Answer}
    (expiring : limiter.Expiring)
    (reached : limiter.answering.Reachable (limiter.Patient key slack) recorded) :
    limiter.Told key slack recorded := by
  apply reached.invariant
  · intro found given
    obtain ⟨counters, answers⟩ := found
    obtain ⟨initial, rfl⟩ := given
    refine ⟨expiring.bounded ⟨_, [], initial, .nil⟩, .empty, ?_⟩
    intro last rest answers
    cases answers
  · intro found traffic _ told patient stepped
    obtain ⟨following, stepped', rfl⟩ := Option.map_eq_some_iff.mp stepped
    exact told.step expiring patient stepped'

end Limiter

/-- A client that waits after each refusal as long as Retry-After says is let through at the
latest with its third request, and with half a second more with its second one; and it is
told to wait at least one second and at most the TTL. -/
theorem patient_client_served (env : RateLimitEnv) (limiter : Limiter)
    (accepted : env.options = some limiter.options)
    (ttl : Expirable limiter.lastMs limiter.options.ttl)
    (authTtl : Expirable limiter.lastMs limiter.options.authTtl)
    (own : limiter.lastMs + 3600 * 1000 ≤ maxExpireAt) (key : String) (slack : Nat)
    (recorded : Counters × List Answer)
    (reached : limiter.answering.Reachable (limiter.Patient key slack) recorded) :
    limiter.Served key slack recorded.2 := by
  obtain ⟨positive, positive'⟩ := RateLimitEnv.ttls_pos accepted
  have expiring : limiter.Expiring :=
    { ttl_pos := positive
      authTtl_pos := positive'
      ttl := ttl
      authTtl := authTtl
      own := own }
  exact (Limiter.told_of_reachable expiring reached).served

section Sample

def twoSecondsEnv : RateLimitEnv :=
  { rateLimitTtl := .finite 2
    rateLimitMax := .finite 1
    rateLimitAuthTtl := .undefined
    rateLimitAuthMax := .undefined }

/-- One request in two seconds. -/
def onePerTwoSeconds : Limiter :=
  { options :=
      { max := 1
        ttl := 2
        authMax := 5
        authTtl := 60 }
    exactly := false
    lastMs := 10000 }

theorem twoSecondsEnv_accepted : twoSecondsEnv.options = some onePerTwoSeconds.options := by
  have one : (0 : Rat) < 1 := by decide
  have two : (0 : Rat) < 2 := by decide
  simp only [RateLimitEnv.options, twoSecondsEnv, positiveNumber, one, two, if_true]
  rfl

def obeys (recorded : Counters × List Answer) : Traffic → Bool
  | .advance _ => true
  | .request request checkedAt answeredAt =>
      decide (request = plainRequest) && (decide (checkedAt ≤ answeredAt) &&
        (answersFor plainRequest.key recorded.2).head?.all fun last =>
          last.retryAt.all fun retryAt => decide (retryAt ≤ (recorded.1.now : Int)))

theorem obeys_patient (recorded : Counters × List Answer) (traffic : Traffic)
    (obeyed : obeys recorded traffic = true) :
    onePerTwoSeconds.Patient plainRequest.key 0 recorded traffic := by
  cases traffic with
  | advance milliseconds => trivial
  | request request checkedAt answeredAt =>
      simp only [obeys, Bool.and_eq_true, decide_eq_true_eq] at obeyed
      obtain ⟨rfl, clock, waited⟩ := obeyed
      refine ⟨plainRequest_routed, fun _ => ⟨Rat.le_refl, clock, ?_⟩⟩
      intro last newest retryAt told
      have waited := (Option.all_eq_true _ _).mp waited last newest
      have waited := of_decide_eq_true ((Option.all_eq_true _ _).mp waited retryAt told)
      omega

/-- Rounding has the client come back 400 ms too early. -/
def obeying : List Traffic :=
  [.request plainRequest 0 0, .advance 600, .request plainRequest 600 600, .advance 1000,
    .request plainRequest 1600 1600, .advance 1000, .request plainRequest 2600 2600]

theorem obeying_served : ∃ recorded,
    onePerTwoSeconds.answering.Reachable (onePerTwoSeconds.Patient plainRequest.key 0)
        recorded ∧
      recorded.2.map Answer.activated = [true, false, false, true] ∧
        onePerTwoSeconds.Served plainRequest.key 0 recorded.2 := by
  obtain ⟨start, started⟩ : ∃ start : Counters × List Answer, start =
      ({ now := 0
         keys := fun _ => none }, []) := ⟨_, rfl⟩
  have executed : (onePerTwoSeconds.answering.execute obeys start obeying).map
      (fun recorded => recorded.2.map Answer.activated) = some [true, false, false, true] := by
    rw [started]
    rfl
  obtain ⟨recorded, run, outcomes⟩ := Option.map_eq_some_iff.mp executed
  have initial : onePerTwoSeconds.answering.initial start := by
    rw [started]
    exact ⟨⟨Nat.zero_le _, rfl⟩, rfl⟩
  have reached : onePerTwoSeconds.answering.Reachable
      (onePerTwoSeconds.Patient plainRequest.key 0) recorded :=
    .of_execute obeys_patient initial run
  exact ⟨recorded, reached, outcomes, patient_client_served twoSecondsEnv onePerTwoSeconds
    twoSecondsEnv_accepted ⟨rfl, by decide⟩ ⟨rfl, by decide⟩ (by decide) plainRequest.key 0 recorded
    reached⟩

end Sample

end BackendFoundation.RateLimiter
