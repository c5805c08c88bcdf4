/-
A callback gets past the state check with the state of an earlier start, at most once,
and redirects only where that start was allowed to send the browser.

The key of a state is written by one start, in one command. Once that command is over the
key can only be deleted, and whoever deletes it is the one that passes.
-/

import BackendFoundation.GoogleSso.Flow
import Mathlib.Data.List.Nodup

namespace BackendFoundation.GoogleSso

open Redis Transition

variable {Call : Type}

/-- The start is past its only command. -/
def Phase.attempted : Phase → Bool
  | ready => false
  | saving _ => false
  | _ => true

/-- The URL is one to which a browser may be sent. -/
def Setup.Allowlisted (setup : Setup Call) (url : String) : Prop :=
  ∃ parsed, setup.parseUrl url = some parsed ∧
    (parsed.protocol = "http:" ∨ parsed.protocol = "https:") ∧ parsed.origin ∈ setup.origins

/-- A start has drawn the state and tried to save the payload. -/
def Setup.Saved (setup : Setup Call) (state : State Call) (value : String)
    (payload : GoogleOAuthStatePayload) : Prop :=
  ∃ start requested, setup.operation start = .start requested ∧ setup.state start = value ∧
    setup.prepare requested = .ok payload ∧ (state.calls start).attempted = true

/-- The state in the query of a callback. -/
def Setup.presented (setup : Setup Call) (call : Call) : Option String :=
  match setup.operation call with
  | .start _ => none
  | .callback input => input.state

/-- The callback presents the state in its query and in its cookie. -/
def Setup.Presents (setup : Setup Call) (call : Call) (value : String) : Prop :=
  ∃ input, setup.operation call = .callback input ∧ input.state = some value ∧
    input.stateFromCookie = some value

/-- The callback may go on with the payload. -/
def Setup.Bound (setup : Setup Call) (state : State Call) (call : Call)
    (payload : GoogleOAuthStatePayload) : Prop :=
  call ∈ state.passed ∧
    ∃ value, setup.Presents call value ∧ setup.Saved state value payload

/-- What is known of a call at its program point. -/
def Setup.CallKnown (setup : Setup Call) (state : State Call) (call : Call) : Phase → Prop
  | .saving payload => ∃ requested, setup.operation call = .start requested ∧
      setup.prepare requested = .ok payload
  | .reading value => setup.Presents call value
  | .deleting value serialized => setup.Presents call value ∧
      ∃ payload, serialized = payload.stringify ∧ setup.Saved state value payload
  | .validated callback => setup.Bound state call callback.payload
  | .redirected url => setup.driver = .session ∧
      ∃ payload, payload.returnUrl = some url ∧ setup.Bound state call payload
  | _ => True

structure Setup.Known (setup : Setup Call) (state : State Call) : Prop where
  calls : ∀ call, setup.CallKnown state call (state.calls call)
  stored : ∀ value cell, state.store value = some cell →
    ∃ payload, cell.value = payload.stringify ∧ setup.Saved state value payload
  spent : ∀ call ∈ state.passed, ∃ value payload, setup.Presents call value ∧
    setup.Saved state value payload ∧ state.store value = none
  once : (state.passed.map setup.presented).Nodup

/-- What an executed command does to the keys. -/
def Setup.Delivers (setup : Setup Call) (state : State Call) (call : Call)
    (after : StateStore) : Prop :=
  ∀ value cell, after value = some cell → state.store value = some cell ∨
    ∃ payload, state.calls call = .saving payload ∧ value = setup.state call ∧
      cell.value = payload.stringify

section Checks

variable {setup : Setup Call}

theorem Setup.Presents.presented {call : Call} {value : String}
    (presents : setup.Presents call value) : setup.presented call = some value := by
  obtain ⟨input, operation, query, _⟩ := presents
  unfold Setup.presented
  rw [operation]
  exact query

theorem Setup.isAllowlistedUrl_iff {url : String} :
    setup.isAllowlistedUrl url = true ↔ setup.Allowlisted url := by
  unfold Setup.isAllowlistedUrl Setup.Allowlisted
  cases found : setup.parseUrl url with
  | none => simp only [Bool.false_eq_true, reduceCtorEq, false_and, exists_false]
  | some parsed =>
      by_cases foreign : parsed.protocol ≠ "http:" ∧ parsed.protocol ≠ "https:"
      · simp only [if_pos foreign, Bool.false_eq_true, Option.some.injEq, exists_eq_left',
          foreign.1, foreign.2, or_self, false_and]
      · simp only [if_neg foreign, List.contains_iff_mem, Option.some.injEq, exists_eq_left']
        have web : parsed.protocol = "http:" ∨ parsed.protocol = "https:" := by
          by_contra other
          exact foreign ⟨fun same => other (.inl same), fun same => other (.inr same)⟩
        exact ⟨fun listed => ⟨web, listed⟩, fun both => both.2⟩

/-- Both ways to a return URL lead through the allow-list. -/
theorem Setup.allowlisted_of_prepare {requested : Option String}
    {payload : GoogleOAuthStatePayload} {url : String}
    (prepared : setup.prepare requested = .ok payload) (returns : payload.returnUrl = some url) :
    setup.Allowlisted url ∧ (requested = some url ∨ requested = none ∧
      ∃ options, setup.options = some options ∧ options.defaultReturnUrl = some url) := by
  unfold Setup.prepare at prepared
  cases enabled : setup.options with
  | none =>
      rw [enabled] at prepared
      cases prepared
  | some options =>
      simp only [enabled] at prepared
      cases requested with
      | some requested =>
          simp only [Setup.resolveReturnUrl] at prepared
          by_cases listed : setup.isAllowlistedUrl requested = true
          · simp only [if_pos listed] at prepared
            cases prepared
            have filtered : (some requested).filter (fun url => url != "") = some url := returns
            cases (Option.filter_eq_some_iff.mp filtered).1
            exact ⟨Setup.isAllowlistedUrl_iff.mp listed, .inl rfl⟩
          · simp only [if_neg listed] at prepared
            cases prepared
      | none =>
          simp only [Setup.resolveReturnUrl] at prepared
          cases prepared
          obtain ⟨configured, _⟩ := Option.filter_eq_some_iff.mp returns
          obtain ⟨configured, checked⟩ := Option.filter_eq_some_iff.mp configured
          rw [Bool.and_eq_true] at checked
          exact ⟨Setup.isAllowlistedUrl_iff.mp checked.2, .inr ⟨rfl, options, rfl, configured⟩⟩

theorem Setup.presents_of_check {call : Call} {input : GoogleSsoCallbackInput} {value : String}
    (operation : setup.operation call = .callback input)
    (checked : setup.check input = .ok value) : setup.Presents call value := by
  unfold Setup.check at checked
  split at checked
  · cases checked
  · split at checked
    · cases checked
    · rename_i query
      split at checked
      · cases checked
      · rename_i valid
        cases checked
        refine ⟨input, operation, query, ?_⟩
        by_contra mismatched
        exact valid (.inr mismatched)

end Checks

theorem Setup.CallKnown.grow {setup : Setup Call} {state following : State Call} {other : Call}
    {known : Phase}
    (saved : ∀ value payload, setup.Saved state value payload →
      setup.Saved following value payload)
    (passed : ∀ call ∈ state.passed, call ∈ following.passed)
    (before : setup.CallKnown state other known) : setup.CallKnown following other known := by
  have bound : ∀ payload, setup.Bound state other payload →
      setup.Bound following other payload := by
    intro payload found
    obtain ⟨member, value, presents, past⟩ := found
    exact ⟨passed other member, value, presents, saved value payload past⟩
  cases known with
  | deleting value serialized =>
      obtain ⟨presents, payload, text, past⟩ := before
      exact ⟨presents, payload, text, saved value payload past⟩
  | validated callback => exact bound _ before
  | redirected url =>
      obtain ⟨session, payload, returns, past⟩ := before
      exact ⟨session, payload, returns, bound payload past⟩
  | saving | reading => exact before
  | ready | started | answered | thrown => trivial

section Replies

variable {setup : Setup Call} {state : State Call} {call : Call}

theorem Setup.callKnown_begin (setup : Setup Call) (state : State Call) (call : Call) :
    setup.CallKnown state call (setup.begin call) := by
  unfold Setup.begin
  split
  · rename_i requested operation
    split
    · trivial
    · rename_i payload prepared
      exact ⟨requested, operation, prepared⟩
  · rename_i input operation
    split
    · trivial
    · rename_i value checked
      exact setup.presents_of_check operation checked

theorem Setup.callKnown_interpret {input : GoogleSsoCallbackInput}
    {payload : GoogleOAuthStatePayload} (bound : setup.Bound state call payload) :
    setup.CallKnown state call (interpret input payload) := by
  unfold interpret
  split
  · trivial
  · split
    · trivial
    · exact bound

theorem Setup.callKnown_respond {payload : GoogleOAuthStatePayload}
    (bound : setup.Bound state call payload) :
    setup.CallKnown state call (setup.respond payload) := by
  unfold Setup.respond
  split
  · trivial
  · rename_i url returns
    split
    · rename_i session
      exact ⟨session, payload, (Option.filter_eq_some_iff.mp returns).1, bound⟩
    · trivial

theorem Setup.attempted_respond (setup : Setup Call) (payload : GoogleOAuthStatePayload) :
    (setup.respond payload).attempted = true := by
  unfold Setup.respond
  split
  · rfl
  · split
    · rfl
    · rfl

end Replies

/-- What an executed command leaves, and with which answer. -/
structure Setup.Answers (setup : Setup Call) (state : State Call) (call : Call)
    (reply : Reply) : Prop where
  delivers : setup.Delivers state call reply.store
  attempted : reply.phase.attempted = true
  unpassed : reply.passes = false → setup.CallKnown state call reply.phase
  passes : reply.passes = true → ∃ input value payload,
    setup.operation call = .callback input ∧ setup.Presents call value ∧
    setup.Saved state value payload ∧
    Slot.get state.now (state.store value) = some payload.stringify ∧
    reply.store value = none ∧ reply.phase = interpret input payload

theorem attempted_interpret (input : GoogleSsoCallbackInput)
    (payload : GoogleOAuthStatePayload) : (interpret input payload).attempted = true := by
  unfold interpret
  split
  · rfl
  · split
    · rfl
    · rfl

theorem Setup.Known.answers {setup : Setup Call} {state : State Call} (known : setup.Known state)
    {call : Call} {reply : Reply}
    (sent : setup.next state.now state.store call (state.calls call) = some reply) :
    setup.Answers state call reply := by
  have own := known.calls call
  cases phase : state.calls call with
  | saving payload =>
      rw [phase] at sent
      obtain ⟨options, _, rfl⟩ := Option.map_eq_some_iff.mp sent
      refine ⟨?_, rfl, fun _ => trivial, fun impossible => absurd impossible Bool.false_ne_true⟩
      intro value cell found
      by_cases same : value = setup.state call
      · subst same
        cases (StateStore.save_self _ _).symm.trans found
        exact .inr ⟨payload, phase, rfl, rfl⟩
      · exact .inl ((StateStore.save_of_ne same _ _).symm.trans found)
  | reading value =>
      rw [phase] at sent own
      cases sent
      refine ⟨fun _ _ found => .inl found, ?_, ?_, fun impossible => ?_⟩
      · cases Slot.get state.now (state.store value) with
        | none => rfl
        | some serialized => rfl
      · intro _
        cases read : Slot.get state.now (state.store value) with
        | none =>
            simp only
            trivial
        | some serialized =>
            obtain ⟨cell, live, rfl⟩ := Slot.get_eq_some_iff.mp read
            obtain ⟨payload, text, saved⟩ := known.stored value cell (Slot.live_some_iff.mp live).1
            exact ⟨own, payload, text, saved⟩
      · cases impossible
  | deleting value serialized =>
      rw [phase] at sent own
      obtain ⟨presents, payload, rfl, saved⟩ := own
      obtain ⟨input, operation, query⟩ := presents
      simp only [Setup.next, operation, StateStore.compareAndDelete_eq] at sent
      by_cases held : Slot.get state.now (state.store value) = some payload.stringify
      · simp only [if_pos held, if_true, GoogleOAuthStatePayload.parse_stringify] at sent
        cases sent
        refine ⟨?_, attempted_interpret input payload, fun impossible => ?_, fun _ => ?_⟩
        · intro other cell found
          by_cases same : other = value
          · subst same
            cases (Function.update_self _ _ _).symm.trans found
          · exact .inl ((Function.update_of_ne same _ _).symm.trans found)
        · cases impossible
        · exact ⟨input, value, payload, operation, ⟨input, operation, query⟩, saved, held,
            Function.update_self _ _ _, rfl⟩
      · simp only [if_neg held, Bool.false_eq_true, if_false] at sent
        cases sent
        exact ⟨fun _ _ found => .inl found, rfl, fun _ => trivial,
          fun impossible => absurd impossible Bool.false_ne_true⟩
  | ready | started | validated | redirected | answered | thrown =>
      rw [phase] at sent
      cases sent

variable [DecidableEq Call]

section Step

variable {setup : Setup Call} {state : State Call} {call : Call} {phase : Phase}

theorem Setup.Saved.grow {following : State Call}
    (calls : following.calls = (state.goto call phase).calls)
    (attempted : phase.attempted = true ∨ state.calls call = .ready) {value : String}
    {payload : GoogleOAuthStatePayload} (saved : setup.Saved state value payload) :
    setup.Saved following value payload := by
  obtain ⟨start, requested, operation, drawn, prepared, past⟩ := saved
  refine ⟨start, requested, operation, drawn, prepared, ?_⟩
  rw [calls]
  change (Function.update state.calls call phase start).attempted = true
  by_cases same : start = call
  · subst same
    rw [Function.update_self]
    rcases attempted with attempted | ready
    · exact attempted
    · rw [ready] at past
      cases past
  · rw [Function.update_of_ne same]
    exact past

omit [DecidableEq Call] in
/-- Only its own start writes the key of a state, and that one is past its command. -/
theorem Setup.Saved.gone {after : StateStore} (delivers : setup.Delivers state call after)
    {value : String} {payload : GoogleOAuthStatePayload} (saved : setup.Saved state value payload)
    (missing : state.store value = none) : after value = none := by
  obtain ⟨start, requested, operation, drawn, prepared, past⟩ := saved
  apply Option.eq_none_iff_forall_ne_some.mpr
  intro cell found
  rcases delivers value cell found with before | ⟨_, saving, own, _⟩
  · rw [missing] at before
    cases before
  · rw [setup.fresh (drawn.trans own), saving] at past
    cases past

/-- The callback that goes on has got past the state check: the key of its state was there
and is gone. -/
def Setup.Passes (setup : Setup Call) (state : State Call) (call : Call) (after : StateStore)
    (passed : List Call) : Prop :=
  passed = state.passed ∨ passed = call :: state.passed ∧
    ∃ value payload, setup.Presents call value ∧ setup.Saved state value payload ∧
      state.store value ≠ none ∧ after value = none

omit [DecidableEq Call] in
theorem Setup.Known.spent_deliver (known : setup.Known state) {after : StateStore}
    {passed : List Call} (delivers : setup.Delivers state call after)
    (passes : setup.Passes state call after passed) {other : Call} (member : other ∈ passed) :
    ∃ value payload, setup.Presents other value ∧ setup.Saved state value payload ∧
      after value = none := by
  have spent : other ∈ state.passed → ∃ value payload, setup.Presents other value ∧
      setup.Saved state value payload ∧ after value = none := by
    intro earlier
    obtain ⟨value, payload, presents, past, missing⟩ := known.spent other earlier
    exact ⟨value, payload, presents, past, past.gone delivers missing⟩
  rcases passes with rfl | ⟨rfl, value, payload, presents, past, _, deleted⟩
  · exact spent member
  · rcases List.mem_cons.mp member with rfl | earlier
    · exact ⟨value, payload, presents, past, deleted⟩
    · exact spent earlier

omit [DecidableEq Call] in
/-- A state whose key is there has let nobody pass yet. -/
theorem Setup.Known.once_deliver (known : setup.Known state) {after : StateStore}
    {passed : List Call} (passes : setup.Passes state call after passed) :
    (passed.map setup.presented).Nodup := by
  rcases passes with rfl | ⟨rfl, value, payload, presents, _, live, _⟩
  · exact known.once
  · refine List.nodup_cons.mpr ⟨?_, known.once⟩
    intro member
    obtain ⟨other, earlier, same⟩ := List.mem_map.mp member
    obtain ⟨value', _, presents', _, missing⟩ := known.spent other earlier
    rw [presents.presented, presents'.presented] at same
    cases same
    exact live missing

/-- A call goes on, perhaps with a command executed; it may be the one that passes. -/
theorem Setup.Known.deliver (known : setup.Known state) {after : StateStore}
    {passed : List Call} (delivers : setup.Delivers state call after)
    (attempted : phase.attempted = true ∨ state.calls call = .ready)
    (passes : setup.Passes state call after passed)
    (arrived : setup.CallKnown
      { state.goto call phase with
        store := after
        passed := passed } call phase) :
    setup.Known
      { state.goto call phase with
        store := after
        passed := passed } := by
  have saved : ∀ value payload, setup.Saved state value payload → setup.Saved
      { state.goto call phase with
        store := after
        passed := passed } value payload :=
    fun _ _ past => past.grow rfl attempted
  have kept : ∀ call ∈ state.passed, call ∈ passed := by
    intro call member
    rcases passes with rfl | ⟨rfl, _⟩
    · exact member
    · exact List.mem_cons_of_mem _ member
  constructor
  · intro other
    change setup.CallKnown _ other (Function.update state.calls call phase other)
    by_cases same : other = call
    · subst same
      rw [Function.update_self]
      exact arrived
    · rw [Function.update_of_ne same]
      exact (known.calls other).grow saved kept
  · intro value cell found
    rcases delivers value cell found with before | ⟨payload, saving, rfl, text⟩
    · obtain ⟨payload, text, past⟩ := known.stored value cell before
      exact ⟨payload, text, saved value payload past⟩
    · have own := known.calls call
      rw [saving] at own
      obtain ⟨requested, operation, prepared⟩ := own
      refine ⟨payload, text, call, requested, operation, rfl, prepared, ?_⟩
      change (Function.update state.calls call phase call).attempted = true
      rw [Function.update_self]
      rcases attempted with attempted | ready
      · exact attempted
      · rw [ready] at saving
        cases saving
  · intro other member
    obtain ⟨value, payload, presents, past, missing⟩ := known.spent_deliver delivers passes member
    exact ⟨value, payload, presents, saved value payload past, missing⟩
  · exact known.once_deliver passes

/-- A call goes on without a command. -/
theorem Setup.Known.goto (known : setup.Known state)
    (attempted : phase.attempted = true ∨ state.calls call = .ready)
    (arrived : setup.CallKnown (state.goto call phase) call phase) :
    setup.Known (state.goto call phase) :=
  known.deliver (fun _ _ found => .inl found) attempted (.inl rfl) arrived

theorem Setup.Known.receive (known : setup.Known state) {reply : Reply}
    (answers : setup.Answers state call reply) (fate : Fate) :
    setup.Known (state.receive call reply fate) := by
  obtain ⟨after, phase, passes⟩ := reply
  have delivers : setup.Delivers state call after := answers.delivers
  cases fate with
  | refused => exact known.goto (.inl rfl) trivial
  | lost => exact known.deliver delivers (.inl rfl) (.inl rfl) trivial
  | answered =>
      have attempted : phase.attempted = true := answers.attempted
      have grown : ∀ value payload, setup.Saved state value payload →
          setup.Saved (state.receive call ⟨after, phase, passes⟩ .answered) value payload :=
        fun _ _ saved => saved.grow rfl (.inl attempted)
      cases passes with
      | false =>
          have arrived : setup.CallKnown state call phase := answers.unpassed rfl
          exact known.deliver delivers (.inl attempted) (.inl rfl)
            (arrived.grow grown fun _ member => member)
      | true =>
          obtain ⟨input, value, payload, _, presents, saved, read, deleted, rfl⟩ :=
            answers.passes rfl
          have live : state.store value ≠ none := by
            intro missing
            rw [missing] at read
            cases read
          exact known.deliver delivers (.inl attempted)
            (.inr ⟨rfl, value, payload, presents, saved, live, deleted⟩)
            (Setup.callKnown_interpret
              ⟨List.mem_cons_self, value, presents, grown value payload saved⟩)

theorem Setup.Known.step (known : setup.Known state) {following : State Call}
    {action : Action Call} (stepped : setup.step state action = some following) :
    setup.Known following := by
  cases Setup.stepped_of_step stepped with
  | advances milliseconds => exact ⟨known.calls, known.stored, known.spent, known.once⟩
  | @starts call ready => exact known.goto (.inr ready) (setup.callKnown_begin _ call)
  | sends fate sent => exact known.receive (known.answers sent) fate
  | @signsIn call callback succeeds validated =>
      have bound := known.calls call
      rw [validated] at bound
      cases succeeds with
      | false => exact known.goto (.inl rfl) trivial
      | true =>
          refine known.goto (.inl (setup.attempted_respond _)) (setup.callKnown_respond ?_)
          obtain ⟨member, value, presents, saved⟩ := bound
          exact ⟨member, value, presents, saved.grow rfl (.inl (setup.attempted_respond _))⟩

end Step

theorem Setup.known_of_reachable {setup : Setup Call} {state : State Call}
    (reached : setup.system.Reachable anyAction state) : setup.Known state := by
  apply reached.invariant
  · intro initial given
    obtain ⟨store, calls, passed⟩ := given
    constructor
    · intro call
      rw [calls]
      trivial
    · intro value cell found
      rw [store] at found
      cases found
    · intro call member
      rw [passed] at member
      cases member
    · rw [passed]
      exact List.nodup_nil
  · intro before action after known _ stepped
    exact known.step stepped

/-- How a callback gets past the state check: its query and its cookie agree on the state
of an earlier start, whose record has not expired and is deleted by this very step. -/
def Setup.Accepts (setup : Setup Call) (before after : State Call) (call : Call) : Prop :=
  ∃ value payload, setup.Presents call value ∧ setup.Saved before value payload ∧
    Slot.get before.now (before.store value) = some payload.stringify ∧
    after.store value = none

/-- In every run: callbacks pass as above, at most one for each state; those that go on
do so with the payload of the start that has drawn the state; and they redirect only to
a URL that was allowed at that start, as requested or as configured. -/
structure Setup.RedirectSafe (setup : Setup Call) : Prop where
  accepts : ∀ before action after call, setup.system.Reachable anyAction before →
    setup.step before action = some after → call ∈ after.passed → call ∉ before.passed →
    setup.Accepts before after call
  once : ∀ state, setup.system.Reachable anyAction state →
    (state.passed.map setup.presented).Nodup
  fulfils : ∀ state, setup.system.Reachable anyAction state → ∀ call callback,
    state.calls call = .validated callback → setup.Bound state call callback.payload
  redirects : ∀ state, setup.system.Reachable anyAction state → ∀ call url,
    state.calls call = .redirected url → call ∈ state.passed ∧
      ∃ value start requested, setup.Presents call value ∧
        setup.operation start = .start requested ∧ setup.state start = value ∧
        setup.Allowlisted url ∧ (requested = some url ∨ requested = none ∧
          ∃ options, setup.options = some options ∧ options.defaultReturnUrl = some url)

/-- Only the answer to a command lets a callback pass. -/
theorem Setup.accepts_of_passed {setup : Setup Call} {before after : State Call}
    {action : Action Call} {call : Call} (known : setup.Known before)
    (stepped : setup.step before action = some after) (passed : call ∈ after.passed)
    (waiting : call ∉ before.passed) : setup.Accepts before after call := by
  cases Setup.stepped_of_step stepped with
  | advances milliseconds => exact absurd passed waiting
  | starts ready => exact absurd passed waiting
  | signsIn succeeds validated => exact absurd passed waiting
  | @sends sending reply fate sent =>
      have answers := known.answers sent
      cases fate with
      | lost | refused => exact absurd passed waiting
      | answered =>
          have member : call ∈ if reply.passes then sending :: before.passed else before.passed :=
            passed
          cases passes : reply.passes with
          | false =>
              rw [passes] at member
              exact absurd member waiting
          | true =>
              rw [passes] at member
              rcases List.mem_cons.mp member with rfl | earlier
              · obtain ⟨_, value, payload, _, presents, saved, read, deleted, _⟩ :=
                  answers.passes passes
                exact ⟨value, payload, presents, saved, read, deleted⟩
              · exact absurd earlier waiting

theorem redirectSafe_always (setup : Setup Call) : setup.RedirectSafe where
  accepts before action after call reached stepped passed waiting :=
    Setup.accepts_of_passed (Setup.known_of_reachable reached) stepped passed waiting
  once state reached := (Setup.known_of_reachable reached).once
  fulfils state reached call callback validated := by
    have known := (Setup.known_of_reachable reached).calls call
    rw [validated] at known
    exact known
  redirects state reached call url redirected := by
    have known := (Setup.known_of_reachable reached).calls call
    rw [redirected] at known
    obtain ⟨_, payload, returns, member, value, presents, start, requested, operation, drawn,
      prepared, _⟩ := known
    obtain ⟨allowlisted, origin⟩ := setup.allowlisted_of_prepare prepared returns
    exact ⟨member, value, start, requested, presents, operation, drawn, allowlisted, origin⟩

theorem distinctStates : ["s0", "s1", "s2"].Nodup := by decide

theorem tenMinutes_pos (enabled : GoogleSsoEnabledOptions)
    (configured : some
      ({ defaultReturnUrl := none
         stateTtlSeconds := 600 } : GoogleSsoEnabledOptions) = some enabled) :
    0 < enabled.stateTtlSeconds := by
  cases configured
  exact Nat.zero_lt_succ _

/-- A start, and two callbacks of the browser that it was for. -/
def repeatedCallback : Setup (Fin 3) :=
  { options := some
      { defaultReturnUrl := none
        stateTtlSeconds := 600 }
    positive := tenMinutes_pos
    allowedOrigins := "https://app.example.com, https://admin.example.com"
    driver := .session
    parseUrl := fun url =>
      if url = "https://admin.example.com/done" then
        some
          { protocol := "https:"
            origin := "https://admin.example.com" }
      else none
    createAuthorizationUrl := fun state => state
    operation := fun call =>
      if call.val = 0 then .start (some "https://admin.example.com/done")
      else .callback
        { state := some "s0"
          stateFromCookie := some "s0"
          error := none
          code := some "c1" }
    state := ["s0", "s1", "s2"].get
    fresh := List.nodup_iff_injective_get.mp distinctStates }

/-- Both read the record, and the one that deletes it is redirected. -/
example :
    (repeatedCallback.system.execute (fun _ _ => true)
      { now := 0
        store := fun _ => none
        calls := fun _ => .ready
        passed := [] }
      [.start 0, .command 0 .answered, .advance 600000, .start 1, .start 2, .command 1 .answered,
        .command 2 .answered, .command 2 .answered, .command 1 .answered, .signIn 2 true]).map
      (fun state => (state.passed, state.calls 1, state.calls 2)) =
    some ([2], .thrown (.flow stateExpiredOrUsed),
      .redirected "https://admin.example.com/done") := by
  decide +kernel

end BackendFoundation.GoogleSso
