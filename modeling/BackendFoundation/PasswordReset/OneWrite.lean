/-
ResetPasswordUseCase on the token store: an execution consumes the hash of the token it
was given and goes on only with the user that consume has returned. So a token leads to
one password write at most, however many requests carry it.
-/

import BackendFoundation.PasswordReset.SingleUse
import BackendFoundation.Users.GoogleLink

namespace BackendFoundation.PasswordReset

open Transition

/-- A reset is a call of the users' operations and, under the same name, of the store. -/
structure Flow (Call : Type) where
  tokens : Setup Call
  users : Users.Setup Call

structure Flow.State (Call : Type) where
  tokens : PasswordReset.State Call
  users : Users.State Call

inductive Flow.Action (Call : Type)
  | tokens (action : PasswordReset.Action Call)
  | users (action : Users.Action Call)
deriving DecidableEq, Repr

def isReset : Users.Operation → Bool
  | .resetPassword _ => true
  | _ => false

/-- With the user that consume has returned, before the password is written. -/
def working : Users.Phase → Bool
  | .finding _ => true
  | .hashing _ => true
  | .updating _ _ => true
  | _ => false

def committed : Users.Phase → Bool
  | .revoking _ => true
  | _ => false

theorem rank_of_committed {phase : Users.Phase} (written : committed phase = true) :
    5 ≤ phase.rank := by
  cases phase with
  | revoking => exact Nat.le_refl 5
  | _ => cases written

variable {Call : Type} [DecidableEq Call]

/-- The reply to consume is what the store's call has returned. -/
def Flow.replied (state : Flow.State Call) : Users.Action Call → Bool
  | .consume call userId => state.tokens.calls call = .consumed userId
  | _ => true

def Flow.step (flow : Flow Call) (state : Flow.State Call) :
    Flow.Action Call → Option (Flow.State Call)
  | .tokens action =>
      (flow.tokens.step state.tokens action).map fun tokens => { state with tokens := tokens }
  | .users action =>
      if Flow.replied state action then
        (flow.users.step state.users action).map fun users => { state with users := users }
      else none

/-- What a step can do. -/
inductive Flow.Stepped (flow : Flow Call) (state : Flow.State Call) :
    Flow.Action Call → Flow.State Call → Prop
  | tokens {action : PasswordReset.Action Call} {tokens : PasswordReset.State Call}
      (moved : flow.tokens.step state.tokens action = some tokens) :
      Stepped flow state (.tokens action) { state with tokens := tokens }
  | users {action : Users.Action Call} {users : Users.State Call}
      (replied : Flow.replied state action = true)
      (moved : flow.users.step state.users action = some users) :
      Stepped flow state (.users action) { state with users := users }

theorem Flow.stepped_of_step {flow : Flow Call} {state following : Flow.State Call}
    {action : Flow.Action Call} (stepped : flow.step state action = some following) :
    flow.Stepped state action following := by
  cases action with
  | tokens action =>
      obtain ⟨tokens, moved, rfl⟩ := Option.map_eq_some_iff.mp stepped
      exact .tokens moved
  | users action =>
      simp only [Flow.step] at stepped
      split at stepped
      · rename_i replied
        obtain ⟨users, moved, rfl⟩ := Option.map_eq_some_iff.mp stepped
        exact .users replied moved
      · cases stepped

def Flow.initial (state : Flow.State Call) : Prop :=
  state.tokens.initial ∧ state.users.initial

def Flow.system (flow : Flow Call) : System (Flow.State Call) (Flow.Action Call) :=
  { initial := Flow.initial
    step := flow.step }

/-- The password writes of resets, by the call that has committed them. -/
def Flow.observe (flow : Flow Call) (_ : Flow.State Call) (action : Flow.Action Call)
    (following : Flow.State Call) : List Call :=
  match action with
  | .users (.write call) =>
      if isReset (flow.users.operation call) && committed (following.users.calls call) then [call]
      else []
  | _ => []

/-- A reset that works for a user has the user from its consume. -/
structure Flow.Entitled (flow : Flow Call) (state : Flow.State Call) : Prop where
  intends : flow.users.Everywhere Users.Operation.Intends state.users
  consumed : ∀ call, isReset (flow.users.operation call) = true →
    working (state.users.calls call) = true →
    ∃ userId, state.tokens.calls call = .consumed (some userId)

/-- Each write is of another call, which had consumed its token before. -/
structure Flow.Accounts (state : Flow.State Call) (events : List Call) : Prop where
  nodup : events.Nodup
  past : ∀ call ∈ events, 5 ≤ (state.users.calls call).rank
  consumed : ∀ call ∈ events, ∃ userId, state.tokens.calls call = .consumed (some userId)

section Step

variable {flow : Flow Call} {state following : Flow.State Call}

theorem Setup.Moves.consumed {setup : Setup Call} {before after : State Call}
    {action : Action Call} (moves : setup.Moves before action after) {call : Call}
    {userId : Option String} (consumed : before.calls call = .consumed userId) :
    after.calls call = .consumed userId := by
  rcases moves.call call with same | ⟨ready, _⟩ | ⟨store, phase, _, _, _, command⟩
  · rw [same, consumed]
  · rw [consumed] at ready
    cases ready
  · cases command with
    | findsNone _ reached | findsPrevious _ reached | deletesPrevious _ reached
    | writesToken _ reached | writesPointer _ reached | misses _ reached | reads _ reached
    | loses _ reached | wins _ reached | unpoints _ reached =>
        rw [consumed] at reached
        cases reached

/-- A consume that has returned has returned, whatever comes next. -/
theorem Flow.consumed_of_step {action : Flow.Action Call}
    (stepped : flow.step state action = some following) {call : Call} {userId : Option String}
    (consumed : state.tokens.calls call = .consumed userId) :
    following.tokens.calls call = .consumed userId := by
  cases Flow.stepped_of_step stepped with
  | tokens moved => exact (Setup.moves moved).consumed consumed
  | users replied moved => exact consumed

/-- A call that waits for consume goes on with its reply. -/
theorem consume_of_consuming {setup : Users.Setup Call} {before after : Users.State Call}
    {action : Users.Action Call} (stepped : setup.step before action = some after)
    (waiting : before.calls action.call = .consuming) {userId : String}
    (found : after.calls action.call = .finding userId) :
    action = .consume action.call (some userId) := by
  cases action with
  | consume call reply =>
      change before.calls call = .consuming at waiting
      simp only [Users.Setup.step, waiting] at stepped
      cases reply with
      | none =>
          cases stepped
          simp [Users.Action.call, Users.State.goto] at found
      | some replied =>
          cases stepped
          simp only [Users.Action.call, Users.State.goto, Function.update_self] at found
          cases found
          rfl
  | start call | query call | hash call _ | write call | create call _
  | revokeAllForUser call _ | createAuthSession call _ =>
      change before.calls call = .consuming at waiting
      simp [Users.Setup.step, Users.Setup.reply, waiting] at stepped

theorem Flow.Entitled.step {action : Flow.Action Call} (entitled : flow.Entitled state)
    (stepped : flow.step state action = some following) : flow.Entitled following := by
  have kept {call : Call} {userId : String}
      (consumed : state.tokens.calls call = .consumed (some userId)) :
      ∃ userId, following.tokens.calls call = .consumed (some userId) :=
    ⟨userId, Flow.consumed_of_step stepped consumed⟩
  cases Flow.stepped_of_step stepped with
  | tokens _ =>
      refine ⟨entitled.intends, ?_⟩
      intro call reset works
      obtain ⟨userId, consumed⟩ := entitled.consumed call reset works
      exact kept consumed
  | @users action users replied moved =>
      refine ⟨entitled.intends.step flow.users.intends moved, ?_⟩
      intro call reset works
      have before (already : working (state.users.calls call) = true) :
          ∃ userId, state.tokens.calls call = .consumed (some userId) :=
        entitled.consumed call reset already
      obtain ⟨phase, calls, executes⟩ := Users.Setup.executes moved
      by_cases same : call = action.call
      · subst same
        have next : users.calls action.call = phase := by
          rw [calls]
          exact Function.update_self ..
        rw [next] at works
        have known := entitled.intends action.call
        generalize reached : state.users.calls action.call = here at executes known before
        generalize users.users = after at executes
        cases executes with
        | consumes userId =>
            have consume := consume_of_consuming moved reached next
            rw [consume] at replied
            exact ⟨userId, of_decide_eq_true replied⟩
        | replies reply =>
            cases reply with
            | reads => exact before rfl
            | links =>
                obtain ⟨signIn, _⟩ := known
                rw [signIn] at reset
                cases reset
            | fails | signsIn | asksByEmail | creates => cases works
        | hashes => exact before rfl
        | starts | updates =>
            cases operation : flow.users.operation action.call with
            | resetPassword newPassword =>
                rw [operation] at works
                cases works
            | changePassword | completeGoogleSignIn | incrementAuthVersion =>
                rw [operation] at reset
                cases reset
        | fails | increments | creates | revokes | ends => cases works
      · rw [calls, Function.update_of_ne same] at works
        exact before works

/-- A reset that commits its write has consumed its token. -/
theorem Flow.Entitled.write (entitled : flow.Entitled state) {action : Flow.Action Call}
    (stepped : flow.step state action = some following) {call : Call}
    (observed : call ∈ flow.observe state action following) :
    (state.users.calls call).rank < 5 ∧ 5 ≤ (following.users.calls call).rank ∧
      ∃ userId, following.tokens.calls call = .consumed (some userId) := by
  unfold Flow.observe at observed
  split at observed
  · rename_i writer
    split at observed
    · rename_i writes
      rw [List.mem_singleton] at observed
      subst observed
      obtain ⟨reset, written⟩ := Bool.and_eq_true_iff.mp writes
      cases Flow.stepped_of_step stepped with
      | @users _ users replied moved =>
      obtain ⟨phase, calls, executes⟩ := Users.Setup.executes moved
      have next : users.calls call = phase := by
        rw [calls]
        exact Function.update_self ..
      change committed (users.calls call) = true at written
      change _ ∧ 5 ≤ (users.calls call).rank ∧ _
      rw [next] at written ⊢
      have before := entitled.consumed call reset
      change flow.users.Executes _ _ (state.users.calls call) users.users phase at executes
      generalize state.users.calls call = here at executes before ⊢
      generalize users.users = after at executes
      cases executes with
      | updates =>
          exact ⟨by simp [Users.Phase.rank], rank_of_committed written, before rfl⟩
      | starts =>
          change committed (flow.users.operation call).start = true at written
          generalize flow.users.operation call = operation at written
          cases operation <;> cases written
      | replies reply => cases reply <;> cases written
      | fails | consumes | hashes | increments | creates | revokes | ends => cases written
    · cases observed
  · cases observed

theorem Flow.Accounts.step {events : List Call} (accounts : Flow.Accounts state events)
    (entitled : flow.Entitled state) {action : Flow.Action Call}
    (stepped : flow.step state action = some following) :
    Flow.Accounts following (events ++ flow.observe state action following) := by
  have further (call : Call) :
      state.users.calls call = following.users.calls call ∨
        (state.users.calls call).rank < (following.users.calls call).rank := by
    cases Flow.stepped_of_step stepped with
    | tokens _ => exact .inl rfl
    | users _ moved => exact Users.Setup.advanced moved call
  constructor
  · rw [List.nodup_append]
    refine ⟨accounts.nodup, ?_, ?_⟩
    · unfold Flow.observe
      split
      · split
        · exact List.nodup_singleton _
        · exact List.nodup_nil
      · exact List.nodup_nil
    · intro call member other observed same
      have past := accounts.past call member
      have before := (entitled.write stepped observed).1
      rw [← same] at before
      omega
  · intro call member
    rcases List.mem_append.mp member with old | new
    · have past := accounts.past call old
      rcases further call with same | later
      · rwa [← same]
      · omega
    · exact (entitled.write stepped new).2.1
  · intro call member
    rcases List.mem_append.mp member with old | new
    · obtain ⟨userId, consumed⟩ := accounts.consumed call old
      exact ⟨userId, Flow.consumed_of_step stepped consumed⟩
    · exact (entitled.write stepped new).2.2

end Step

/-- Of the calls that carry one token, at most one has committed a password write, and
none two. -/
def Flow.OneWritePerToken (flow : Flow Call) : Prop :=
  ∀ start events state, flow.system.initial start →
    flow.system.Observed anyAction flow.observe start events state →
    ∀ tokenHash, (events.filter fun call =>
      flow.tokens.operation call = .consume tokenHash).length ≤ 1

theorem Flow.known_of_observed {flow : Flow Call} {start state : Flow.State Call}
    {events : List Call} (initial : flow.system.initial start)
    (observed : flow.system.Observed anyAction flow.observe start events state) :
    flow.Entitled state ∧ Flow.Accounts state events := by
  induction observed with
  | nil =>
      refine ⟨⟨Users.Setup.Everywhere.initial flow.users.intends initial.2, ?_⟩, ?_⟩
      · intro call _ works
        rw [initial.2.1] at works
        cases works
      · constructor
        · exact List.nodup_nil
        · intro call member
          cases member
        · intro call member
          cases member
  | snoc _ _ stepped ih =>
      obtain ⟨entitled, accounts⟩ := ih
      exact ⟨entitled.step stepped, accounts.step entitled stepped⟩

/-- The store's part of a run is a run of the store. -/
theorem Flow.tokens_reachable {flow : Flow Call} {start state : Flow.State Call}
    {actions : List (Flow.Action Call)} (initial : flow.system.initial start)
    (run : flow.system.Run anyAction start actions state) :
    flow.tokens.system.Reachable anyAction state.tokens := by
  have projected : ∃ inners, flow.tokens.system.Run anyAction start.tokens inners state.tokens := by
    apply run.projects
    intro before action after _ stepped
    cases Flow.stepped_of_step stepped with
    | @tokens action _ moved => exact .inr ⟨action, trivial, moved⟩
    | users _ _ => exact .inl rfl
  obtain ⟨inners, run'⟩ := projected
  exact ⟨start.tokens, inners, initial.1, run'⟩

theorem length_le_one_of_eq {Item : Type} {items : List Item} (nodup : items.Nodup)
    (same : ∀ first ∈ items, ∀ second ∈ items, first = second) : items.length ≤ 1 := by
  match items with
  | [] => exact Nat.zero_le 1
  | [_] => exact Nat.le_refl 1
  | first :: second :: rest =>
      have equal := same first (by simp) second (by simp)
      simp [equal] at nodup

theorem Flow.oneWritePerToken (flow : Flow Call) : flow.OneWritePerToken := by
  intro start events state initial observed tokenHash
  obtain ⟨_, accounts⟩ := Flow.known_of_observed initial observed
  obtain ⟨actions, run⟩ := observed.run
  have reached := Flow.tokens_reachable initial run
  apply length_le_one_of_eq (accounts.nodup.filter _)
  intro first member second member'
  obtain ⟨listed, operation⟩ := List.mem_filter.mp member
  obtain ⟨listed', operation'⟩ := List.mem_filter.mp member'
  obtain ⟨userId, consumed⟩ := accounts.consumed first listed
  obtain ⟨userId', consumed'⟩ := accounts.consumed second listed'
  exact flow.tokens.singleUse.once state.tokens reached first second tokenHash userId userId'
    (of_decide_eq_true operation) (of_decide_eq_true operation') consumed consumed'

/-- A reset token works at most once and only for its user, and leads to one password
write at most. -/
theorem singleUse_and_oneWrite (flow : Flow Call) :
    flow.tokens.SingleUse ∧ flow.OneWritePerToken :=
  ⟨flow.tokens.singleUse, flow.oneWritePerToken⟩

end BackendFoundation.PasswordReset
