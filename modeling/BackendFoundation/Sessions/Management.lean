/-
RedisSessionManagementService. A call of the service asks the store for one operation
after the other and goes on with the reply of each; other calls of the service and of
the store come between any two commands.
-/

import BackendFoundation.Sessions.Ownership

namespace BackendFoundation.Sessions

open Transition Redis

inductive Request
  | listForUser (userId currentSessionId : String) (currentAuthVersion : Int)
  | revokeOne (userId sessionId currentSessionId : String)
  | revokeOthers (userId currentSessionId : String)
  | revokeAll (userId : String)
deriving DecidableEq, Repr

def Request.userId : Request → String
  | listForUser userId _ _ | revokeOne userId _ _ | revokeOthers userId _ | revokeAll userId =>
      userId

/-- A date stands for what toISOString makes of it. -/
structure SessionListItem where
  id : String
  createdAt : String
  lastActivityAt : String
  expiresAt : Nat
  ip : Option String
  userAgent : Option String
  isCurrent : Bool
deriving DecidableEq, Repr

def SessionListEntry.toItem (entry : SessionListEntry) (currentSessionId : String) :
    SessionListItem :=
  { id := entry.id
    createdAt := entry.record.createdAt
    lastActivityAt := entry.record.lastActivityAt
    expiresAt := entry.expiresAt
    ip := entry.record.ip
    userAgent := entry.record.userAgent
    isCurrent := entry.id == currentSessionId }

/-- The entries that listForUser keeps, as items. -/
def itemsOf (entries : List SessionListEntry) (currentSessionId : String)
    (currentAuthVersion : Int) : List SessionListItem :=
  (entries.filter fun entry => entry.record.authVersion == currentAuthVersion).map fun entry =>
    entry.toItem currentSessionId

inductive Result
  | listed (items : List SessionListItem)
  | revokedOne (clearedCurrent : Bool)
  | revokedOthers (revokedCount : Nat)
  | done
deriving DecidableEq, Repr

structure NotFoundError where
  code : String
  message : String
deriving DecidableEq, Repr

def sessionNotFound : NotFoundError :=
  { code := "SESSION_NOT_FOUND"
    message := "Session not found" }

inductive Failure
  | notFound (error : NotFoundError)
  | store
deriving DecidableEq, Repr

/-- An operation that the service asks the store for. -/
inductive Asked
  | listByUserId (userId : String)
  | get (sessionId : String)
  | delete (sessionId : String)
deriving DecidableEq, Repr

def Operation.asked : Operation → Option Asked
  | listByUserId userId => some (.listByUserId userId)
  | get sessionId => some (.get sessionId)
  | delete sessionId => some (.delete sessionId)
  | _ => none

/-- Where a call of the service is. One that revokes has the ids still to come, and the
number of those it has deleted. -/
inductive Stage (Call : Type)
  | asking (asked : Asked) (rest : List String) (revokedCount : Nat)
  | awaiting (call : Call) (rest : List String) (revokedCount : Nat)
  | resolved (result : Result)
  | rejected (failure : Failure)
deriving DecidableEq, Repr

structure ServiceSetup (Call Manager : Type) where
  store : Setup Call
  request : Manager → Request

structure ServiceState (Call Manager : Type) where
  store : State Call
  stages : Manager → Stage Call

/-- A call of the service picks a call of the store that does what it asks for. -/
inductive ServiceAction (Call Manager : Type)
  | store (action : Action Call)
  | ask (manager : Manager) (call : Call)
  | resume (manager : Manager)

variable {Call Manager : Type}

def Request.first : Request → Asked
  | listForUser userId _ _ | revokeOthers userId _ | revokeAll userId => .listByUserId userId
  | revokeOne _ sessionId _ => .get sessionId

def Request.revoked (request : Request) (revokedCount : Nat) : Result :=
  match request with
  | revokeOne _ sessionId currentSessionId => .revokedOne (sessionId == currentSessionId)
  | revokeOthers _ _ => .revokedOthers revokedCount
  | _ => .done

def Request.deleteNext (request : Request) (revokedCount : Nat) : List String → Stage Call
  | [] => .resolved (request.revoked revokedCount)
  | sessionId :: rest => .asking (.delete sessionId) rest revokedCount

/-- What the service makes of the reply to its operation. -/
def Request.resume (request : Request) (rest : List String) (revokedCount : Nat) :
    Reply → Option (Stage Call)
  | .entries entries =>
      match request with
      | listForUser _ currentSessionId currentAuthVersion =>
          some (.resolved (.listed (itemsOf entries currentSessionId currentAuthVersion)))
      | revokeOthers _ currentSessionId =>
          some (request.deleteNext 0
            ((entries.map SessionListEntry.id).filter fun id => id != currentSessionId))
      | revokeAll _ => some (request.deleteNext 0 (entries.map SessionListEntry.id))
      | revokeOne _ _ _ => none
  | .record found =>
      match request with
      | revokeOne userId sessionId _ =>
          match found with
          | some record =>
              if record.userId = userId then some (request.deleteNext 0 [sessionId])
              else some (.rejected (.notFound sessionNotFound))
          | none => some (.rejected (.notFound sessionNotFound))
      | _ => none
  | .done => some (request.deleteNext (revokedCount + 1) rest)
  | .created _ => none

/-- A session of the user of a request, or the first operation of the request. -/
def ServiceSetup.Serves (setup : ServiceSetup Call Manager) (request : Request)
    (asked : Asked) : Prop :=
  asked = request.first ∨ ∃ sessionId, asked = .delete sessionId ∧
    setup.store.Draws request.userId sessionId

/-- A call of the service has only its own user's sessions in hand. -/
def ServiceSetup.Owns (setup : ServiceSetup Call Manager) (request : Request) :
    Stage Call → Prop
  | .asking asked rest _ =>
      setup.Serves request asked ∧ ∀ sessionId ∈ rest,
        setup.store.Draws request.userId sessionId
  | .awaiting call rest _ =>
      (∃ asked, (setup.store.operation call).asked = some asked ∧
          setup.Serves request asked) ∧
        ∀ sessionId ∈ rest, setup.store.Draws request.userId sessionId
  | .resolved (.listed items) =>
      ∀ item ∈ items, setup.store.Draws request.userId item.id
  | _ => True

theorem Operation.eq_of_asked {operation : Operation} {asked : Asked}
    (asks : operation.asked = some asked) :
    operation = match asked with
      | .listByUserId userId => .listByUserId userId
      | .get sessionId => .get sessionId
      | .delete sessionId => .delete sessionId := by
  cases operation <;> cases asks <;> rfl

section Owns

variable {setup : ServiceSetup Call Manager} {request : Request}

/-- What a call of the service asks for concerns its own user. -/
theorem ServiceSetup.Serves.concerns {asked : Asked} (serves : setup.Serves request asked)
    {operation : Operation} (asks : operation.asked = some asked) {userId : String}
    (concerns : setup.store.Concerns userId operation) : userId = request.userId := by
  have same := Operation.eq_of_asked asks
  rcases serves with rfl | ⟨sessionId, rfl, draws⟩
  · cases request with
    | revokeOne =>
        rw [same] at concerns
        exact concerns.elim
    | listForUser | revokeOthers | revokeAll =>
        rw [same] at concerns
        exact concerns.symm
  · rw [same] at concerns
    exact Setup.Draws.unique concerns draws

theorem ServiceSetup.owns_deleteNext {revokedCount : Nat} {sessionIds : List String}
    (drawn : ∀ sessionId ∈ sessionIds, setup.store.Draws request.userId sessionId) :
    setup.Owns request (request.deleteNext revokedCount sessionIds) := by
  cases sessionIds with
  | nil => cases request <;> trivial
  | cons sessionId rest =>
      exact ⟨.inr ⟨sessionId, rfl, drawn sessionId List.mem_cons_self⟩,
        fun other member => drawn other (List.mem_cons_of_mem _ member)⟩

theorem ServiceSetup.Owns.resume {rest : List String} {revokedCount : Nat} {call : Call}
    {reply : Reply} {stage : Stage Call}
    (owns : setup.Owns request (.awaiting call rest revokedCount))
    (works : setup.store.Works (setup.store.operation call) (.returned reply))
    (resumes : request.resume rest revokedCount reply = some stage) :
    setup.Owns request stage := by
  obtain ⟨⟨asked, asks, serves⟩, drawn⟩ := owns
  cases reply with
  | created => cases resumes
  | done =>
      cases resumes
      exact ServiceSetup.owns_deleteNext drawn
  | record found =>
      cases request with
      | revokeOne userId sessionId currentSessionId =>
          cases found with
          | none =>
              cases resumes
              trivial
          | some record =>
              simp only [Request.resume] at resumes
              split at resumes
              · rename_i user
                cases resumes
                obtain ⟨asked', operation, draws⟩ := works
                rw [operation] at asks
                cases asks
                rcases serves with same | ⟨_, impossible, _⟩
                · cases same
                  apply ServiceSetup.owns_deleteNext
                  intro target member
                  rw [List.mem_singleton.mp member]
                  exact user ▸ draws record rfl
                · cases impossible
              · cases resumes
                trivial
      | listForUser | revokeOthers | revokeAll => cases resumes
  | entries entries =>
      obtain ⟨userId, operation, draws⟩ := works
      have user : userId = request.userId :=
        serves.concerns asks (by rw [operation]; rfl)
      subst user
      cases request with
      | revokeOne => cases resumes
      | listForUser =>
          cases resumes
          intro item member
          obtain ⟨entry, kept, rfl⟩ := List.mem_map.mp member
          exact draws entry (List.mem_filter.mp kept).1
      | revokeOthers =>
          cases resumes
          apply ServiceSetup.owns_deleteNext
          intro sessionId member
          obtain ⟨entry, inside, rfl⟩ := List.mem_map.mp (List.mem_filter.mp member).1
          exact draws entry inside
      | revokeAll =>
          cases resumes
          apply ServiceSetup.owns_deleteNext
          intro sessionId member
          obtain ⟨entry, inside, rfl⟩ := List.mem_map.mp member
          exact draws entry inside

end Owns

theorem Request.resume_ne_awaiting {request : Request} {rest : List String}
    {revokedCount : Nat} {reply : Reply} {stage : Stage Call}
    (resumed : request.resume rest revokedCount reply = some stage) (call : Call)
    (rest' : List String) (revokedCount' : Nat) :
    stage ≠ .awaiting call rest' revokedCount' := by
  have next (count : Nat) (sessionIds : List String) :
      (request.deleteNext count sessionIds : Stage Call) ≠
        .awaiting call rest' revokedCount' := by
    cases sessionIds <;> exact nofun
  cases reply with
  | created => cases resumed
  | done =>
      cases resumed
      exact next _ _
  | entries =>
      cases request with
      | listForUser =>
          cases resumed
          exact nofun
      | revokeOne => cases resumed
      | revokeOthers | revokeAll =>
          cases resumed
          exact next _ _
  | record found =>
      cases request with
      | revokeOne =>
          cases found with
          | none =>
              cases resumed
              exact nofun
          | some record =>
              simp only [resume] at resumed
              split at resumed <;> cases resumed
              · exact nofun
              · exact nofun
      | listForUser | revokeOthers | revokeAll => cases resumed

/-- What is known of every reachable state. -/
structure ServiceSetup.Kept (setup : ServiceSetup Call Manager)
    (state : ServiceState Call Manager) : Prop where
  store : setup.store.Kept state.store
  owns : ∀ manager, setup.Owns (setup.request manager) (state.stages manager)
  begun : ∀ manager call rest revokedCount,
    state.stages manager = .awaiting call rest revokedCount → state.store.calls call ≠ .ready

theorem ServiceSetup.Kept.stores [DecidableEq Call] {setup : ServiceSetup Call Manager}
    {state : ServiceState Call Manager} (kept : setup.Kept state) {action : Action Call}
    {store : State Call} (stepped : setup.store.step state.store action = some store) :
    setup.Kept { state with store := store } :=
  { store := kept.store.step stepped
    owns := kept.owns
    begun := fun manager call rest revokedCount waits =>
      (setup.store.moved stepped).begun (kept.begun manager call rest revokedCount waits) }

variable [DecidableEq Manager]

def ServiceState.goto (state : ServiceState Call Manager) (manager : Manager)
    (stage : Stage Call) : ServiceState Call Manager :=
  { state with stages := Function.update state.stages manager stage }

@[simp] theorem ServiceState.goto_self (state : ServiceState Call Manager) (manager : Manager)
    (stage : Stage Call) : (state.goto manager stage).stages manager = stage :=
  Function.update_self _ _ _

theorem ServiceState.goto_other (state : ServiceState Call Manager) {manager other : Manager}
    (stage : Stage Call) (different : other ≠ manager) :
    (state.goto manager stage).stages other = state.stages other :=
  Function.update_of_ne different _ _

theorem ServiceSetup.Kept.goto {setup : ServiceSetup Call Manager}
    {state : ServiceState Call Manager} (kept : setup.Kept state) {actor : Manager}
    {stage : Stage Call} (owns : setup.Owns (setup.request actor) stage)
    (begun : ∀ call rest revokedCount, stage = .awaiting call rest revokedCount →
      state.store.calls call ≠ .ready) : setup.Kept (state.goto actor stage) := by
  refine ⟨kept.store, ?_, ?_⟩
  · intro manager
    by_cases same : manager = actor
    · subst same
      rw [ServiceState.goto_self]
      exact owns
    · rw [ServiceState.goto_other _ _ same]
      exact kept.owns manager
  · intro manager
    by_cases same : manager = actor
    · subst same
      rw [ServiceState.goto_self]
      exact begun
    · rw [ServiceState.goto_other _ _ same]
      exact kept.begun manager

variable [DecidableEq Call]

def ServiceSetup.step (setup : ServiceSetup Call Manager) (state : ServiceState Call Manager) :
    ServiceAction Call Manager → Option (ServiceState Call Manager)
  | .store action =>
      (setup.store.step state.store action).map fun store => { state with store := store }
  | .ask manager call =>
      match state.stages manager with
      | .asking asked rest revokedCount =>
          if (setup.store.operation call).asked = some asked then
            (setup.store.step state.store (.start call)).map fun store =>
              { state.goto manager (.awaiting call rest revokedCount) with store := store }
          else none
      | _ => none
  | .resume manager =>
      match state.stages manager with
      | .awaiting call rest revokedCount =>
          match state.store.calls call with
          | .returned reply =>
              ((setup.request manager).resume rest revokedCount reply).map fun stage =>
                state.goto manager stage
          | .rejected => some (state.goto manager (.rejected .store))
          | _ => none
      | _ => none

def ServiceSetup.initial (setup : ServiceSetup Call Manager)
    (state : ServiceState Call Manager) : Prop :=
  state.store.initial ∧
    state.stages = fun manager => .asking (setup.request manager).first [] 0

def ServiceSetup.system (setup : ServiceSetup Call Manager) :
    System (ServiceState Call Manager) (ServiceAction Call Manager) :=
  { initial := setup.initial
    step := setup.step }

section Steps

variable {setup : ServiceSetup Call Manager} {state following : ServiceState Call Manager}
  {action : ServiceAction Call Manager}

/-- Everything one step can do. -/
inductive ServiceSetup.Moves (setup : ServiceSetup Call Manager)
    (state : ServiceState Call Manager) :
    ServiceAction Call Manager → ServiceState Call Manager → Prop
  | stores {action : Action Call} {store : State Call}
      (stepped : setup.store.step state.store action = some store) :
      Moves setup state (.store action) { state with store := store }
  | asks {manager : Manager} {call : Call} {asked : Asked} {rest : List String}
      {revokedCount : Nat} {store : State Call}
      (stage : state.stages manager = .asking asked rest revokedCount)
      (asks : (setup.store.operation call).asked = some asked)
      (stepped : setup.store.step state.store (.start call) = some store) :
      Moves setup state (.ask manager call)
        { state.goto manager (.awaiting call rest revokedCount) with store := store }
  | resumes {manager : Manager} {call : Call} {rest : List String} {revokedCount : Nat}
      {reply : Reply} {stage : Stage Call}
      (waits : state.stages manager = .awaiting call rest revokedCount)
      (returned : state.store.calls call = .returned reply)
      (resumed : (setup.request manager).resume rest revokedCount reply = some stage) :
      Moves setup state (.resume manager) (state.goto manager stage)
  | fails {manager : Manager} {call : Call} {rest : List String} {revokedCount : Nat}
      (waits : state.stages manager = .awaiting call rest revokedCount)
      (rejected : state.store.calls call = .rejected) :
      Moves setup state (.resume manager) (state.goto manager (.rejected .store))

theorem ServiceSetup.moved (stepped : setup.step state action = some following) :
    setup.Moves state action following := by
  cases action with
  | store action =>
      obtain ⟨store, inner, rfl⟩ := Option.map_eq_some_iff.mp stepped
      exact .stores inner
  | ask manager call =>
      simp only [step] at stepped
      split at stepped
      · split at stepped
        · obtain ⟨store, inner, rfl⟩ := Option.map_eq_some_iff.mp stepped
          exact .asks ‹_› ‹_› inner
        · cases stepped
      · cases stepped
  | resume manager =>
      simp only [step] at stepped
      split at stepped
      · split at stepped
        · obtain ⟨stage, resumed, rfl⟩ := Option.map_eq_some_iff.mp stepped
          exact .resumes ‹_› ‹_› resumed
        · cases stepped
          exact .fails ‹_› ‹_›
        · cases stepped
      · cases stepped

theorem ServiceSetup.Kept.step (kept : setup.Kept state)
    (stepped : setup.step state action = some following) : setup.Kept following := by
  cases setup.moved stepped with
  | stores inner => exact kept.stores inner
  | @asks manager call asked rest revokedCount store stage asks inner =>
      have owns := kept.owns manager
      rw [stage] at owns
      refine (kept.stores inner).goto ⟨⟨asked, asks, owns.1⟩, owns.2⟩ ?_
      intro other rest' revokedCount' same
      cases same
      cases setup.store.moved inner with
      | starts ready =>
          change (state.store.goto call _).calls call ≠ .ready
          rw [State.goto_self, Operation.eq_of_asked asks]
          cases asked <;> exact nofun
  | @resumes manager call rest revokedCount reply stage waits returned resumed =>
      have owns := kept.owns manager
      have works := kept.store.works call
      rw [waits] at owns
      rw [returned] at works
      refine kept.goto (owns.resume works resumed) ?_
      intro other rest' revokedCount' awaiting
      exact absurd awaiting (Request.resume_ne_awaiting resumed other rest' revokedCount')
  | fails => exact kept.goto trivial nofun

theorem ServiceSetup.kept_of_reachable
    {allowed : ServiceState Call Manager → ServiceAction Call Manager → Prop}
    (reached : setup.system.Reachable allowed state) : setup.Kept state := by
  apply reached.invariant
  · intro start initial
    obtain ⟨store, stages⟩ := initial
    refine ⟨Setup.kept_initial store, ?_, ?_⟩
    · intro manager
      rw [stages]
      exact ⟨.inl rfl, fun _ inside => absurd inside List.not_mem_nil⟩
    · intro manager call rest revokedCount waits
      rw [stages] at waits
      cases waits
  · intro before action after kept _ stepped
    exact kept.step stepped

/-- The steps of a call of the service, and the commands it waits for. -/
def ServiceState.ActsFor (state : ServiceState Call Manager) (manager : Manager) :
    ServiceAction Call Manager → Prop
  | .ask actor _ | .resume actor => actor = manager
  | .store (.command call) =>
      ∃ rest revokedCount, state.stages manager = .awaiting call rest revokedCount
  | .store _ => False

/-- A call of the service leaves the keys of every other user. -/
theorem ServiceSetup.Kept.isolates (kept : setup.Kept state) (uuids : setup.store.Plain)
    (stepped : setup.step state action = some following) {manager : Manager}
    (acts : state.ActsFor manager action) {userId key : String}
    (different : userId ≠ (setup.request manager).userId)
    (owned : setup.store.Owned userId key) : following.store.keys key = state.store.keys key := by
  cases setup.moved stepped with
  | resumes | fails => rfl
  | @asks actor call asked rest revokedCount store stage asks inner =>
      exact (setup.store.moved inner).leaves uuids kept.store.works owned nofun
  | @stores action store inner =>
      refine (setup.store.moved inner).leaves uuids kept.store.works owned ?_
      intro call same concerns
      subst same
      obtain ⟨rest, revokedCount, waits⟩ := acts
      have owns := kept.owns manager
      rw [waits] at owns
      obtain ⟨⟨asked, asks, serves⟩, _⟩ := owns
      exact different (serves.concerns asks concerns)

/-- A call of the service that waits can send its command or go on. -/
theorem ServiceSetup.Kept.advances (kept : setup.Kept state) {manager : Manager} {call : Call}
    {rest : List String} {revokedCount : Nat}
    (waits : state.stages manager = .awaiting call rest revokedCount) :
    ∃ action following, state.ActsFor manager action ∧
      setup.step state action = some following := by
  have owns := kept.owns manager
  have works := kept.store.works call
  have begun := kept.begun manager call rest revokedCount waits
  rw [waits] at owns
  obtain ⟨⟨asked, asks, serves⟩, _⟩ := owns
  have resumes {reply : Reply} {stage : Stage Call}
      (returned : state.store.calls call = .returned reply)
      (resumed : (setup.request manager).resume rest revokedCount reply = some stage) :
      ∃ action following, state.ActsFor manager action ∧
        setup.step state action = some following := by
    refine ⟨.resume manager, state.goto manager stage, rfl, ?_⟩
    simp only [ServiceSetup.step, waits, returned, resumed, Option.map_some]
  cases phase : state.store.calls call with
  | rejected =>
      refine ⟨.resume manager, state.goto manager (.rejected .store), rfl, ?_⟩
      simp only [ServiceSetup.step, waits, phase]
  | returned reply =>
      rw [phase] at works
      cases reply with
      | done => exact resumes phase rfl
      | created =>
          obtain ⟨input, operation⟩ := works
          rw [operation] at asks
          cases asks
      | entries entries =>
          obtain ⟨userId, operation, _⟩ := works
          rw [operation] at asks
          cases asks
          rcases serves with first | ⟨_, impossible, _⟩
          · cases same : setup.request manager with
            | revokeOne =>
                rw [same] at first
                cases first
            | listForUser | revokeOthers | revokeAll =>
                exact resumes phase (by rw [same]; rfl)
          · cases impossible
      | record found =>
          obtain ⟨sessionId, operation, _⟩ := works
          rw [operation] at asks
          cases asks
          rcases serves with first | ⟨_, impossible, _⟩
          · cases same : setup.request manager with
            | revokeOne =>
                cases found with
                | none => exact resumes phase (by rw [same]; rfl)
                | some record =>
                    by_cases user : record.userId = (setup.request manager).userId
                    · rw [same] at user
                      exact resumes phase (by rw [same]; exact if_pos user)
                    · rw [same] at user
                      exact resumes phase (by rw [same]; exact if_neg user)
            | listForUser | revokeOthers | revokeAll =>
                rw [same] at first
                cases first
          · cases impossible
  | _ =>
      obtain ⟨store, sent⟩ := setup.store.command_enabled begun
        (by rw [phase]; exact nofun) (by rw [phase]; exact nofun)
      refine ⟨.store (.command call), { state with store := store },
        ⟨rest, revokedCount, waits⟩, ?_⟩
      simp only [ServiceSetup.step, sent, Option.map_some]

end Steps

end BackendFoundation.Sessions
