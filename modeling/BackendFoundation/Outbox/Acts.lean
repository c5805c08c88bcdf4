/-
A step of a call, action by action: the state in which it leaves the call and the
statement that the database executes.
-/

import BackendFoundation.Outbox.Processor

namespace BackendFoundation.Outbox

variable {Worker Handler : Type}

/-- The call that takes the step. -/
def Action.actor : Action Worker → Option Worker
  | .advance _ | .append _ _ _ _ _ => none
  | .start call | .claim call _ | .claimAnswered call | .claimFails call
  | .heartbeatTimer call | .extendLock call | .extendLockAnswered call | .extendLockFails call
  | .lateExtendLock call _ _ | .timeout call | .handlerResolves call | .handlerRejects call
  | .routeSettles call | .mark call | .markAnswered call | .markFails call
  | .crash call => some call

variable [DecidableEq Worker]

def Setup.executeOption (setup : Setup Worker Handler) (state : State Worker Handler)
    (call : Worker) : Option (Statement Worker) → State Worker Handler
  | none => state
  | some statement => setup.execute state call statement

/-- The route call of an iteration has resolved. -/
def Setup.afterRoute (setup : Setup Worker Handler) (state : State Worker Handler)
    (call : Worker) (iteration : Iteration Worker) : Stage Handler :=
  if iteration.handlerTimedOut || iteration.ownershipLost then
    .markingFailed (setup.clock call state.now) none
  else .markingProcessed none

inductive Setup.Act (setup : Setup Worker Handler) (state : State Worker Handler)
    (call : Worker) (before : CallState Worker Handler) :
    Action Worker → Option (Statement Worker) → CallState Worker Handler → Prop
  | starts (phase : before.phase = .ready) :
      Act setup state call before (.start call) none
        (before.goto (.claiming (setup.clock call state.now) none))
  | claims {now : Nat} (scan : Scan) (phase : before.phase = .claiming now none) :
      Act setup state call before (.claim call scan) (some (.claimPendingBatch now scan))
        (before.goto (.claiming now (some (claimedRows setup.options state.events now scan))))
  | claimAnswered {now : Nat} {rows : List (OutboxRow Worker)}
      (phase : before.phase = .claiming now (some rows)) :
      Act setup state call before (.claimAnswered call) none
        { before with
          phase := setup.nextEvent state.now rows
          result := { before.result with selected := rows.length } }
  | claimFails {now : Nat} {reply : Option (List (OutboxRow Worker))}
      (phase : before.phase = .claiming now reply) :
      Act setup state call before (.claimFails call) none (before.goto .rejected)
  | beats {iteration : Iteration Worker} {stage : Stage Handler}
      (phase : before.phase = .iterating iteration stage)
      (due : iteration.nextHeartbeat ≤ state.now) :
      Act setup state call before (.heartbeatTimer call) none
        (before.goto (.iterating
          (iteration.beat setup.options state.now (setup.clock call state.now)) stage))
  | renews {iteration : Iteration Worker} {stage : Stage Handler} {date : Nat}
      (phase : before.phase = .iterating iteration stage)
      (sent : iteration.heartbeat = .sent date) :
      Act setup state call before (.extendLock call) (some (.extendLock date iteration.event.id))
        (before.goto (.iterating
          { iteration with
            heartbeat := .executed
              (extendLock state.events date iteration.event.id call).2 } stage))
  | extendAnswered {iteration : Iteration Worker} {stage : Stage Handler} {extended : Bool}
      (phase : before.phase = .iterating iteration stage)
      (executed : iteration.heartbeat = .executed extended) :
      Act setup state call before (.extendLockAnswered call) none
        (before.goto (.iterating (iteration.extended extended) stage))
  | extendFails {iteration : Iteration Worker} {stage : Stage Handler}
      (phase : before.phase = .iterating iteration stage)
      (inProgress : iteration.heartbeat ≠ .idle) :
      Act setup state call before (.extendLockFails call) none
        (before.goto (.iterating (iteration.extended false) stage))
  | extendsLate {id : String} {date : Nat} (late : (id, date) ∈ before.late) :
      Act setup state call before (.lateExtendLock call id date) (some (.extendLock date id))
        { before with late := before.late.erase (id, date) }
  | timesOut {iteration : Iteration Worker} {routing : Routing Handler} {timeoutAt : Nat}
      (phase : before.phase = .iterating iteration (.publishing routing))
      (enabled : iteration.timeoutAt = some timeoutAt) (due : timeoutAt ≤ state.now) :
      Act setup state call before (.timeout call) none
        (before.goto (.iterating
          { iteration with
            timeoutAt := none
            handlerTimedOut := true } (.publishing routing)))
  | resolves {iteration : Iteration Worker} {handler : Handler}
      {pending resolved : List Handler}
      (phase : before.phase =
        .iterating iteration (.publishing (.awaiting (handler :: pending) resolved))) :
      Act setup state call before (.handlerResolves call) none
        (before.goto
          (.iterating iteration (.publishing (.awaiting pending (resolved ++ [handler])))))
  | rejects {iteration : Iteration Worker} {handler : Handler} {pending resolved : List Handler}
      (phase : before.phase =
        .iterating iteration (.publishing (.awaiting (handler :: pending) resolved))) :
      Act setup state call before (.handlerRejects call) none
        (before.goto (.iterating iteration (.publishing .thrown)))
  | routeRejects {iteration : Iteration Worker}
      (phase : before.phase = .iterating iteration (.publishing .thrown)) :
      Act setup state call before (.routeSettles call) none
        (before.goto
          (.iterating iteration (.markingFailed (setup.clock call state.now) none)))
  | marksProcessed {iteration : Iteration Worker}
      (phase : before.phase = .iterating iteration (.markingProcessed none)) :
      Act setup state call before (.mark call) (some (.markProcessed iteration.event.id))
        (before.goto (.iterating iteration
          (.markingProcessed (some (markProcessed state.events iteration.event.id call).2))))
  | marksFailed {iteration : Iteration Worker} {now : Nat}
      (phase : before.phase = .iterating iteration (.markingFailed now none)) :
      Act setup state call before (.mark call) (some (.markFailed now iteration.event))
        (before.goto (.iterating iteration (.markingFailed now
          (some (markFailed setup.options state.events now iteration.event call).2))))
  | processed {iteration : Iteration Worker}
      (phase : before.phase = .iterating iteration (.markingProcessed (some true))) :
      Act setup state call before (.markAnswered call) none
        (setup.finish state.now before iteration
          { before.result with processed := before.result.processed + 1 })
  | unmatched {iteration : Iteration Worker}
      (phase : before.phase = .iterating iteration (.markingProcessed (some false))) :
      Act setup state call before (.markAnswered call) none
        (before.goto
          (.iterating iteration (.markingFailed (setup.clock call state.now) none)))
  | failed {iteration : Iteration Worker} {now : Nat} {marked : Bool}
      (phase : before.phase = .iterating iteration (.markingFailed now (some marked))) :
      Act setup state call before (.markAnswered call) none
        (setup.finish state.now before iteration
          (if marked then { before.result with failed := before.result.failed + 1 }
          else before.result))
  | markProcessedFails {iteration : Iteration Worker} {reply : Option Bool}
      (phase : before.phase = .iterating iteration (.markingProcessed reply)) :
      Act setup state call before (.markFails call) none
        (before.goto
          (.iterating iteration (.markingFailed (setup.clock call state.now) none)))
  | markFailedFails {iteration : Iteration Worker} {now : Nat} {reply : Option Bool}
      (phase : before.phase = .iterating iteration (.markingFailed now reply)) :
      Act setup state call before (.markFails call) none (before.abandon iteration .rejected)
  | crashes (idle : ∀ iteration stage, before.phase ≠ .iterating iteration stage) :
      Act setup state call before (.crash call) none (before.goto .crashed)
  | crashesInside {iteration : Iteration Worker} {stage : Stage Handler}
      (phase : before.phase = .iterating iteration stage) :
      Act setup state call before (.crash call) none (before.abandon iteration .crashed)

/-- Every step: of nobody, of a call, or of a call whose route call resolves. -/
inductive Setup.Stepped (setup : Setup Worker Handler) (state : State Worker Handler) :
    Action Worker → State Worker Handler → Prop
  | advances (milliseconds : Nat) :
      Stepped setup state (.advance milliseconds) { state with now := state.now + milliseconds }
  | appends {id eventName payload : String} {occurredAt availableAt : Nat}
      {events : OutboxEvents Worker}
      (stored : append state.events id eventName payload occurredAt availableAt state.now =
        some events) :
      Stepped setup state (.append id eventName payload occurredAt availableAt)
        { state with
          events := events
          appended := id :: state.appended }
  | acts (call : Worker) {action : Action Worker} {statement : Option (Statement Worker)}
      {after : CallState Worker Handler}
      (act : setup.Act state call (state.calls call) action statement after) :
      Stepped setup state action ((setup.executeOption state call statement).update call after)
  | routes (call : Worker) {iteration : Iteration Worker} {resolved : List Handler}
      (phase : (state.calls call).phase =
        .iterating iteration (.publishing (.awaiting [] resolved))) :
      Stepped setup state (.routeSettles call)
        { state.update call ((state.calls call).goto
            (.iterating iteration (setup.afterRoute state call iteration))) with
          routed :=
            { worker := call
              id := iteration.event.id
              resolved := resolved } :: state.routed }

theorem Setup.Act.actor {setup : Setup Worker Handler} {state : State Worker Handler}
    {call : Worker} {before after : CallState Worker Handler} {action : Action Worker}
    {statement : Option (Statement Worker)}
    (act : setup.Act state call before action statement after) : action.actor = some call := by
  cases act <;> rfl

theorem Setup.stepped (setup : Setup Worker Handler) {state following : State Worker Handler}
    {action : Action Worker} (stepped : setup.step state action = some following) :
    setup.Stepped state action following := by
  cases action with
  | advance milliseconds =>
      cases stepped
      exact .advances milliseconds
  | append id eventName payload occurredAt availableAt =>
      obtain ⟨events, stored, rfl⟩ := Option.map_eq_some_iff.mp stepped
      exact .appends stored
  | start call =>
      simp only [step] at stepped
      split at stepped
      · cases stepped
        exact .acts call (.starts ‹_›)
      · cases stepped
  | claim call scan =>
      simp only [step] at stepped
      split at stepped
      · cases stepped
        exact .acts call (.claims scan ‹_›)
      · cases stepped
  | claimAnswered call =>
      simp only [step] at stepped
      split at stepped
      · cases stepped
        exact .acts call (.claimAnswered ‹_›)
      · cases stepped
  | claimFails call =>
      simp only [step] at stepped
      split at stepped
      · cases stepped
        exact .acts call (.claimFails ‹_›)
      · cases stepped
  | heartbeatTimer call =>
      simp only [step] at stepped
      split at stepped
      · split at stepped
        · cases stepped
          exact .acts call (.beats ‹_› ‹_›)
        · cases stepped
      · cases stepped
  | extendLock call =>
      simp only [step] at stepped
      split at stepped
      · split at stepped
        · cases stepped
          exact .acts call (.renews ‹_› ‹_›)
        · cases stepped
      · cases stepped
  | extendLockAnswered call =>
      simp only [step] at stepped
      split at stepped
      · split at stepped
        · cases stepped
          exact .acts call (.extendAnswered ‹_› ‹_›)
        · cases stepped
      · cases stepped
  | extendLockFails call =>
      simp only [step] at stepped
      split at stepped
      · split at stepped
        · cases stepped
        · cases stepped
          exact .acts call (.extendFails ‹_› ‹_›)
      · cases stepped
  | lateExtendLock call id date =>
      simp only [step] at stepped
      split at stepped
      · cases stepped
        exact .acts call (.extendsLate ‹_›)
      · cases stepped
  | timeout call =>
      simp only [step] at stepped
      split at stepped
      · split at stepped
        · split at stepped
          · cases stepped
            exact .acts call (.timesOut ‹_› ‹_› ‹_›)
          · cases stepped
        · cases stepped
      · cases stepped
  | handlerResolves call =>
      simp only [step] at stepped
      split at stepped
      · cases stepped
        exact .acts call (.resolves ‹_›)
      · cases stepped
  | handlerRejects call =>
      simp only [step] at stepped
      split at stepped
      · cases stepped
        exact .acts call (.rejects ‹_›)
      · cases stepped
  | routeSettles call =>
      simp only [step] at stepped
      split at stepped
      · cases stepped
        exact .routes call ‹_›
      · cases stepped
        exact .acts call (.routeRejects ‹_›)
      · cases stepped
  | mark call =>
      simp only [step] at stepped
      split at stepped
      · cases stepped
        exact .acts call (.marksProcessed ‹_›)
      · cases stepped
        exact .acts call (.marksFailed ‹_›)
      · cases stepped
  | markAnswered call =>
      simp only [step] at stepped
      split at stepped
      · cases stepped
        exact .acts call (.processed ‹_›)
      · cases stepped
        exact .acts call (.unmatched ‹_›)
      · cases stepped
        exact .acts call (.failed ‹_›)
      · cases stepped
  | markFails call =>
      simp only [step] at stepped
      split at stepped
      · cases stepped
        exact .acts call (.markProcessedFails ‹_›)
      · cases stepped
        exact .acts call (.markFailedFails ‹_›)
      · cases stepped
  | crash call =>
      simp only [step] at stepped
      split at stepped
      · cases stepped
      · cases stepped
      · cases stepped
      · cases stepped
        exact .acts call (.crashesInside ‹_›)
      · rename_i phase
        cases stepped
        refine .acts call (.crashes ?_)
        simp [phase]
      · rename_i phase
        cases stepped
        refine .acts call (.crashes ?_)
        simp [phase]

end BackendFoundation.Outbox
