/-
What one step does to the lock and to the call that takes it, and what every reachable
state satisfies.
-/

import BackendFoundation.Locks.RunWithLock

namespace BackendFoundation.Locks

open Redis Redis.Slot

variable {Call Value : Type} [DecidableEq Call]

/-- The lock that a call leaves behind, and what becomes of the call. -/
inductive Setup.Turn (setup : Setup Call) (lock : Lock Call) (call : Call)
    (before : CallState Value) : Action Call Value → Lock Call → CallState Value → Prop
  | fails (pending : before.phase = .ready ∨ ∃ acquired, before.phase = .answered acquired) :
      Turn setup lock call before (.acquireFails call) lock (before.goto .failed)
  | skips (phase : before.phase = .answered false) :
      Turn setup lock call before (.proceed call) lock (before.goto .skipped)
  | holds (phase : before.phase = .answered true) (entry : setup.entry call = .acquire) :
      Turn setup lock call before (.proceed call) lock (before.goto .held)
  | starts (phase : before.phase = .answered true)
      (entry : setup.entry call = .runWithLock) :
      Turn setup lock call before (.proceed call) lock
        { before with
          phase := .running
          nextHeartbeatAt := lock.now + heartbeatIntervalMs (setup.ttlMs call)
          handlerStarts := lock.now :: before.handlerStarts }
  | beats {heartbeat : Heartbeat} (phase : before.phase = .running)
      (due : before.nextHeartbeatAt ≤ lock.now) :
      Turn setup lock call before (.heartbeatTimer call) lock
        { before with
          nextHeartbeatAt := lock.now + heartbeatIntervalMs (setup.ttlMs call)
          heartbeat := heartbeat }
  | extends_ (pending : before.heartbeat = .sent) :
      Turn setup lock call before (.extend call)
        (lock.extend setup.token call (setup.ttlMs call)).1
        { before with
          heartbeat := .answered (lock.extend setup.token call (setup.ttlMs call)).2 }
  | learns {extended : Bool} (heartbeat : before.heartbeat = .answered extended) :
      Turn setup lock call before (.extendAnswered call) lock
        { before with heartbeat := .idle, lockLost := before.lockLost || !extended }
  | misses (pending : before.heartbeat ≠ .idle) :
      Turn setup lock call before (.extendFails call) lock
        { before with heartbeat := .idle, lockLost := true }
  | resolves {result : Value} (phase : before.phase = .running) :
      Turn setup lock call before (.handlerResolves call result) lock
        (before.goto (.releasing
          (if before.lockLost then .error setup.lockLost else .ok result)))
  | rejects (phase : before.phase = .running) :
      Turn setup lock call before (.handlerRejects call) lock
        (before.goto (.releasing (.error .handlerError)))
  | releases {outcome : Except RunError Value} (phase : before.phase = .releasing outcome) :
      Turn setup lock call before (.release call) (lock.release setup.token call)
        (before.goto (.released outcome))
  | returns {outcome : Except RunError Value} (phase : before.phase = .released outcome) :
      Turn setup lock call before (.releaseAnswered call) lock
        (before.goto (.returned outcome))
  | throws {outcome : Except RunError Value}
      (phase : before.phase = .releasing outcome ∨ before.phase = .released outcome) :
      Turn setup lock call before (.releaseFails call) lock
        (before.goto (.returned (.error .redisError)))

inductive Setup.Moves (setup : Setup Call) (state : State Call Value) :
    Action Call Value → State Call Value → Prop
  | advances (milliseconds : Nat) :
      Moves setup state (.advance milliseconds)
        { state with lock := state.lock.advance milliseconds }
  | acquires {call : Call} (phase : (state.calls call).phase = .ready) :
      Moves setup state (.acquire call) (setup.acquire state call)
  | acts {action : Action Call Value} {call : Call} {lock : Lock Call}
      {after : CallState Value}
      (turn : setup.Turn state.lock call (state.calls call) action lock after) :
      Moves setup state action { state.update call after with lock := lock }
  | extendsHandle {call : Call} {ttlMs : Nat} (phase : (state.calls call).phase = .held) :
      Moves setup state (.extendHandle call ttlMs)
        { state with lock := (state.lock.extend setup.token call ttlMs).1 }
  | releasesHandle {call : Call} (phase : (state.calls call).phase = .held) :
      Moves setup state (.releaseHandle call)
        { state with lock := state.lock.release setup.token call }

theorem Setup.turn_proceed {setup : Setup Call} {lock : Lock Call} {call : Call}
    {before after : CallState Value}
    (proceeded : setup.proceed call lock.now before = some after) :
    setup.Turn lock call before (.proceed call) lock after := by
  unfold proceed at proceeded
  split at proceeded
  · rename_i phase
    cases proceeded
    exact .skips phase
  · rename_i phase entry
    cases proceeded
    exact .holds phase entry
  · rename_i phase entry
    cases proceeded
    exact .starts phase entry
  · cases proceeded

theorem Setup.turn_heartbeatTimer {setup : Setup Call} {lock : Lock Call} {call : Call}
    {before after : CallState Value}
    (fired : setup.heartbeatTimer call lock.now before = some after) :
    setup.Turn lock call before (.heartbeatTimer call) lock after := by
  unfold heartbeatTimer at fired
  split at fired
  · rename_i phase
    split at fired
    · rename_i due
      cases fired
      exact .beats phase due
    · cases fired
  · cases fired

theorem Setup.turn_extendAnswered {setup : Setup Call} {lock : Lock Call} {call : Call}
    {before after : CallState Value} (answered : extendAnswered before = some after) :
    setup.Turn lock call before (.extendAnswered call) lock after := by
  unfold extendAnswered at answered
  split at answered
  · rename_i extended heartbeat
    cases answered
    exact .learns heartbeat
  · cases answered

theorem Setup.turn_extendFails {setup : Setup Call} {lock : Lock Call} {call : Call}
    {before after : CallState Value} (failed : extendFails before = some after) :
    setup.Turn lock call before (.extendFails call) lock after := by
  unfold extendFails at failed
  split at failed
  · cases failed
  · rename_i pending
    cases failed
    exact .misses pending

omit [DecidableEq Call] in
theorem Setup.handlerSettles_running {setup : Setup Call} {before after : CallState Value}
    {result : Except RunError Value} (settled : setup.handlerSettles result before = some after) :
    before.phase = .running := by
  unfold handlerSettles at settled
  split at settled
  · assumption
  · cases settled

theorem Setup.turn_handlerResolves {setup : Setup Call} {lock : Lock Call} {call : Call}
    {before after : CallState Value} {result : Value}
    (settled : setup.handlerSettles (.ok result) before = some after) :
    setup.Turn lock call before (.handlerResolves call result) lock after := by
  have phase := handlerSettles_running settled
  simp only [handlerSettles, phase] at settled
  cases settled
  exact .resolves phase

theorem Setup.turn_handlerRejects {setup : Setup Call} {lock : Lock Call} {call : Call}
    {before after : CallState Value}
    (settled : setup.handlerSettles (.error .handlerError) before = some after) :
    setup.Turn lock call before (.handlerRejects call) lock after := by
  have phase := handlerSettles_running settled
  simp only [handlerSettles, phase] at settled
  cases settled
  exact .rejects phase

/-- The inversion of a step. -/
theorem Setup.moved {setup : Setup Call} {state following : State Call Value}
    {action : Action Call Value} (stepped : setup.step state action = some following) :
    setup.Moves state action following := by
  cases action with
  | advance milliseconds =>
      cases stepped
      exact .advances milliseconds
  | acquire call =>
      simp only [step] at stepped
      split at stepped
      · rename_i phase
        cases stepped
        exact .acquires phase
      · cases stepped
  | acquireFails call =>
      simp only [step] at stepped
      split at stepped
      · rename_i phase
        cases stepped
        exact .acts (.fails (.inl phase))
      · rename_i acquired phase
        cases stepped
        exact .acts (.fails (.inr ⟨acquired, phase⟩))
      · cases stepped
  | proceed call =>
      obtain ⟨after, proceeded, rfl⟩ := Option.map_eq_some_iff.mp stepped
      exact .acts (turn_proceed proceeded)
  | heartbeatTimer call =>
      obtain ⟨after, fired, rfl⟩ := Option.map_eq_some_iff.mp stepped
      exact .acts (turn_heartbeatTimer fired)
  | extend call =>
      simp only [step] at stepped
      split at stepped
      · rename_i heartbeat
        cases stepped
        exact .acts (.extends_ heartbeat)
      · cases stepped
  | extendAnswered call =>
      obtain ⟨after, answered, rfl⟩ := Option.map_eq_some_iff.mp stepped
      exact .acts (turn_extendAnswered answered)
  | extendFails call =>
      obtain ⟨after, failed, rfl⟩ := Option.map_eq_some_iff.mp stepped
      exact .acts (turn_extendFails failed)
  | handlerResolves call result =>
      obtain ⟨after, settled, rfl⟩ := Option.map_eq_some_iff.mp stepped
      exact .acts (turn_handlerResolves settled)
  | handlerRejects call =>
      obtain ⟨after, settled, rfl⟩ := Option.map_eq_some_iff.mp stepped
      exact .acts (turn_handlerRejects settled)
  | release call =>
      simp only [step] at stepped
      split at stepped
      · rename_i outcome phase
        cases stepped
        exact .acts (.releases phase)
      · cases stepped
  | releaseAnswered call =>
      simp only [step] at stepped
      split at stepped
      · rename_i outcome phase
        cases stepped
        exact .acts (.returns phase)
      · cases stepped
  | releaseFails call =>
      simp only [step] at stepped
      split at stepped
      · rename_i outcome phase
        cases stepped
        exact .acts (.throws (.inl phase))
      · rename_i outcome phase
        cases stepped
        exact .acts (.throws (.inr phase))
      · cases stepped
  | extendHandle call ttlMs =>
      simp only [step] at stepped
      split at stepped
      · rename_i phase
        split at stepped
        · cases stepped
          exact .extendsHandle phase
        · cases stepped
      · cases stepped
  | releaseHandle call =>
      simp only [step] at stepped
      split at stepped
      · rename_i phase
        cases stepped
        exact .releasesHandle phase
      · cases stepped

theorem Setup.Turn.served {setup : Setup Call} {lock after : Lock Call} {call : Call}
    {before next : CallState Value} {action : Action Call Value}
    (turn : setup.Turn lock call before action after next) :
    lock.Served setup.token call after := by
  cases turn with
  | extends_ => exact .extend _
  | releases => exact .release
  | fails | skips | holds | starts | beats | learns | misses | resolves | rejects | returns
  | throws => exact .nothing

theorem Setup.sound_of_reachable {setup : Setup Call} {state : State Call Value}
    {allowed : State Call Value → Action Call Value → Prop}
    (reached : setup.system.Reachable allowed state) : state.lock.Sound setup.token := by
  apply reached.invariant
  · intro initial begun
    obtain ⟨⟨now, key, deadline⟩, calls, overtaken⟩ := initial
    obtain ⟨rfl, rfl, _, _⟩ := begun
    exact .unheld now
  · intro state action following sound _ stepped
    cases setup.moved stepped with
    | advances milliseconds => exact sound.advance milliseconds
    | acquires phase => exact sound.acquire
    | acts turn => exact turn.served.sound setup.token_injective sound
    | extendsHandle => exact sound.extend setup.token_injective
    | releasesHandle => exact sound.release setup.token_injective

/-- The handler has been called. -/
def Phase.started : Phase Value → Bool
  | .running | .releasing _ | .released _ | .returned _ => true
  | .ready | .answered _ | .failed | .skipped | .held => false

/-- Until runWithLock has its lock it has no heartbeat, and it calls the handler once. -/
structure CallState.Coherent (call : CallState Value) : Prop where
  unlocked : (call.phase = .ready ∨ ∃ acquired, call.phase = .answered acquired) →
    call.heartbeat = .idle ∧ call.lockLost = false
  unstarted : call.phase.started = false → call.handlerStarts = []
  once : call.phase.started = true → ∃ instant, call.handlerStarts = [instant]

theorem CallState.Coherent.ended {call : CallState Value} {phase : Phase Value}
    (coherent : call.Coherent) (same : phase.started = call.phase.started)
    (later : phase ≠ .ready) (known : ∀ acquired, phase ≠ .answered acquired) :
    (call.goto phase).Coherent where
  unlocked := by
    intro either
    rcases either with ready | ⟨acquired, answered⟩
    · exact absurd ready later
    · exact absurd answered (known acquired)
  unstarted := fun unstarted => coherent.unstarted (same.symm.trans unstarted)
  once := fun started => coherent.once (same.symm.trans started)

/-- What a heartbeat does is seen only by a call that has its lock. -/
theorem CallState.Coherent.beaten {call after : CallState Value} (coherent : call.Coherent)
    (locked : call.heartbeat ≠ .idle ∨ call.phase = .running)
    (phase : after.phase = call.phase)
    (starts : after.handlerStarts = call.handlerStarts) : after.Coherent where
  unlocked := by
    rw [phase]
    intro unlocked
    rcases locked with pending | running
    · exact absurd (coherent.unlocked unlocked).1 pending
    · rw [running] at unlocked
      rcases unlocked with impossible | ⟨_, impossible⟩ <;> cases impossible
  unstarted := by rw [phase, starts]; exact coherent.unstarted
  once := by rw [phase, starts]; exact coherent.once

theorem Setup.Turn.coherent {setup : Setup Call} {lock lock' : Lock Call} {call : Call}
    {before after : CallState Value} {action : Action Call Value}
    (turn : setup.Turn lock call before action lock' after) (coherent : before.Coherent) :
    after.Coherent := by
  cases turn with
  | fails pending =>
      have unstarted : before.phase.started = false := by
        rcases pending with phase | ⟨_, phase⟩ <;> rw [phase] <;> rfl
      exact coherent.ended unstarted.symm (by nofun) (by nofun)
  | skips phase | holds phase =>
      exact coherent.ended (by rw [phase]; rfl) (by nofun) (by nofun)
  | starts phase =>
      have unstarted : before.handlerStarts = [] := coherent.unstarted (by rw [phase]; rfl)
      refine ⟨?_, (fun started => by cases started), fun _ => ⟨lock.now, ?_⟩⟩
      · intro either
        rcases either with ready | ⟨_, answered⟩
        · cases ready
        · cases answered
      · rw [unstarted]
  | beats phase => exact coherent.beaten (.inr phase) rfl rfl
  | misses pending => exact coherent.beaten (.inl pending) rfl rfl
  | extends_ heartbeat | learns heartbeat =>
      have pending : before.heartbeat ≠ .idle := by
        rw [heartbeat]
        exact Heartbeat.noConfusion
      exact coherent.beaten (.inl pending) rfl rfl
  | resolves phase | rejects phase | releases phase | returns phase =>
      exact coherent.ended (by rw [phase]; rfl) (by nofun) (by nofun)
  | throws phase =>
      have started : before.phase.started = true := by
        rcases phase with phase | phase <;> rw [phase] <;> rfl
      exact coherent.ended started.symm (by nofun) (by nofun)

@[simp] theorem State.update_self (state : State Call Value) (call : Call)
    (after : CallState Value) : (state.update call after).calls call = after :=
  Function.update_self _ _ _

theorem State.update_other (state : State Call Value) {call other : Call}
    (after : CallState Value) (different : other ≠ call) :
    (state.update call after).calls other = state.calls other :=
  Function.update_of_ne different _ _

/-- What holds of every call is kept where the one that moves keeps it. -/
theorem State.update_all {property : Call → CallState Value → Prop}
    {state : State Call Value} (all : ∀ other, property other (state.calls other))
    {call : Call} {after : CallState Value} (moved : property call after) (other : Call) :
    property other ((state.update call after).calls other) := by
  by_cases same : other = call
  · subst same
    rw [State.update_self]
    exact moved
  · rw [State.update_other _ _ same]
    exact all other

theorem Setup.coherent_of_reachable {setup : Setup Call} {state : State Call Value}
    {allowed : State Call Value → Action Call Value → Prop}
    (reached : setup.system.Reachable allowed state) (call : Call) :
    (state.calls call).Coherent := by
  revert call
  apply reached.invariant
  · intro state initial call
    obtain ⟨_, _, calls, _⟩ := initial
    rw [calls]
    exact ⟨fun _ => ⟨rfl, rfl⟩, fun _ => rfl, fun started => by cases started⟩
  · intro state action following coherent _ stepped
    cases setup.moved stepped with
    | advances | extendsHandle | releasesHandle => exact coherent
    | @acquires call phase =>
        refine State.update_all coherent ⟨fun _ => ?_, fun _ => ?_, fun started => ?_⟩
        · exact (coherent call).unlocked (.inl phase)
        · exact (coherent call).unstarted (by rw [phase]; rfl)
        · cases started
    | acts turn => exact State.update_all coherent (turn.coherent (coherent _))

end BackendFoundation.Locks
