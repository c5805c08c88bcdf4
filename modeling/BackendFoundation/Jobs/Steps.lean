/-
What one step of a delivery can do to the delivery and to the key.
-/

import BackendFoundation.Jobs.EmailProcessor

namespace BackendFoundation.Jobs

open Redis Redis.Slot

variable {Delivery : Type}

/-- The writes to the key. A failing command writes as the command does, or nothing. -/
inductive Setup.Writes (setup : Setup Delivery) (state : State Delivery)
    (delivery : Delivery) (phase : Phase) : Slot String → Prop
  | nothing : Writes setup state delivery phase state.key
  | acquire (acquiring : phase = .acquiring) :
      Writes setup state delivery phase
        (JobExecutionStore.acquire state.now state.key (setup.token delivery)
          setup.options.leaseTtlSeconds).1
  | complete (completing : phase = .completing) :
      Writes setup state delivery phase
        (JobExecutionStore.complete state.now state.key (setup.token delivery)
          setup.options.completedRetentionTtlSeconds).1
  | markAmbiguousSent {reason : String} (marking : phase = .marking reason) :
      Writes setup state delivery phase
        (JobExecutionStore.markAmbiguousSent state.now
          setup.options.completedRetentionTtlSeconds)
  | release {error : ProcessError} (releasing : phase = .releasing error) :
      Writes setup state delivery phase
        (JobExecutionStore.release state.now state.key (setup.token delivery))
  | extend :
      Writes setup state delivery phase
        (JobExecutionStore.extend state.now state.key (setup.token delivery)
          setup.options.leaseTtlSeconds).1

/-- What becomes of a delivery: the key it leaves behind, and its next phase. -/
inductive Setup.Turn (setup : Setup Delivery) (state : State Delivery) (delivery : Delivery)
    (before : DeliveryState) : Action Delivery → Slot String → DeliveryState → Prop
  | starts (phase : before.phase = .ready) :
      Turn setup state delivery before (.start delivery) state.key (before.goto .acquiring)
  | acquires (phase : before.phase = .acquiring) :
      Turn setup state delivery before (.command delivery)
        (JobExecutionStore.acquire state.now state.key (setup.token delivery)
          setup.options.leaseTtlSeconds).1
        (before.goto (.replied (JobExecutionStore.acquire state.now state.key
          (setup.token delivery) setup.options.leaseTtlSeconds).2))
  | completes {phase : Phase} (completing : before.phase = .completing)
      (following : phase = .resolved ∨ phase = .marking "complete-returned-false") :
      Turn setup state delivery before (.command delivery)
        (JobExecutionStore.complete state.now state.key (setup.token delivery)
          setup.options.completedRetentionTtlSeconds).1
        (before.goto phase)
  | marks {reason : String} (phase : before.phase = .marking reason) :
      Turn setup state delivery before (.command delivery)
        (JobExecutionStore.markAmbiguousSent state.now
          setup.options.completedRetentionTtlSeconds)
        (before.goto (.unrecoverable (setup.lost .afterSend reason).message))
  | releases {error : ProcessError} (phase : before.phase = .releasing error) :
      Turn setup state delivery before (.command delivery)
        (JobExecutionStore.release state.now state.key (setup.token delivery))
        (before.goto (.rejected error))
  | fails (applied : Bool) {key : Slot String} {failed : Phase}
      (pending : setup.afterError before.phase = some failed)
      (writes : setup.Writes state delivery before.phase key) :
      Turn setup state delivery before (.commandFails delivery applied) key
        (before.goto failed)
  | returns (phase : before.phase = .replied false) :
      Turn setup state delivery before (.proceed delivery) state.key (before.goto .resolved)
  | proceeds {phase : Phase}
      (local_ : before.phase = .replied true ∨ before.phase = .rendering)
      (following : phase = .rendering ∨ phase = setup.beforeSend before.ownershipLost) :
      Turn setup state delivery before (.proceed delivery) state.key (before.goto phase)
  | throws {action : Action Delivery} {error : ProcessError}
      (phase : before.phase = .rendering ∨ before.phase = .sending) :
      Turn setup state delivery before action state.key (before.goto (.releasing error))
  | beats (active : before.phase.heartbeatActive = true) :
      Turn setup state delivery before (.heartbeatTimer delivery) state.key
        { before with heartbeatInProgress := true }
  | renews {action : Action Delivery} {key : Slot String} {ownershipLost : Bool}
      (writes : key = state.key ∨ key = (JobExecutionStore.extend state.now state.key
        (setup.token delivery) setup.options.leaseTtlSeconds).1) :
      Turn setup state delivery before action key
        { before with
          ownershipLost := ownershipLost
          heartbeatInProgress := false }
  | crashes (running : before.phase.ended = false) :
      Turn setup state delivery before (.crash delivery) state.key (before.goto .crashed)

theorem Setup.Turn.writes {setup : Setup Delivery} {state : State Delivery}
    {delivery : Delivery} {before after : DeliveryState} {action : Action Delivery}
    {key : Slot String} (turn : setup.Turn state delivery before action key after) :
    setup.Writes state delivery before.phase key := by
  cases turn with
  | acquires phase => exact .acquire phase
  | completes phase => exact .complete phase
  | marks phase => exact .markAmbiguousSent phase
  | releases phase => exact .release phase
  | fails _ _ writes => exact writes
  | renews writes =>
      rcases writes with rfl | rfl
      · exact .nothing
      · exact .extend
  | starts | returns | proceeds | throws | beats | crashes => exact .nothing

theorem Setup.answer_completing (setup : Setup Delivery) (delivery : Delivery) (now : Nat)
    (key : Slot String) {before : DeliveryState} (completing : before.phase = .completing) :
    ∃ phase, (phase = .resolved ∨ phase = .marking "complete-returned-false") ∧
      setup.answer delivery now key before =
        ((JobExecutionStore.complete now key (setup.token delivery)
          setup.options.completedRetentionTtlSeconds).1, before.goto phase) := by
  simp only [answer, completing]
  cases JobExecutionStore.complete now key (setup.token delivery)
      setup.options.completedRetentionTtlSeconds with
  | mk written done =>
      cases done with
      | true => exact ⟨.resolved, .inl rfl, rfl⟩
      | false => exact ⟨.marking "complete-returned-false", .inr rfl, rfl⟩

theorem Setup.writes_answer (setup : Setup Delivery) (state : State Delivery)
    (delivery : Delivery) (before : DeliveryState) :
    setup.Writes state delivery before.phase
      (setup.answer delivery state.now state.key before).1 := by
  cases phase : before.phase with
  | acquiring =>
      simp only [answer, phase]
      exact .acquire rfl
  | completing =>
      obtain ⟨_, _, answers⟩ := setup.answer_completing delivery state.now state.key phase
      rw [answers]
      exact .complete rfl
  | marking reason =>
      simp only [answer, phase]
      exact .markAmbiguousSent rfl
  | releasing error =>
      simp only [answer, phase]
      exact .release rfl
  | ready | replied | rendering | sending | resolved | rejected | unrecoverable | crashed =>
      simp only [answer, phase]
      exact .nothing

variable [DecidableEq Delivery]

@[simp] theorem State.update_self (state : State Delivery) (delivery : Delivery)
    (after : DeliveryState) : (state.update delivery after).deliveries delivery = after :=
  Function.update_self _ _ _

theorem State.update_other (state : State Delivery) {delivery other : Delivery}
    (after : DeliveryState) (different : other ≠ delivery) :
    (state.update delivery after).deliveries other = state.deliveries other :=
  Function.update_of_ne different _ _

/-- Everything one step can do. -/
inductive Setup.Move (setup : Setup Delivery) (state : State Delivery) :
    Action Delivery → State Delivery → Prop
  | advances (milliseconds : Nat) :
      Move setup state (.advance milliseconds) { state with now := state.now + milliseconds }
  | acts (delivery : Delivery) {action : Action Delivery} {key : Slot String}
      {after : DeliveryState}
      (turn : setup.Turn state delivery (state.deliveries delivery) action key after) :
      Move setup state action { state.update delivery after with key := key }
  | sends (delivery : Delivery) {phase : Phase}
      (sending : (state.deliveries delivery).phase = .sending)
      (following : phase = .completing ∨ phase = .marking "ownership-lost-before-complete") :
      Move setup state (.sendResolves delivery)
        { state.update delivery ((state.deliveries delivery).goto phase) with
          sent := (delivery, setup.mailInput) :: state.sent }

theorem Setup.moved (setup : Setup Delivery) {state following : State Delivery}
    {action : Action Delivery} (stepped : setup.step state action = some following) :
    setup.Move state action following := by
  cases action with
  | advance milliseconds =>
      cases stepped
      exact .advances milliseconds
  | start delivery =>
      simp only [step] at stepped
      split at stepped
      · cases stepped
        exact .acts delivery (.starts ‹_›)
      · cases stepped
  | command delivery =>
      simp only [step] at stepped
      cases phase : (state.deliveries delivery).phase with
      | acquiring =>
          simp only [phase, afterError, answer] at stepped
          cases stepped
          exact .acts delivery (.acquires phase)
      | completing =>
          simp only [phase, afterError] at stepped
          obtain ⟨phase', following, answers⟩ :=
            setup.answer_completing delivery state.now state.key phase
          rw [answers] at stepped
          cases stepped
          exact .acts delivery (.completes phase following)
      | marking reason =>
          simp only [phase, afterError, answer] at stepped
          cases stepped
          exact .acts delivery (.marks phase)
      | releasing error =>
          simp only [phase, afterError, answer] at stepped
          cases stepped
          exact .acts delivery (.releases phase)
      | _ =>
          simp only [phase, afterError] at stepped
          cases stepped
  | commandFails delivery applied =>
      simp only [step] at stepped
      split at stepped
      · cases stepped
      · rename_i failed pending
        cases stepped
        refine .acts delivery (.fails applied pending ?_)
        split
        · exact setup.writes_answer state delivery _
        · exact .nothing
  | proceed delivery =>
      obtain ⟨after, proceeds, rfl⟩ := Option.map_eq_some_iff.mp stepped
      simp only [local?] at proceeds
      split at proceeds
      · cases proceeds
        exact .acts delivery (.returns ‹_›)
      · rename_i phase
        split at proceeds
        · cases proceeds
          exact .acts delivery (.proceeds (.inl phase) (.inl rfl))
        · cases proceeds
          exact .acts delivery (.proceeds (.inl phase) (.inr rfl))
      · cases proceeds
        exact .acts delivery (.proceeds (.inr ‹_›) (.inr rfl))
      · cases proceeds
  | renderFails delivery =>
      simp only [step] at stepped
      split at stepped
      · cases stepped
        exact .acts delivery (.throws (.inl ‹_›))
      · cases stepped
  | sendResolves delivery =>
      simp only [step] at stepped
      split at stepped
      · rename_i sending
        cases stepped
        refine .sends delivery sending ?_
        split
        · exact .inr rfl
        · exact .inl rfl
      · cases stepped
  | sendRejects delivery =>
      simp only [step] at stepped
      split at stepped
      · cases stepped
        exact .acts delivery (.throws (.inr ‹_›))
      · cases stepped
  | heartbeatTimer delivery =>
      simp only [step] at stepped
      split at stepped
      · rename_i due
        cases stepped
        simp only [Bool.and_eq_true] at due
        exact .acts delivery (.beats due.1.1)
      · cases stepped
  | extend delivery =>
      simp only [step] at stepped
      split at stepped
      · cases stepped
        exact .acts delivery (.renews (.inr rfl))
      · cases stepped
  | extendFails delivery applied =>
      simp only [step] at stepped
      split at stepped
      · cases stepped
        refine .acts delivery (.renews ?_)
        split
        · exact .inr rfl
        · exact .inl rfl
      · cases stepped
  | crash delivery =>
      simp only [step] at stepped
      split at stepped
      · cases stepped
      · cases stepped
        exact .acts delivery (.crashes (eq_false_of_ne_true ‹_›))

end BackendFoundation.Jobs
