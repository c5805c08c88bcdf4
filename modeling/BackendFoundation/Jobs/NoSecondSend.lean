/-
After mail.send has resolved, the end of a process call is meant to block every
later send: the key is left with a terminal marker, and BullMQ is told not to retry.

A marker outlasts everything that deliveries do to the key, since the tokens they
compare with are no markers. What can go wrong is the way to the marker.
-/

import BackendFoundation.Jobs.Steps

namespace BackendFoundation.Jobs

open Transition Redis Redis.Slot

variable {Delivery : Type}

/-- A terminal marker that is kept until the deadline at least. -/
def State.Marked (state : State Delivery) (deadline : Nat) : Prop :=
  ∃ value expiry, (value = JobExecutionStore.completed ∨
    value = JobExecutionStore.sentAmbiguous) ∧ deadline ≤ expiry ∧
      state.key = some { value := value, expireAt := some expiry }

/-- The phases of a delivery that has not taken the key. -/
def Phase.turnedAway : Phase → Bool
  | .ready | .acquiring | .replied false | .resolved | .rejected _ | .crashed => true
  | _ => false

/-- A delivery that has not taken the key will not take it before the deadline. -/
def State.Blocks (delivery : Delivery) (start deadline : Nat) (state : State Delivery) : Prop :=
  start ≤ state.now ∧ (state.now ≤ deadline → state.Marked deadline ∧
    (state.deliveries delivery).phase.turnedAway = true)

/-- The calls of complete and markAmbiguousSent that fail in a step. The heartbeats are
left out, so that any number of them may fail. -/
def Setup.failures (setup : Setup Delivery) (state : State Delivery) :
    Action Delivery → List Delivery
  | .command delivery =>
      match (state.deliveries delivery).phase with
      | .completing =>
          if (JobExecutionStore.complete state.now state.key (setup.token delivery)
            setup.options.completedRetentionTtlSeconds).2 then [] else [delivery]
      | _ => []
  | .commandFails delivery _ =>
      match (state.deliveries delivery).phase with
      | .completing | .marking _ => [delivery]
      | _ => []
  | _ => []

def Action.isCrash : Action Delivery → Bool
  | .crash _ => true
  | _ => false

def NoCrash (_ : State Delivery) (action : Action Delivery) : Prop :=
  action.isCrash = false

/-- No crash; complete does not reject, and the marker of a delivery that knew of its lost
ownership when the mail was sent does not reject without being written. -/
def Answered (state : State Delivery) : Action Delivery → Prop
  | .crash _ => False
  | .commandFails delivery applied =>
      (state.deliveries delivery).phase ≠ .completing ∧
        ((state.deliveries delivery).phase = .marking "ownership-lost-before-complete" →
          applied = true)
  | _ => True

section Store

variable {setup : Setup Delivery} {state : State Delivery} {delivery : Delivery}
  {phase : Phase} {key : Slot String} {deadline : Nat}

theorem Setup.marker_ne_token {value : String} (setup : Setup Delivery) (delivery : Delivery)
    (marker : value = JobExecutionStore.completed ∨ value = JobExecutionStore.sentAmbiguous) :
    value ≠ setup.token delivery := by
  obtain ⟨notCompleted, notAmbiguous⟩ := setup.token_ne_marker delivery
  cases marker with
  | inl completed => exact completed ▸ notCompleted.symm
  | inr ambiguous => exact ambiguous ▸ notAmbiguous.symm

theorem State.Marked.get {state : State Delivery} (marked : state.Marked deadline)
    (early : state.now ≤ deadline) :
    ∃ value, (value = JobExecutionStore.completed ∨ value = JobExecutionStore.sentAmbiguous) ∧
      Slot.get state.now state.key = some value := by
  obtain ⟨value, expiry, marker, later, stored⟩ := marked
  have alive : live state.now state.key =
      some { value := value, expireAt := some expiry } := by
    rw [stored]
    exact live_some_iff.mpr ⟨rfl, aliveAt_of_le rfl (Nat.le_trans early later)⟩
  exact ⟨value, marker, get_eq_some_iff.mpr ⟨_, alive, rfl⟩⟩

/-- No delivery replaces a marker but by another marker. -/
theorem Setup.Writes.keepsMarker (writes : setup.Writes state delivery phase key)
    (marked : state.Marked deadline) (early : state.now ≤ deadline)
    (retained : deadline ≤ state.now + setup.options.completedRetentionTtlSeconds * 1000) :
    ∃ value expiry, (value = JobExecutionStore.completed ∨
      value = JobExecutionStore.sentAmbiguous) ∧ deadline ≤ expiry ∧
        key = some { value := value, expireAt := some expiry } := by
  obtain ⟨value, marker, found⟩ := marked.get early
  have foreign := setup.marker_ne_token delivery marker
  cases writes with
  | nothing => exact marked
  | acquire =>
      rw [JobExecutionStore.acquire_of_get found]
      exact marked
  | complete =>
      rw [JobExecutionStore.complete_of_get found foreign]
      exact marked
  | markAmbiguousSent =>
      exact ⟨JobExecutionStore.sentAmbiguous, _, .inr rfl, retained, rfl⟩
  | release =>
      rw [JobExecutionStore.release_of_get found foreign]
      exact marked
  | extend =>
      rw [JobExecutionStore.extend_of_get found foreign]
      exact marked

end Store

section Blocking

variable {setup : Setup Delivery} {state following : State Delivery}
  {delivery : Delivery} {action : Action Delivery} {start deadline : Nat}

/-- While the key is marked, a turned away delivery stays so. -/
theorem Setup.Turn.turnedAway {actor : Delivery} {key : Slot String} {after : DeliveryState}
    (turn : setup.Turn state actor (state.deliveries actor) action key after)
    (marked : state.Marked deadline) (early : state.now ≤ deadline)
    (away : (state.deliveries actor).phase.turnedAway = true) :
    after.phase.turnedAway = true := by
  cases turn with
  | starts | crashes | returns | releases => rfl
  | acquires =>
      obtain ⟨value, _, found⟩ := marked.get early
      rw [JobExecutionStore.acquire_refused_of_get found]
      rfl
  | completes phase | marks phase =>
      rw [phase] at away
      cases away
  | fails _ pending =>
      cases phase : (state.deliveries actor).phase <;> rw [phase] at pending away <;>
        cases pending <;> cases away
      rfl
  | proceeds phase =>
      rcases phase with phase | phase <;> rw [phase] at away <;> cases away
  | throws phase =>
      rcases phase with phase | phase <;> rw [phase] at away <;> cases away
  | beats | renews => exact away

variable [DecidableEq Delivery]

theorem State.Blocks.step (blocks : state.Blocks delivery start deadline)
    (retained : deadline ≤ start + setup.options.completedRetentionTtlSeconds * 1000)
    (stepped : setup.step state action = some following) :
    following.Blocks delivery start deadline := by
  obtain ⟨after, blocked⟩ := blocks
  cases setup.moved stepped with
  | advances milliseconds =>
      constructor
      · exact Nat.le_add_right_of_le after
      · intro early
        have before : state.now ≤ deadline := Nat.le_trans (Nat.le_add_right _ _) early
        exact blocked before
  | acts actor turn =>
      refine ⟨after, fun early => ?_⟩
      obtain ⟨marked, away⟩ := blocked early
      constructor
      · apply turn.writes.keepsMarker marked early
        omega
      · by_cases same : delivery = actor
        · subst same
          simp only [State.update_self]
          exact turn.turnedAway marked early away
        · change ((state.update actor _).deliveries delivery).phase.turnedAway = true
          rw [State.update_other _ _ same]
          exact away
  | sends actor sending =>
      refine ⟨after, fun early => ?_⟩
      obtain ⟨marked, away⟩ := blocked early
      refine ⟨marked, ?_⟩
      have different : delivery ≠ actor := by
        intro same
        rw [same, sending] at away
        cases away
      change ((state.update actor _).deliveries delivery).phase.turnedAway = true
      rw [State.update_other _ _ different]
      exact away

/-- A marker turns away every delivery that starts before the deadline. -/
theorem State.Marked.blocks {finish : State Delivery} {actions : List (Action Delivery)}
    (marked : state.Marked deadline)
    (retained : deadline ≤ state.now + setup.options.completedRetentionTtlSeconds * 1000)
    (run : setup.system.Run anyAction state actions finish)
    (ready : (state.deliveries delivery).phase = .ready) (early : finish.now ≤ deadline) :
    (finish.deliveries delivery).phase.turnedAway = true := by
  have blocks : finish.Blocks delivery state.now deadline := by
    apply run.preserves
    · intro before action after blocks _ stepped
      exact blocks.step retained stepped
    · refine ⟨Nat.le_refl _, fun _ => ⟨marked, ?_⟩⟩
      rw [ready]
      rfl
  exact (blocks.2 early).2

end Blocking

section AfterSend

variable [DecidableEq Delivery] {setup : Setup Delivery} {state following : State Delivery}
  {delivery : Delivery} {action : Action Delivery}

/-- What is left to do after the send, with the failures so far. -/
def Phase.Committed (phase : Phase) (failures : Nat) : Prop :=
  phase = .completing ∨ phase = .marking "ownership-lost-before-complete" ∨
    (phase = .marking "complete-returned-false" ∧ 1 ≤ failures) ∨ phase.ended = true

theorem Phase.Committed.mono {phase : Phase} {failures more : Nat}
    (committed : phase.Committed failures) (grows : failures ≤ more) : phase.Committed more := by
  rcases committed with completing | lost | ⟨refused, failed⟩ | ended
  · exact .inl completing
  · exact .inr (.inl lost)
  · exact .inr (.inr (.inl ⟨refused, Nat.le_trans failed grows⟩))
  · exact .inr (.inr (.inr ended))

omit [DecidableEq Delivery] in
theorem Phase.Committed.ne_of_sending {failures : Nat} {actor : Delivery}
    (committed : (state.deliveries delivery).phase.Committed failures)
    (sending : (state.deliveries actor).phase = .sending) : delivery ≠ actor := by
  intro same
  subst same
  rw [sending] at committed
  simp [Phase.Committed, Phase.ended] at committed

/-- The reply of complete decides between the two ways on. -/
theorem Setup.step_completing (completing : (state.deliveries delivery).phase = .completing)
    (stepped : setup.step state (.command delivery) = some following) :
    (setup.failures state (.command delivery) = [] ∧
        (following.deliveries delivery).phase = .resolved ∧
        following.key = setEx state.now JobExecutionStore.completed
          setup.options.completedRetentionTtlSeconds) ∨
      (setup.failures state (.command delivery) = [delivery] ∧
        (following.deliveries delivery).phase = .marking "complete-returned-false") := by
  simp only [Setup.step, completing, Setup.afterError, Setup.answer] at stepped
  simp only [failures, completing]
  unfold JobExecutionStore.complete at stepped ⊢
  cases held : RedisService.holds state.now state.key (setup.token delivery) with
  | true =>
      simp only [held, if_true] at stepped
      cases stepped
      exact .inl ⟨rfl, by simp [DeliveryState.goto], rfl⟩
  | false =>
      simp only [held, Bool.false_eq_true, if_false] at stepped
      cases stepped
      exact .inr ⟨rfl, by simp [DeliveryState.goto]⟩

/-- Only the reply to the marker is lost. -/
theorem Setup.step_markingFails {reason : String}
    (marking : (state.deliveries delivery).phase = .marking reason)
    (stepped : setup.step state (.commandFails delivery true) = some following) :
    following.key = setEx state.now JobExecutionStore.sentAmbiguous
        setup.options.completedRetentionTtlSeconds ∧
      (following.deliveries delivery).phase =
        .unrecoverable (setup.lost .afterSend reason).message := by
  simp only [Setup.step, marking, Setup.afterError, Setup.answer] at stepped
  cases stepped
  exact ⟨rfl, by simp [DeliveryState.goto]⟩

theorem Setup.committed_of_sendResolves
    (stepped : setup.step state (.sendResolves delivery) = some following) :
    (following.deliveries delivery).phase.Committed 0 := by
  simp only [Setup.step] at stepped
  split at stepped
  · cases stepped
    simp only [State.update_self, DeliveryState.goto]
    split
    · exact .inr (.inl rfl)
    · exact .inl rfl
  · cases stepped

theorem Setup.committed_step {failures : Nat}
    (committed : (state.deliveries delivery).phase.Committed failures)
    (stepped : setup.step state action = some following) :
    (following.deliveries delivery).phase.Committed
      (failures + (setup.failures state action).count delivery) := by
  have grows : failures ≤ failures + (setup.failures state action).count delivery :=
    Nat.le_add_right _ _
  cases setup.moved stepped with
  | advances => exact committed.mono grows
  | sends actor sending =>
      have different := committed.ne_of_sending sending
      change ((state.update actor _).deliveries delivery).phase.Committed _
      rw [State.update_other _ _ different]
      exact committed.mono grows
  | acts actor turn =>
      by_cases same : delivery = actor
      · subst same
        cases turn with
        | completes completing =>
            rcases setup.step_completing completing stepped with
              ⟨_, resolved, _⟩ | ⟨failed, marking⟩
            · rw [resolved]
              exact .inr (.inr (.inr rfl))
            · rw [marking, failed]
              exact .inr (.inr (.inl ⟨rfl, by simp⟩))
        | beats | renews =>
            simp only [State.update_self]
            exact committed.mono grows
        | returns | marks | releases | crashes =>
            simp only [State.update_self, DeliveryState.goto]
            exact .inr (.inr (.inr rfl))
        | fails _ pending =>
            simp only [State.update_self, DeliveryState.goto]
            refine .inr (.inr (.inr ?_))
            cases phase : (state.deliveries delivery).phase <;> rw [phase] at pending <;>
              cases pending <;> rfl
        | starts phase | acquires phase =>
            rw [phase] at committed
            simp [Phase.Committed, Phase.ended] at committed
        | proceeds phase | throws phase =>
            rcases phase with phase | phase <;> rw [phase] at committed <;>
              simp [Phase.Committed, Phase.ended] at committed
      · change ((state.update actor _).deliveries delivery).phase.Committed _
        rw [State.update_other _ _ same]
        exact committed.mono grows

/-- What the end of a process call leaves behind once its mail is sent. -/
structure Setup.Settled (setup : Setup Delivery) (ended : State Delivery)
    (delivery : Delivery) : Prop where
  marked : ended.Marked (ended.now + setup.options.completedRetentionTtlSeconds * 1000)
  noSecondSend : ∀ later actions other, setup.system.Run anyAction ended actions later →
    later.now ≤ ended.now + setup.options.completedRetentionTtlSeconds * 1000 →
    (ended.deliveries other).phase = .ready → (later.deliveries other).phase ≠ .sending
  notRetried : ∀ error, (ended.deliveries delivery).phase ≠ .rejected error

/-- However a process call ends after its mail.send has resolved, at most one failure of
complete or markAmbiguousSent on the way: no delivery that starts later sends the mail. -/
def Setup.NoSecondSend (setup : Setup Delivery)
    (permitted : State Delivery → Action Delivery → Prop) : Prop :=
  ∀ delivery before sent failures last action ended,
    setup.system.Reachable permitted before →
    setup.system.step before (.sendResolves delivery) = some sent →
    setup.system.Observed permitted (fun state action _ => setup.failures state action)
      sent failures last →
    permitted last action → setup.system.step last action = some ended →
    (failures ++ setup.failures last action).count delivery ≤ 1 →
    (last.deliveries delivery).phase.ended = false →
    (ended.deliveries delivery).phase.ended = true →
    setup.Settled ended delivery

theorem Setup.settled_of_marked {ended : State Delivery}
    (marked : ended.Marked (ended.now + setup.options.completedRetentionTtlSeconds * 1000))
    (notRetried : ∀ error, (ended.deliveries delivery).phase ≠ .rejected error) :
    setup.Settled ended delivery :=
  { marked := marked
    noSecondSend := by
      intro later actions other run early ready sending
      have away := marked.blocks (Nat.le_refl _) run ready early
      rw [sending] at away
      cases away
    notRetried := notRetried }

theorem Setup.committed_of_observed {permitted : State Delivery → Action Delivery → Prop}
    {failures : List Delivery} {sent last : State Delivery}
    (committed : (sent.deliveries delivery).phase.Committed 0)
    (observed : setup.system.Observed permitted
      (fun state action _ => setup.failures state action) sent failures last) :
    (last.deliveries delivery).phase.Committed (failures.count delivery) := by
  induction observed with
  | nil => exact committed
  | snoc _ _ stepped ih =>
      rw [List.count_append]
      exact setup.committed_step ih stepped

/-- The step that ends the call writes a marker, or it is one that must not happen. -/
theorem Setup.settled_of_ends {earlier : Nat}
    (committed : (state.deliveries delivery).phase.Committed earlier)
    (answered : Answered state action) (stepped : setup.step state action = some following)
    (few : earlier + (setup.failures state action).count delivery ≤ 1)
    (running : (state.deliveries delivery).phase.ended = false)
    (ended : (following.deliveries delivery).phase.ended = true) :
    setup.Settled following delivery := by
  cases setup.moved stepped with
  | advances => exact absurd ended (by rw [running]; decide)
  | sends actor sending =>
      have different := committed.ne_of_sending sending
      change ((state.update actor _).deliveries delivery).phase.ended = true at ended
      rw [State.update_other _ _ different, running] at ended
      cases ended
  | acts actor turn =>
      by_cases same : delivery = actor
      · subst same
        cases turn with
        | completes completing =>
            rcases setup.step_completing completing stepped with
              ⟨_, resolved, stored⟩ | ⟨_, marking⟩
            · apply settled_of_marked
              · exact ⟨_, _, .inl rfl, Nat.le_refl _, stored⟩
              · intro error rejected
                rw [resolved] at rejected
                cases rejected
            · rw [marking] at ended
              cases ended
        | marks marking =>
            apply settled_of_marked
            · exact ⟨_, _, .inr rfl, Nat.le_refl _, rfl⟩
            · intro error rejected
              simp only [State.update_self, DeliveryState.goto] at rejected
              cases rejected
        | fails applied pending =>
            obtain ⟨notCompleting, written⟩ := answered
            rcases committed with completing | lost | ⟨refused, failed⟩ | over_
            · exact absurd completing notCompleting
            · cases written lost
              obtain ⟨stored, unrecoverable⟩ := setup.step_markingFails lost stepped
              apply settled_of_marked
              · exact ⟨_, _, .inr rfl, Nat.le_refl _, stored⟩
              · intro error rejected
                rw [unrecoverable] at rejected
                cases rejected
            · -- complete has answered false, and now the marker has failed as well
              simp only [failures, refused, List.count_singleton_self] at few
              omega
            · rw [running] at over_
              cases over_
        | crashes => exact answered.elim
        | beats | renews =>
            simp only [State.update_self] at ended
            rw [running] at ended
            cases ended
        | starts phase | acquires phase | returns phase | releases phase =>
            rw [phase] at committed
            simp [Phase.Committed, Phase.ended] at committed
        | proceeds phase | throws phase =>
            rcases phase with phase | phase <;> rw [phase] at committed <;>
              simp [Phase.Committed, Phase.ended] at committed
      · change ((state.update actor _).deliveries delivery).phase.ended = true at ended
        rw [State.update_other _ _ same, running] at ended
        cases ended

end AfterSend

section Claims

variable [DecidableEq Delivery]

theorem noSecondSend_of_answered (setup : Setup Delivery) : setup.NoSecondSend Answered := by
  intro delivery before sent failures last action ended _ resolved observed answered stepped
    few running finished
  have committed : (last.deliveries delivery).phase.Committed (failures.count delivery) :=
    setup.committed_of_observed (setup.committed_of_sendResolves resolved) observed
  rw [List.count_append] at few
  exact setup.settled_of_ends committed answered stepped few running finished

/-- The reply to complete is lost with the connection, and nothing else goes wrong. -/
theorem not_noSecondSend :
    ¬∀ setup : Setup Bool, setup.NoSecondSend NoCrash := by
  intro claim
  have executed :
      (welcomeMail.system.execute (fun _ action => !action.isCrash) State.empty
        [.start false, .command false, .proceed false, .proceed false]).map
        (fun state => state.deliveries false) =
      some { DeliveryState.fresh with phase := .sending } := by decide
  obtain ⟨before, run, sending⟩ := Option.map_eq_some_iff.mp executed
  have reached : welcomeMail.system.Reachable NoCrash before := by
    refine .of_execute ?_ ⟨rfl, rfl, rfl⟩ run
    intro _ action passes
    simpa [NoCrash] using passes
  have resolved : ∃ sent, welcomeMail.system.step before (.sendResolves false) = some sent ∧
      (sent.deliveries false).phase = .completing := by
    simp only [Setup.system, Setup.step, sending]
    exact ⟨_, rfl, by simp [DeliveryState.fresh, DeliveryState.goto]⟩
  obtain ⟨sent, resolved, completing⟩ := resolved
  have rejected : ∃ ended, welcomeMail.system.step sent (.commandFails false false) =
      some ended ∧ (ended.deliveries false).phase = .rejected .redisError := by
    simp only [Setup.system, Setup.step, completing, Setup.afterError]
    exact ⟨_, rfl, by simp [DeliveryState.goto]⟩
  obtain ⟨ended, stepped, retried⟩ := rejected
  have settled := claim welcomeMail false before sent [] sent (.commandFails false false) ended
    reached resolved .nil rfl stepped (by simp [Setup.failures, completing])
    (by rw [completing]; rfl) (by rw [retried]; rfl)
  exact settled.notRetried .redisError retried

end Claims

end BackendFoundation.Jobs
