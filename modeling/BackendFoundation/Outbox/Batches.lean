/-
The batch of a call: it deals with the claimed events one after the other, and with each
of them once.
-/

import BackendFoundation.Outbox.Delivery

namespace BackendFoundation.Outbox

open Transition

variable {Worker Handler : Type}

/-- The event whose route call is pending. -/
def CallState.insideRoute (call : CallState Worker Handler) : Option String :=
  match call.phase with
  | .iterating iteration (.publishing _) => some iteration.event.id
  | _ => none

/-- A call deals with each event of its batch once, and no late renewal is for an event
that it still has to deal with. -/
def CallState.Tidy (call : CallState Worker Handler) : Prop :=
  (call.held.map OutboxRow.id).Nodup ∧
    ∀ extension ∈ call.late, extension.1 ∉ call.held.map OutboxRow.id

theorem CallState.Tidy.rest {before : CallState Worker Handler} {iteration : Iteration Worker}
    {stage : Stage Handler} (tidy : before.Tidy)
    (phase : before.phase = .iterating iteration stage) :
    iteration.event.id ∉ iteration.rest.map OutboxRow.id ∧
      (iteration.rest.map OutboxRow.id).Nodup := by
  have distinct := tidy.1
  simp only [CallState.held, phase, List.map_cons] at distinct
  exact List.nodup_cons.mp distinct

theorem CallState.Tidy.next_ne {before : CallState Worker Handler} {iteration : Iteration Worker}
    {stage : Stage Handler} {event : OutboxRow Worker} {rest : List (OutboxRow Worker)}
    (tidy : before.Tidy) (phase : before.phase = .iterating iteration stage)
    (following : iteration.rest = event :: rest) : event.id ≠ iteration.event.id := by
  have absent := (tidy.rest phase).1
  rw [following, List.map_cons] at absent
  exact fun same => absent (same ▸ List.mem_cons_self)

theorem CallState.Tidy.keep {before after : CallState Worker Handler} (tidy : before.Tidy)
    (held : after.held = before.held) (late : after.late ⊆ before.late) : after.Tidy := by
  rw [Tidy, held]
  exact ⟨tidy.1, fun extension member => tidy.2 extension (late member)⟩

theorem CallState.tidy_of_idle {call : CallState Worker Handler} (idle : call.held = []) :
    call.Tidy := by
  rw [Tidy, idle]
  exact ⟨List.nodup_nil, fun _ _ => List.not_mem_nil⟩

theorem CallState.Tidy.finish {setup : Setup Worker Handler} {now : Nat}
    {before : CallState Worker Handler} {iteration : Iteration Worker} {stage : Stage Handler}
    (tidy : before.Tidy) (phase : before.phase = .iterating iteration stage)
    (result : ProcessOutboxResult) : (setup.finish now before iteration result).Tidy := by
  have rest := tidy.rest phase
  unfold Setup.finish Tidy
  rw [setup.held_nextEvent]
  refine ⟨rest.2, ?_⟩
  intro extension late
  rcases List.mem_append.mp late with inFlight | old
  · unfold Iteration.inFlight at inFlight
    split at inFlight
    · rw [List.mem_singleton.mp inFlight]
      exact rest.1
    · cases inFlight
    · cases inFlight
  · have absent := tidy.2 extension old
    simp only [held, phase, List.map_cons] at absent
    exact fun member => absent (List.mem_cons_of_mem _ member)

variable [DecidableEq Worker] {action : Action Worker}

theorem Setup.Turn.tidy {setup : Setup Worker Handler} {state : State Worker Handler}
    {call : Worker} {before after : CallState Worker Handler}
    {statement : Option (Statement Worker)}
    (turn : setup.Turn state call before action statement after)
    (sound : setup.CallSound call state.now state.routed before) (tidy : before.Tidy) :
    after.Tidy := by
  cases turn with
  | claims scan phase =>
      rw [CallSound, phase] at sound
      refine ⟨claimedRows_nodup _ _ _ _, ?_⟩
      simp [CallState.goto, sound.1]
  | claimAnswered phase =>
      refine tidy.keep ?_ (List.Subset.refl _)
      rw [setup.held_nextEvent]
      simp [CallState.held, phase]
  | starts | claimFails | crashes | crashesInside | notFailed =>
      exact CallState.tidy_of_idle rfl
  | beats phase | renews phase | extendAnswered phase | extendFails phase | timesOut phase
  | resolves phase | throws phase | routeFails phase | marksProcessed phase
  | marksFailed phase | notProcessed phase =>
      refine tidy.keep ?_ (List.Subset.refl _)
      simp [CallState.held, CallState.goto, phase, Iteration.beat, Iteration.extended]
  | extendsLate => exact tidy.keep rfl List.erase_subset
  | finishes result phase => exact tidy.finish phase result

def State.AllTidy (state : State Worker Handler) : Prop :=
  ∀ call, (state.calls call).Tidy

theorem Setup.allTidy_of_reachable (setup : Setup Worker Handler)
    {allowed : State Worker Handler → Action Worker → Prop} {state : State Worker Handler}
    (reached : setup.system.Reachable allowed state) : state.AllTidy := by
  have known : ∀ before, setup.system.Reachable allowed before → setup.CallsSound before :=
    fun _ reached => setup.callsSound_of_reachable reached
  apply reached.invariant_using known
  · intro start initial call
    obtain ⟨_, calls, _, _, _⟩ := initial
    rw [calls]
    exact CallState.tidy_of_idle rfl
  · intro before action after sound tidy _ stepped call
    have goes := (setup.moved stepped).goes call
    generalize after.calls call = next at goes
    cases goes with
    | stays => exact tidy call
    | acts turn => exact turn.tidy (sound call) (tidy call)
    | routes phase =>
        refine (tidy call).keep ?_ (List.Subset.refl _)
        simp [CallState.held, CallState.goto, phase]

end BackendFoundation.Outbox
