/-
A transition system with a history beside its state. The history is written by every
step and read by none, so no run is added, and what holds of the two together is shown
step by step like any invariant.
-/

import BackendFoundation.Transition.System

namespace BackendFoundation.Transition.System

variable {State Action History : Type} (machine : System State Action)
  (record : State → Action → State → History → History) (blank : History)

def recording : System (State × History) Action :=
  { initial := fun recorded => machine.initial recorded.1 ∧ recorded.2 = blank
    step := fun recorded action =>
      (machine.step recorded.1 action).map fun following =>
        (following, record recorded.1 action following recorded.2) }

variable {machine record blank} {allowed : State → Action → Prop}

/-- The run without its history. -/
theorem Run.unrecorded {start finish : State × History} {actions : List Action}
    (run : (machine.recording record blank).Run (fun recorded => allowed recorded.1)
      start actions finish) : machine.Run allowed start.1 actions finish.1 := by
  induction run with
  | nil => exact .nil
  | snoc _ permitted stepped ih =>
      obtain ⟨following, stepped', rfl⟩ := Option.map_eq_some_iff.mp stepped
      exact ih.snoc permitted stepped'

theorem Reachable.unrecorded {recorded : State × History}
    (reached : (machine.recording record blank).Reachable (fun recorded => allowed recorded.1)
      recorded) : machine.Reachable allowed recorded.1 := by
  obtain ⟨start, actions, initial, run⟩ := reached
  exact ⟨start.1, actions, initial.1, run.unrecorded⟩

theorem Reachable.forgotten {granted : State × History → Action → Prop}
    {recorded : State × History}
    (reached : (machine.recording record blank).Reachable granted recorded) :
    machine.Reachable anyAction recorded.1 := by
  have free : (machine.recording record blank).Reachable
      (fun recorded => anyAction recorded.1) recorded := reached.weaken fun _ _ _ => trivial
  exact free.unrecorded

/-- The induction rule for what ties the history to the state. The side condition may see the
history. -/
theorem Reachable.tied_weaker {granted : State × History → Action → Prop} {known : State → Prop}
    (tied : State → History → Prop)
    (weaker : ∀ recorded action, granted recorded action → allowed recorded.1 action)
    (established : ∀ state, machine.Reachable allowed state → known state)
    (initially : ∀ state, machine.initial state → tied state blank)
    (preserved : ∀ state history action following, known state → tied state history →
      granted (state, history) action → machine.step state action = some following →
      tied following (record state action following history))
    {recorded : State × History}
    (reached : (machine.recording record blank).Reachable granted recorded) :
    tied recorded.1 recorded.2 := by
  have known' : ∀ before, (machine.recording record blank).Reachable granted before →
      known before.1 :=
    fun _ reached => established _ (reached.weaken weaker).unrecorded
  apply reached.invariant_using known'
  · intro found given
    obtain ⟨state, _⟩ := found
    obtain ⟨initial, rfl⟩ := given
    exact initially state initial
  · intro found action _ facts held permitted stepped
    obtain ⟨state, history⟩ := found
    obtain ⟨following, stepped', rfl⟩ := Option.map_eq_some_iff.mp stepped
    exact preserved state history action following facts held permitted stepped'

/-- What is known of every reachable state is known here. -/
theorem Reachable.tied {granted : State × History → Action → Prop} {known : State → Prop}
    (tied : State → History → Prop)
    (established : ∀ state, machine.Reachable anyAction state → known state)
    (initially : ∀ state, machine.initial state → tied state blank)
    (preserved : ∀ state history action following, known state → tied state history →
      granted (state, history) action → machine.step state action = some following →
      tied following (record state action following history))
    {recorded : State × History}
    (reached : (machine.recording record blank).Reachable granted recorded) :
    tied recorded.1 recorded.2 :=
  reached.tied_weaker tied (fun _ _ _ => trivial) established initially preserved

theorem Reachable.history {known : State → Prop} (tied : State → History → Prop)
    (established : ∀ state, machine.Reachable allowed state → known state)
    (initially : ∀ state, machine.initial state → tied state blank)
    (preserved : ∀ state history action following, known state → tied state history →
      allowed state action → machine.step state action = some following →
      tied following (record state action following history))
    {recorded : State × History}
    (reached : (machine.recording record blank).Reachable (fun recorded => allowed recorded.1)
      recorded) : tied recorded.1 recorded.2 :=
  reached.tied_weaker tied (fun _ _ => id) established initially preserved

end BackendFoundation.Transition.System
