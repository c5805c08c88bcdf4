/-
Labelled transition systems given by a partial step function, with runs whose
every step meets a side condition. Safety of all interleavings is an invariant
argument: one lemma for one step, lifted here to every reachable state.
-/

import Mathlib.Data.List.Basic
import Mathlib.Logic.Function.Basic

namespace BackendFoundation.Transition

/-- A disabled action has no successor. -/
structure System (State Action : Type) where
  initial : State → Prop
  step : State → Action → Option State

variable {State Action : Type}

/-- Finite runs. The side condition sees the state in which an action is taken. -/
inductive System.Run (machine : System State Action) (allowed : State → Action → Prop)
    (start : State) : List Action → State → Prop
  | nil : Run machine allowed start [] start
  | snoc {actions : List Action} {action : Action} {middle finish : State} :
      Run machine allowed start actions middle → allowed middle action →
      machine.step middle action = some finish →
      Run machine allowed start (actions ++ [action]) finish

def System.Reachable (machine : System State Action) (allowed : State → Action → Prop)
    (state : State) : Prop :=
  ∃ start actions, machine.initial start ∧ machine.Run allowed start actions state

/-- The side condition that forbids nothing. -/
def anyAction (_ : State) (_ : Action) : Prop := True

namespace System

variable {machine : System State Action} {allowed : State → Action → Prop}

theorem Reachable.next {state following : State} {action : Action}
    (reached : machine.Reachable allowed state) (permitted : allowed state action)
    (stepped : machine.step state action = some following) :
    machine.Reachable allowed following := by
  obtain ⟨start, actions, initial, run⟩ := reached
  exact ⟨start, actions ++ [action], initial, run.snoc permitted stepped⟩

theorem Run.append {start middle finish : State} {first second : List Action}
    (before : machine.Run allowed start first middle)
    (after : machine.Run allowed middle second finish) :
    machine.Run allowed start (first ++ second) finish := by
  induction after with
  | nil => rw [List.append_nil]; exact before
  | snoc _ permitted stepped ih =>
      rw [← List.append_assoc]
      exact ih.snoc permitted stepped

theorem Reachable.extend {state finish : State} {actions : List Action}
    (reached : machine.Reachable allowed state)
    (run : machine.Run allowed state actions finish) :
    machine.Reachable allowed finish := by
  obtain ⟨start, earlier, initial, before⟩ := reached
  exact ⟨start, earlier ++ actions, initial, before.append run⟩

/-- What one permitted step preserves, a whole run preserves. -/
theorem Run.preserves {invariant : State → Prop}
    (preserved : ∀ state action following, invariant state → allowed state action →
      machine.step state action = some following → invariant following)
    {start finish : State} {actions : List Action}
    (run : machine.Run allowed start actions finish) (atStart : invariant start) :
    invariant finish := by
  induction run with
  | nil => exact atStart
  | snoc _ permitted stepped ih => exact preserved _ _ _ ih permitted stepped

/-- The induction rule for safety: it holds initially and no step breaks it. -/
theorem Reachable.invariant {invariant : State → Prop}
    (initially : ∀ state, machine.initial state → invariant state)
    (preserved : ∀ state action following, invariant state → allowed state action →
      machine.step state action = some following → invariant following)
    {state : State} (reached : machine.Reachable allowed state) : invariant state := by
  obtain ⟨start, actions, initial, run⟩ := reached
  exact run.preserves preserved (initially start initial)

/-- A step may use what is already known of every reachable state. -/
theorem Reachable.invariant_using {known invariant : State → Prop}
    (established : ∀ state, machine.Reachable allowed state → known state)
    (initially : ∀ state, machine.initial state → invariant state)
    (preserved : ∀ state action following, known state → invariant state →
      allowed state action → machine.step state action = some following →
      invariant following)
    {state : State} (reached : machine.Reachable allowed state) : invariant state := by
  obtain ⟨start, actions, initial, run⟩ := reached
  induction run with
  | nil => exact initially start initial
  | snoc before permitted stepped ih =>
      exact preserved _ _ _ (established _ ⟨start, _, initial, before⟩) ih permitted stepped

/-- Under an invariant one side condition brings about another. The two are shown together,
so that a step may use what the side condition that it brings about keeps. -/
theorem Run.establishes {invariant : State → Prop} {stronger : State → Action → Prop}
    (each : ∀ state action following, invariant state → allowed state action →
      machine.step state action = some following → stronger state action ∧ invariant following)
    {start finish : State} {actions : List Action}
    (run : machine.Run allowed start actions finish) (atStart : invariant start) :
    machine.Run stronger start actions finish ∧ invariant finish := by
  induction run with
  | nil => exact ⟨.nil, atStart⟩
  | snoc _ permitted stepped ih =>
      obtain ⟨before, held⟩ := ih
      obtain ⟨established, kept⟩ := each _ _ _ held permitted stepped
      exact ⟨before.snoc established stepped, kept⟩

theorem Reachable.establishes {invariant : State → Prop} {stronger : State → Action → Prop}
    (initially : ∀ state, machine.initial state → invariant state)
    (each : ∀ state action following, invariant state → allowed state action →
      machine.step state action = some following → stronger state action ∧ invariant following)
    {state : State} (reached : machine.Reachable allowed state) :
    machine.Reachable stronger state ∧ invariant state := by
  obtain ⟨start, actions, initial, run⟩ := reached
  obtain ⟨run', held⟩ := run.establishes each (initially start initial)
  exact ⟨⟨start, actions, initial, run'⟩, held⟩

/-- A preorder that every step respects relates the two ends of a run. -/
theorem Run.relates {related : State → State → Prop} (refl : ∀ state, related state state)
    (trans : ∀ first second third, related first second → related second third →
      related first third)
    (each : ∀ state action following, allowed state action →
      machine.step state action = some following → related state following)
    {start finish : State} {actions : List Action}
    (run : machine.Run allowed start actions finish) : related start finish := by
  induction run with
  | nil => exact refl _
  | snoc _ permitted stepped ih => exact trans _ _ _ ih (each _ _ _ permitted stepped)

/-- What holds at the end of a run and not at its start has come about in some step. -/
theorem Run.entered (property : State → Prop) {start finish : State} {actions : List Action}
    (run : machine.Run allowed start actions finish) (atStart : ¬property start)
    (atFinish : property finish) :
    ∃ earlier later before action after, machine.Run allowed start earlier before ∧
      allowed before action ∧ machine.step before action = some after ∧ ¬property before ∧
      property after ∧ machine.Run allowed after later finish := by
  induction run with
  | nil => exact absurd atFinish atStart
  | @snoc actions action middle finish run permitted stepped ih =>
      by_cases already : property middle
      · obtain ⟨earlier, later, before, entering, after, run', permitted', stepped', outside,
          inside, rest⟩ := ih already
        exact ⟨earlier, later ++ [action], before, entering, after, run', permitted', stepped',
          outside, inside, rest.snoc permitted stepped⟩
      · exact ⟨actions, [], middle, action, finish, run, permitted, stepped, already, atFinish,
          .nil⟩

/-- A run of a composed machine, seen from a component that its steps move or leave alone. -/
theorem Run.projects {Component Inner : Type} {component : System Component Inner}
    {permitted : Component → Inner → Prop} {project : State → Component}
    (each : ∀ state action following, allowed state action →
      machine.step state action = some following → project following = project state ∨
        ∃ inner, permitted (project state) inner ∧
          component.step (project state) inner = some (project following))
    {start finish : State} {actions : List Action}
    (run : machine.Run allowed start actions finish) :
    ∃ inners, component.Run permitted (project start) inners (project finish) := by
  induction run with
  | nil => exact ⟨[], .nil⟩
  | snoc _ granted stepped ih =>
      obtain ⟨inners, inner⟩ := ih
      rcases each _ _ _ granted stepped with same | ⟨action, granted', stepped'⟩
      · rw [same]
        exact ⟨inners, inner⟩
      · exact ⟨_, inner.snoc granted' stepped'⟩

/-- Forward simulation, action by action. -/
theorem Run.simulated {Abstract Event : Type} {abstract : System Abstract Event}
    {permitted : Abstract → Event → Prop} {image : Action → List Event}
    {related : State → Abstract → Prop}
    (simulates : ∀ state action following abstraction, related state abstraction →
      allowed state action → machine.step state action = some following →
      ∃ abstraction', abstract.Run permitted abstraction (image action) abstraction' ∧
        related following abstraction')
    {start finish : State} {actions : List Action} {abstraction : Abstract}
    (initially : related start abstraction) (run : machine.Run allowed start actions finish) :
    ∃ abstraction', abstract.Run permitted abstraction (actions.flatMap image) abstraction' ∧
      related finish abstraction' := by
  induction run with
  | nil => exact ⟨abstraction, .nil, initially⟩
  | @snoc actions action middle finish _ granted stepped ih =>
      obtain ⟨middle', earlier, matching⟩ := ih
      obtain ⟨finish', later, matching'⟩ :=
        simulates _ _ _ middle' matching granted stepped
      refine ⟨finish', ?_, matching'⟩
      rw [List.flatMap_append, List.flatMap_singleton]
      exact earlier.append later

theorem Run.weaken {stronger : State → Action → Prop}
    (implied : ∀ state action, stronger state action → allowed state action)
    {start finish : State} {actions : List Action}
    (run : machine.Run stronger start actions finish) :
    machine.Run allowed start actions finish := by
  induction run with
  | nil => exact .nil
  | snoc _ permitted stepped ih => exact ih.snoc (implied _ _ permitted) stepped

theorem Reachable.weaken {stronger : State → Action → Prop}
    (implied : ∀ state action, stronger state action → allowed state action)
    {state : State} (reached : machine.Reachable stronger state) :
    machine.Reachable allowed state := by
  obtain ⟨start, actions, initial, run⟩ := reached
  exact ⟨start, actions, initial, run.weaken implied⟩

/-- Executes a list of actions, stopping at the first that is disabled or fails
the check. -/
def execute (machine : System State Action) (check : State → Action → Bool) :
    State → List Action → Option State
  | state, [] => some state
  | state, action :: rest =>
      if check state action then
        (machine.step state action).bind fun following => machine.execute check following rest
      else none

theorem Run.of_execute {check : State → Action → Bool}
    (checked : ∀ state action, check state action = true → allowed state action)
    {start finish : State} {actions : List Action}
    (executed : machine.execute check start actions = some finish) :
    machine.Run allowed start actions finish := by
  induction actions generalizing start with
  | nil =>
      cases executed
      exact .nil
  | cons action rest ih =>
      simp only [execute] at executed
      split at executed
      · rename_i passes
        obtain ⟨following, stepped, remaining⟩ := Option.bind_eq_some_iff.mp executed
        have first : machine.Run allowed start ([] ++ [action]) following :=
          .snoc .nil (checked _ _ passes) stepped
        exact first.append (ih remaining)
      · cases executed

theorem Reachable.of_execute {check : State → Action → Bool}
    (checked : ∀ state action, check state action = true → allowed state action)
    {start finish : State} {actions : List Action} (initial : machine.initial start)
    (executed : machine.execute check start actions = some finish) :
    machine.Reachable allowed finish :=
  ⟨start, actions, initial, .of_execute checked executed⟩

/-- The check may rely on what holds of every reachable state. -/
theorem Reachable.execute {check : State → Action → Bool}
    (checked : ∀ state action, machine.Reachable allowed state → check state action = true →
      allowed state action)
    {start finish : State} {actions : List Action} (reached : machine.Reachable allowed start)
    (executed : machine.execute check start actions = some finish) :
    machine.Reachable allowed finish := by
  induction actions generalizing start with
  | nil =>
      cases executed
      exact reached
  | cons action rest ih =>
      simp only [System.execute] at executed
      split at executed
      · rename_i passes
        obtain ⟨following, stepped, remaining⟩ := Option.bind_eq_some_iff.mp executed
        exact ih (reached.next (checked _ _ reached passes) stepped) remaining
      · cases executed

section Observation

variable {Event : Type}

/-- Runs together with what an observer sees of each step. -/
inductive Observed (machine : System State Action) (allowed : State → Action → Prop)
    (observe : State → Action → State → List Event) (start : State) :
    List Event → State → Prop
  | nil : Observed machine allowed observe start [] start
  | snoc {events : List Event} {action : Action} {middle finish : State} :
      Observed machine allowed observe start events middle → allowed middle action →
      machine.step middle action = some finish →
      Observed machine allowed observe start (events ++ observe middle action finish) finish

variable {observe : State → Action → State → List Event}

theorem Observed.run {start finish : State} {events : List Event}
    (observed : machine.Observed allowed observe start events finish) :
    ∃ actions, machine.Run allowed start actions finish := by
  induction observed with
  | nil => exact ⟨[], .nil⟩
  | snoc _ permitted stepped ih =>
      obtain ⟨actions, run⟩ := ih
      exact ⟨_, run.snoc permitted stepped⟩

theorem Run.observed {start finish : State} {actions : List Action}
    (run : machine.Run allowed start actions finish) :
    ∃ events, machine.Observed allowed observe start events finish := by
  induction run with
  | nil => exact ⟨[], .nil⟩
  | snoc _ permitted stepped ih =>
      obtain ⟨events, observed⟩ := ih
      exact ⟨_, observed.snoc permitted stepped⟩

/-- Forward simulation: what is observed of a run is a run of the abstract machine,
whose actions are the events. -/
theorem Observed.simulated {Abstract : Type} {abstract : System Abstract Event}
    {known : State → Prop} {related : State → Abstract → Prop}
    (established : ∀ state, machine.Reachable allowed state → known state)
    (simulates : ∀ state action following image, known state → related state image →
      allowed state action → machine.step state action = some following →
      ∃ image', abstract.Run anyAction image (observe state action following) image' ∧
        related following image')
    {start finish : State} {events : List Event} {image : Abstract}
    (initial : machine.initial start) (related_start : related start image)
    (observed : machine.Observed allowed observe start events finish) :
    ∃ image', abstract.Run anyAction image events image' ∧ related finish image' := by
  induction observed with
  | nil => exact ⟨image, .nil, related_start⟩
  | snoc before permitted stepped ih =>
      obtain ⟨middle, earlier, matching⟩ := ih
      obtain ⟨actions, run⟩ := before.run
      obtain ⟨image', later, matching'⟩ :=
        simulates _ _ _ middle (established _ ⟨start, actions, initial, run⟩) matching
          permitted stepped
      exact ⟨image', earlier.append later, matching'⟩

end Observation

end System

end BackendFoundation.Transition
