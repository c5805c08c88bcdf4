/-
A walk along the successors of nodes that takes a bounded number of steps and stops at a node
where it has been. It meets the nodes that the bounded path meets, each of them once.
-/

import Mathlib.Data.List.Basic
import Mathlib.Data.Nat.Find

namespace BackendFoundation.Chains

variable {Node : Type} (next : Node → Option Node)

/-- The node after so many steps, wherever the path has been before. -/
def path (start : Option Node) : Nat → Option Node
  | 0 => start
  | steps + 1 => (path start steps).bind next

def walk [DecidableEq Node] : Nat → List Node → Option Node → List Node
  | 0, _, _ => []
  | _ + 1, _, none => []
  | steps + 1, visited, some node =>
      if node ∈ visited then [] else node :: walk steps (node :: visited) (next node)

/-- The path has not come back to a node within so many steps. -/
def Simple (start : Option Node) (steps : Nat) : Prop :=
  ∀ first second, first < second → second ≤ steps → path next start first ≠ path next start second

variable {next} {start : Option Node} {node : Node}

theorem path_none (steps : Nat) : path next none steps = none := by
  induction steps with
  | zero => rfl
  | succ steps ih =>
      rw [path, ih]
      rfl

theorem path_succ (steps : Nat) :
    path next (some node) (steps + 1) = path next (next node) steps := by
  induction steps with
  | zero => rfl
  | succ steps ih => rw [path, ih, path]

theorem path_add (first second : Nat) :
    path next start (first + second) = path next (path next start first) second := by
  induction second with
  | zero => rfl
  | succ second ih => rw [Nat.add_succ, path, ih, path]

theorem simple_zero : Simple next start 0 := by
  intro first second before within
  omega

theorem Simple.shorter {steps fewer : Nat} (simple : Simple next start steps)
    (less : fewer ≤ steps) : Simple next start fewer :=
  fun first second before within => simple first second before (Nat.le_trans within less)

/-- A path is simple when what follows its first node is, and does not meet that node. -/
theorem simple_succ_iff {steps : Nat} :
    Simple next (some node) (steps + 1) ↔
      Simple next (next node) steps ∧ ∀ other ≤ steps, path next (next node) other ≠ some node := by
  constructor
  · intro simple
    constructor
    · intro first second before within same
      apply simple (first + 1) (second + 1) (by omega) (by omega)
      rw [path_succ, path_succ]
      exact same
    · intro other within same
      apply simple 0 (other + 1) (by omega) (by omega)
      rw [path_succ, same]
      rfl
  · intro given first second before within same
    obtain ⟨simple, apart⟩ := given
    obtain ⟨later, rfl⟩ : ∃ later, second = later + 1 := ⟨second - 1, by omega⟩
    rw [path_succ] at same
    cases first with
    | zero => exact apart later (by omega) same.symm
    | succ earlier =>
        rw [path_succ] at same
        exact simple earlier later (by omega) (by omega) same

/-- The first time that a path meets a node, it has not come back anywhere. -/
theorem simple_of_first {position : Nat} (found : path next start position = some node)
    (first : ∀ earlier < position, path next start earlier ≠ some node) :
    Simple next start position := by
  intro earlier later before within same
  have shortcut : path next start (earlier + (position - later)) = some node := by
    rw [path_add, same, ← path_add, Nat.add_sub_cancel' within]
    exact found
  exact first _ (by omega) shortcut

variable [DecidableEq Node]

/-- What stands where in a walk. -/
theorem getElem?_walk_iff (steps : Nat) (visited : List Node) (start : Option Node)
    (position : Nat) :
    (walk next steps visited start)[position]? = some node ↔
      position < steps ∧ path next start position = some node ∧ Simple next start position ∧
        ∀ earlier ≤ position, ∀ other, path next start earlier = some other → other ∉ visited := by
  induction steps generalizing visited start position with
  | zero =>
      constructor
      · intro found
        cases found
      · intro given
        exact absurd given.1 (Nat.not_lt_zero _)
  | succ steps ih =>
      cases start with
      | none =>
          constructor
          · intro found
            cases found
          · intro given
            rw [path_none] at given
            cases given.2.1
      | some initial =>
          rw [walk]
          by_cases met : initial ∈ visited
          · rw [if_pos met]
            constructor
            · intro found
              cases found
            · intro given
              exact absurd met (given.2.2.2 0 (Nat.zero_le _) initial rfl)
          · rw [if_neg met]
            cases position with
            | zero =>
                constructor
                · intro found
                  refine ⟨Nat.succ_pos _, found, simple_zero, ?_⟩
                  intro earlier within other same
                  obtain rfl := Nat.le_zero.mp within
                  cases same
                  exact met
                · intro given
                  exact given.2.1
            | succ position =>
                rw [List.getElem?_cons_succ, ih, path_succ, simple_succ_iff]
                constructor
                · intro given
                  obtain ⟨within, found, simple, apart⟩ := given
                  refine ⟨Nat.succ_lt_succ within, found, ⟨simple, ?_⟩, ?_⟩
                  · intro other least same
                    exact apart other least initial same List.mem_cons_self
                  · intro earlier least other same
                    cases earlier with
                    | zero =>
                        cases same
                        exact met
                    | succ earlier =>
                        rw [path_succ] at same
                        intro seen
                        exact apart earlier (Nat.le_of_succ_le_succ least) other same
                          (List.mem_cons_of_mem _ seen)
                · intro given
                  obtain ⟨within, found, ⟨simple, away⟩, apart⟩ := given
                  refine ⟨Nat.lt_of_succ_lt_succ within, found, simple, ?_⟩
                  intro earlier least other same seen
                  rcases List.mem_cons.mp seen with rfl | old
                  · exact away earlier least same
                  · refine apart (earlier + 1) (Nat.succ_le_succ least) other ?_ old
                    rw [path_succ]
                    exact same

/-- A walk meets what the path meets: to stop at a node that is met again loses none. -/
theorem mem_walk_iff {steps : Nat} :
    node ∈ walk next steps [] start ↔ ∃ position < steps, path next start position = some node := by
  constructor
  · intro member
    obtain ⟨position, found⟩ := List.mem_iff_getElem?.mp member
    obtain ⟨within, reached, _⟩ := (getElem?_walk_iff steps [] start position).mp found
    exact ⟨position, within, reached⟩
  · intro given
    obtain ⟨first, ⟨within, reached⟩, least⟩ : ∃ first,
        (first < steps ∧ path next start first = some node) ∧
          ∀ earlier < first, ¬(earlier < steps ∧ path next start earlier = some node) :=
      ⟨Nat.find given, Nat.find_spec given, fun _ before => Nat.find_min given before⟩
    apply List.mem_iff_getElem?.mpr
    refine ⟨first, (getElem?_walk_iff steps [] start first).mpr ⟨within, reached, ?_, ?_⟩⟩
    · apply simple_of_first reached
      intro earlier before same
      exact least earlier before ⟨Nat.lt_trans before within, same⟩
    · intro earlier _ other _
      exact List.not_mem_nil

end BackendFoundation.Chains
