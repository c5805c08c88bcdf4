/-
A database table with a primary key. A statement is one function on the table;
UPDATE changes every row its condition selects and leaves the key as it is.
-/

import Mathlib.Data.List.Nodup

namespace BackendFoundation.Database

/-- The primary key constraint is part of the table. -/
structure Table (Row Key : Type) (key : Row → Key) where
  rows : List Row
  primaryKey : (rows.map key).Nodup

/-- The SET clause of an UPDATE. -/
structure Assignment {Row Key : Type} (key : Row → Key) where
  set : Row → Row
  keepsKey : ∀ row, key (set row) = key row

theorem Assignment.key_ite {Row Key : Type} {key : Row → Key} (assignment : Assignment key)
    (condition : Row → Bool) (row : Row) :
    key (if condition row then assignment.set row else row) = key row := by
  split
  · exact assignment.keepsKey row
  · rfl

namespace Table

variable {Row Key : Type} {key : Row → Key}

def empty : Table Row Key key :=
  { rows := []
    primaryKey := List.nodup_nil }

/-- INSERT fails on a key that exists. -/
def insert [DecidableEq Key] (table : Table Row Key key) (row : Row) :
    Option (Table Row Key key) :=
  if exists_ : key row ∈ table.rows.map key then none
  else some
    { rows := row :: table.rows
      primaryKey := List.nodup_cons.mpr ⟨exists_, table.primaryKey⟩ }

def select (table : Table Row Key key) (condition : Row → Bool) : List Row :=
  table.rows.filter condition

/-- UPDATE ... SET ... WHERE -/
def update (table : Table Row Key key) (condition : Row → Bool) (assignment : Assignment key) :
    Table Row Key key :=
  { rows := table.rows.map fun row => if condition row then assignment.set row else row
    primaryKey := by
      have same : (key ∘ fun row => if condition row then assignment.set row else row) = key :=
        funext (assignment.key_ite condition)
      rw [List.map_map, same]
      exact table.primaryKey }

theorem mem_update {table : Table Row Key key} {condition : Row → Bool}
    {assignment : Assignment key} {row : Row} :
    row ∈ (table.update condition assignment).rows ↔
      ∃ before ∈ table.rows,
        (if condition before then assignment.set before else before) = row := by
  unfold update
  exact List.mem_map

/-- Two rows with one key are one row. -/
theorem unique (table : Table Row Key key) {row other : Row} (member : row ∈ table.rows)
    (also : other ∈ table.rows) (same : key row = key other) : row = other :=
  List.inj_on_of_nodup_map table.primaryKey member also same

/-- A condition that determines the key selects at most one row. -/
theorem length_select_le_one (table : Table Row Key key) {condition : Row → Bool}
    (same : ∀ row other, condition row = true → condition other = true → key row = key other) :
    (table.select condition).length ≤ 1 := by
  have distinct : ((table.select condition).map key).Nodup :=
    table.primaryKey.sublist (List.filter_sublist.map _)
  unfold select at distinct ⊢
  match selected : table.rows.filter condition with
  | [] => exact Nat.zero_le 1
  | [_] => exact Nat.le_refl 1
  | first :: second :: rest =>
      rw [selected] at distinct
      have holds : ∀ row ∈ first :: second :: rest, condition row = true := by
        intro row member
        rw [← selected] at member
        exact (List.mem_filter.mp member).2
      have equal := same first second (holds _ (by simp)) (holds _ (by simp))
      simp [equal] at distinct

theorem length_select_eq_one_iff (table : Table Row Key key) {condition : Row → Bool}
    (same : ∀ row other, condition row = true → condition other = true → key row = key other) :
    (table.select condition).length = 1 ↔ ∃ row ∈ table.rows, condition row = true := by
  have few := table.length_select_le_one same
  constructor
  · intro single
    obtain ⟨row, selected⟩ := List.length_eq_one_iff.mp single
    have member : row ∈ table.select condition := selected ▸ List.mem_singleton_self row
    exact ⟨row, List.mem_filter.mp member⟩
  · intro found
    obtain ⟨row, member, holds⟩ := found
    have positive := List.length_pos_of_mem (List.mem_filter.mpr ⟨member, holds⟩)
    unfold select at few ⊢
    omega

/-- An UPDATE finds the rows that it found before, rewritten. -/
theorem find?_update [BEq Key] (table : Table Row Key key) (condition : Row → Bool)
    (assignment : Assignment key) (wanted : Key) :
    (table.update condition assignment).rows.find? (fun row => key row == wanted) =
      (table.rows.find? fun row => key row == wanted).map fun row =>
        if condition row then assignment.set row else row := by
  unfold update
  rw [List.find?_map]
  congr 2
  funext row
  simp only [Function.comp, assignment.key_ite]

/-- Columns that the SET clause leaves as they are. -/
theorem map_update {Column : Type} {table : Table Row Key key} {condition : Row → Bool}
    {assignment : Assignment key} {column : Row → Column}
    (untouched : ∀ row ∈ table.rows, condition row = true →
      column (assignment.set row) = column row) :
    (table.update condition assignment).rows.map column = table.rows.map column := by
  unfold update
  rw [List.map_map]
  apply List.map_congr_left
  intro row member
  by_cases selected : condition row = true
  · simp only [Function.comp, if_pos selected]
    exact untouched row member selected
  · simp only [Function.comp, if_neg selected]

/-- The rows that have come to have a property. -/
def entered [DecidableEq Key] (before after : Table Row Key key) (property : Row → Bool) :
    List Row :=
  after.rows.filter fun row =>
    property row && before.rows.all fun earlier =>
      decide (key earlier = key row → property earlier = false)

theorem entered_self [DecidableEq Key] (table : Table Row Key key) (property : Row → Bool) :
    table.entered table property = [] := by
  unfold entered
  rw [List.filter_eq_nil_iff]
  intro row member
  rw [Bool.and_eq_true, List.all_eq_true]
  intro found
  obtain ⟨holds, fresh⟩ := found
  have lacked := of_decide_eq_true (fresh row member) rfl
  rw [lacked] at holds
  cases holds

/-- An UPDATE moves the rows that it selects and that did not have the property yet. -/
theorem length_entered_update [DecidableEq Key] (table : Table Row Key key)
    (condition : Row → Bool) (assignment : Assignment key) (property : Row → Bool) :
    (table.entered (table.update condition assignment) property).length =
      (table.select fun row =>
        condition row && property (assignment.set row) && !property row).length := by
  have fresh (row : Row) (member : row ∈ table.rows) :
      (table.rows.all fun earlier =>
        decide (key earlier = key row → property earlier = false)) = !property row := by
    rw [Bool.eq_iff_iff, List.all_eq_true]
    constructor
    · intro lacked
      rw [of_decide_eq_true (lacked row member) rfl]
      rfl
    · intro lacked earlier member'
      rw [decide_eq_true_iff]
      intro same
      rw [table.unique member' member same]
      exact Bool.not_eq_true' _ ▸ lacked
  unfold entered update select
  rw [List.filter_map, List.length_map]
  congr 1
  apply List.filter_congr
  intro row member
  simp only [Function.comp, assignment.key_ite, fresh row member]
  by_cases selected : condition row = true
  · simp only [selected, if_true, Bool.true_and]
  · simp only [selected, Bool.false_eq_true, if_false, Bool.and_not_self, Bool.false_and]

theorem rows_insert [DecidableEq Key] {table inserted : Table Row Key key} {row : Row}
    (stored : table.insert row = some inserted) :
    inserted.rows = row :: table.rows ∧ key row ∉ table.rows.map key := by
  unfold insert at stored
  split at stored
  · cases stored
  · rename_i absent
    cases stored
    exact ⟨rfl, absent⟩

theorem insert_of_absent [DecidableEq Key] {table : Table Row Key key} {row : Row}
    (absent : ∀ other ∈ table.rows, key row ≠ key other) :
    ∃ inserted, table.insert row = some inserted := by
  unfold insert
  split
  · rename_i present
    obtain ⟨other, member, same⟩ := List.mem_map.mp present
    exact absurd same.symm (absent other member)
  · exact ⟨_, rfl⟩

theorem mem_insert [DecidableEq Key] {table inserted : Table Row Key key} {row : Row}
    (stored : table.insert row = some inserted) (other : Row) :
    other ∈ inserted.rows ↔ other = row ∨ other ∈ table.rows := by
  rw [(rows_insert stored).1]
  exact List.mem_cons

theorem not_mem_of_insert [DecidableEq Key] {table inserted : Table Row Key key} {row : Row}
    (stored : table.insert row = some inserted) : ∀ other ∈ table.rows, key other ≠ key row := by
  intro other member same
  have absent := (rows_insert stored).2
  rw [← same] at absent
  exact absent (List.mem_map_of_mem member)

section Unique

variable {Value : Type}

/-- A unique constraint. Rows without a value in the column never conflict. -/
def UniqueOn (table : Table Row Key key) (column : Row → Option Value) : Prop :=
  ∀ row ∈ table.rows, ∀ other ∈ table.rows, ∀ value, column row = some value →
    column other = some value → key row = key other

theorem UniqueOn.insert [DecidableEq Key] {table inserted : Table Row Key key} {row : Row}
    {column : Row → Option Value} (unique : table.UniqueOn column)
    (free : ∀ other ∈ table.rows, ∀ value, column row = some value → column other ≠ some value)
    (stored : table.insert row = some inserted) : inserted.UniqueOn column := by
  intro first member second member' value here there
  rcases (mem_insert stored first).mp member with rfl | old
  · rcases (mem_insert stored second).mp member' with rfl | old'
    · rfl
    · exact absurd there (free second old' value here)
  · rcases (mem_insert stored second).mp member' with rfl | old'
    · exact absurd here (free first old value there)
    · exact unique first old second old' value here there

/-- An UPDATE of one key keeps the constraint when no other row has the new value. -/
theorem UniqueOn.update {table : Table Row Key key} {condition : Row → Bool}
    {assignment : Assignment key} {column : Row → Option Value}
    (unique : table.UniqueOn column)
    (single : ∀ row other, condition row = true → condition other = true → key row = key other)
    (free : ∀ row ∈ table.rows, condition row = true → ∀ other ∈ table.rows,
      condition other = false → ∀ value, column (assignment.set row) = some value →
      column other ≠ some value) :
    (table.update condition assignment).UniqueOn column := by
  intro first member second member' value here there
  obtain ⟨row, present, rfl⟩ := mem_update.mp member
  obtain ⟨other, present', rfl⟩ := mem_update.mp member'
  rw [assignment.key_ite, assignment.key_ite]
  by_cases selected : condition row = true
  · rw [if_pos selected] at here
    by_cases selected' : condition other = true
    · exact single row other selected selected'
    · rw [if_neg selected'] at there
      exact absurd there (free row present selected other present'
        (eq_false_of_ne_true selected') value here)
  · rw [if_neg selected] at here
    by_cases selected' : condition other = true
    · rw [if_pos selected'] at there
      exact absurd here (free other present' selected' row present
        (eq_false_of_ne_true selected) value there)
    · rw [if_neg selected'] at there
      exact unique row present other present' value here there

theorem UniqueOn.update_other {table : Table Row Key key} {condition : Row → Bool}
    {assignment : Assignment key} {column : Row → Option Value}
    (unique : table.UniqueOn column)
    (untouched : ∀ row, column (assignment.set row) = column row) :
    (table.update condition assignment).UniqueOn column := by
  have same : ∀ row, column (if condition row then assignment.set row else row) = column row := by
    intro row
    split
    · exact untouched row
    · rfl
  intro first member second member' value here there
  obtain ⟨row, present, rfl⟩ := mem_update.mp member
  obtain ⟨other, present', rfl⟩ := mem_update.mp member'
  rw [assignment.key_ite, assignment.key_ite]
  exact unique row present other present' value ((same row).symm.trans here)
    ((same other).symm.trans there)

end Unique

end Table

end BackendFoundation.Database
