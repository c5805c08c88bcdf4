/-
The plain search of Lua's string library, on strings of any symbols. Positions count from 1.

A pattern that no proper part both begins and ends cannot be found across the edge of a text
that has it behind. So a cut in front of the first find is a cut at that edge.
-/

import Mathlib.Data.List.Infix

namespace BackendFoundation.Lua

variable {Symbol : Type}

section Search

variable [DecidableEq Symbol]

def findAt (pattern : List Symbol) (position : Nat) : List Symbol → Option Nat
  | [] => if pattern = [] then some position else none
  | symbol :: rest =>
      if pattern.isPrefixOf (symbol :: rest) then some position
      else findAt pattern (position + 1) rest

/-- string.find(text, pattern, 1, true) -/
def find (text pattern : List Symbol) : Option Nat :=
  findAt pattern 1 text

end Search

/-- string.sub(text, first, last), of positions that are not negative. -/
def sub (text : List Symbol) (first last : Nat) : List Symbol :=
  (text.take last).drop (first - 1)

/-- The pattern stands in the text behind so many symbols. -/
def OccursAt (pattern text : List Symbol) (start : Nat) : Prop :=
  pattern <+: text.drop start

/-- No proper part of the pattern is both its beginning and its end. -/
def Unbordered (pattern : List Symbol) : Prop :=
  ∀ size < pattern.length, 0 < size → pattern.take size ≠ pattern.drop (pattern.length - size)

theorem findAt_eq [DecidableEq Symbol] {pattern front back : List Symbol}
    (first : ∀ start < front.length, ¬OccursAt pattern (front ++ (pattern ++ back)) start)
    (position : Nat) :
    findAt pattern position (front ++ (pattern ++ back)) = some (position + front.length) := by
  induction front generalizing position with
  | nil =>
      rw [List.nil_append]
      cases pattern with
      | nil =>
          cases back with
          | nil => rfl
          | cons symbol back => rfl
      | cons symbol pattern =>
          have found : (symbol :: pattern).isPrefixOf (symbol :: (pattern ++ back)) = true :=
            List.isPrefixOf_iff_prefix.mpr (List.prefix_append (symbol :: pattern) back)
          rw [List.cons_append, findAt, if_pos found]
          rfl
  | cons symbol front ih =>
      have later : ¬pattern.isPrefixOf (symbol :: (front ++ (pattern ++ back))) = true := by
        intro found
        exact first 0 (Nat.succ_pos _) (List.isPrefixOf_iff_prefix.mp found)
      rw [List.cons_append, findAt, if_neg later, ih, List.length_cons]
      · congr 1
        omega
      · intro start inside
        exact first (start + 1) (Nat.succ_lt_succ inside)

/-- An occurrence that begins in the front part lies in it, unless the pattern is bordered. -/
theorem infix_of_occursAt {pattern front back : List Symbol} (unbordered : Unbordered pattern)
    {start : Nat} (inside : start < front.length)
    (occurs : OccursAt pattern (front ++ (pattern ++ back)) start) : pattern <:+: front := by
  unfold OccursAt at occurs
  rw [List.drop_append_of_le_length (Nat.le_of_lt inside)] at occurs
  have remaining : 0 < (front.drop start).length := by
    rw [List.length_drop]
    omega
  have suffix : front.drop start <:+ front := List.drop_suffix start front
  generalize front.drop start = tail at occurs remaining suffix
  obtain ⟨rest, whole⟩ := occurs
  rcases List.append_eq_append_iff.mp whole with ⟨between, split, _⟩ | ⟨border, split, again⟩
  · have within : pattern <+: tail := ⟨between, split.symm⟩
    exact within.isInfix.trans suffix.isInfix
  · by_cases empty : border = []
    · rw [empty, List.append_nil] at split
      exact split ▸ suffix.isInfix
    · have long : pattern.length = tail.length + border.length := by
        rw [split, List.length_append]
      have proper : border.length < pattern.length := by omega
      have front : pattern.take border.length = border := by
        have both := congrArg (List.take border.length) again
        rw [List.take_append_of_le_length (Nat.le_of_lt proper), List.take_left] at both
        exact both
      have back : pattern.drop (pattern.length - border.length) = border := by
        rw [long, Nat.add_sub_cancel, split, List.drop_left]
      exact absurd (front.trans back.symm)
        (unbordered border.length proper (List.length_pos_iff.mpr empty))

/-- The first find is at the edge, and the cut in front of it gives the front part back. -/
theorem find_append [DecidableEq Symbol] {pattern front : List Symbol}
    (unbordered : Unbordered pattern) (outside : ¬pattern <:+: front) (back : List Symbol) :
    find (front ++ (pattern ++ back)) pattern = some (front.length + 1) := by
  have first : ∀ start < front.length, ¬OccursAt pattern (front ++ (pattern ++ back)) start :=
    fun start inside occurs => outside (infix_of_occursAt unbordered inside occurs)
  unfold find
  rw [findAt_eq first, Nat.add_comm]

theorem sub_append (front back : List Symbol) : sub (front ++ back) 1 front.length = front := by
  unfold sub
  rw [List.take_left, Nat.sub_self, List.drop_zero]

end BackendFoundation.Lua
