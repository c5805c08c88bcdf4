/-
A text between its separators. Whether something stands at its front, at its back or within
is a question about single pieces, when it reaches no further than up to a separator.
-/

import Mathlib.Data.List.Infix
import Mathlib.Data.List.Basic

namespace BackendFoundation.Text

variable {Item : Type} {separator : Item}

/-- One piece after the other. -/
def joined (separator : Item) (first : List Item) : List (List Item) → List Item
  | [] => first
  | second :: pieces => first ++ separator :: joined separator second pieces

section Edge

variable {needle piece rest : List Item}

theorem prefix_edge_iff (plain : separator ∉ needle) :
    needle <+: piece ++ separator :: rest ↔ needle <+: piece := by
  constructor
  · intro front
    have edge : piece ++ [separator] <+: piece ++ separator :: rest :=
      ⟨rest, by rw [List.append_assoc]; rfl⟩
    rcases List.prefix_or_prefix_of_prefix front edge with short | long
    · rcases List.prefix_concat_iff.mp short with whole | inside
      · exact absurd (whole ▸ List.mem_append_right piece List.mem_cons_self) plain
      · exact inside
    · exact absurd (long.subset (List.mem_append_right piece List.mem_cons_self)) plain
  · intro front
    exact front.trans (List.prefix_append piece _)

theorem suffix_edge_iff (plain : separator ∉ needle) :
    needle <:+ piece ++ separator :: rest ↔ needle <:+ rest := by
  constructor
  · intro back
    rcases List.suffix_or_suffix_of_suffix back (List.suffix_append piece (separator :: rest)) with
      short | long
    · rcases List.suffix_cons_iff.mp short with whole | inside
      · exact absurd (whole ▸ List.mem_cons_self) plain
      · exact inside
    · exact absurd (long.subset List.mem_cons_self) plain
  · intro back
    exact (back.trans (List.suffix_cons separator rest)).trans (List.suffix_append piece _)

/-- The last separator tells what stands behind it. -/
theorem eq_of_edge_eq {piece' rest' : List Item} (plain : separator ∉ rest)
    (plain' : separator ∉ rest')
    (same : piece ++ separator :: rest = piece' ++ separator :: rest') : rest = rest' := by
  have back : rest <:+ piece ++ separator :: rest :=
    (suffix_edge_iff plain).mpr (List.suffix_refl rest)
  have back' : rest' <:+ piece' ++ separator :: rest' :=
    (suffix_edge_iff plain').mpr (List.suffix_refl rest')
  have short : rest <:+ rest' := (suffix_edge_iff plain).mp (same ▸ back)
  have long : rest' <:+ rest := (suffix_edge_iff plain').mp (same ▸ back')
  exact short.eq_of_length (Nat.le_antisymm short.length_le long.length_le)

/-- What begins with the separator begins at one. -/
theorem infix_edge_iff (outside : separator ∉ piece) :
    separator :: needle <:+: piece ++ separator :: rest ↔
      needle <+: rest ∨ separator :: needle <:+: rest := by
  induction piece with
  | nil => rw [List.nil_append, List.infix_cons_iff, List.cons_prefix_cons, and_iff_right rfl]
  | cons item piece ih =>
      have other : separator ≠ item := fun same => outside (same ▸ List.mem_cons_self)
      rw [List.cons_append, List.infix_cons_iff, List.cons_prefix_cons,
        or_iff_right fun front => other front.1,
        ih fun inside => outside (List.mem_cons_of_mem item inside)]

/-- What ends with the separator ends at one. -/
theorem infix_concat_edge_iff (plain : separator ∉ needle) (outside : separator ∉ piece) :
    needle ++ [separator] <:+: piece ++ separator :: rest ↔
      needle <:+ piece ∨ needle ++ [separator] <:+: rest := by
  constructor
  · intro within
    obtain ⟨before, behind, whole⟩ := within
    have split : (before ++ needle) ++ separator :: behind = piece ++ separator :: rest := by
      simpa only [List.append_assoc, List.singleton_append] using whole
    rcases List.append_eq_append_iff.mp split with ⟨between, longer, left⟩ | ⟨between, longer, left⟩
    · cases between with
      | nil =>
          rw [List.append_nil] at longer
          exact Or.inl ⟨before, longer.symm⟩
      | cons item between =>
          have item_eq : item = separator := (List.cons.inj left).1.symm
          rw [longer, item_eq] at outside
          exact absurd (List.mem_append_right _ List.mem_cons_self) outside
    · cases between with
      | nil =>
          rw [List.append_nil] at longer
          exact Or.inl ⟨before, longer⟩
      | cons item between =>
          obtain ⟨item_eq, remaining⟩ := List.cons.inj left
          have back : needle <:+ piece ++ separator :: between :=
            ⟨before, by rw [longer, ← item_eq]⟩
          obtain ⟨front, ends⟩ := (suffix_edge_iff plain).mp back
          refine Or.inr ⟨front, behind, ?_⟩
          rw [remaining, ← ends]
          change _ = (front ++ needle) ++ separator :: behind
          rw [← List.append_assoc, List.append_assoc (front ++ needle), List.singleton_append]
  · intro found
    rcases found with ⟨before, ends⟩ | within
    · exact ⟨before, rest, by rw [← ends]; simp only [List.append_assoc, List.singleton_append]⟩
    · exact within.trans ⟨piece ++ [separator], [], by
        simp only [List.append_assoc, List.singleton_append, List.append_nil]⟩

end Edge

section Joined

variable {needle first : List Item} {pieces : List (List Item)}

theorem prefix_joined_iff (plain : separator ∉ needle) :
    needle <+: joined separator first pieces ↔ needle <+: first := by
  cases pieces with
  | nil => exact Iff.rfl
  | cons second pieces => exact prefix_edge_iff plain

theorem suffix_joined_iff (plain : separator ∉ needle) :
    needle <:+ joined separator first pieces ↔ needle <:+ pieces.getLastD first := by
  induction pieces generalizing first with
  | nil => exact Iff.rfl
  | cons second pieces ih => rw [joined, suffix_edge_iff plain, ih, List.getLastD_cons]

theorem infix_joined_iff (plain : separator ∉ needle) (outside : ∀ piece ∈ first :: pieces,
    separator ∉ piece) :
    separator :: needle <:+: joined separator first pieces ↔ ∃ piece ∈ pieces, needle <+: piece := by
  induction pieces generalizing first with
  | nil =>
      constructor
      · intro within
        exact absurd (within.subset List.mem_cons_self) (outside first List.mem_cons_self)
      · intro found
        obtain ⟨_, member, _⟩ := found
        exact absurd member List.not_mem_nil
  | cons second pieces ih =>
      rw [joined, infix_edge_iff (outside first List.mem_cons_self), prefix_joined_iff plain,
        ih fun piece member => outside piece (List.mem_cons_of_mem first member),
        List.exists_mem_cons_iff]

theorem infix_concat_joined_iff (plain : separator ∉ needle) (outside : ∀ piece ∈ first :: pieces,
    separator ∉ piece) :
    needle ++ [separator] <:+: joined separator first pieces ↔
      ∃ piece ∈ (first :: pieces).dropLast, needle <:+ piece := by
  induction pieces generalizing first with
  | nil =>
      constructor
      · intro within
        exact absurd (within.subset (List.mem_append_right needle List.mem_cons_self))
          (outside first List.mem_cons_self)
      · intro found
        obtain ⟨_, member, _⟩ := found
        exact absurd member List.not_mem_nil
  | cons second pieces ih =>
      rw [joined, infix_concat_edge_iff plain (outside first List.mem_cons_self),
        ih fun piece member => outside piece (List.mem_cons_of_mem first member),
        List.dropLast_cons_cons, List.exists_mem_cons_iff]

theorem joined_ne (plain : separator ∉ needle) {second : List Item} :
    joined separator first (second :: pieces) ≠ needle := by
  intro same
  exact plain (same ▸ List.mem_append_right first List.mem_cons_self)

/-- The first piece, or all of the text when it is the only one. -/
theorem first_eq_iff (plain : separator ∉ needle) (outside : separator ∉ first) :
    joined separator first pieces = needle ∨ needle ++ [separator] <+: joined separator first pieces ↔
      first = needle := by
  cases pieces with
  | nil =>
      rw [joined, or_iff_left]
      intro front
      exact outside (front.subset (List.mem_append_right needle List.mem_cons_self))
  | cons second pieces =>
      rw [or_iff_right (joined_ne plain), joined]
      constructor
      · intro front
        have short : needle <+: first :=
          (prefix_edge_iff plain).mp ((List.prefix_append needle _).trans front)
        obtain ⟨behind, whole⟩ := front
        rw [List.append_assoc, List.singleton_append] at whole
        have long : first <+: needle := by
          have front : first <+: needle ++ separator :: behind := by
            rw [whole]
            exact List.prefix_append first _
          exact (prefix_edge_iff outside).mp front
        exact long.eq_of_length (Nat.le_antisymm long.length_le short.length_le)
      · intro same
        exact ⟨joined separator second pieces, by
          rw [same, List.append_assoc, List.singleton_append]⟩

/-- The last piece, or all of the text when it is the only one. -/
theorem last_eq_iff (plain : separator ∉ needle) (outside : ∀ piece ∈ first :: pieces,
    separator ∉ piece) :
    joined separator first pieces = needle ∨ separator :: needle <:+ joined separator first pieces ↔
      pieces.getLastD first = needle := by
  induction pieces generalizing first with
  | nil =>
      rw [joined, or_iff_left]
      · rfl
      · intro back
        exact outside first List.mem_cons_self (back.subset List.mem_cons_self)
  | cons second pieces ih =>
      have later := ih fun piece member => outside piece (List.mem_cons_of_mem first member)
      rw [or_iff_right (joined_ne plain), List.getLastD_cons, ← later, joined]
      constructor
      · intro back
        rcases List.suffix_or_suffix_of_suffix back (List.suffix_append first (separator :: _)) with
          short | long
        · rcases List.suffix_cons_iff.mp short with whole | inside
          · exact Or.inl (List.cons.inj whole).2.symm
          · exact Or.inr inside
        · rcases List.suffix_cons_iff.mp long with whole | inside
          · exact Or.inl (List.cons.inj whole).2
          · exact absurd (inside.subset List.mem_cons_self) plain
      · intro found
        rcases found with whole | inside
        · rw [whole]
          exact List.suffix_append first _
        · exact (inside.trans (List.suffix_cons separator _)).trans (List.suffix_append first _)

end Joined

section Split

variable [DecidableEq Item]

/-- Every text is its pieces, joined. -/
theorem exists_splitOn (separator : Item) (text : List Item) :
    ∃ first pieces, text.splitOn separator = first :: pieces ∧
      text = joined separator first pieces ∧ ∀ piece ∈ first :: pieces, separator ∉ piece := by
  induction text with
  | nil =>
      refine ⟨[], [], List.splitOn_nil separator, rfl, ?_⟩
      intro piece member
      rw [List.mem_singleton.mp member]
      exact List.not_mem_nil
  | cons item text ih =>
      obtain ⟨first, pieces, split, whole, outside⟩ := ih
      rw [List.splitOn_cons_eq_if_modifyHead, split]
      by_cases same : item = separator
      · refine ⟨[], first :: pieces, if_pos (beq_iff_eq.mpr same), ?_, ?_⟩
        · rw [same, whole]
          rfl
        · intro piece member
          rcases List.mem_cons.mp member with rfl | later
          · exact List.not_mem_nil
          · exact outside piece later
      · refine ⟨item :: first, pieces, if_neg (by simpa using same), ?_, ?_⟩
        · rw [whole]
          cases pieces <;> rfl
        · intro piece member
          rcases List.mem_cons.mp member with rfl | later
          · intro inside
            rcases List.mem_cons.mp inside with here | deeper
            · exact same here.symm
            · exact outside first List.mem_cons_self deeper
          · exact outside piece (List.mem_cons_of_mem first later)

end Split

end BackendFoundation.Text
