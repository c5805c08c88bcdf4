/-
The path policy of a release archive by the names between the separators, and that a path
which it lets pass stays in the directory it is unpacked into.
-/

import BackendFoundation.Release.ReleasePolicy
import BackendFoundation.Text.Pieces

namespace BackendFoundation.Release

open Posix Text

def parent : Segment :=
  ['.', '.']

/-- Names of the top directory that stay out of an archive. -/
def keptOut : List String :=
  [".git", "node_modules", "dist", "coverage", "storage"]

/-- What the policy asks of the names of a path. Only the first name is compared with the
directories that stay out, and only the last with the files. -/
structure Allowed (names : List Segment) : Prop where
  noParentBefore : ∀ name ∈ names, ¬ parent <+: name
  noParentBehind : ∀ name ∈ names.dropLast, ¬ parent <:+ name
  noEnvironment : names.getLastD [] ≠ ".env".toList
  onlyExample : ".env.".toList <+: names.getLastD [] → names.getLastD [] = ".env.example".toList
  notKeptOut : ∀ name ∈ keptOut, names.headD [] ≠ name.toList
  noExtension : ∀ extension ∈ forbiddenExtensions, ¬ extension.toList <:+ names.getLastD []

section Normal

theorem toList_replaceAll (value : String) (pattern substitute : Char) :
    (Storage.replaceAll value pattern substitute).toList =
      value.toList.map fun character => if character = pattern then substitute else character :=
  String.toList_map

theorem toList_normalizeArchivePath (entryPath : String) :
    (normalizeArchivePath entryPath).toList =
      (entryPath.toList.map fun character => if character = '\\' then '/' else character).dropWhile
        (· == '/') := by
  unfold normalizeArchivePath
  rw [String.toList_ofList, toList_replaceAll]

theorem normalizeArchivePath_idem (entryPath : String) :
    normalizeArchivePath (normalizeArchivePath entryPath) = normalizeArchivePath entryPath := by
  have plain : ∀ character ∈ (normalizeArchivePath entryPath).toList, character ≠ '\\' := by
    intro character member
    rw [toList_normalizeArchivePath] at member
    obtain ⟨before, _, rfl⟩ := List.mem_map.mp ((List.dropWhile_sublist _).subset member)
    split
    · decide
    · assumption
  have same : (normalizeArchivePath entryPath).toList.map
      (fun character => if character = '\\' then '/' else character) =
        (normalizeArchivePath entryPath).toList := by
    rw [List.map_congr_left fun character member => if_neg (plain character member), List.map_id']
  apply String.toList_injective
  rw [toList_normalizeArchivePath, same, toList_normalizeArchivePath, List.dropWhile_idempotent]

theorem isAbsolute_normalizeArchivePath (entryPath : String) :
    isAbsolute (normalizeArchivePath entryPath) = false := by
  unfold isAbsolute
  rw [toList_normalizeArchivePath]
  generalize entryPath.toList.map _ = characters
  have first := List.head?_dropWhile_not (· == '/') characters
  cases dropped : characters.dropWhile (· == '/') with
  | nil => rfl
  | cons character rest =>
      rw [dropped] at first
      exact first

end Normal

section Names

variable {normalized : String} {first : Segment} {names : List Segment}

theorem hasForbiddenTraversal_iff (whole : normalized.toList = joined '/' first names)
    (outside : ∀ name ∈ first :: names, '/' ∉ name)
    (normal : normalizeArchivePath normalized = normalized) :
    hasForbiddenTraversal normalized = true ↔
      (∃ name ∈ first :: names, parent <+: name) ∨
        ∃ name ∈ (first :: names).dropLast, parent <:+ name := by
  have plain : '/' ∉ parent := by decide
  have before : includes normalized "../" = true ↔
      ∃ name ∈ (first :: names).dropLast, parent <:+ name := by
    rw [includes_iff, whole]
    exact infix_concat_joined_iff plain outside
  have behind : includes normalized "/.." = true ↔ ∃ name ∈ names, parent <+: name := by
    rw [includes_iff, whole]
    exact infix_joined_iff plain outside
  have top : startsWith normalized ".." = true ↔ parent <+: first := by
    unfold startsWith
    rw [List.isPrefixOf_iff_prefix, whole]
    exact prefix_joined_iff plain
  have ending : endsWith normalized "/.." = true → includes normalized "/.." = true := by
    unfold endsWith
    rw [List.isSuffixOf_iff_suffix, includes_iff]
    exact List.IsSuffix.isInfix
  unfold hasForbiddenTraversal
  rw [normal]
  simp only [Bool.or_eq_true]
  rw [before, top, behind, List.exists_mem_cons_iff]
  constructor
  · intro found
    rcases found with ((inner | atTop) | later) | atEnd
    · exact Or.inr inner
    · exact Or.inl (Or.inl atTop)
    · exact Or.inl (Or.inr later)
    · exact Or.inl (Or.inr (behind.mp (ending atEnd)))
  · intro found
    rcases found with (atTop | later) | inner
    · exact Or.inl (Or.inl (Or.inr atTop))
    · exact Or.inl (Or.inr later)
    · exact Or.inl (Or.inl (Or.inl inner))

/-- A directory that stays out, as the path itself or as the first part of it. -/
theorem keptOut_iff (whole : normalized.toList = joined '/' first names) (outside : '/' ∉ first)
    {name front : String} (same : front.toList = name.toList ++ ['/']) (plain : '/' ∉ name.toList) :
    (normalized == name || startsWith normalized front) = true ↔ first = name.toList := by
  rw [← @first_eq_iff Char '/' name.toList first names plain outside, ← whole, Bool.or_eq_true,
    beq_iff_eq, ← String.toList_inj]
  unfold startsWith
  rw [List.isPrefixOf_iff_prefix, same]

theorem environment_iff (whole : normalized.toList = joined '/' first names)
    (outside : ∀ name ∈ first :: names, '/' ∉ name) :
    (endsWith normalized "/.env" || normalized == ".env") = true ↔
      names.getLastD first = ".env".toList := by
  rw [← @last_eq_iff Char '/' ".env".toList first names (by decide) outside, ← whole,
    Bool.or_eq_true, beq_iff_eq, ← String.toList_inj, or_comm]
  unfold endsWith
  rw [List.isSuffixOf_iff_suffix]
  rfl

theorem extension_iff (whole : normalized.toList = joined '/' first names) {extension : String}
    (member : extension ∈ forbiddenExtensions) :
    endsWith normalized extension = true ↔ extension.toList <:+ names.getLastD first := by
  have plain : '/' ∉ extension.toList := by
    revert extension
    decide
  unfold endsWith
  rw [List.isSuffixOf_iff_suffix, whole, suffix_joined_iff plain]

theorem directories_iff (whole : normalized.toList = joined '/' first names)
    (outside : '/' ∉ first) :
    ((normalized == ".git" || startsWith normalized ".git/") = true ∨
      (forbiddenDirectoryPrefixes.any fun front =>
        normalized == String.ofList front.toList.dropLast || startsWith normalized front) = true) ↔
      ∃ name ∈ keptOut, first = name.toList := by
  have shapes : ∀ front ∈ forbiddenDirectoryPrefixes,
      front.toList = front.toList.dropLast ++ ['/'] ∧ '/' ∉ front.toList.dropLast := by
    decide
  have metadata : (normalized == ".git" || startsWith normalized ".git/") = true ↔
      first = ".git".toList :=
    keptOut_iff whole outside rfl (by decide)
  have directories : (forbiddenDirectoryPrefixes.any fun front =>
      normalized == String.ofList front.toList.dropLast || startsWith normalized front) = true ↔
        ∃ front ∈ forbiddenDirectoryPrefixes, first = front.toList.dropLast := by
    rw [List.any_eq_true]
    apply exists_congr
    intro front
    apply and_congr_right
    intro member
    obtain ⟨shape, plain⟩ := shapes front member
    have named := @keptOut_iff normalized first names whole outside
      (String.ofList front.toList.dropLast) front
    rw [String.toList_ofList] at named
    exact named shape plain
  have names : keptOut.map String.toList =
      ".git".toList :: forbiddenDirectoryPrefixes.map fun front => front.toList.dropLast := rfl
  have listed : (∃ name ∈ keptOut, first = name.toList) ↔ first ∈ keptOut.map String.toList := by
    rw [List.mem_map]
    exact exists_congr fun name => and_congr_right fun _ => eq_comm
  rw [metadata, directories, listed, names, List.mem_cons, List.mem_map]
  exact or_congr_right (exists_congr fun front => and_congr_right fun _ => eq_comm)

end Names

theorem toList_fileName {normalized : String} {first : Segment} {names : List Segment}
    (split : segments normalized = first :: names) :
    (fileName normalized).toList = names.getLastD first := by
  unfold fileName
  rw [String.toList_ofList, split, List.getLastD_cons]

theorem refused_eq_false_iff {test rest : Bool} :
    (if test = true then true else rest) = false ↔ ¬ test = true ∧ rest = false := by
  cases test
  · exact ⟨fun passes => ⟨Bool.false_ne_true, passes⟩, fun passes => passes.2⟩
  · exact ⟨fun passes => Bool.noConfusion passes, fun passes => absurd rfl passes.1⟩

/-- Test by test. The name ".env.local" is refused as a file name already. -/
theorem isForbidden_eq_false_iff (entryPath : String) :
    isForbiddenArchivePath entryPath = false ↔
      Allowed (segments (normalizeArchivePath entryPath)) := by
  unfold isForbiddenArchivePath
  have normal := normalizeArchivePath_idem entryPath
  generalize normalizeArchivePath entryPath = normalized at normal
  obtain ⟨first, names, split, whole, outside⟩ := exists_splitOn '/' normalized.toList
  change segments normalized = first :: names at split
  have traversal := hasForbiddenTraversal_iff whole outside normal
  have environment := environment_iff whole outside
  have directories := directories_iff whole (outside first List.mem_cons_self)
  have extensions : (forbiddenExtensions.any fun extension => endsWith normalized extension) =
      false ↔ ∀ extension ∈ forbiddenExtensions, ¬ extension.toList <:+ names.getLastD first := by
    rw [List.any_eq_false]
    exact forall₂_congr fun extension member => not_congr (extension_iff whole member)
  have file := toList_fileName split
  have variant : (startsWith (fileName normalized) ".env." &&
      fileName normalized != ".env.example") = true ↔
        ".env.".toList <+: names.getLastD first ∧
          names.getLastD first ≠ ".env.example".toList := by
    unfold startsWith
    rw [Bool.and_eq_true, List.isPrefixOf_iff_prefix, file, bne_iff_ne, Ne, ← String.toList_inj,
      file]
  rw [refused_eq_false_iff, refused_eq_false_iff, refused_eq_false_iff, refused_eq_false_iff,
    refused_eq_false_iff, refused_eq_false_iff, traversal, environment, variant, extensions, split]
  constructor
  · intro passes
    obtain ⟨noTraversal, _, noEnvironment, noVariant, noMetadata, noDirectory, noExtension⟩ := passes
    exact
      { noParentBefore := fun name member front => noTraversal (Or.inl ⟨name, member, front⟩)
        noParentBehind := fun name member back => noTraversal (Or.inr ⟨name, member, back⟩)
        noEnvironment := by
          rw [List.getLastD_cons]
          exact noEnvironment
        onlyExample := by
          rw [List.getLastD_cons]
          intro front
          exact Classical.byContradiction fun other => noVariant ⟨front, other⟩
        notKeptOut := by
          intro name member same
          rcases directories.mpr ⟨name, member, same⟩ with metadata | directory
          · exact noMetadata metadata
          · exact noDirectory directory
        noExtension := by
          rw [List.getLastD_cons]
          exact noExtension }
  · intro allowed
    have noEnvironment := allowed.noEnvironment
    have onlyExample := allowed.onlyExample
    have noExtension := allowed.noExtension
    rw [List.getLastD_cons] at noEnvironment onlyExample noExtension
    have outsideDirectories : ¬ ∃ name ∈ keptOut, first = name.toList := by
      intro found
      obtain ⟨name, member, same⟩ := found
      exact allowed.notKeptOut name member same
    rw [← directories] at outsideDirectories
    refine ⟨?_, ?_, noEnvironment, ?_, fun metadata => outsideDirectories (Or.inl metadata),
      fun directory => outsideDirectories (Or.inr directory), noExtension⟩
    · intro found
      rcases found with ⟨name, member, front⟩ | ⟨name, member, back⟩
      · exact allowed.noParentBefore name member front
      · exact allowed.noParentBehind name member back
    · intro exact_path
      have lastName : ∀ path : String, '/' ∉ path.toList → normalized = path →
          names.getLastD first = path.toList := by
        intro path plain same
        exact (last_eq_iff plain outside).mp (Or.inl (whole ▸ congrArg String.toList same))
      unfold forbiddenExactPaths at exact_path
      rw [List.contains_iff_mem, List.mem_cons, List.mem_singleton] at exact_path
      rcases exact_path with secret | localSecret
      · exact noEnvironment (lastName _ (by decide) secret)
      · have last := lastName _ (by decide) localSecret
        rw [last] at onlyExample
        exact absurd (onlyExample (by decide)) (by decide)
    · intro found
      exact found.2 (onlyExample found.1)

section Unpacking

/-- Where nothing leads upwards, a walk only goes down. -/
theorem prefix_walk {names path : List Segment} (noParent : ∀ segment ∈ path, segment ≠ parent) :
    names <+: walk names path := by
  induction path generalizing names with
  | nil => exact List.prefix_rfl
  | cons segment path ih =>
      have later := @ih (enter names segment) fun other member =>
        noParent other (List.mem_cons_of_mem segment member)
      refine List.IsPrefix.trans ?_ later
      unfold enter
      split
      · exact List.prefix_rfl
      · change names <+: if segment = parent then names.dropLast else names ++ [segment]
        rw [if_neg (noParent segment List.mem_cons_self)]
        exact List.prefix_append names _

/-- An allowed path is unpacked to a place below the directory, or to the directory itself. -/
theorem unpacked_below (cwd : WorkingDirectory) (root : AbsolutePath) {entryPath : String}
    (allowed : isForbiddenArchivePath entryPath = false) :
    ∃ file : AbsolutePath, resolve cwd [root.text, normalizeArchivePath entryPath] = file.text ∧
      root.names <+: file.names := by
  refine ⟨root.change (normalizeArchivePath entryPath), resolve_change cwd root _, ?_⟩
  have noParent : ∀ segment ∈ segments (normalizeArchivePath entryPath), segment ≠ parent := by
    intro segment member same
    exact ((isForbidden_eq_false_iff entryPath).mp allowed).noParentBefore segment member
      (same ▸ List.prefix_rfl)
  rw [AbsolutePath.change, isAbsolute_normalizeArchivePath, if_neg Bool.false_ne_true]
  exact prefix_walk noParent

end Unpacking

end BackendFoundation.Release
