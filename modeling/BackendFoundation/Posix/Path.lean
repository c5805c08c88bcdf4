/-
POSIX paths as node:path computes with them: resolve, relative, isAbsolute and dirname.

A text is split at its separators and the segments are walked one by one. What is left is
a list of names, and on names "inside" is a question about prefixes.
-/

import Mathlib.Data.List.DropRight

namespace BackendFoundation.Posix

/-- What stands between two separators. -/
abbrev Segment := List Char

structure IsName (segment : Segment) : Prop where
  nonempty : segment ≠ []
  notHere : segment ≠ ['.']
  notParent : segment ≠ ['.', '.']
  separated : '/' ∉ segment

def segments (path : String) : List Segment :=
  path.toList.splitOn '/'

def join (names : List Segment) : String :=
  String.ofList (['/'].intercalate names)

/-- A normalised absolute path, by its names. -/
@[ext] structure AbsolutePath where
  names : List Segment
  normal : ∀ name ∈ names, IsName name

def AbsolutePath.text (path : AbsolutePath) : String :=
  "/" ++ join path.names

/-- Below the root, and not the root itself. -/
def AbsolutePath.Inside (path root : AbsolutePath) : Prop :=
  ∃ inner, inner ≠ [] ∧ path.names = root.names ++ inner

def isAbsolute (path : String) : Bool :=
  path.toList.head? == some '/'

/-- One segment of normalizeString. Nothing is above the top directory. -/
def enter (names : List Segment) (segment : Segment) : List Segment :=
  if segment = [] ∨ segment = ['.'] then names
  else if segment = ['.', '.'] then names.dropLast
  else names ++ [segment]

def walk (names : List Segment) (path : List Segment) : List Segment :=
  path.foldl enter names

theorem separated_of_mem_segments {path : String} {segment : Segment}
    (member : segment ∈ segments path) : '/' ∉ segment := by
  unfold segments at member
  generalize path.toList = characters at member
  induction characters generalizing segment with
  | nil =>
      rw [List.splitOn_nil, List.mem_singleton] at member
      subst member
      exact List.not_mem_nil
  | cons character rest ih =>
      rw [List.splitOn_cons_eq_if_modifyHead] at member
      split at member
      · cases List.mem_cons.mp member with
        | inl first =>
            subst first
            exact List.not_mem_nil
        | inr later => exact ih later
      · rename_i other
        obtain ⟨head, tail, parts⟩ := List.exists_cons_of_ne_nil (List.splitOn_ne_nil '/' rest)
        rw [parts, List.modifyHead_cons] at member
        rw [parts] at ih
        cases List.mem_cons.mp member with
        | inl first =>
            subst first
            intro inside
            cases List.mem_cons.mp inside with
            | inl same => exact other (beq_iff_eq.mpr same.symm)
            | inr deeper => exact ih List.mem_cons_self deeper
        | inr later => exact ih (List.mem_cons_of_mem head later)

theorem normal_enter {names : List Segment} (normal : ∀ name ∈ names, IsName name)
    {segment : Segment} (separated : '/' ∉ segment) :
    ∀ name ∈ enter names segment, IsName name := by
  intro name member
  unfold enter at member
  split at member
  · exact normal name member
  · rename_i kept
    split at member
    · exact normal name (List.dropLast_subset names member)
    · rename_i below
      cases List.mem_append.mp member with
      | inl earlier => exact normal name earlier
      | inr last =>
          rw [List.mem_singleton] at last
          subst last
          exact
            { nonempty := fun empty => kept (Or.inl empty)
              notHere := fun here => kept (Or.inr here)
              notParent := below
              separated := separated }

theorem normal_walk {names : List Segment} (normal : ∀ name ∈ names, IsName name)
    {path : List Segment} (separated : ∀ segment ∈ path, '/' ∉ segment) :
    ∀ name ∈ walk names path, IsName name := by
  induction path generalizing names with
  | nil => exact normal
  | cons segment rest ih =>
      have entered := normal_enter normal (separated segment List.mem_cons_self)
      exact ih entered fun later member => separated later (List.mem_cons_of_mem segment member)

theorem enter_name (names : List Segment) {name : Segment} (isName : IsName name) :
    enter names name = names ++ [name] := by
  unfold enter
  rw [if_neg, if_neg isName.notParent]
  intro skipped
  cases skipped with
  | inl empty => exact isName.nonempty empty
  | inr here => exact isName.notHere here

theorem walk_names (names : List Segment) {path : List Segment}
    (normal : ∀ name ∈ path, IsName name) : walk names path = names ++ path := by
  induction path generalizing names with
  | nil => exact (List.append_nil names).symm
  | cons name rest ih =>
      have later : ∀ other ∈ rest, IsName other := fun other member =>
        normal other (List.mem_cons_of_mem name member)
      change walk (enter names name) rest = names ++ name :: rest
      rw [enter_name names (normal name List.mem_cons_self), ih _ later, List.append_assoc]
      rfl

theorem segments_join {names : List Segment} (separated : ∀ name ∈ names, '/' ∉ name)
    (nonempty : names ≠ []) : segments (join names) = names := by
  unfold segments join
  rw [String.toList_ofList]
  exact List.splitOn_intercalate '/' separated nonempty

theorem segments_append (first second : String) :
    segments (first ++ "/" ++ second) = segments first ++ segments second := by
  unfold segments
  rw [String.toList_append, String.toList_append, List.append_assoc]
  exact List.splitOn_append_cons_self _ _

theorem walk_append (names first second : List Segment) :
    walk names (first ++ second) = walk (walk names first) second :=
  List.foldl_append

namespace AbsolutePath

/-- The top directory. -/
def top : AbsolutePath :=
  { names := []
    normal := List.forall_mem_nil _ }

/-- Where a path leads that starts in the directory. -/
def follow (directory : AbsolutePath) (path : String) : AbsolutePath :=
  { names := walk directory.names (segments path)
    normal := normal_walk directory.normal fun _ => separated_of_mem_segments }

theorem follow_empty (directory : AbsolutePath) : directory.follow "" = directory :=
  rfl

theorem follow_append (directory : AbsolutePath) (first second : String) :
    directory.follow (first ++ "/" ++ second) = (directory.follow first).follow second := by
  ext1
  change walk directory.names (segments (first ++ "/" ++ second)) = _
  rw [segments_append, walk_append]
  rfl

theorem follow_join (directory : AbsolutePath) {names : List Segment}
    (normal : ∀ name ∈ names, IsName name) :
    (directory.follow (join names)).names = directory.names ++ names := by
  by_cases empty : names = []
  · subst empty
    exact (List.append_nil _).symm
  · change walk directory.names (segments (join names)) = _
    rw [segments_join (fun name member => (normal name member).separated) empty,
      walk_names _ normal]

/-- A normalised path is read back from its text. -/
theorem top_follow_text (path : AbsolutePath) : top.follow path.text = path := by
  have apart : top.follow path.text = (top.follow "").follow (join path.names) :=
    follow_append top "" (join path.names)
  ext1
  rw [apart, follow_empty, follow_join top path.normal]
  rfl

theorem text_injective {path other : AbsolutePath} (same : path.text = other.text) :
    path = other := by
  rw [← top_follow_text path, same, top_follow_text]

@[simp] theorem isAbsolute_text (path : AbsolutePath) : isAbsolute path.text = true := by
  simp [isAbsolute, text]

theorem not_inside_self (path : AbsolutePath) : ¬ path.Inside path := by
  intro inside
  obtain ⟨inner, nonempty, names⟩ := inside
  exact nonempty (List.append_right_eq_self.mp names.symm)

end AbsolutePath

/-- process.cwd(). -/
structure WorkingDirectory where
  path : String
  absolute : isAbsolute path = true

/-- The arguments from the last one back to the first that makes the path absolute. -/
def resolved (cwd : WorkingDirectory) : List String → String → String
  | [], path => cwd.path ++ "/" ++ path
  | argument :: earlier, path =>
      if argument = "" then resolved cwd earlier path
      else if isAbsolute argument then argument ++ "/" ++ path
      else resolved cwd earlier (argument ++ "/" ++ path)

def resolve (cwd : WorkingDirectory) (arguments : List String) : String :=
  (AbsolutePath.top.follow (resolved cwd arguments.reverse "")).text

/-- The names of the two paths after the last common directory: up, and then down. -/
def relativeNames : List Segment → List Segment → List Segment
  | name :: source, other :: target =>
      if name = other then relativeNames source target
      else List.replicate (source.length + 1) ['.', '.'] ++ other :: target
  | source, target => List.replicate source.length ['.', '.'] ++ target

def relative (cwd : WorkingDirectory) (source target : String) : String :=
  join (relativeNames (AbsolutePath.top.follow (resolve cwd [source])).names
    (AbsolutePath.top.follow (resolve cwd [target])).names)

/-- The path up to its last separator, where trailing separators do not count. -/
def dirname (path : String) : String :=
  match path.toList with
  | [] => "."
  | first :: rest =>
      let body := rest.rdropWhile (· == '/')
      let parent := body.rdropWhile (· != '/')
      if parent = [] then (if first = '/' then "/" else ".")
      else if first = '/' ∧ parent.length = 1 then "//"
      else String.ofList (first :: parent.dropLast)

/-- Going on from a directory, or from the top when the path is absolute. -/
def AbsolutePath.change (directory : AbsolutePath) (path : String) : AbsolutePath :=
  if isAbsolute path then top.follow path else directory.follow path

theorem follow_resolved (cwd : WorkingDirectory) (arguments : List String) (path : String) :
    AbsolutePath.top.follow (resolved cwd arguments path) =
      (arguments.foldr (fun argument directory => directory.change argument)
        (AbsolutePath.top.follow cwd.path)).follow path := by
  induction arguments generalizing path with
  | nil => exact AbsolutePath.follow_append AbsolutePath.top cwd.path path
  | cons argument earlier ih =>
      rw [List.foldr_cons]
      unfold resolved
      split
      · rename_i empty
        subst empty
        exact ih path
      · split
        · rename_i absolute
          rw [AbsolutePath.follow_append, AbsolutePath.change, if_pos absolute]
        · rename_i inner
          rw [ih, AbsolutePath.follow_append, AbsolutePath.change, if_neg inner]

/-- resolve goes through its arguments as cd does. -/
theorem resolve_eq_text (cwd : WorkingDirectory) (arguments : List String) :
    resolve cwd arguments =
      (arguments.foldl AbsolutePath.change (AbsolutePath.top.follow cwd.path)).text := by
  unfold resolve
  rw [follow_resolved, AbsolutePath.follow_empty, List.foldr_reverse]

theorem AbsolutePath.change_text (directory path : AbsolutePath) :
    directory.change path.text = path := by
  rw [change, if_pos path.isAbsolute_text, path.top_follow_text]

theorem resolve_text (cwd : WorkingDirectory) (path : AbsolutePath) :
    resolve cwd [path.text] = path.text := by
  rw [resolve_eq_text, List.foldl_cons, List.foldl_nil, AbsolutePath.change_text]

theorem resolve_change (cwd : WorkingDirectory) (root : AbsolutePath) (path : String) :
    resolve cwd [root.text, path] = (root.change path).text := by
  rw [resolve_eq_text, List.foldl_cons, List.foldl_cons, List.foldl_nil, AbsolutePath.change_text]

theorem relative_text (cwd : WorkingDirectory) (source target : AbsolutePath) :
    relative cwd source.text target.text = join (relativeNames source.names target.names) := by
  unfold relative
  rw [resolve_text, resolve_text, source.top_follow_text, target.top_follow_text]

theorem relativeNames_append (source inner : List Segment) :
    relativeNames source (source ++ inner) = inner := by
  induction source with
  | nil => exact List.nil_append inner
  | cons name rest ih =>
      rw [List.cons_append, relativeNames, if_pos rfl]
      exact ih

/-- Out of a directory one has to go up first. -/
theorem head_relativeNames {source target : List Segment}
    (outside : ∀ inner, target ≠ source ++ inner) :
    (relativeNames source target).head? = some ['.', '.'] := by
  induction source generalizing target with
  | nil => exact absurd rfl (outside target)
  | cons name rest ih =>
      cases target with
      | nil => rfl
      | cons other later =>
          unfold relativeNames
          split
          · rename_i same
            subst same
            apply ih
            intro inner prolonged
            exact outside inner (congrArg (List.cons name) prolonged)
          · rfl

/-- Segments that a joined text shows as they are. -/
structure Plain (names : List Segment) : Prop where
  nonempty : ∀ name ∈ names, name ≠ []
  separated : ∀ name ∈ names, '/' ∉ name

theorem plain_relativeNames {source target : List Segment}
    (normal : ∀ name ∈ target, IsName name) : Plain (relativeNames source target) := by
  have shown : ∀ name ∈ relativeNames source target, name = ['.', '.'] ∨ name ∈ target := by
    intro name member
    induction source, target using relativeNames.induct with
    | case1 source other target ih =>
        rw [relativeNames, if_pos rfl] at member
        have later := ih (fun each inside => normal each (List.mem_cons_of_mem other inside)) member
        exact later.imp_right (List.mem_cons_of_mem other)
    | case2 first source other target different =>
        rw [relativeNames, if_neg different] at member
        exact (List.mem_append.mp member).imp_left List.eq_of_mem_replicate
    | case3 source target finished =>
        rw [relativeNames] at member
        · exact (List.mem_append.mp member).imp_left List.eq_of_mem_replicate
        · exact finished
  constructor
  · intro name member
    cases shown name member with
    | inl up => simp [up]
    | inr down => exact (normal name down).nonempty
  · intro name member
    cases shown name member with
    | inl up => simp [up]
    | inr down => exact (normal name down).separated

theorem join_eq_empty {names : List Segment} (plain : Plain names) :
    join names = "" ↔ names = [] := by
  constructor
  · intro empty
    by_contra nonempty
    have parts := segments_join plain.separated nonempty
    rw [empty] at parts
    exact plain.nonempty [] (parts ▸ List.mem_singleton_self []) rfl
  · intro empty
    rw [empty]
    rfl

theorem isAbsolute_join {names : List Segment} (plain : Plain names) :
    isAbsolute (join names) = false := by
  by_cases empty : names = []
  · subst empty
    rfl
  · have parts := segments_join plain.separated empty
    apply Bool.eq_false_iff.mpr
    intro absolute
    unfold isAbsolute at absolute
    unfold segments at parts
    cases characters : (join names).toList with
    | nil =>
        rw [characters] at absolute
        cases absolute
    | cons first rest =>
        rw [characters, List.head?_cons, beq_iff_eq] at absolute
        cases absolute
        rw [characters, List.splitOn_cons_eq_if_modifyHead, if_pos (beq_self_eq_true '/')] at parts
        exact plain.nonempty [] (parts ▸ List.mem_cons_self) rfl

theorem join_cons_cons (first second : Segment) (rest : List Segment) :
    join (first :: second :: rest) = String.ofList first ++ "/" ++ join (second :: rest) := by
  apply String.toList_injective
  simp [join, List.intercalate_cons_cons]

/-- The two texts that say that a path goes up are looked for in the joined text. -/
theorem join_goes_up {names : List Segment} (plain : Plain names) :
    (join names = ".." ∨ (join names).startsWith "../" = true) ↔
      names.head? = some ['.', '.'] := by
  have up : segments ".." = [['.', '.']] := by
    decide
  constructor
  · intro text
    have nonempty : names ≠ [] := by
      intro empty
      subst empty
      revert text
      decide
    have parts := segments_join plain.separated nonempty
    cases text with
    | inl only =>
        rw [only, up] at parts
        rw [← parts]
        rfl
    | inr initial =>
        obtain ⟨rest, continued⟩ := String.startsWith_string_iff.mp initial
        have split : join names = ".." ++ "/" ++ String.ofList rest := by
          apply String.toList_injective
          rw [← continued]
          simp
        rw [split, segments_append, up] at parts
        rw [← parts]
        rfl
  · intro first
    cases names with
    | nil => cases first
    | cons name rest =>
        rw [List.head?_cons, Option.some.injEq] at first
        subst first
        cases rest with
        | nil => exact Or.inl rfl
        | cons second rest =>
            refine Or.inr (String.startsWith_string_iff.mpr ?_)
            rw [join_cons_cons, String.toList_append]
            exact List.prefix_append _ _

/-- The text of relative tells whether a path is inside another. -/
theorem inside_iff_relative (cwd : WorkingDirectory) (root path : AbsolutePath) :
    let rel := relative cwd root.text path.text
    path.Inside root ↔
      ¬ (rel = "" ∨ rel = ".." ∨ rel.startsWith "../" = true ∨ isAbsolute rel = true) := by
  intro rel
  have shown : rel = join (relativeNames root.names path.names) :=
    relative_text cwd root path
  have plain : Plain (relativeNames root.names path.names) := plain_relativeNames path.normal
  have tests : (rel = "" ∨ rel = ".." ∨ rel.startsWith "../" = true ∨ isAbsolute rel = true) ↔
      relativeNames root.names path.names = [] ∨
        (relativeNames root.names path.names).head? = some ['.', '.'] := by
    rw [shown, ← join_eq_empty plain, ← join_goes_up plain, isAbsolute_join plain]
    simp only [Bool.false_eq_true, or_false]
  rw [tests]
  constructor
  · intro inside refused
    obtain ⟨inner, nonempty, names⟩ := inside
    rw [names, relativeNames_append] at refused
    cases refused with
    | inl empty => exact nonempty empty
    | inr up =>
        have member : ['.', '.'] ∈ path.names := by
          rw [names]
          exact List.mem_append_right _ (List.mem_of_mem_head? up)
        exact (path.normal _ member).notParent rfl
  · intro passed
    by_contra outside
    by_cases below : ∃ inner, path.names = root.names ++ inner
    · obtain ⟨inner, names⟩ := below
      rw [names, relativeNames_append] at passed
      exact outside ⟨inner, fun empty => passed (Or.inl empty), names⟩
    · exact passed (Or.inr (head_relativeNames fun inner names => below ⟨inner, names⟩))

theorem join_concat {names : List Segment} (nonempty : names ≠ []) (last : Segment) :
    join (names ++ [last]) = join names ++ "/" ++ String.ofList last := by
  induction names with
  | nil => exact absurd rfl nonempty
  | cons first rest ih =>
      cases rest with
      | nil =>
          apply String.toList_injective
          simp [join, List.intercalate_cons_cons]
      | cons second rest =>
          rw [List.cons_append, List.cons_append, join_cons_cons, ← List.cons_append,
            ih (List.cons_ne_nil second rest), join_cons_cons]
          simp only [String.append_assoc]

section Dirname

variable {front last : List Char}

theorem rdropWhile_separators (nonempty : last ≠ []) (separated : '/' ∉ last) :
    (front ++ last).rdropWhile (· == '/') = front ++ last := by
  rw [List.rdropWhile_eq_self_iff]
  intro present trailing
  rw [List.getLast_append_of_ne_nil present nonempty, beq_iff_eq] at trailing
  exact separated (trailing ▸ List.getLast_mem nonempty)

theorem rdropWhile_name (separated : '/' ∉ last) :
    (front ++ last).rdropWhile (· != '/') = front.rdropWhile (· != '/') := by
  have plain : ∀ character ∈ last.reverse, (character != '/') = true := by
    intro character member
    rw [bne_iff_ne]
    intro same
    exact separated (same ▸ List.mem_reverse.mp member)
  unfold List.rdropWhile
  rw [List.reverse_append, List.dropWhile_append_of_pos plain]

end Dirname

/-- The directory of a normalised path is the path without its last name. -/
theorem dirname_text {path directory : AbsolutePath} {last : Segment}
    (names : path.names = directory.names ++ [last]) : dirname path.text = directory.text := by
  have isName : IsName last := path.normal last (by rw [names]; simp)
  have characters : path.text.toList = '/' :: (join path.names).toList := by
    unfold AbsolutePath.text
    rw [String.toList_append]
    rfl
  unfold dirname
  rw [characters]
  dsimp only
  by_cases empty : directory.names = []
  · have shown : (join path.names).toList = [] ++ last := by
      rw [names, empty]
      simp [join]
    rw [shown, rdropWhile_separators isName.nonempty isName.separated,
      rdropWhile_name isName.separated, List.rdropWhile_nil, if_pos rfl, if_pos rfl,
      AbsolutePath.text, empty]
    rfl
  · have shown : (join path.names).toList = ((join directory.names).toList ++ ['/']) ++ last := by
      rw [names, join_concat empty]
      simp only [String.toList_append, String.toList_ofList]
      rfl
    have above : (join directory.names).toList ≠ [] := by
      intro nothing
      have plain : Plain directory.names :=
        { nonempty := fun name member => (directory.normal name member).nonempty
          separated := fun name member => (directory.normal name member).separated }
      exact empty ((join_eq_empty plain).mp (String.toList_eq_nil_iff.mp nothing))
    rw [shown, rdropWhile_separators isName.nonempty isName.separated,
      rdropWhile_name isName.separated, List.rdropWhile_concat_neg _ _ _ (by simp),
      if_neg (by simp), if_neg, List.dropLast_concat]
    · apply String.toList_injective
      simp [AbsolutePath.text]
    · simp [above]

end BackendFoundation.Posix
