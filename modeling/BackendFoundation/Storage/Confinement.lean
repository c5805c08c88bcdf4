/-
No key leads out of the storage root: exactly the keys that resolve to a strict
descendant are accepted, and the disk is asked only about such paths. The one other path
is the directory that putObject makes for a file, which may be the root.
-/

import BackendFoundation.Storage.LocalStorageAdapter

namespace BackendFoundation.Storage

open Posix

/-- A normalised absolute path below the root, both as texts. -/
def StrictDescendant (root file : String) : Prop :=
  ∃ above below : AbsolutePath, above.text = root ∧ below.text = file ∧ below.Inside above

/-- Not blank, without NUL and not absolute. -/
structure ValidKey (key : String) : Prop where
  filled : Users.trim key ≠ ""
  withoutNul : '\x00' ∉ key.toList
  notAbsolute : isAbsolute key = false

theorem ValidKey.not_blank {key : String} (valid : ValidKey key) :
    ¬ (key = "" ∨ Users.trim key = "") := by
  intro blank
  cases blank with
  | inl empty =>
      subst empty
      exact valid.filled rfl
  | inr blank => exact valid.filled blank

theorem strictDescendant_text {root path : AbsolutePath} :
    StrictDescendant root.text path.text ↔ path.Inside root := by
  constructor
  · intro descendant
    obtain ⟨above, below, sameRoot, samePath, inside⟩ := descendant
    rw [← AbsolutePath.text_injective sameRoot, ← AbsolutePath.text_injective samePath]
    exact inside
  · intro inside
    exact ⟨root, path, rfl, rfl, inside⟩

theorem not_strictDescendant_self (path : String) : ¬ StrictDescendant path path := by
  intro descendant
  obtain ⟨above, below, sameRoot, samePath, inside⟩ := descendant
  rw [AbsolutePath.text_injective (samePath.trans sameRoot.symm)] at inside
  exact above.not_inside_self inside

/-- The directory of a file below the root is the root or below it. -/
theorem dirname_of_strictDescendant {root file : String} (below : StrictDescendant root file) :
    dirname file = root ∨ StrictDescendant root (dirname file) := by
  obtain ⟨above, path, sameRoot, samePath, inner, nonempty, names⟩ := below
  subst sameRoot samePath
  obtain ⟨front, last, parts⟩ := List.eq_nil_or_concat inner |>.resolve_left nonempty
  rw [parts, List.concat_eq_append] at names
  let directory : AbsolutePath :=
    { names := above.names ++ front
      normal := fun name member => path.normal name (by
        rw [names, ← List.append_assoc]
        exact List.mem_append_left _ member) }
  have parent : dirname path.text = directory.text :=
    dirname_text (names.trans (List.append_assoc above.names front [last]).symm)
  rw [parent]
  by_cases direct : front = []
  · left
    congr 1
    ext1
    change above.names ++ front = above.names
    rw [direct, List.append_nil]
  · exact Or.inr (strictDescendant_text.mpr ⟨front, direct, rfl⟩)

namespace LocalStorageAdapter

variable (adapter : LocalStorageAdapter) (cwd : WorkingDirectory)

/-- The key as the adapter resolves it. -/
def candidate (key : String) : String :=
  resolve cwd [adapter.storageRoot, replaceAll key '\\' '/']

/-- The text that path tests. -/
def Escapes (rel : String) : Prop :=
  rel = "" ∨ rel = ".." ∨ rel.startsWith "../" = true ∨ isAbsolute rel = true

theorem path_of_not_validKey {key : String} (invalid : ¬ ValidKey key) :
    adapter.path cwd key = .error "Invalid storage key" := by
  unfold path
  split
  · rfl
  · rename_i filled
    split
    · rfl
    · rename_i withoutNul
      split
      · rfl
      · rename_i notAbsolute
        refine absurd ?_ invalid
        exact
          { filled := fun blank => filled (Or.inr blank)
            withoutNul := withoutNul
            notAbsolute := Bool.eq_false_iff.mpr notAbsolute }

theorem path_of_escapes {key : String} (valid : ValidKey key)
    (escapes : Escapes (relative cwd adapter.storageRoot (adapter.candidate cwd key))) :
    adapter.path cwd key = .error "Storage key escapes configured root" := by
  unfold path
  rw [if_neg valid.not_blank, if_neg valid.withoutNul,
    if_neg (Bool.eq_false_iff.mp valid.notAbsolute)]
  exact if_pos escapes

theorem path_of_not_escapes {key : String} (valid : ValidKey key)
    (stays : ¬ Escapes (relative cwd adapter.storageRoot (adapter.candidate cwd key))) :
    adapter.path cwd key = .ok (adapter.candidate cwd key) := by
  unfold path
  rw [if_neg valid.not_blank, if_neg valid.withoutNul,
    if_neg (Bool.eq_false_iff.mp valid.notAbsolute)]
  exact if_neg stays

/-- The textual tests find out exactly what is not below the root. -/
theorem escapes_iff (key : String) :
    Escapes (relative cwd adapter.storageRoot (adapter.candidate cwd key)) ↔
      ¬ StrictDescendant adapter.storageRoot (adapter.candidate cwd key) := by
  obtain ⟨root, rooted⟩ := adapter.rooted
  unfold candidate
  rw [← rooted, resolve_change, strictDescendant_text]
  exact (not_iff_comm.mp (inside_iff_relative cwd root _).symm).symm

theorem path_eq_ok_iff (key file : String) :
    adapter.path cwd key = .ok file ↔
      ValidKey key ∧ file = adapter.candidate cwd key ∧
        StrictDescendant adapter.storageRoot file := by
  by_cases valid : ValidKey key
  · by_cases escapes : Escapes (relative cwd adapter.storageRoot (adapter.candidate cwd key))
    · rw [path_of_escapes adapter cwd valid escapes]
      apply iff_of_false
      · intro impossible
        cases impossible
      · intro accepted
        obtain ⟨_, same, below⟩ := accepted
        subst same
        exact (escapes_iff adapter cwd key).mp escapes below
    · rw [path_of_not_escapes adapter cwd valid escapes]
      have below := not_not.mp (mt (escapes_iff adapter cwd key).mpr escapes)
      constructor
      · intro returned
        cases returned
        exact ⟨valid, rfl, below⟩
      · intro accepted
        rw [accepted.2.1]
  · rw [path_of_not_validKey adapter cwd valid]
    apply iff_of_false
    · intro impossible
      cases impossible
    · intro accepted
      exact valid accepted.1

theorem path_accepts_iff (key : String) :
    (∃ file, adapter.path cwd key = .ok file) ↔
      ValidKey key ∧ StrictDescendant adapter.storageRoot (adapter.candidate cwd key) := by
  constructor
  · intro accepted
    obtain ⟨file, returned⟩ := accepted
    obtain ⟨valid, same, below⟩ := (path_eq_ok_iff adapter cwd key file).mp returned
    exact ⟨valid, same ▸ below⟩
  · intro acceptable
    refine ⟨adapter.candidate cwd key, ?_⟩
    rw [path_eq_ok_iff]
    exact ⟨acceptable.1, rfl, acceptable.2⟩

end LocalStorageAdapter

/-- A request to the storage gateway. -/
inductive Operation
  | putObject (input : PutObjectInput)
  | getObject (key : String)
  | deleteObject (key : String)
  | getSignedUrl (key : String)

namespace Operation

def key : Operation → String
  | putObject input => input.key
  | getObject key => key
  | deleteObject key => key
  | getSignedUrl key => key

/-- The calls that the operation makes on the disk. -/
def calls (adapter : LocalStorageAdapter) (cwd : WorkingDirectory) (disk : Disk) :
    Operation → List FileCall
  | putObject input => (adapter.putObject cwd disk input).calls
  | getObject key => (adapter.getObject cwd disk key).calls
  | deleteObject key => (adapter.deleteObject cwd disk key).calls
  | getSignedUrl key => (adapter.getSignedUrl cwd key).calls

end Operation

theorem Outcome.mem_calls_await {Result : Type} {disk : Disk} {earlier : List FileCall}
    {call made : FileCall} {rest : List FileCall → Bytes → Outcome Result}
    (member : made ∈ (Outcome.await disk earlier call rest).calls) :
    made ∈ earlier ++ [call] ∨ ∃ reply, made ∈ (rest (earlier ++ [call]) reply).calls := by
  unfold Outcome.await at member
  dsimp only at member
  split at member
  · exact Or.inl member
  · rename_i reply _
    exact Or.inr ⟨reply, member⟩

/-- The last call of an operation. -/
theorem Outcome.mem_calls_last {Result : Type} {disk : Disk} {earlier : List FileCall}
    {call made : FileCall} {result : Bytes → Result}
    (member : made ∈ (Outcome.await disk earlier call fun calls reply =>
      Outcome.returns (result reply) calls).calls) : made ∈ earlier ++ [call] := by
  cases Outcome.mem_calls_await member with
  | inl listed => exact listed
  | inr returned => exact returned.choose_spec

section Calls

variable (adapter : LocalStorageAdapter) (cwd : WorkingDirectory) (disk : Disk)

/-- Every call is about the file that path has returned, or makes its directory. -/
theorem Operation.path_of_mem_calls {operation : Operation} {call : FileCall}
    (made : call ∈ operation.calls adapter cwd disk) :
    ∃ file, adapter.path cwd operation.key = .ok file ∧
      (call.path = file ∨ call = .mkdir (dirname file)) := by
  cases operation with
  | putObject input =>
      change call ∈ (adapter.putObject cwd disk input).calls at made
      unfold LocalStorageAdapter.putObject at made
      split at made
      · cases made
      · split at made
        · cases made
        · rename_i file returned
          refine ⟨file, returned, ?_⟩
          cases Outcome.mem_calls_await made with
          | inl directory =>
              rw [List.nil_append, List.mem_singleton] at directory
              exact Or.inr directory
          | inr later =>
              obtain ⟨_, later⟩ := later
              cases List.mem_append.mp (Outcome.mem_calls_last later) with
              | inl directory => exact Or.inr (List.mem_singleton.mp directory)
              | inr content =>
                  exact Or.inl (congrArg FileCall.path (List.mem_singleton.mp content))
  | getObject key =>
      change call ∈ (adapter.getObject cwd disk key).calls at made
      unfold LocalStorageAdapter.getObject at made
      split at made
      · cases made
      · rename_i file returned
        have read : call = .readFile file := List.mem_singleton.mp (Outcome.mem_calls_last made)
        exact ⟨file, returned, Or.inl (congrArg FileCall.path read)⟩
  | deleteObject key =>
      change call ∈ (adapter.deleteObject cwd disk key).calls at made
      unfold LocalStorageAdapter.deleteObject at made
      split at made
      · cases made
      · rename_i file returned
        have removed : call = .rm file := List.mem_singleton.mp (Outcome.mem_calls_last made)
        exact ⟨file, returned, Or.inl (congrArg FileCall.path removed)⟩
  | getSignedUrl key =>
      change call ∈ (adapter.getSignedUrl cwd key).calls at made
      unfold LocalStorageAdapter.getSignedUrl at made
      split at made
      · cases made
      · cases made

theorem LocalStorageAdapter.path_of_getSignedUrl {key url : String}
    (returned : (adapter.getSignedUrl cwd key).result = .ok url) :
    url = key ∧ ∃ file, adapter.path cwd key = .ok file := by
  unfold getSignedUrl at returned
  split at returned
  · cases returned
  · rename_i file accepted
    cases returned
    exact ⟨rfl, file, accepted⟩

end Calls

/-- Only strict descendants of the root are returned, they are returned for exactly the
valid keys that resolve to one, and the operations ask the disk about nothing else but the
root itself, as a directory to make. -/
theorem storage_confined (adapter : LocalStorageAdapter) (cwd : WorkingDirectory) :
    (∀ key file, adapter.path cwd key = .ok file → StrictDescendant adapter.storageRoot file) ∧
    (∀ key, (∃ file, adapter.path cwd key = .ok file) ↔
      ValidKey key ∧ StrictDescendant adapter.storageRoot
        (resolve cwd [adapter.storageRoot, replaceAll key '\\' '/'])) ∧
    (∀ (disk : Disk) (operation : Operation), ∀ call ∈ operation.calls adapter cwd disk,
      StrictDescendant adapter.storageRoot call.path ∨
        call = .mkdir adapter.storageRoot) ∧
    (∀ key url, (adapter.getSignedUrl cwd key).result = .ok url →
      ∃ file, adapter.path cwd key = .ok file ∧ StrictDescendant adapter.storageRoot file) := by
  have confined : ∀ key file, adapter.path cwd key = .ok file →
      StrictDescendant adapter.storageRoot file := fun key file returned =>
    ((adapter.path_eq_ok_iff cwd key file).mp returned).2.2
  refine ⟨confined, adapter.path_accepts_iff cwd, ?_, ?_⟩
  · intro disk operation call made
    obtain ⟨file, returned, named⟩ := operation.path_of_mem_calls adapter cwd disk made
    have below := confined operation.key file returned
    cases named with
    | inl same => exact Or.inl (same ▸ below)
    | inr directory =>
        cases dirname_of_strictDescendant below with
        | inl root => exact Or.inr (root ▸ directory)
        | inr deeper =>
            left
            rw [directory]
            exact deeper
  · intro key url returned
    obtain ⟨_, file, accepted⟩ := adapter.path_of_getSignedUrl cwd returned
    exact ⟨file, accepted, confined key file accepted⟩

/-- A service that was started in /srv and keeps its files in ./storage. -/
def service : WorkingDirectory :=
  { path := "/srv"
    absolute := rfl }

def serviceStorage : LocalStorageAdapter :=
  { storageRoot := resolve service ["./storage"]
    rooted := ⟨_, rfl⟩ }

example : LocalStorageAdapter.create service (.localStorage "./storage") = .ok serviceStorage :=
  rfl

/-- To store a file directly in the root, putObject makes the root. -/
theorem putObject_makes_root :
    serviceStorage.path service "a.txt" = .ok "/srv/storage/a.txt" ∧
    ∃ call ∈ Operation.calls serviceStorage service (fun _ _ => .ok [])
        (.putObject
          { key := "a.txt"
            body := .buffer [104, 105] }),
      call.path = serviceStorage.storageRoot ∧
        ¬ StrictDescendant serviceStorage.storageRoot call.path := by
  refine ⟨by decide +kernel, .mkdir "/srv/storage", by decide +kernel, by decide +kernel, ?_⟩
  have root : serviceStorage.storageRoot = "/srv/storage" := by decide +kernel
  rw [root]
  exact not_strictDescendant_self "/srv/storage"

example : serviceStorage.path service "..x" = .ok "/srv/storage/..x" := by
  decide +kernel

example : serviceStorage.path service "a/..\\b/./" = .ok "/srv/storage/b" := by
  decide +kernel

end BackendFoundation.Storage
