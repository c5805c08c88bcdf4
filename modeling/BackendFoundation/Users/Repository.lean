/-
UserDrizzleRepository: the users table with its unique constraints, and the
statements of the repository, each one atomic.
-/

import BackendFoundation.Database.Table
import BackendFoundation.Users.User

namespace BackendFoundation.Users

open Database

structure UserRow where
  id : String
  email : String
  passwordHash : Option String
  googleSub : Option String
  roles : List String
  authVersion : Nat
deriving DecidableEq, Repr

/-- UserMapper.toDomain normalises the stored e-mail again. -/
def toDomain (toLowerCase : String → String) (row : UserRow) : Except AppError User :=
  (Email.create toLowerCase row.email).map fun email =>
    { id := row.id
      email := email
      passwordHash := row.passwordHash
      googleSub := row.googleSub
      roles := row.roles
      authVersion := row.authVersion }

/-- UserMapper.toPersistence -/
def toPersistence (user : User) : UserRow :=
  { id := user.id
    email := user.email.value
    passwordHash := user.passwordHash
    googleSub := user.googleSub
    roles := user.roles
    authVersion := user.authVersion }

theorem toDomain_eq {toLowerCase : String → String} {row : UserRow} {user : User}
    (read : toDomain toLowerCase row = .ok user) :
    user.id = row.id ∧ user.roles = row.roles ∧ user.authVersion = row.authVersion := by
  unfold toDomain at read
  cases created : Email.create toLowerCase row.email with
  | error error =>
      rw [created] at read
      cases read
  | ok email =>
      rw [created] at read
      cases read
      exact ⟨rfl, rfl, rfl⟩

structure UserTable where
  table : Table UserRow String UserRow.id
  emailUnique : table.UniqueOn fun row => some row.email
  googleSubUnique : table.UniqueOn UserRow.googleSub

inductive RepositoryError
  | duplicateRecord
  | recordNotFound
deriving DecidableEq, Repr

namespace UserTable

def single (row : UserRow) : UserTable :=
  { table :=
      { rows := [row]
        primaryKey := List.nodup_singleton _ }
    emailUnique := by
      intro first member second member'
      rw [List.mem_singleton.mp member, List.mem_singleton.mp member']
      exact fun _ _ _ => rfl
    googleSubUnique := by
      intro first member second member'
      rw [List.mem_singleton.mp member, List.mem_singleton.mp member']
      exact fun _ _ _ => rfl }

def findById (users : UserTable) (id : String) : Option UserRow :=
  users.table.rows.find? fun row => row.id == id

def findByEmail (users : UserTable) (email : String) : Option UserRow :=
  users.table.rows.find? fun row => row.email == email

def findByGoogleSub (users : UserTable) (googleSub : String) : Option UserRow :=
  users.table.rows.find? fun row => row.googleSub == some googleSub

/-- The row violates a unique constraint against another one. -/
def conflicts (data other : UserRow) : Bool :=
  other.email == data.email || (other.googleSub == data.googleSub && data.googleSub.isSome)

def insert (users : UserTable) (data : UserRow) : Except RepositoryError UserTable :=
  if conflict : ∃ other ∈ users.table.rows, conflicts data other = true then
    .error .duplicateRecord
  else
    match stored : users.table.insert data with
    | none => .error .duplicateRecord
    | some table =>
        .ok
          { table := table
            emailUnique := by
              refine users.emailUnique.insert ?_ stored
              intro other member value here there
              cases here
              exact conflict ⟨other, member, by simp [conflicts, Option.some.inj there]⟩
            googleSubUnique := by
              refine users.googleSubUnique.insert ?_ stored
              intro other member value here there
              exact conflict ⟨other, member, by simp [conflicts, here, there]⟩ }

theorem byId_single {id : String} (row other : UserRow) (here : (row.id == id) = true)
    (there : (other.id == id) = true) : row.id = other.id :=
  (beq_iff_eq.mp here).trans (beq_iff_eq.mp there).symm

def updateAssignment (data : UserRow) : Assignment UserRow.id :=
  { set := fun row =>
      { row with
        email := data.email
        passwordHash := data.passwordHash
        googleSub := data.googleSub
        roles := data.roles
        authVersion := data.authVersion }
    keepsKey := fun _ => rfl }

/-- The whole row is written, from the entity that was read earlier. -/
def update (users : UserTable) (data : UserRow) : Except RepositoryError UserTable :=
  if (users.findById data.id).isNone then .error .recordNotFound
  else if conflict : ∃ other ∈ users.table.rows,
      other.id ≠ data.id ∧ conflicts data other = true then
    .error .duplicateRecord
  else
    .ok
      { table := users.table.update (fun row => row.id == data.id) (updateAssignment data)
        emailUnique := by
          apply users.emailUnique.update byId_single
          intro row _ _ other member unselected value here there
          cases here
          have same : other.email = data.email := Option.some.inj there
          exact conflict ⟨other, member, by simpa using unselected, by simp [conflicts, same]⟩
        googleSubUnique := by
          apply users.googleSubUnique.update byId_single
          intro row _ _ other member unselected value here there
          change data.googleSub = some value at here
          exact conflict ⟨other, member, by simpa using unselected,
            by simp [conflicts, here, there]⟩ }

def incrementAssignment : Assignment UserRow.id :=
  { set := fun row => { row with authVersion := row.authVersion + 1 }
    keepsKey := fun _ => rfl }

/-- SET auth_version = auth_version + 1 -/
def incrementAuthVersion (users : UserTable) (userId : String) :
    Except RepositoryError (UserTable × Nat) :=
  match users.findById userId with
  | none => .error .recordNotFound
  | some row =>
      .ok
        ({ table := users.table.update (fun row => row.id == userId) incrementAssignment
           emailUnique := users.emailUnique.update_other fun _ => rfl
           googleSubUnique := users.googleSubUnique.update_other fun _ => rfl },
          row.authVersion + 1)

/-- The stored auth_version. -/
def authVersion (users : UserTable) (id : String) : Option Nat :=
  (users.findById id).map UserRow.authVersion

/-- The stored google_sub, none also for a user that does not exist. -/
def googleSub (users : UserTable) (id : String) : Option String :=
  (users.findById id).bind UserRow.googleSub

variable {users after : UserTable} {data : UserRow}

theorem id_of_findById {id : String} {row : UserRow} (found : users.findById id = some row) :
    row.id = id := by
  unfold findById at found
  have selected := List.find?_some found
  exact beq_iff_eq.mp selected

theorem rows_insert (inserted : users.insert data = .ok after) :
    after.table.rows = data :: users.table.rows ∧ data.id ∉ users.table.rows.map UserRow.id ∧
      ∀ other ∈ users.table.rows, conflicts data other = false := by
  unfold insert at inserted
  split at inserted
  · cases inserted
  · rename_i free
    split at inserted
    · cases inserted
    · rename_i table stored
      cases inserted
      obtain ⟨rows, absent⟩ := Table.rows_insert stored
      refine ⟨rows, absent, ?_⟩
      intro other member
      exact Bool.eq_false_iff.mpr fun conflict => free ⟨other, member, conflict⟩

theorem insert_of_free (absent : ∀ other ∈ users.table.rows, data.id ≠ other.id)
    (free : ∀ other ∈ users.table.rows, conflicts data other = false) :
    ∃ after, users.insert data = .ok after := by
  obtain ⟨table, stored⟩ := Table.insert_of_absent absent
  unfold insert
  split
  · rename_i conflict
    obtain ⟨other, member, conflicting⟩ := conflict
    rw [free other member] at conflicting
    cases conflicting
  · split
    · rename_i failed
      rw [stored] at failed
      cases failed
    · exact ⟨_, rfl⟩

theorem table_update (updated : users.update data = .ok after) :
    after.table = users.table.update (fun row => row.id == data.id) (updateAssignment data) := by
  unfold update at updated
  split at updated
  · cases updated
  · split at updated
    · cases updated
    · cases updated
      rfl

theorem findById_update (updated : users.update data = .ok after) (id : String) :
    after.findById id = (users.findById id).map fun row =>
      if row.id == data.id then (updateAssignment data).set row else row := by
  unfold findById
  rw [table_update updated]
  exact users.table.find?_update _ _ id

theorem findById_increment {userId : String} {version : Nat}
    (incremented : users.incrementAuthVersion userId = .ok (after, version)) (id : String) :
    after.findById id = (users.findById id).map fun row =>
      if row.id == userId then incrementAssignment.set row else row := by
  unfold incrementAuthVersion at incremented
  split at incremented
  · cases incremented
  · cases incremented
    exact users.table.find?_update _ _ id

theorem findById_insert (inserted : users.insert data = .ok after) (id : String) :
    users.findById data.id = none ∧
      after.findById id = if data.id = id then some data else users.findById id := by
  obtain ⟨rows, absent, _⟩ := rows_insert inserted
  constructor
  · refine List.find?_eq_none.mpr ?_
    intro row member selected
    apply absent
    rw [← beq_iff_eq.mp selected]
    exact List.mem_map_of_mem member
  · unfold findById
    rw [rows, List.find?_cons]
    by_cases same : data.id = id
    · rw [if_pos same, same, beq_self_eq_true]
    · rw [if_neg same, beq_eq_false_iff_ne.mpr same]

theorem authVersion_update (updated : users.update data = .ok after) (id : String) :
    after.authVersion id =
      (users.authVersion id).map fun version =>
        if id = data.id then data.authVersion else version := by
  unfold authVersion
  rw [findById_update updated]
  cases found : users.findById id with
  | none => rfl
  | some row =>
      rw [← id_of_findById found]
      by_cases same : row.id = data.id <;> simp [same, updateAssignment]

/-- An update that succeeds has found its row. -/
theorem present_of_update (updated : users.update data = .ok after) :
    users.authVersion data.id ≠ none := by
  unfold update at updated
  split at updated
  · cases updated
  · rename_i present
    simpa [authVersion] using present

theorem present_of_increment {userId : String} {returned : Nat}
    (incremented : users.incrementAuthVersion userId = .ok (after, returned)) :
    users.authVersion userId ≠ none := by
  unfold incrementAuthVersion at incremented
  split at incremented
  · cases incremented
  · rename_i row found
    simp [authVersion, found]

theorem authVersion_increment {userId : String} {returned : Nat}
    (incremented : users.incrementAuthVersion userId = .ok (after, returned)) (id : String) :
    after.authVersion id =
      (users.authVersion id).map fun version =>
        if id = userId then version + 1 else version := by
  unfold authVersion
  rw [findById_increment incremented]
  cases found : users.findById id with
  | none => rfl
  | some row =>
      rw [← id_of_findById found]
      by_cases same : row.id = userId <;> simp [same, incrementAssignment]

theorem authVersion_insert (inserted : users.insert data = .ok after) (id : String) :
    users.authVersion data.id = none ∧
      after.authVersion id =
        if data.id = id then some data.authVersion else users.authVersion id := by
  obtain ⟨absent, found⟩ := findById_insert inserted id
  unfold authVersion
  rw [absent, found]
  refine ⟨rfl, ?_⟩
  split <;> rfl

/-- The primary key finds the row that holds it. -/
theorem findById_of_mem {row : UserRow} (member : row ∈ users.table.rows) :
    users.findById row.id = some row := by
  cases found : users.findById row.id with
  | none =>
      have absent := List.find?_eq_none.mp found row member
      simp at absent
  | some other =>
      have same := id_of_findById found
      exact congrArg some (users.table.unique (List.mem_of_find?_eq_some found) member same)

theorem mem_of_findById {id : String} {row : UserRow} (found : users.findById id = some row) :
    row ∈ users.table.rows :=
  List.mem_of_find?_eq_some found

theorem mem_of_findByEmail {email : String} {row : UserRow}
    (found : users.findByEmail email = some row) : row ∈ users.table.rows ∧ row.email = email := by
  refine ⟨List.mem_of_find?_eq_some found, ?_⟩
  have selected := List.find?_some found
  exact beq_iff_eq.mp selected

theorem googleSub_eq_some {id sub : String} :
    users.googleSub id = some sub ↔
      ∃ row ∈ users.table.rows, row.id = id ∧ row.googleSub = some sub := by
  constructor
  · intro stored
    obtain ⟨row, found, linked⟩ := Option.bind_eq_some_iff.mp stored
    exact ⟨row, mem_of_findById found, id_of_findById found, linked⟩
  · intro given
    obtain ⟨row, member, rfl, linked⟩ := given
    exact Option.bind_eq_some_iff.mpr ⟨row, findById_of_mem member, linked⟩

theorem googleSub_of_findByGoogleSub {sub : String} {row : UserRow}
    (found : users.findByGoogleSub sub = some row) : users.googleSub row.id = some sub := by
  have selected := List.find?_some found
  exact googleSub_eq_some.mpr
    ⟨row, List.mem_of_find?_eq_some found, rfl, beq_iff_eq.mp selected⟩

/-- A subject is linked to one user at most. -/
theorem googleSub_injective {id other sub : String} (here : users.googleSub id = some sub)
    (there : users.googleSub other = some sub) : id = other := by
  obtain ⟨row, member, rfl, linked⟩ := googleSub_eq_some.mp here
  obtain ⟨row', member', rfl, linked'⟩ := googleSub_eq_some.mp there
  exact users.googleSubUnique row member row' member' sub linked linked'

theorem googleSub_update (updated : users.update data = .ok after) (id : String) :
    after.googleSub id = if id = data.id then data.googleSub else users.googleSub id := by
  unfold googleSub
  rw [findById_update updated]
  by_cases same : id = data.id
  · subst same
    have present := present_of_update updated
    unfold authVersion at present
    cases found : users.findById data.id with
    | none => simp [found] at present
    | some row =>
        have selected := id_of_findById found
        simp [selected, updateAssignment]
  · rw [if_neg same]
    cases found : users.findById id with
    | none => rfl
    | some row =>
        have unselected : row.id ≠ data.id := by rwa [id_of_findById found]
        simp [unselected]

theorem googleSub_increment {userId : String} {returned : Nat}
    (incremented : users.incrementAuthVersion userId = .ok (after, returned)) (id : String) :
    after.googleSub id = users.googleSub id := by
  unfold googleSub
  rw [findById_increment incremented]
  cases users.findById id with
  | none => rfl
  | some row =>
      change (if row.id == userId then incrementAssignment.set row else row).googleSub =
        row.googleSub
      split <;> rfl

theorem googleSub_insert (inserted : users.insert data = .ok after) (id : String) :
    users.googleSub data.id = none ∧
      after.googleSub id = if data.id = id then data.googleSub else users.googleSub id := by
  obtain ⟨absent, found⟩ := findById_insert inserted id
  unfold googleSub
  rw [absent, found]
  refine ⟨rfl, ?_⟩
  split <;> rfl

theorem googleSub_kept_of_insert (inserted : users.insert data = .ok after) {id sub : String}
    (stored : users.googleSub id = some sub) : after.googleSub id = some sub := by
  obtain ⟨absent, found⟩ := googleSub_insert inserted id
  rw [found, if_neg]
  · exact stored
  · intro same
    rw [same, stored] at absent
    cases absent

end UserTable

end BackendFoundation.Users
