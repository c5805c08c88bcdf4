/-
RedisJobExecutionStore on the key of one job. Each operation is one Redis command
or one script.
-/

import BackendFoundation.Redis.RedisService

namespace BackendFoundation.Jobs.JobExecutionStore

open Redis Redis.Slot Redis.RedisService

def completed : String := "completed"
def sentAmbiguous : String := "sent-ambiguous"

/-- The token is the randomUUID that the call draws. -/
def acquire (now : Nat) (key : Slot String) (token : String) (ttlSeconds : Nat) :
    Slot String × Bool :=
  setExNx now key token ttlSeconds

def extend (now : Nat) (key : Slot String) (ownershipToken : String) (ttlSeconds : Nat) :
    Slot String × Bool :=
  compareAndExpire now key ownershipToken ttlSeconds

def complete (now : Nat) (key : Slot String) (ownershipToken : String) (ttlSeconds : Nat) :
    Slot String × Bool :=
  if holds now key ownershipToken then (setEx now completed ttlSeconds, true)
  else (key, false)

def release (now : Nat) (key : Slot String) (ownershipToken : String) : Slot String :=
  (compareAndDelete now key ownershipToken).1

def markAmbiguousSent (now : Nat) (ttlSeconds : Nat) : Slot String :=
  setEx now sentAmbiguous ttlSeconds

variable {now ttlSeconds : Nat} {key : Slot String} {token other : String}

theorem acquire_refused (refused : (acquire now key token ttlSeconds).2 = false) :
    (acquire now key token ttlSeconds).1 = key ∧ ∃ cell, live now key = some cell := by
  cases found : live now key with
  | none =>
      simp only [acquire, setExNx, found] at refused
      cases refused
  | some cell => exact ⟨by simp only [acquire, setExNx, found], cell, rfl⟩

theorem acquire_granted (granted : (acquire now key token ttlSeconds).2 = true) :
    (acquire now key token ttlSeconds).1 = setEx now token ttlSeconds := by
  cases found : live now key with
  | none => simp only [acquire, setExNx, found]
  | some cell =>
      simp only [acquire, setExNx, found] at granted
      cases granted

theorem acquire_cell {cell : Cell String}
    (stored : (acquire now key token ttlSeconds).1 = some cell) :
    key = some cell ∨ cell.value = token := by
  unfold acquire setExNx at stored
  split at stored
  · exact .inl stored
  · cases stored
    exact .inr rfl

/-- A key in use stays as it is. -/
theorem acquire_of_get {value : String} (found : get now key = some value) :
    (acquire now key token ttlSeconds).1 = key := by
  obtain ⟨cell, alive, _⟩ := get_eq_some_iff.mp found
  simp only [acquire, setExNx, alive]

theorem extend_cell {cell : Cell String}
    (stored : (extend now key token ttlSeconds).1 = some cell) :
    ∃ earlier, key = some earlier ∧ earlier.value = cell.value := by
  unfold extend compareAndExpire expire at stored
  split at stored
  · split at stored
    · rename_i earlier found
      cases stored
      exact ⟨earlier, (live_some_iff.mp found).1, rfl⟩
    · exact ⟨cell, stored, rfl⟩
  · exact ⟨cell, stored, rfl⟩

theorem extend_granted (granted : (extend now key token ttlSeconds).2 = true) :
    get now key = some token ∧
      (extend now key token ttlSeconds).1 = setEx now token ttlSeconds := by
  unfold extend compareAndExpire at granted ⊢
  split at granted
  · rename_i held
    have found := beq_iff_eq.mp held
    obtain ⟨cell, alive, rfl⟩ := get_eq_some_iff.mp found
    refine ⟨found, ?_⟩
    rw [if_pos held]
    simp only [expire, alive, setEx]
  · cases granted

theorem extend_refused (refused : (extend now key token ttlSeconds).2 = false) :
    (extend now key token ttlSeconds).1 = key := by
  unfold extend compareAndExpire expire at refused ⊢
  split
  · rename_i held
    rw [if_pos held] at refused
    split
    · rename_i alive
      rw [alive] at refused
      cases refused
    · rfl
  · rfl

theorem get_extend : get now (extend now key token ttlSeconds).1 = get now key :=
  get_compareAndExpire now key token ttlSeconds

theorem release_cell {cell : Cell String} (stored : release now key token = some cell) :
    key = some cell := by
  unfold release compareAndDelete at stored
  split at stored
  · cases stored
  · exact stored

/-- What a release leaves in the key is not its own. -/
theorem release_live {cell : Cell String} (found : live now (release now key token) = some cell) :
    live now key = some cell ∧ cell.value ≠ token := by
  unfold release compareAndDelete at found
  split at found
  · cases found
  · rename_i foreign
    refine ⟨found, ?_⟩
    rintro rfl
    exact foreign (beq_iff_eq.mpr (get_eq_some_iff.mpr ⟨cell, found, rfl⟩))

/-- A stale token releases nothing. -/
theorem release_of_get (found : get now key = some other) (different : other ≠ token) :
    release now key token = key := by
  unfold release compareAndDelete holds
  rw [found, if_neg]
  simpa using different

theorem acquire_refused_of_get {value : String} (found : get now key = some value) :
    (acquire now key token ttlSeconds).2 = false := by
  obtain ⟨cell, alive, _⟩ := get_eq_some_iff.mp found
  simp only [acquire, setExNx, alive]

theorem holds_of_get (found : get now key = some other) (different : other ≠ token) :
    holds now key token = false := by
  unfold holds
  rw [found]
  simpa using different

theorem complete_of_get (found : get now key = some other) (different : other ≠ token) :
    complete now key token ttlSeconds = (key, false) := by
  unfold complete
  rw [holds_of_get found different]
  rfl

theorem extend_of_get (found : get now key = some other) (different : other ≠ token) :
    extend now key token ttlSeconds = (key, false) := by
  unfold extend compareAndExpire
  rw [holds_of_get found different]
  rfl

end BackendFoundation.Jobs.JobExecutionStore
