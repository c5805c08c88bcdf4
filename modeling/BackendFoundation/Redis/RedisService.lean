/-
The Lua scripts of RedisService, each one atomic step on the keys it is given.
A script is a function of the clock, of the slots behind its KEYS and of its
ARGV, and returns the slots it leaves together with its reply.
-/

import BackendFoundation.Redis.Slot

namespace BackendFoundation.Redis.RedisService

open Slot

/-- redis.call("get", KEYS[1]) == ARGV[1], where a missing key never matches. -/
def holds (now : Nat) (slot : Slot String) (expectedValue : String) : Bool :=
  get now slot == some expectedValue

def compareAndDelete (now : Nat) (key : Slot String) (expectedValue : String) :
    Slot String × Bool :=
  if holds now key expectedValue then (del, true) else (key, false)

def compareAndExpire (now : Nat) (key : Slot String) (expectedValue : String)
    (ttlSeconds : Nat) : Slot String × Bool :=
  if holds now key expectedValue then expire now key ttlSeconds else (key, false)

theorem compareAndDelete_of_holds {now : Nat} {key : Slot String} {expectedValue : String}
    (held : get now key = some expectedValue) :
    compareAndDelete now key expectedValue = (del, true) := by
  simp only [compareAndDelete, holds, held, beq_self_eq_true, if_true]

theorem live_compareAndDelete {now : Nat} {key : Slot String} {expectedValue : String}
    {cell : Cell String}
    (found : live now (compareAndDelete now key expectedValue).1 = some cell) :
    live now key = some cell := by
  unfold compareAndDelete at found
  split at found
  · cases found
  · exact found

/-- Extending a key keeps its value. -/
theorem live_compareAndExpire {now : Nat} {key : Slot String} {expectedValue : String}
    {ttlSeconds : Nat} {cell : Cell String}
    (found : live now (compareAndExpire now key expectedValue ttlSeconds).1 = some cell) :
    ∃ earlier, live now key = some earlier ∧ earlier.value = cell.value := by
  unfold compareAndExpire at found
  split at found
  · unfold expire at found
    split at found
    · rename_i earlier alive
      have stored := (live_some_iff.mp found).1
      cases stored
      exact ⟨earlier, alive, rfl⟩
    · exact ⟨cell, found, rfl⟩
  · exact ⟨cell, found, rfl⟩

theorem compareAndExpire_of_holds {now : Nat} {key : Slot String} {expectedValue : String}
    (ttlSeconds : Nat) (held : get now key = some expectedValue) :
    (compareAndExpire now key expectedValue ttlSeconds).2 = true := by
  obtain ⟨cell, alive, _⟩ := get_eq_some_iff.mp held
  simp only [compareAndExpire, holds, held, beq_self_eq_true, if_true, expire, alive]

theorem get_compareAndExpire (now : Nat) (key : Slot String) (expectedValue : String)
    (ttlSeconds : Nat) :
    get now (compareAndExpire now key expectedValue ttlSeconds).1 = get now key := by
  unfold compareAndExpire
  split
  · exact get_expire now key ttlSeconds
  · rfl

structure LockAndFence where
  lock : Slot String
  fence : Slot String

def acquireIdempotencyLockWithFence (now : Nat) (keys : LockAndFence)
    (lockToken : String) (lockTtlSeconds : Nat) (fenceValue : String)
    (fenceTtlSeconds : Nat) : LockAndFence × Bool :=
  match setExNx now keys.lock lockToken lockTtlSeconds with
  | (lock, true) => ({ lock := lock, fence := setEx now fenceValue fenceTtlSeconds }, true)
  | (lock, false) => ({ lock := lock, fence := keys.fence }, false)

structure ResultAndFence where
  result : Slot String
  fence : Slot String

/-- The first stored result wins; only the call that stores one clears the fence. -/
def persistIdempotencyResultBestEffort (now : Nat) (keys : ResultAndFence)
    (serializedResult : String) (resultTtlSeconds : Nat) : ResultAndFence × String :=
  match get now keys.result with
  | some existing => (keys, existing)
  | none =>
      ({ result := setEx now serializedResult resultTtlSeconds, fence := del },
        serializedResult)

def deleteIdempotencyFence (_fence : Slot String) : Slot String := del

structure IdempotencyKeys where
  lock : Slot String
  fence : Slot String
  result : Slot String

def completeIdempotency (now : Nat) (keys : IdempotencyKeys) (expectedLockToken : String)
    (serializedResult : String) (resultTtlSeconds : Nat) : IdempotencyKeys × Bool :=
  if holds now keys.lock expectedLockToken then
    ({ lock := del, fence := del, result := setEx now serializedResult resultTtlSeconds },
      true)
  else (keys, false)

end BackendFoundation.Redis.RedisService
