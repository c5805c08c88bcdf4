/-
Which keys can meet. A session id from a cookie is any string, while the ids that
create draws have no colon in them.
-/

import BackendFoundation.Sessions.SessionStore

namespace BackendFoundation.Sessions

open Redis

theorem sessionKey_injective : Function.Injective sessionKey := by
  intro first second same
  exact String.append_right_inj "sessions:" |>.mp same

/-- The index of a user lies where a session of a peculiar id would. -/
theorem userIndexKey_eq (userId : String) :
    userIndexKey userId = sessionKey ("user:" ++ userId) := by
  unfold userIndexKey sessionKey
  rw [← String.append_assoc]
  rfl

theorem userIndexKey_injective : Function.Injective userIndexKey := by
  intro first second same
  exact String.append_right_inj "sessions:user:" |>.mp same

theorem sessionKey_ne_userIndexKey {sessionId : String} (plain : ':' ∉ sessionId.toList)
    (userId : String) : sessionKey sessionId ≠ userIndexKey userId := by
  intro same
  rw [userIndexKey_eq] at same
  rw [sessionKey_injective same] at plain
  simp at plain

/-- The rest of the controllers' counters lie elsewhere. -/
def KeyPrefix.sessionId (keyPrefix : KeyPrefix) (ip : String) : Option String :=
  match keyPrefix with
  | .sessionsList => some ("list:" ++ ip)
  | .sessionsDelete => some ("delete:" ++ ip)
  | _ => none

theorem counterKey_of_sessionId {keyPrefix : KeyPrefix} {ip sessionId : String}
    (found : keyPrefix.sessionId ip = some sessionId) :
    keyPrefix.counterKey ip = sessionKey sessionId := by
  unfold KeyPrefix.sessionId at found
  unfold KeyPrefix.counterKey sessionKey
  split at found <;> cases found <;> rw [← String.append_assoc] <;> rfl

theorem head_append {front : String} {character : Char}
    (head : front.toList.head? = some character) (rest : String) :
    (front ++ rest).toList.head? = some character := by
  rw [String.toList_append, List.head?_append, head]
  rfl

theorem head_sessionKey (sessionId : String) :
    (sessionKey sessionId).toList.head? = some 's' :=
  head_append (by decide) sessionId

theorem FeatureKey.head (feature : FeatureKey) :
    ∃ character, feature.key.toList.head? = some character ∧ character ≠ 's' := by
  cases feature with
  | idempotencyResult | idempotencyLock | idempotencyFence =>
      exact ⟨'i', head_append (head_append (head_append (head_append (by decide) _) _) _) _,
        by decide⟩
  | jobExecution => exact ⟨'j', head_append (by decide) _, by decide⟩
  | distributedLock => exact ⟨'l', head_append (by decide) _, by decide⟩
  | passwordResetToken | passwordResetUser =>
      exact ⟨'p', head_append (by decide) _, by decide⟩
  | googleOAuthState => exact ⟨'g', head_append (by decide) _, by decide⟩
  | refreshToken | refreshFamily | userFamilyIndex | revokedAccessToken =>
      exact ⟨'a', head_append (by decide) _, by decide⟩

theorem sessionId_of_counterKey {keyPrefix : KeyPrefix} {ip sessionId : String}
    (same : keyPrefix.counterKey ip = sessionKey sessionId) :
    keyPrefix.sessionId ip = some sessionId := by
  cases found : keyPrefix.sessionId ip with
  | some other =>
      rw [counterKey_of_sessionId found] at same
      rw [sessionKey_injective same]
  | none =>
      have head := head_sessionKey sessionId
      rw [← same] at head
      cases keyPrefix <;> simp [KeyPrefix.sessionId] at found <;>
        simp [KeyPrefix.counterKey, KeyPrefix.value] at head

theorem counterKey_ne_sessionKey {sessionId : String} (plain : ':' ∉ sessionId.toList)
    (keyPrefix : KeyPrefix) (ip : String) :
    keyPrefix.counterKey ip ≠ sessionKey sessionId := by
  intro same
  have found := sessionId_of_counterKey same
  unfold KeyPrefix.sessionId at found
  split at found <;> cases found <;> simp at plain

theorem counterKey_ne_userIndexKey (keyPrefix : KeyPrefix) (ip userId : String) :
    keyPrefix.counterKey ip ≠ userIndexKey userId := by
  intro same
  rw [userIndexKey_eq] at same
  have found := sessionId_of_counterKey same
  unfold KeyPrefix.sessionId at found
  split at found
  · have heads := congrArg (fun key => key.map fun key => key.toList.head?) found
    simp at heads
  · have heads := congrArg (fun key => key.map fun key => key.toList.head?) found
    simp at heads
  · cases found

/-- No other feature writes under the name of the sessions. -/
theorem featureKey_ne_sessionKey (feature : FeatureKey) (sessionId : String) :
    feature.key ≠ sessionKey sessionId := by
  intro same
  obtain ⟨character, head, different⟩ := feature.head
  rw [same, head_sessionKey] at head
  exact different (Option.some.inj head).symm

theorem featureKey_ne_userIndexKey (feature : FeatureKey) (userId : String) :
    feature.key ≠ userIndexKey userId := by
  rw [userIndexKey_eq]
  exact featureKey_ne_sessionKey feature _

end BackendFoundation.Sessions
