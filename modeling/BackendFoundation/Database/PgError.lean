/-
pg-error.util, and what UserDrizzleRepository makes of an error of the driver.

The causes of an error are objects of a heap, so a chain of causes may come back to itself.
-/

import BackendFoundation.Chains.BoundedWalk

namespace BackendFoundation.Database

open Chains

/-- A value of any type. Functions, numbers and null are no objects here. -/
inductive Unknown (Object : Type)
  | text (value : String)
  | object (reference : Object)
  | other
deriving DecidableEq, Repr

structure ErrorLike (Object : Type) where
  code : Unknown Object
  constraint : Unknown Object
  cause : Unknown Object
deriving DecidableEq, Repr

def uniqueViolationCode : String := "23505"

def maxCauseDepth : Nat := 8

variable {Object : Type}

def asErrorLike : Unknown Object → Option Object
  | .object reference => some reference
  | _ => none

def readStringField : Unknown Object → Option String
  | .text value => some value
  | _ => none

section Chain

variable (heap : Object → ErrorLike Object)

def causeOf (frame : Object) : Option Object :=
  asErrorLike (heap frame).cause

def violates (frame : Object) : Bool :=
  readStringField (heap frame).code == some uniqueViolationCode

def constraintOf (frame : Object) : Option String :=
  readStringField (heap frame).constraint

/-- The loop of getViolatedConstraint over the frames. -/
def scanConstraint : Bool → List Object → Option String
  | _, [] => none
  | seenUniqueViolation, frame :: rest =>
      if violates heap frame then
        match constraintOf heap frame with
        | some constraint => some constraint
        | none => scanConstraint true rest
      else if seenUniqueViolation then
        match constraintOf heap frame with
        | some constraint => some constraint
        | none => scanConstraint seenUniqueViolation rest
      else scanConstraint seenUniqueViolation rest

variable [DecidableEq Object] (error : Unknown Object)

def walkCauseChain : List Object :=
  walk (causeOf heap) maxCauseDepth [] (asErrorLike error)

def isUniqueViolation : Bool :=
  (walkCauseChain heap error).any (violates heap)

def getViolatedConstraint : Option String :=
  scanConstraint heap false (walkCauseChain heap error)

/-- What a statement of the repository throws. -/
inductive Rethrown (Object : Type)
  | duplicateRecord (constraint : Option String)
  | same (error : Unknown Object)
deriving DecidableEq, Repr

def insertCatch : Rethrown Object :=
  if isUniqueViolation heap error then
    .duplicateRecord (some ((getViolatedConstraint heap error).getD "users_email_unique"))
  else .same error

def updateCatch : Rethrown Object :=
  if isUniqueViolation heap error then .duplicateRecord (getViolatedConstraint heap error)
  else .same error

end Chain

section Meaning

variable (heap : Object → ErrorLike Object) (error : Unknown Object)

/-- The frame so many causes behind the error, which is the first one itself. -/
def causeAt (depth : Nat) : Option Object :=
  path (causeOf heap) (asErrorLike error) depth

def ViolatesAt (depth : Nat) : Prop :=
  ∃ frame, causeAt heap error depth = some frame ∧ violates heap frame = true

def NamedAt (depth : Nat) (constraint : String) : Prop :=
  ∃ frame, causeAt heap error depth = some frame ∧ constraintOf heap frame = some constraint

/-- The first constraint that is named from the first violation on, before the chain comes
back to a frame. -/
def Reported (constraint : String) : Prop :=
  ∃ first position, first ≤ position ∧ position < maxCauseDepth ∧
    Simple (causeOf heap) (asErrorLike error) position ∧ ViolatesAt heap error first ∧
    (∀ earlier < first, ¬ViolatesAt heap error earlier) ∧ NamedAt heap error position constraint ∧
    ∀ between, first ≤ between → between < position → ∀ other, ¬NamedAt heap error between other

end Meaning

section Scanning

variable {heap : Object → ErrorLike Object} {frames : List Object} {constraint : String}

/-- Once a violation has been seen, the next constraint is the one. -/
theorem scanConstraint_true_iff :
    scanConstraint heap true frames = some constraint ↔
      ∃ position : Nat, frames[position]?.bind (constraintOf heap) = some constraint ∧
        ∀ earlier < position, frames[earlier]?.bind (constraintOf heap) = none := by
  induction frames with
  | nil => simp [scanConstraint]
  | cons frame rest ih =>
      have unfolded : scanConstraint heap true (frame :: rest) =
          (constraintOf heap frame).or (scanConstraint heap true rest) := by
        rw [scanConstraint]
        cases violates heap frame <;> cases constraintOf heap frame <;> rfl
      rw [unfolded]
      cases named : constraintOf heap frame with
      | some other =>
          constructor
          · intro found
            exact ⟨0, by simpa [named] using found, nofun⟩
          · intro given
            obtain ⟨position, found, before⟩ := given
            cases position with
            | zero => simpa [named] using found
            | succ position =>
                have first := before 0 (Nat.succ_pos _)
                simp [named] at first
      | none =>
          rw [Option.none_or, ih]
          constructor
          · intro given
            obtain ⟨position, found, before⟩ := given
            refine ⟨position + 1, found, ?_⟩
            intro earlier within
            cases earlier with
            | zero => simpa using named
            | succ earlier => exact before earlier (Nat.lt_of_succ_lt_succ within)
          · intro given
            obtain ⟨position, found, before⟩ := given
            cases position with
            | zero => simp [named] at found
            | succ position =>
                exact ⟨position, found, fun earlier within =>
                  before (earlier + 1) (Nat.succ_lt_succ within)⟩

theorem scanConstraint_false_iff :
    scanConstraint heap false frames = some constraint ↔
      ∃ first position : Nat, first ≤ position ∧ frames[first]?.any (violates heap) = true ∧
        (∀ earlier < first, frames[earlier]?.any (violates heap) = false) ∧
        frames[position]?.bind (constraintOf heap) = some constraint ∧
        ∀ between, first ≤ between → between < position →
          frames[between]?.bind (constraintOf heap) = none := by
  induction frames with
  | nil => simp [scanConstraint]
  | cons frame rest ih =>
      cases violating : violates heap frame with
      | true =>
          have unfolded : scanConstraint heap false (frame :: rest) =
              scanConstraint heap true (frame :: rest) := by
            rw [scanConstraint, scanConstraint, if_pos violating, if_pos violating]
          rw [unfolded, scanConstraint_true_iff]
          constructor
          · intro given
            obtain ⟨position, found, before⟩ := given
            exact ⟨0, position, Nat.zero_le _, by simpa using violating, nofun, found,
              fun between _ within => before between within⟩
          · intro given
            obtain ⟨first, position, _, _, earliest, found, before⟩ := given
            have here : first = 0 := by
              apply Nat.eq_zero_of_not_pos
              intro later
              have none := earliest 0 later
              simp [violating] at none
            subst here
            exact ⟨position, found, fun earlier within => before earlier (Nat.zero_le _) within⟩
      | false =>
          have unfolded : scanConstraint heap false (frame :: rest) =
              scanConstraint heap false rest := by
            rw [scanConstraint, violating]
            rfl
          rw [unfolded, ih]
          constructor
          · intro given
            obtain ⟨first, position, order, violated, earliest, found, before⟩ := given
            refine ⟨first + 1, position + 1, Nat.succ_le_succ order, violated, ?_, found, ?_⟩
            · intro earlier within
              cases earlier with
              | zero => simpa using violating
              | succ earlier => exact earliest earlier (Nat.lt_of_succ_lt_succ within)
            · intro between least within
              obtain ⟨between, rfl⟩ : ∃ back, between = back + 1 := ⟨between - 1, by omega⟩
              exact before between (Nat.le_of_succ_le_succ least) (Nat.lt_of_succ_lt_succ within)
          · intro given
            obtain ⟨first, position, order, violated, earliest, found, before⟩ := given
            cases first with
            | zero => simp [violating] at violated
            | succ first =>
                obtain ⟨position, rfl⟩ : ∃ back, position = back + 1 := ⟨position - 1, by omega⟩
                exact ⟨first, position, Nat.le_of_succ_le_succ order, violated,
                  fun earlier within => earliest (earlier + 1) (Nat.succ_lt_succ within), found,
                  fun between least within => before (between + 1) (Nat.succ_le_succ least)
                    (Nat.succ_lt_succ within)⟩

end Scanning

section Results

variable {heap : Object → ErrorLike Object} {error : Unknown Object} {constraint : String}

theorem violatesAt_iff {depth : Nat} :
    ViolatesAt heap error depth ↔ (causeAt heap error depth).any (violates heap) = true := by
  unfold ViolatesAt
  cases causeAt heap error depth <;> simp

theorem namedAt_iff {depth : Nat} :
    NamedAt heap error depth constraint ↔
      (causeAt heap error depth).bind (constraintOf heap) = some constraint :=
  Option.bind_eq_some_iff.symm

theorem Reported.violates (reported : Reported heap error constraint) :
    ∃ depth < maxCauseDepth, ViolatesAt heap error depth := by
  obtain ⟨first, position, order, within, _, violated, _⟩ := reported
  exact ⟨first, Nat.lt_of_le_of_lt order within, violated⟩

variable [DecidableEq Object]

theorem getElem?_walkCauseChain_iff {position : Nat} {frame : Object} :
    (walkCauseChain heap error)[position]? = some frame ↔
      position < maxCauseDepth ∧ causeAt heap error position = some frame ∧
        Simple (causeOf heap) (asErrorLike error) position := by
  unfold walkCauseChain causeAt
  rw [getElem?_walk_iff]
  constructor
  · intro given
    exact ⟨given.1, given.2.1, given.2.2.1⟩
  · intro given
    exact ⟨given.1, given.2.1, given.2.2, fun _ _ _ _ => List.not_mem_nil⟩

/-- As far as the chain has not come back, the frames are the causes. -/
theorem getElem?_walkCauseChain {position earlier : Nat} (within : position < maxCauseDepth)
    (simple : Simple (causeOf heap) (asErrorLike error) position) (before : earlier ≤ position) :
    (walkCauseChain heap error)[earlier]? = causeAt heap error earlier := by
  apply Option.ext
  intro frame
  rw [getElem?_walkCauseChain_iff]
  exact ⟨fun given => given.2.1,
    fun found => ⟨Nat.lt_of_le_of_lt before within, found, simple.shorter before⟩⟩

theorem getViolatedConstraint_iff :
    getViolatedConstraint heap error = some constraint ↔ Reported heap error constraint := by
  unfold getViolatedConstraint
  rw [scanConstraint_false_iff]
  constructor
  · intro given
    obtain ⟨first, position, order, violated, earliest, named, before⟩ := given
    obtain ⟨frame, found, _⟩ := Option.bind_eq_some_iff.mp named
    obtain ⟨within, _, simple⟩ := getElem?_walkCauseChain_iff.mp found
    have frames : ∀ {earlier}, earlier ≤ position →
        (walkCauseChain heap error)[earlier]? = causeAt heap error earlier :=
      getElem?_walkCauseChain within simple
    rw [frames order] at violated
    rw [frames (Nat.le_refl _)] at named
    refine ⟨first, position, order, within, simple, violatesAt_iff.mpr violated, ?_,
      namedAt_iff.mpr named, ?_⟩
    · intro earlier least violates'
      have none := earliest earlier least
      rw [frames (by omega), violatesAt_iff.mp violates'] at none
      cases none
    · intro between least most other named'
      have none := before between least most
      rw [frames (Nat.le_of_lt most), namedAt_iff.mp named'] at none
      cases none
  · intro given
    obtain ⟨first, position, order, within, simple, violated, earliest, named, before⟩ := given
    have frames : ∀ {earlier}, earlier ≤ position →
        (walkCauseChain heap error)[earlier]? = causeAt heap error earlier :=
      getElem?_walkCauseChain within simple
    refine ⟨first, position, order, ?_, ?_, ?_, ?_⟩
    · rw [frames order]
      exact violatesAt_iff.mp violated
    · intro earlier least
      rw [frames (by omega)]
      exact Bool.eq_false_iff.mpr fun violates' => earliest earlier least
        (violatesAt_iff.mpr violates')
    · rw [frames (Nat.le_refl _)]
      exact namedAt_iff.mp named
    · intro between least most
      rw [frames (Nat.le_of_lt most)]
      apply Option.eq_none_iff_forall_ne_some.mpr
      intro other named'
      exact before between least most other (namedAt_iff.mpr named')

theorem isUniqueViolation_iff :
    isUniqueViolation heap error = true ↔ ∃ depth < maxCauseDepth, ViolatesAt heap error depth := by
  unfold isUniqueViolation
  rw [List.any_eq_true]
  constructor
  · intro given
    obtain ⟨frame, member, violating⟩ := given
    obtain ⟨depth, within, found⟩ := mem_walk_iff.mp member
    exact ⟨depth, within, frame, found, violating⟩
  · intro given
    obtain ⟨depth, within, frame, found, violating⟩ := given
    exact ⟨frame, mem_walk_iff.mpr ⟨depth, within, found⟩, violating⟩

/-- However the causes are linked, an error is taken for a duplicate record if and only if one of
the first frames of its chain has the code, and goes on as it is otherwise. -/
theorem duplicate_reported_iff (heap : Object → ErrorLike Object) (error : Unknown Object) :
    ((∃ name, insertCatch heap error = .duplicateRecord name) ↔
      ∃ depth < maxCauseDepth, ViolatesAt heap error depth) ∧
      ((∃ name, updateCatch heap error = .duplicateRecord name) ↔
        ∃ depth < maxCauseDepth, ViolatesAt heap error depth) ∧
      ((∀ depth < maxCauseDepth, ¬ViolatesAt heap error depth) →
        insertCatch heap error = .same error ∧ updateCatch heap error = .same error) := by
  rw [← isUniqueViolation_iff]
  unfold insertCatch updateCatch
  cases found : isUniqueViolation heap error with
  | true =>
      refine ⟨by simp, by simp, ?_⟩
      intro none
      obtain ⟨depth, within, violated⟩ := isUniqueViolation_iff.mp found
      exact absurd violated (none depth within)
  | false => simp

/-- The constraint that a DuplicateRecordError names. -/
theorem constraint_named_iff (heap : Object → ErrorLike Object) (error : Unknown Object)
    (constraint : String) :
    (updateCatch heap error = .duplicateRecord (some constraint) ↔
      Reported heap error constraint) ∧
      (insertCatch heap error = .duplicateRecord (some constraint) ↔
        Reported heap error constraint ∨
          constraint = "users_email_unique" ∧
            (∃ depth < maxCauseDepth, ViolatesAt heap error depth) ∧
            ∀ other, ¬Reported heap error other) := by
  simp only [← getViolatedConstraint_iff, ← isUniqueViolation_iff]
  have only : ∀ name, getViolatedConstraint heap error = some name →
      isUniqueViolation heap error = true := fun name named =>
    isUniqueViolation_iff.mpr (getViolatedConstraint_iff.mp named).violates
  unfold insertCatch updateCatch
  cases found : isUniqueViolation heap error with
  | false =>
      have unnamed : ∀ name, getViolatedConstraint heap error ≠ some name := by
        intro name named
        rw [only name named] at found
        cases found
      simp [unnamed]
  | true =>
      cases named : getViolatedConstraint heap error with
      | none => simp [eq_comm]
      | some name => simp

end Results

end BackendFoundation.Database
