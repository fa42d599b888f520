import Mathlib.Logic.Function.Basic

/-!
# Targets that show sources

A source reports a new value to at most one target, its listener, and a target shows what it
was told last. Each target is at a source and is to show what is wanted of that one. A source
that goes on reporting to a target that is at another source by now spoils it
(`Display.shows_report_iff`), and so does turning a target to a source with a value that is not
the wanted one (`Display.shows_turn_iff`).
-/

namespace Display

variable {Source Target Value : Type*}

/-- Each target shows what is wanted of the source that it is at. -/
def Shows (isAt : Target → Source → Prop) (wanted : Source → Value) (shown : Target → Value) :
    Prop :=
  ∀ target source, isAt target source → shown target = wanted source

variable [DecidableEq Target]

/-- What is shown once a value was reported to a listener, if there is one. -/
def report (listener : Option Target) (value : Value) (shown : Target → Value) : Target → Value :=
  match listener with
  | none => shown
  | some target => Function.update shown target value

/-- The target that a source reports to is at the source, or at one of which the same is
wanted, and what is wanted of the source changes for no other target at it. -/
def Fits (isAt : Target → Source → Prop) (wanted : Source → Value) (source : Source)
    (value : Value) (listener : Option Target) : Prop :=
  ∀ target other, isAt target other →
    if listener = some target then other = source ∨ wanted other = value
    else other = source → wanted source = value

variable {isAt isAt' : Target → Source → Prop} {wanted : Source → Value} {shown : Target → Value}
  {source : Source} {target : Target} {value : Value}

/-- Who does not listen shows what it showed. -/
theorem report_of_ne {listener : Option Target} (other : listener ≠ some target) :
    report listener value shown target = shown target := by
  cases listener with
  | none => rfl
  | some reached =>
      apply Function.update_of_ne
      rintro rfl
      exact other rfl

/-- Who listens shows the value. -/
theorem report_self : report (some target) value shown target = value :=
  Function.update_self _ _ _

/-- A report keeps the targets right exactly if it fits. -/
theorem shows_report_iff [DecidableEq Source] (shows : Shows isAt wanted shown)
    (listener : Option Target) :
    Shows isAt (Function.update wanted source value) (report listener value shown) ↔
      Fits isAt wanted source value listener := by
  unfold Shows Fits
  apply forall_congr'
  intro target
  apply forall_congr'
  intro other
  apply imp_congr_right
  intro atOther
  by_cases reached : listener = some target
  · subst reached
    rw [report_self, if_pos rfl]
    by_cases same : other = source
    · subst same
      simp only [Function.update_self, true_or]
    · simp only [Function.update_of_ne same, same, false_or, eq_comm]
  · rw [report_of_ne reached, if_neg reached, shows target other atOther]
    by_cases same : other = source
    · subst same
      simp only [Function.update_self, true_imp_iff]
    · simp only [Function.update_of_ne same, same, false_imp_iff]

/-- A target that turns to a source is right exactly if it shows what is wanted of that one. -/
theorem shows_turn_iff (shows : Shows isAt wanted shown) (turned : isAt' target source)
    (only : ∀ other, isAt' target other → other = source)
    (others : ∀ other at', other ≠ target → isAt' other at' → isAt other at') :
    Shows isAt' wanted (Function.update shown target value) ↔ value = wanted source := by
  constructor
  · intro right
    rw [← right target source turned, Function.update_self]
  · intro fits other at' atOther
    by_cases same : other = target
    · subst same
      rw [Function.update_self, fits, only at' atOther]
    · rw [Function.update_of_ne same]
      exact shows other at' (others other at' same atOther)

end Display
