import Mathlib.Order.Basic
import Mathlib.Order.Lattice
import Mathlib.Order.Defs.LinearOrder
import Mathlib.Tactic.Common

/-!
# Dates and date formatters

`Date` is an instant and `DateFormatter` the platform's formatter, of which the
program uses the two directions text from date and date from text. What the
program relies on is stated as two sets of laws, one for each pattern it uses.
-/

namespace MovieFun

/-- An instant, in nanoseconds since 1970-01-01 00:00:00 GMT. -/
structure Date where
  nanoseconds : Int
deriving DecidableEq, Repr

instance : LinearOrder Date :=
  LinearOrder.lift' Date.nanoseconds fun _ _ => congrArg Date.mk

theorem Date.le_iff {first second : Date} :
    first ≤ second ↔ first.nanoseconds ≤ second.nanoseconds := Iff.rfl

/-- A length of time in nanoseconds. -/
abbrev TimeInterval := Int

/-- The time since 1970, in nanoseconds. -/
def Date.timeIntervalSince1970 (date : Date) : TimeInterval := date.nanoseconds

/-- The letters of a date pattern that the program uses. -/
inductive PatternField
  | yyyy
  | MM
  | dd
  | hh
  | mm
  | ss
deriving DecidableEq, Repr

/-- A part of a date format: a field, or a character that stands for itself. -/
inductive PatternItem
  | field (field : PatternField)
  | literal (c : Char)
deriving DecidableEq, Repr

/-- A date format as the list of its parts. -/
abbrev DateFormat := List PatternItem

namespace Utils

/-- The year, the month and the day with dashes. -/
def YYYY_MM_DD : DateFormat :=
  [.field .yyyy, .literal '-', .field .MM, .literal '-', .field .dd]

/-- The year, the month and the day with slashes. -/
def YYYYMMDD : DateFormat :=
  [.field .yyyy, .literal '/', .field .MM, .literal '/', .field .dd]

/-- The hour letter is the one of the 12-hour clock. -/
def YYYY_MM_DD_HH_MM_SS : DateFormat :=
  [.field .yyyy, .literal '/', .field .MM, .literal '/', .field .dd, .literal ' ',
    .field .hh, .literal ':', .field .mm, .literal ':', .field .ss]

end Utils

/-- The platform's formatter, with its locale, calendar and time zone. -/
structure DateFormatter where
  string : DateFormat → Date → String
  date : DateFormat → String → Option Date

namespace DateFormatter

variable (fm : DateFormatter)

/-- The text of a date in the pattern of a day. -/
def dayString (date : Date) : String := fm.string Utils.YYYYMMDD date

/-- The date read from the text of a day: where that day starts. -/
def dayStart (date : Date) : Option Date := fm.date Utils.YYYYMMDD (fm.dayString date)

/-- Reading days back tells days apart. -/
def DayInjective : Prop :=
  ∀ first second start, fm.dayStart first = some start → fm.dayStart second = some start →
    fm.dayString first = fm.dayString second

/-- Days can be read back, in order and without confusing two of them. -/
structure DayLaws : Prop where
  parses : ∀ date, (fm.dayStart date).isSome
  monotone : ∀ first second start later, first ≤ second →
    fm.dayStart first = some start → fm.dayStart second = some later → start ≤ later
  injective : fm.DayInjective

/-- A date read from a printed text prints as that text. -/
def Reprints : Prop :=
  ∀ date parsed,
    fm.date Utils.YYYY_MM_DD_HH_MM_SS (fm.string Utils.YYYY_MM_DD_HH_MM_SS date) = some parsed →
      fm.string Utils.YYYY_MM_DD_HH_MM_SS parsed = fm.string Utils.YYYY_MM_DD_HH_MM_SS date

variable {fm}

/-- Equal texts of days start at the same date. -/
theorem dayStart_congr {first second : Date} (same : fm.dayString first = fm.dayString second) :
    fm.dayStart first = fm.dayStart second := by
  rw [dayStart, dayStart, same]

/-- A later day starts strictly later. -/
theorem DayLaws.lt_of_dayString_ne (laws : fm.DayLaws) {first second start later : Date}
    (order : first ≤ second) (different : fm.dayString first ≠ fm.dayString second)
    (firstStart : fm.dayStart first = some start)
    (secondStart : fm.dayStart second = some later) : start < later := by
  apply lt_of_le_of_ne (laws.monotone _ _ _ _ order firstStart secondStart)
  rintro rfl
  exact different (laws.injective _ _ _ firstStart secondStart)

/-- A day that starts strictly later is later as a whole. -/
theorem DayLaws.lt_of_dayStart_lt (laws : fm.DayLaws) {first second start later : Date}
    (firstStart : fm.dayStart first = some start) (secondStart : fm.dayStart second = some later)
    (order : start < later) : first < second := by
  by_contra reversed
  have back := laws.monotone _ _ _ _ (not_lt.mp reversed) secondStart firstStart
  exact absurd order (not_lt.mpr back)

end DateFormatter

end MovieFun
