import Mathlib.Algebra.Ring.Nat
import Mathlib.Data.List.Basic
import Mathlib.Tactic.Common

/-!
# The proleptic Gregorian calendar

Days are numbered from 1 January of year 1. `ofDays` names the year, month and
day of a day number, and `toDays` counts back; the calendar is the same in both
directions (`Civil.toDays_ofDays`).
-/

namespace Civil

/-- A day of the calendar, with months and days counted from one. -/
structure CivilDate where
  year : Int
  month : Nat
  day : Nat
deriving DecidableEq, Repr

/-- Whether the year has a 29 February. -/
def isLeap (year : Int) : Bool :=
  year % 4 = 0 ∧ (year % 100 ≠ 0 ∨ year % 400 = 0)

/-- The lengths of the months of a common or a leap year. -/
def monthLengths (leap : Bool) : List Nat :=
  [31, if leap then 29 else 28, 31, 30, 31, 30, 31, 31, 30, 31, 30, 31]

/-- The number of days before 1 January of a year. -/
def daysBeforeYear (year : Int) : Int :=
  365 * (year - 1) + (year - 1) / 4 - (year - 1) / 100 + (year - 1) / 400

/-- The year a day falls in, found by cycles of 400, 100, 4 and 1 years. The
last century of a 400-year cycle and the last year of a 4-year cycle are one day
longer than the others, hence the two minima. -/
def yearOf (days : Int) : Int :=
  let inCycle := days % 146097
  let century := min (inCycle / 36524) 3
  let inCentury := inCycle - 36524 * century
  let inFour := inCentury % 1461
  let single := min (inFour / 365) 3
  400 * (days / 146097) + 100 * century + 4 * (inCentury / 1461) + single + 1

/-- The position in consecutive periods of the given lengths. -/
def locate : List Nat → Nat → Nat × Nat
  | [], offset => (0, offset)
  | length :: lengths, offset =>
      if offset < length then (0, offset)
      else ((locate lengths (offset - length)).1 + 1, (locate lengths (offset - length)).2)

/-- The date of a day count. -/
def ofDays (days : Int) : CivilDate :=
  let year := yearOf days
  let position := locate (monthLengths (isLeap year)) (days - daysBeforeYear year).toNat
  { year, month := position.1 + 1, day := position.2 + 1 }

/-- The day count of a date. -/
def toDays (date : CivilDate) : Int :=
  daysBeforeYear date.year + ((monthLengths (isLeap date.year)).take (date.month - 1)).sum +
    (date.day - 1 : Nat)

/-- The calendar has this month, and the month has this day. -/
def Valid (date : CivilDate) : Prop :=
  1 ≤ date.month ∧ date.month ≤ 12 ∧ 1 ≤ date.day ∧
    date.day ≤ (monthLengths (isLeap date.year)).getD (date.month - 1) 0

instance (date : CivilDate) : Decidable (Valid date) := by
  unfold Valid
  infer_instance

/-- Whole cycles have whole numbers of days. -/
theorem daysBeforeYear_cycles (cycle : Int) {century four single : Int}
    (centuryRange : 0 ≤ century ∧ century ≤ 3) (fourRange : 0 ≤ four ∧ four ≤ 24)
    (singleRange : 0 ≤ single ∧ single ≤ 3) :
    daysBeforeYear (400 * cycle + 100 * century + 4 * four + single + 1) =
      146097 * cycle + 36524 * century + 1461 * four + 365 * single := by
  have fours : (400 * cycle + 100 * century + 4 * four + single) / 4 =
      100 * cycle + 25 * century + four := by omega
  have centuries : (400 * cycle + 100 * century + 4 * four + single) / 100 =
      4 * cycle + century := by omega
  have cycles : (400 * cycle + 100 * century + 4 * four + single) / 400 = cycle := by omega
  rw [daysBeforeYear, Int.add_sub_cancel, fours, centuries, cycles]
  omega

/-- A year has 365 days, and one more when it is a leap year. -/
theorem daysBeforeYear_succ (year : Int) :
    daysBeforeYear (year + 1) = daysBeforeYear year + if isLeap year then 366 else 365 := by
  simp only [daysBeforeYear, isLeap, decide_eq_true_eq]
  split <;> omega

/-- The day counts of the cycles in which a day falls. -/
theorem cycles_spec (inCycle : Int) (range : 0 ≤ inCycle ∧ inCycle < 146097) :
    ∃ century four single left : Int,
      century = min (inCycle / 36524) 3 ∧ four = (inCycle - 36524 * century) / 1461 ∧
      single = min ((inCycle - 36524 * century) % 1461 / 365) 3 ∧
      (0 ≤ century ∧ century ≤ 3) ∧ (0 ≤ four ∧ four ≤ 24) ∧ (0 ≤ single ∧ single ≤ 3) ∧
      inCycle = 36524 * century + 1461 * four + 365 * single + left ∧
      0 ≤ left ∧ left ≤ 365 ∧ (left = 365 → single = 3 ∧ (four = 24 → century = 3)) := by
  obtain ⟨century, centuryEq⟩ : ∃ century, century = min (inCycle / 36524) 3 := ⟨_, rfl⟩
  obtain ⟨rest, restEq⟩ : ∃ rest, rest = inCycle - 36524 * century := ⟨_, rfl⟩
  have centuryRange : 0 ≤ century ∧ century ≤ 3 := by omega
  have restRange : 0 ≤ rest ∧ rest ≤ 36524 ∧ (rest = 36524 → century = 3) := by omega
  have total : inCycle = 36524 * century + rest := by omega
  obtain ⟨single, singleEq⟩ : ∃ single, single = min (rest % 1461 / 365) 3 := ⟨_, rfl⟩
  have fourRange : 0 ≤ rest / 1461 ∧ rest / 1461 ≤ 24 := by omega
  have singleRange : 0 ≤ single ∧ single ≤ 3 := by omega
  have left : 0 ≤ rest % 1461 - 365 * single ∧ rest % 1461 - 365 * single ≤ 365 := by omega
  have fours : 1461 * (rest / 1461) + rest % 1461 = rest := Int.mul_ediv_add_emod ..
  have long : rest % 1461 - 365 * single = 365 →
      single = 3 ∧ (rest / 1461 = 24 → century = 3) := by omega
  exact ⟨century, rest / 1461, single, rest % 1461 - 365 * single, centuryEq, by rw [restEq],
    by rw [singleEq, restEq], centuryRange, fourRange, singleRange, by omega, left.1, left.2, long⟩

/-- The last year of a four-year cycle is leap, unless it ends a century that does not end its
own cycle. -/
theorem isLeap_lastYear (cycle : Int) {century four : Int} (fourRange : 0 ≤ four ∧ four ≤ 24)
    (lastCentury : four = 24 → century = 3) :
    isLeap (400 * cycle + 100 * century + 4 * four + 3 + 1) := by
  rw [isLeap, decide_eq_true_eq]
  refine ⟨by omega, ?_⟩
  by_cases endsCentury : four = 24
  · have endsCycle : century = 3 := lastCentury endsCentury
    exact .inr (by omega)
  · exact .inl (by omega)

/-- A day lies in its year. -/
theorem yearOf_bounds (days : Int) :
    daysBeforeYear (yearOf days) ≤ days ∧ days < daysBeforeYear (yearOf days + 1) := by
  obtain ⟨century, four, single, left, centuryEq, fourEq, singleEq, centuryRange, fourRange,
    singleRange, total, nonnegative, short, long⟩ := cycles_spec (days % 146097) (by omega)
  have year : yearOf days = 400 * (days / 146097) + 100 * century + 4 * four + single + 1 := by
    rw [singleEq, fourEq, centuryEq]
    rfl
  have start := daysBeforeYear_cycles (days / 146097) centuryRange fourRange singleRange
  have cycle : 146097 * (days / 146097) + days % 146097 = days := Int.mul_ediv_add_emod ..
  clear centuryEq fourEq singleEq
  rw [daysBeforeYear_succ, year, start]
  refine ⟨by omega, ?_⟩
  by_cases long365 : left = 365
  · -- Only the last year of a four-year cycle can be 366 days long, and then it is leap.
    obtain ⟨lastYear, lastCentury⟩ := long long365
    rw [lastYear, if_pos (isLeap_lastYear _ fourRange lastCentury)]
    omega
  · split <;> omega

/-- The months of a year fill it exactly. -/
theorem sum_monthLengths (year : Int) :
    ((monthLengths (isLeap year)).sum : Int) = daysBeforeYear (year + 1) - daysBeforeYear year := by
  rw [daysBeforeYear_succ]
  cases isLeap year with
  | true =>
      change (366 : Int) = daysBeforeYear year + 366 - daysBeforeYear year
      omega
  | false =>
      change (365 : Int) = daysBeforeYear year + 365 - daysBeforeYear year
      omega

/-- What is located is a month and a day of it, at the given offset. -/
theorem locate_spec {lengths : List Nat} {offset : Nat} (inside : offset < lengths.sum) :
    (locate lengths offset).1 < lengths.length ∧
      (locate lengths offset).2 < lengths.getD (locate lengths offset).1 0 ∧
      (lengths.take (locate lengths offset).1).sum + (locate lengths offset).2 = offset := by
  induction lengths generalizing offset with
  | nil => simp at inside
  | cons length lengths ih =>
      by_cases here : offset < length
      · simp [locate, here]
      · rw [List.sum_cons] at inside
        have rest : offset - length < lengths.sum := by omega
        obtain ⟨within, below, total⟩ := ih rest
        simp only [locate, here, ↓reduceIte, List.length_cons, List.getD_cons_succ,
          List.take_succ_cons, List.sum_cons]
        omega

/-- A day is within its year. -/
theorem locate_ofDays (days : Int) :
    (days - daysBeforeYear (yearOf days)).toNat < (monthLengths (isLeap (yearOf days))).sum := by
  have bounds := yearOf_bounds days
  have total := sum_monthLengths (yearOf days)
  omega

/-- The date of a day count is a date of the calendar. -/
theorem valid_ofDays (days : Int) : Valid (ofDays days) := by
  obtain ⟨month, day, -⟩ := locate_spec (locate_ofDays days)
  have twelve : (monthLengths (isLeap (yearOf days))).length = 12 := rfl
  refine ⟨Nat.le_add_left .., ?_, Nat.le_add_left .., ?_⟩
  · change (locate _ _).1 + 1 ≤ 12
    omega
  · exact day

/-- Counting the days up to a date undoes naming it. -/
theorem toDays_ofDays (days : Int) : toDays (ofDays days) = days := by
  obtain ⟨-, -, total⟩ := locate_spec (locate_ofDays days)
  have bounds := yearOf_bounds days
  simp only [toDays, ofDays, Nat.add_sub_cancel]
  omega

example : ofDays 737291 = { year := 2019, month := 8, day := 21 } := by decide

end Civil
