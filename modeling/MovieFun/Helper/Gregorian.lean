import MovieFun.Foundation.Civil
import MovieFun.Foundation.Numeral
import MovieFun.Helper.DateFormatter

/-!
# The Gregorian formatter of a fixed-offset time zone

The formatter prints and reads the letters `yyyy MM dd hh mm ss`. The hour is
the one of the 12-hour clock: it prints as 01 to 12, and read without a day
period 12 counts as 0. Reading a printed day gives the start of that day, and
reading a printed time gives the same second of the morning half of the day
(`MovieFun.Gregorian.dayStart_eq`, `MovieFun.Gregorian.date_string_seconds`).
Years before year 1 print with the proleptic year, so that a text still names
one day.
-/

namespace MovieFun

/-- A time zone at a fixed distance from GMT. -/
structure TimeZone where
  secondsFromGMT : Int
deriving DecidableEq, Repr

/-- The components of an instant on the clock of a time zone. -/
structure DateComponents where
  date : Civil.CivilDate
  hour : Nat
  minute : Nat
  second : Nat
deriving DecidableEq, Repr

namespace Gregorian

/-- The day number of 1970-01-01. -/
def referenceDay : Int := 719162

/-- The seconds that the clock of the zone shows at an instant. -/
def localSeconds (zone : TimeZone) (date : Date) : Int :=
  date.nanoseconds / 1000000000 + zone.secondsFromGMT

/-- The number of the day an instant falls in. -/
def dayNumber (zone : TimeZone) (date : Date) : Int :=
  localSeconds zone date / 86400 + referenceDay

/-- The second of the day at an instant, by the clock of the zone. -/
def secondOfDay (zone : TimeZone) (date : Date) : Nat :=
  (localSeconds zone date % 86400).toNat

/-- The instant at a second of a day. -/
def instant (zone : TimeZone) (day : Int) (second : Nat) : Date :=
  ⟨((day - referenceDay) * 86400 + second - zone.secondsFromGMT) * 1000000000⟩

/-- The fields of an instant, by the clock of the zone. -/
def components (zone : TimeZone) (date : Date) : DateComponents where
  date := Civil.ofDays (dayNumber zone date)
  hour := secondOfDay zone date / 3600
  minute := secondOfDay zone date % 3600 / 60
  second := secondOfDay zone date % 60

/-- The hour on a 12-hour dial. -/
def dialHour (hour : Nat) : Nat := if hour % 12 = 0 then 12 else hour % 12

/-- How a field is written. -/
def fieldText (components : DateComponents) : PatternField → List Char
  | .yyyy =>
      if components.date.year < 0 then
        '-' :: Numeral.padded 4 components.date.year.natAbs
      else Numeral.padded 4 components.date.year.natAbs
  | .MM => Numeral.padded 2 components.date.month
  | .dd => Numeral.padded 2 components.date.day
  | .hh => Numeral.padded 2 (dialHour components.hour)
  | .mm => Numeral.padded 2 components.minute
  | .ss => Numeral.padded 2 components.second

/-- How a part of a format is written. -/
def itemText (components : DateComponents) : PatternItem → List Char
  | .field field => fieldText components field
  | .literal c => [c]

/-- How a date format writes the fields. -/
def text (components : DateComponents) (format : DateFormat) : List Char :=
  format.flatMap (itemText components)

/-- A year is read with its sign. -/
def readYear (input : List Char) : Option (Int × List Char) :=
  match input with
  | '-' :: rest => (Numeral.read rest).map fun (n, rest) => (-(n : Int), rest)
  | _ => (Numeral.read input).map fun (n, rest) => ((n : Int), rest)

/-- A field is read from the start of the text. -/
def readField (found : DateComponents) (input : List Char) :
    PatternField → Option (DateComponents × List Char)
  | .yyyy => (readYear input).map fun (year, rest) =>
      ({ found with date := { found.date with year } }, rest)
  | .MM => (Numeral.read input).map fun (month, rest) =>
      ({ found with date := { found.date with month } }, rest)
  | .dd => (Numeral.read input).map fun (day, rest) =>
      ({ found with date := { found.date with day } }, rest)
  | .hh => (Numeral.read input).bind fun (hour, rest) =>
      if 1 ≤ hour ∧ hour ≤ 12 then some ({ found with hour := hour % 12 }, rest) else none
  | .mm => (Numeral.read input).map fun (minute, rest) => ({ found with minute }, rest)
  | .ss => (Numeral.read input).map fun (second, rest) => ({ found with second }, rest)

/-- A part of a format is read from the start of the text. -/
def readItem (found : DateComponents) (input : List Char) :
    PatternItem → Option (DateComponents × List Char)
  | .field field => readField found input field
  | .literal c =>
      match input with
      | [] => none
      | first :: rest => if first = c then some (found, rest) else none

/-- A whole text is read by a format. -/
def readItems : DateFormat → DateComponents → List Char → Option DateComponents
  | [], found, input => if input = [] then some found else none
  | item :: format, found, input =>
      (readItem found input item).bind fun (found, rest) => readItems format found rest

/-- What a text leaves out is taken from 2000-01-01 00:00:00. -/
def defaultComponents : DateComponents where
  date := ⟨2000, 1, 1⟩
  hour := 0
  minute := 0
  second := 0

/-- The instant with the given fields, if they are those of an instant. -/
def dateFromComponents (zone : TimeZone) (components : DateComponents) : Option Date :=
  if Civil.Valid components.date ∧ components.minute < 60 ∧ components.second < 60 then
    some (instant zone (Civil.toDays components.date)
      (components.hour * 3600 + components.minute * 60 + components.second))
  else none

/-- The formatter of a time zone. -/
def formatter (zone : TimeZone) : DateFormatter where
  string format date := String.ofList (text (components zone date) format)
  date format string :=
    (readItems format defaultComponents string.toList).bind (dateFromComponents zone)

/-- What reading a printed field stores. -/
def storeItem (printed found : DateComponents) : PatternItem → DateComponents
  | .field .yyyy => { found with date := { found.date with year := printed.date.year } }
  | .field .MM => { found with date := { found.date with month := printed.date.month } }
  | .field .dd => { found with date := { found.date with day := printed.date.day } }
  | .field .hh => { found with hour := printed.hour % 12 }
  | .field .mm => { found with minute := printed.minute }
  | .field .ss => { found with second := printed.second }
  | .literal _ => found

/-- Every field is followed by the end or by a literal that is no digit. -/
def Separated : DateFormat → Prop
  | [] => True
  | .literal _ :: format => Separated format
  | .field _ :: format =>
      (∀ item ∈ format.head?, ∃ c : Char, item = .literal c ∧ c.isDigit = false) ∧
        Separated format

/-- The fields of a day are told apart by its slashes. -/
theorem separated_YYYYMMDD : Separated Utils.YYYYMMDD := by
  simp [Separated, Utils.YYYYMMDD]

/-- The fields of an instant are told apart by what is between them. -/
theorem separated_YYYY_MM_DD_HH_MM_SS : Separated Utils.YYYY_MM_DD_HH_MM_SS := by
  simp [Separated, Utils.YYYY_MM_DD_HH_MM_SS]

/-- The text after a field does not begin with a digit. -/
theorem Separated.ends {field : PatternField} {format : DateFormat}
    (separated : Separated (.field field :: format)) (components : DateComponents) :
    ∀ c ∈ (text components format).head?, c.isDigit = false := by
  cases format with
  | nil => simp [text]
  | cons next format =>
      obtain ⟨c, rfl, nonDigit⟩ := separated.1 next rfl
      rintro _ ⟨⟩
      exact nonDigit

/-- A year is read back where no digit follows it. -/
theorem readYear_fieldText (components : DateComponents) {rest : List Char}
    (ends : ∀ c ∈ rest.head?, c.isDigit = false) :
    readYear (fieldText components .yyyy ++ rest) = some (components.date.year, rest) := by
  simp only [fieldText]
  split
  · next negative =>
      simp only [readYear, List.cons_append, Numeral.read_padded 4 _ ends, Option.map_some]
      rw [show -(components.date.year.natAbs : Int) = components.date.year by omega]
  · next nonnegative =>
      have unsigned : readYear (Numeral.padded 4 components.date.year.natAbs ++ rest) =
          (Numeral.read (Numeral.padded 4 components.date.year.natAbs ++ rest)).map
            fun (n, rest) => ((n : Int), rest) := by
        unfold readYear
        split
        · next tail signed =>
            obtain ⟨first, digits, shape⟩ :=
              List.exists_cons_of_ne_nil (Numeral.padded_ne_nil 4 components.date.year.natAbs)
            have digit : first.isDigit :=
              Numeral.isDigit_of_mem_padded (shape ▸ List.mem_cons_self)
            rw [shape, List.cons_append, List.cons.injEq] at signed
            rw [signed.1] at digit
            exact absurd digit (by decide)
        · rfl
      rw [unsigned, Numeral.read_padded 4 _ ends, Option.map_some]
      dsimp only
      rw [show (components.date.year.natAbs : Int) = components.date.year by omega]

/-- The dial shows an hour from one to twelve. -/
theorem dialHour_range (hour : Nat) : 1 ≤ dialHour hour ∧ dialHour hour ≤ 12 := by
  unfold dialHour
  split <;> omega

/-- The hour on the dial is the hour modulo twelve. -/
theorem dialHour_mod (hour : Nat) : dialHour hour % 12 = hour % 12 := by
  unfold dialHour
  split <;> omega

/-- The dial shows the same hour twice a day. -/
theorem dialHour_mod_left (hour : Nat) : dialHour (hour % 12) = dialHour hour := by
  unfold dialHour
  rw [Nat.mod_mod]

/-- Reading back a printed field stores it and leaves what follows. -/
theorem readField_fieldText (printed found : DateComponents) (field : PatternField)
    {rest : List Char} (ends : ∀ c ∈ rest.head?, c.isDigit = false) :
    readField found (fieldText printed field ++ rest) field =
      some (storeItem printed found (.field field), rest) := by
  cases field with
  | yyyy => simp only [readField, readYear_fieldText printed ends, Option.map_some, storeItem]
  | hh =>
      simp only [readField, fieldText, Numeral.read_padded 2 _ ends, Option.bind_some, storeItem,
        dialHour_range, and_self, ↓reduceIte, dialHour_mod]
  | MM => simp only [readField, fieldText, Numeral.read_padded 2 _ ends, Option.map_some, storeItem]
  | dd => simp only [readField, fieldText, Numeral.read_padded 2 _ ends, Option.map_some, storeItem]
  | mm => simp only [readField, fieldText, Numeral.read_padded 2 _ ends, Option.map_some, storeItem]
  | ss => simp only [readField, fieldText, Numeral.read_padded 2 _ ends, Option.map_some, storeItem]

/-- Reading back a printed text stores every field of the pattern. -/
theorem readItems_text (printed : DateComponents) {format : DateFormat}
    (separated : Separated format) (found : DateComponents) :
    readItems format found (text printed format) =
      some (format.foldl (storeItem printed) found) := by
  induction format generalizing found with
  | nil => rfl
  | cons item format ih =>
      cases item with
      | literal c =>
          have first : text printed (.literal c :: format) = c :: text printed format := rfl
          simp only [readItems, readItem, first, ↓reduceIte, Option.bind_some, List.foldl_cons,
            storeItem]
          exact ih separated found
      | field field =>
          have first : text printed (.field field :: format) =
              fieldText printed field ++ text printed format := rfl
          rw [readItems, readItem, first,
            readField_fieldText printed found field (separated.ends printed), Option.bind_some,
            List.foldl_cons]
          exact ih separated.2 _

variable (zone : TimeZone)

/-- A date that is written and read is put together from its fields as they are stored. -/
theorem date_string {format : DateFormat} (separated : Separated format) (date : Date) :
    (formatter zone).date format ((formatter zone).string format date) =
      dateFromComponents zone
        (format.foldl (storeItem (components zone date)) defaultComponents) := by
  simp only [formatter, String.toList_ofList]
  rw [readItems_text _ separated, Option.bind_some]

/-- Fields of an instant are put together. -/
theorem dateFromComponents_eq {found : DateComponents} (valid : Civil.Valid found.date)
    (minute : found.minute < 60) (second : found.second < 60) :
    dateFromComponents zone found = some (instant zone (Civil.toDays found.date)
      (found.hour * 3600 + found.minute * 60 + found.second)) :=
  if_pos ⟨valid, minute, second⟩

/-- Reading a printed day gives the start of that day. -/
theorem dayStart_eq (date : Date) :
    (formatter zone).dayStart date = some (instant zone (dayNumber zone date) 0) := by
  have stored : Utils.YYYYMMDD.foldl (storeItem (components zone date)) defaultComponents =
      { date := Civil.ofDays (dayNumber zone date), hour := 0, minute := 0, second := 0 } := rfl
  rw [DateFormatter.dayStart, DateFormatter.dayString, date_string zone separated_YYYYMMDD, stored,
    dateFromComponents_eq zone (Civil.valid_ofDays _) (Nat.succ_pos 59) (Nat.succ_pos 59)]
  simp only [Civil.toDays_ofDays, Nat.zero_mul, Nat.add_zero]

/-- Reading a printed time gives the same second in the first half of its day. -/
theorem date_string_seconds (date : Date) :
    (formatter zone).date Utils.YYYY_MM_DD_HH_MM_SS
        ((formatter zone).string Utils.YYYY_MM_DD_HH_MM_SS date) =
      some (instant zone (dayNumber zone date) (secondOfDay zone date % 43200)) := by
  have stored :
      Utils.YYYY_MM_DD_HH_MM_SS.foldl (storeItem (components zone date)) defaultComponents =
        { date := Civil.ofDays (dayNumber zone date)
          hour := secondOfDay zone date / 3600 % 12
          minute := secondOfDay zone date % 3600 / 60
          second := secondOfDay zone date % 60 } := rfl
  rw [date_string zone separated_YYYY_MM_DD_HH_MM_SS, stored,
    dateFromComponents_eq zone (Civil.valid_ofDays _) (by dsimp only; omega)
      (by dsimp only; omega)]
  dsimp only
  rw [Civil.toDays_ofDays]
  congr 2
  omega

/-- An instant falls in its day, at its second. -/
theorem dayNumber_instant (day : Int) {second : Nat} (inDay : second < 86400) :
    dayNumber zone (instant zone day second) = day := by
  simp only [dayNumber, localSeconds, instant, referenceDay]
  omega

/-- The second of the day of an instant that was put together. -/
theorem secondOfDay_instant (day : Int) {second : Nat} (inDay : second < 86400) :
    secondOfDay zone (instant zone day second) = second := by
  simp only [secondOfDay, localSeconds, instant]
  omega

/-- A later instant is on no earlier day. -/
theorem dayNumber_mono {first second : Date} (order : first ≤ second) :
    dayNumber zone first ≤ dayNumber zone second := by
  rw [Date.le_iff] at order
  simp only [dayNumber, localSeconds]
  omega

/-- The starts of two days are in the order of the days. -/
theorem instant_le_iff {first second : Int} :
    instant zone first 0 ≤ instant zone second 0 ↔ first ≤ second := by
  simp only [Date.le_iff, instant]
  omega

/-- The text of a day depends on the day alone. -/
theorem dayString_congr {first second : Date}
    (same : dayNumber zone first = dayNumber zone second) :
    (formatter zone).dayString first = (formatter zone).dayString second := by
  have date : (components zone first).date = (components zone second).date :=
    congrArg Civil.ofDays same
  simp only [DateFormatter.dayString, formatter, Utils.YYYYMMDD, text, List.flatMap_cons,
    List.flatMap_nil, itemText, fieldText, date]

/-- Two instants have the same text of a day exactly when they are of one day. -/
theorem dayString_eq_iff {first second : Date} :
    (formatter zone).dayString first = (formatter zone).dayString second ↔
      dayNumber zone first = dayNumber zone second := by
  refine ⟨fun same => ?_, dayString_congr zone⟩
  have start := DateFormatter.dayStart_congr same
  rw [dayStart_eq, dayStart_eq, Option.some.injEq] at start
  exact le_antisymm ((instant_le_iff zone).mp start.le) ((instant_le_iff zone).mp start.ge)

/-- The formatter has the laws of days. -/
theorem dayLaws : (formatter zone).DayLaws where
  parses date := by rw [dayStart_eq]; rfl
  monotone first second start later order firstStart secondStart := by
    rw [dayStart_eq, Option.some.injEq] at firstStart secondStart
    rw [← firstStart, ← secondStart, instant_le_iff]
    exact dayNumber_mono zone order
  injective first second start firstStart secondStart := by
    rw [dayStart_eq, Option.some.injEq] at firstStart secondStart
    rw [dayString_eq_iff]
    have same := firstStart.trans secondStart.symm
    exact le_antisymm ((instant_le_iff zone).mp same.le) ((instant_le_iff zone).mp same.ge)

/-- What the formatter reads back is printed the same. -/
theorem reprints : (formatter zone).Reprints := by
  intro date parsed read
  rw [date_string_seconds, Option.some.injEq] at read
  subst read
  have inDay : secondOfDay zone date % 43200 < 86400 := by omega
  have day := dayNumber_instant zone (dayNumber zone date) inDay
  have second := secondOfDay_instant zone (dayNumber zone date) inDay
  have hour : dialHour (secondOfDay zone date % 43200 / 3600) =
      dialHour (secondOfDay zone date / 3600) := by
    rw [← dialHour_mod_left, ← dialHour_mod_left (secondOfDay zone date / 3600)]
    congr 1
    omega
  have minute : secondOfDay zone date % 43200 % 3600 / 60 =
      secondOfDay zone date % 3600 / 60 := by omega
  have seconds : secondOfDay zone date % 43200 % 60 = secondOfDay zone date % 60 := by omega
  simp only [formatter, Utils.YYYY_MM_DD_HH_MM_SS, text, List.flatMap_cons, List.flatMap_nil,
    itemText, fieldText, components, day, second, hour, minute, seconds]

end Gregorian

end MovieFun
