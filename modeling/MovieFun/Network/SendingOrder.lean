import MovieFun.Helper.Gregorian
import MovieFun.Network.ChatService

/-!
# Time stamps and the order of sending

The date of a message passes through a text with the hour of the 12-hour clock and without
the half of the day. So of two messages the later one gets the earlier stamp exactly when
they are of one day, on either side of noon, and the later one is behind on the dial
(`inOrder_iff_not_fallsBack`).
-/

namespace MovieFun

open Gregorian

/-- Messages that are sent one after the other get their stamps in that order. -/
def SentInOrder (fm : DateFormatter) (first second : Date) : Prop :=
  first ≤ second → ∃ sent later, Utils.getCurrentDate fm first = some sent ∧
    Utils.getCurrentDate fm second = some later ∧ sent ≤ later

/-- Messages that are stored one after the other are decoded with their stamps in that
order. -/
def StoredInOrder (fm : DateFormatter) (first second : Date) : Prop :=
  first ≤ second → ∀ document other : Document,
    document.data.get "sendDate" = some (.timestamp first) →
    other.data.get "sendDate" = some (.timestamp second) →
      ∃ sent later, (ChatService.message fm document).sendDate = some sent ∧
        (ChatService.message fm other).sendDate = some later ∧ sent ≤ later

/-- Two instants of one day are on either side of noon, the second one behind on the
dial. -/
def FallsBack (zone : TimeZone) (first second : Date) : Prop :=
  dayNumber zone first = dayNumber zone second ∧
    secondOfDay zone first < 43200 ∧ 43200 ≤ secondOfDay zone second ∧
      secondOfDay zone second < secondOfDay zone first + 43200

variable {zone : TimeZone} {first second : Date}

/-- The date that a text keeps. -/
theorem getCurrentDate_eq (zone : TimeZone) (date : Date) :
    Utils.getCurrentDate (formatter zone) date =
      some (instant zone (dayNumber zone date) (secondOfDay zone date % 43200)) :=
  date_string_seconds zone date

/-- The second of the day is one of the day. -/
theorem secondOfDay_lt (zone : TimeZone) (date : Date) : secondOfDay zone date < 86400 := by
  unfold secondOfDay
  omega

/-- Instants are in the order of their days, and within a day of their seconds. -/
theorem instant_le_instant_iff {day other : Int} {one two : Nat} (oneInDay : one < 86400)
    (twoInDay : two < 86400) :
    instant zone day one ≤ instant zone other two ↔ day < other ∨ day = other ∧ one ≤ two := by
  simp only [Date.le_iff, instant]
  omega

/-- Within a day the clock goes forward. -/
theorem second_le_of_le (order : first ≤ second)
    (sameDay : dayNumber zone first = dayNumber zone second) :
    secondOfDay zone first ≤ secondOfDay zone second := by
  rw [Date.le_iff] at order
  simp only [dayNumber, secondOfDay, localSeconds] at sameDay ⊢
  omega

/-- An instant that is later on the same day is later. -/
theorem le_of_second_lt (sameDay : dayNumber zone first = dayNumber zone second)
    (later : secondOfDay zone first < secondOfDay zone second) : first ≤ second := by
  rw [Date.le_iff]
  simp only [dayNumber, secondOfDay, localSeconds] at sameDay later
  omega

/-- The stamps of two instants are in order unless the second one falls back. -/
theorem stamp_le_iff (order : first ≤ second) :
    instant zone (dayNumber zone first) (secondOfDay zone first % 43200) ≤
        instant zone (dayNumber zone second) (secondOfDay zone second % 43200) ↔
      ¬ FallsBack zone first second := by
  have firstInDay := secondOfDay_lt zone first
  have secondInDay := secondOfDay_lt zone second
  have days := dayNumber_mono zone order
  rw [instant_le_instant_iff (by omega) (by omega), FallsBack]
  rcases lt_or_eq_of_le days with earlier | sameDay
  · omega
  · have seconds := second_le_of_le order sameDay
    omega

/-- The stamp of a stored instant is the one of a message sent at it. -/
theorem message_sendDate {fm : DateFormatter} {document : Document} {date : Date}
    (stored : document.data.get "sendDate" = some (.timestamp date)) :
    (ChatService.message fm document).sendDate = Utils.getCurrentDate fm date := by
  unfold ChatService.message ChatService.getMessage
  rw [stored]
  rfl

/-- Two instants are sent in their order exactly if the second does not fall back. -/
theorem sentInOrder_iff : SentInOrder (formatter zone) first second ↔
    ¬ FallsBack zone first second := by
  unfold SentInOrder
  rw [getCurrentDate_eq, getCurrentDate_eq]
  constructor
  · intro ordered fallsBack
    have later : secondOfDay zone first < secondOfDay zone second := by
      obtain ⟨-, morning, afternoon, -⟩ := fallsBack
      exact lt_of_lt_of_le morning afternoon
    have order := le_of_second_lt fallsBack.1 later
    obtain ⟨_, _, ⟨⟩, ⟨⟩, stamps⟩ := ordered order
    exact (stamp_le_iff order).mp stamps fallsBack
  · intro holds order
    exact ⟨_, _, rfl, rfl, (stamp_le_iff order).mpr holds⟩

/-- Stored instants are decoded in the order in which they would be sent. -/
theorem storedInOrder_iff_sentInOrder {fm : DateFormatter} :
    StoredInOrder fm first second ↔ SentInOrder fm first second := by
  constructor
  · intro stored order
    obtain ⟨sent, later, firstSent, secondSent, stamps⟩ := stored order
      ⟨"", [("sendDate", .timestamp first)]⟩ ⟨"", [("sendDate", .timestamp second)]⟩ rfl rfl
    rw [message_sendDate rfl] at firstSent secondSent
    exact ⟨sent, later, firstSent, secondSent, stamps⟩
  · intro ordered order document other firstStored secondStored
    rw [message_sendDate firstStored, message_sendDate secondStored]
    exact ordered order

/-- **Stamps keep the order of two messages exactly unless the second one falls back.** For
those that are sent, and for those that are decoded. -/
theorem inOrder_iff_not_fallsBack (zone : TimeZone) (first second : Date) :
    (SentInOrder (formatter zone) first second ↔ ¬ FallsBack zone first second) ∧
      (StoredInOrder (formatter zone) first second ↔ ¬ FallsBack zone first second) :=
  ⟨sentInOrder_iff, storedInOrder_iff_sentInOrder.trans sentInOrder_iff⟩

/-- The message of noon is stamped before the one sent a minute earlier. -/
theorem not_sentInOrder_atNoon :
    ¬ SentInOrder (formatter ⟨0⟩) ⟨1566388740000000000⟩ ⟨1566388800000000000⟩ ∧
      ¬ StoredInOrder (formatter ⟨0⟩) ⟨1566388740000000000⟩ ⟨1566388800000000000⟩ := by
  have fallsBack : FallsBack ⟨0⟩ ⟨1566388740000000000⟩ ⟨1566388800000000000⟩ := by
    refine ⟨?_, ?_, ?_, ?_⟩ <;> decide
  constructor
  · intro ordered
    exact sentInOrder_iff.mp ordered fallsBack
  · intro ordered
    exact sentInOrder_iff.mp (storedInOrder_iff_sentInOrder.mp ordered) fallsBack

end MovieFun
