import MovieFun.View.Chat.Shape

/-!
# When the chat is chronological

Sections laid out by day are chronological exactly when the timeline is sorted
by date (`chronological_iff_sorted`). A build sorts it, but `addRowViewModel`
only appends, so a run stays chronological exactly when every message that it
appends is not dated before the last one shown (`chronological_iff_inOrder`).
-/

namespace MovieFun

open ChatEntry ChatSystem

/-- Where the day of a section's header starts. -/
def ChatSectionViewModel.dayStart (fm : DateFormatter) (sectionVM : ChatSectionViewModel) :
    Option Date :=
  Utils.dateFromString fm Utils.YYYYMMDD (ChatController.lastHeader sectionVM)

/-- The day of the first section is before that of the second. -/
def EarlierDay (fm : DateFormatter) (first second : ChatSectionViewModel) : Prop :=
  ∃ start later, first.dayStart fm = some start ∧ second.dayStart fm = some later ∧ start < later

/-- The message of the first entry was sent no later than that of the second. -/
def ChatEntry.NoLater (first second : ChatEntry) : Prop :=
  Message.NoLater first.message second.message

instance : DecidableRel ChatEntry.NoLater := fun first second =>
  inferInstanceAs (Decidable (Message.NoLater first.message second.message))

/-- The days of the sections increase strictly, and the dates in a section do not
decrease. -/
structure Chronological (fm : DateFormatter) (sectionVMs : List ChatSectionViewModel) : Prop where
  days : sectionVMs.Pairwise (EarlierDay fm)
  rows : ∀ sectionVM ∈ sectionVMs, sectionVM.entries.Pairwise ChatEntry.NoLater

/-- A date that is not before the one of the last message shown. -/
def NotBeforeLast (system : ChatSystem) (sendDate : Option Date) : Prop :=
  ∀ last ∈ system.shown.getLast?, ∀ lastDate ∈ last.message.sendDate, ∀ date ∈ sendDate,
    lastDate ≤ date

/-- What the event appends is in order: of a batch that is listened to, what
`checkExistMessage` does not find, and of a call the message with its cut date. -/
def InOrder (fm : DateFormatter) (system : ChatSystem) : ChatEvent → Prop
  | .listenerReply share (some batch) none =>
      system.controller.didStart = true → share.getAccountId.isSome → ∀ message ∈ batch,
        ChatController.checkExistMessage system.held message = some false →
          NotBeforeLast system message.sendDate
  | .addMessage _ now _ _ => NotBeforeLast system (Utils.getCurrentDate fm now)
  | .addMessageImage _ now _ fullSizeImageURL _ =>
      (fullSizeImageURL.bind Utils.getFileName).isSome →
        NotBeforeLast system (Utils.getCurrentDate fm now)
  | _ => True

variable {fm : DateFormatter}

instance : IsTrans ChatSectionViewModel (EarlierDay fm) := ⟨by
  rintro first second third ⟨start, middle, isFirst, isSecond, less⟩
    ⟨middle', last, isSecond', isThird, less'⟩
  rw [isSecond, Option.some.injEq] at isSecond'
  exact ⟨start, last, isFirst, isThird, less.trans (isSecond' ▸ less')⟩⟩

instance : IsTrans ChatEntry ChatEntry.NoLater :=
  ⟨fun first second third one two =>
    IsTrans.trans (r := Message.NoLater) first.message second.message third.message one two⟩

/-- The day of a rendered section is the day of each of its messages. -/
theorem dayStart_renderSection {entries group : List ChatEntry}
    (inside : group ∈ entries.splitBy (sameDay fm)) {entry : ChatEntry} (member : entry ∈ group)
    {sendDate : Date} (sent : entry.message.sendDate = some sendDate) :
    (renderSection fm group).dayStart fm = fm.dayStart sendDate := by
  obtain ⟨first, rest, rfl, oneDay⟩ := day_of_mem_splitBy inside
  have same := oneDay entry member
  rw [day, sent] at same
  have header : ChatController.lastHeader (renderSection fm (first :: rest)) = first.day fm := rfl
  rw [ChatSectionViewModel.dayStart, header, ← same]
  rfl

/-- Laid out by day, the sections are chronological exactly when the timeline is
sorted by date. -/
theorem chronological_iff_sorted (laws : fm.DayLaws) {sectionVMs : List ChatSectionViewModel}
    (rendered : Rendered fm sectionVMs) :
    Chronological fm sectionVMs ↔ (timeline sectionVMs).Pairwise ChatEntry.NoLater := by
  obtain ⟨dated, laidOut⟩ := rendered
  have inTimeline : ∀ group ∈ (timeline sectionVMs).splitBy (sameDay fm), ∀ entry ∈ group,
      entry.Dated := by
    intro group inside entry member
    apply dated entry
    rw [← List.flatten_splitBy (sameDay fm) (timeline sectionVMs)]
    exact List.mem_flatten.mpr ⟨group, inside, member⟩
  constructor
  · intro ⟨days, rows⟩
    rw [laidOut, render, List.pairwise_map] at days
    rw [← List.flatten_splitBy (sameDay fm) (timeline sectionVMs), List.pairwise_flatten]
    refine ⟨fun group inside => ?_, days.imp_of_mem ?_⟩
    · have ofSection := rows (renderSection fm group) (by
        rw [laidOut]
        exact List.mem_map_of_mem inside)
      rwa [entries_renderSection] at ofSection
    · rintro first second inFirst inSecond ⟨start, later, isFirst, isSecond, less⟩ a ha b hb
      obtain ⟨dateA, sentA⟩ := Option.isSome_iff_exists.mp (inTimeline first inFirst a ha)
      obtain ⟨dateB, sentB⟩ := Option.isSome_iff_exists.mp (inTimeline second inSecond b hb)
      rw [dayStart_renderSection inFirst ha sentA] at isFirst
      rw [dayStart_renderSection inSecond hb sentB] at isSecond
      exact (Message.noLater_iff sentA sentB).mpr
        (laws.lt_of_dayStart_lt isFirst isSecond less).le
  · intro sorted
    constructor
    · rw [laidOut, render, List.pairwise_map]
      have transitive : IsTrans (List ChatEntry) fun first second =>
          EarlierDay fm (renderSection fm first) (renderSection fm second) :=
        ⟨fun first second third => IsTrans.trans (r := EarlierDay fm) _ _ _⟩
      apply Bucket.pairwise_splitBy sorted
      intro first inFirst second inSecond a ha b hb less apart
      obtain ⟨dateA, sentA⟩ := Option.isSome_iff_exists.mp (inTimeline first inFirst a ha)
      obtain ⟨dateB, sentB⟩ := Option.isSome_iff_exists.mp (inTimeline second inSecond b hb)
      obtain ⟨start, isFirst⟩ := Option.isSome_iff_exists.mp (laws.parses dateA)
      obtain ⟨later, isSecond⟩ := Option.isSome_iff_exists.mp (laws.parses dateB)
      have different : fm.dayString dateA ≠ fm.dayString dateB := by
        intro same
        rw [sameDay, day, day, sentA, sentB, decide_eq_false_iff_not] at apart
        exact apart (congrArg some same)
      have order : dateA ≤ dateB := (Message.noLater_iff sentA sentB).mp less
      refine ⟨start, later, ?_, ?_, laws.lt_of_dayString_ne order different isFirst isSecond⟩
      · rw [dayStart_renderSection inFirst ha sentA, isFirst]
      · rw [dayStart_renderSection inSecond hb sentB, isSecond]
    · intro sectionVM member
      refine sorted.sublist ?_
      exact List.sublist_flatten_of_mem (List.mem_map_of_mem member)

/-- A sorted list followed by a sorted list is sorted when the last element of
the first comes before all of the second. -/
theorem pairwise_append_iff_getLast? {α : Type*} {r : α → α → Prop} [IsTrans α r]
    {first second : List α} (firstSorted : first.Pairwise r) (secondSorted : second.Pairwise r) :
    (first ++ second).Pairwise r ↔ ∀ last ∈ first.getLast?, ∀ a ∈ second, r last a := by
  rw [List.pairwise_append]
  constructor
  · rintro ⟨-, -, across⟩ last isLast a member
    exact across last (List.mem_of_getLast? isLast) a member
  · intro fromLast
    refine ⟨firstSorted, secondSorted, fun a inFirst b inSecond => ?_⟩
    obtain ⟨last, isLast⟩ := Option.isSome_iff_exists.mp
      (List.getLast?_isSome.mpr (List.ne_nil_of_mem inFirst))
    have toLast := fromLast last isLast b inSecond
    rw [← List.dropLast_append_getLast? last isLast, List.mem_append, List.mem_singleton] at inFirst
    rw [← List.dropLast_append_getLast? last isLast, List.pairwise_append] at firstSorted
    rcases inFirst with earlier | rfl
    · exact IsTrans.trans _ _ _ (firstSorted.2.2 a earlier last List.mem_cons_self) toLast
    · exact toLast

/-- The order of one message after the last one shown. -/
theorem noLater_last_iff {system : ChatSystem} {message : Message} (dated : message.sendDate.isSome)
    (shownDated : ∀ entry ∈ system.shown, entry.Dated) :
    (∀ last ∈ system.shown.getLast?, Message.NoLater last.message message) ↔
      NotBeforeLast system message.sendDate := by
  obtain ⟨date, sent⟩ := Option.isSome_iff_exists.mp dated
  apply forall₂_congr
  intro last isLast
  obtain ⟨lastDate, lastSent⟩ := Option.isSome_iff_exists.mp
    (shownDated last (List.mem_of_getLast? isLast))
  rw [Message.noLater_iff lastSent sent, lastSent, sent]
  simp

/-- An own message is in order when its cut date is. -/
theorem inOrder_iff_of_composes {share : AccountService} {now : Date} {event : ChatEvent}
    {send : ChatSend} {phAsset : Option PHAsset}
    (composes : Composes fm share now event send phAsset) (system : ChatSystem) :
    InOrder fm system event ↔ NotBeforeLast system send.message.sendDate := by
  rw [composes.message.2.1]
  cases composes with
  | text composed => exact Iff.rfl
  | picture named composed =>
      rw [InOrder, named]
      exact ⟨fun order => order rfl, fun order _ => order⟩

/-- An event that leaves the view as it is is in order. -/
theorem Skips.inOrder {system : ChatSystem} {event : ChatEvent} (skips : Skips system event) :
    InOrder fm system event := by
  cases event with
  | listenerReply share changes error =>
      cases changes with
      | none => trivial
      | some batch =>
          cases error with
          | some error => trivial
          | none =>
              intro started signedIn
              exact absurd signedIn (skips.not_listened started)
  | addMessage share now text documentID => cases skips
  | addMessageImage share now asset fullSizeImageURL documentID =>
      intro named
      have sends := skips.sentID
      rw [ChatEvent.sentID, if_pos named] at sends
      cases sends
  | _ => trivial

/-- The end of a send is in order. -/
theorem inOrder_of_settles {system : ChatSystem} {event : ChatEvent} (settles : event.Settles) :
    InOrder fm system event := by
  cases event <;> first | exact settles.elim | trivial

/-- A build reads its groups in the order of the dates. -/
theorem shownMessages_sorted (laws : fm.DayLaws) (messages : List Message) :
    (shownMessages fm messages).Pairwise Message.NoLater := by
  apply Bucket.flatten_buckets_sorted (ChatController.dayKey fm) Message.NoLater
  intro first second firstKey secondKey isFirst isSecond less
  obtain ⟨firstDate, start, firstSent, firstStart, rfl⟩ := dayKey_eq_some isFirst
  obtain ⟨secondDate, later, secondSent, secondStart, rfl⟩ := dayKey_eq_some isSecond
  exact (Message.noLater_iff firstSent secondSent).mpr
    (laws.lt_of_dayStart_lt firstStart secondStart less).le

/-- A build is sorted by date. -/
theorem builtEntries_sorted (laws : fm.DayLaws) (share : AccountService)
    (messages : List Message) :
    (builtEntries fm share messages).Pairwise ChatEntry.NoLater := by
  rw [builtEntries, List.pairwise_map]
  exact shownMessages_sorted laws messages

/-- Appending sorted entries keeps the sections chronological exactly when the
last message shown is not after any of them. -/
theorem chronological_appendRows_iff (laws : fm.DayLaws) {entries : List ChatEntry}
    {system : ChatSystem} {next : List ChatSectionViewModel}
    (rendered : Rendered fm system.sections) (chronological : Chronological fm system.sections)
    (sorted : entries.Pairwise ChatEntry.NoLater)
    (added : appendRows fm entries system.sections = some next) :
    Chronological fm next ↔
      ∀ entry ∈ entries, NotBeforeLast system entry.message.sendDate := by
  obtain ⟨dated, appended⟩ := timeline_appendRows added
  rw [chronological_iff_sorted laws (rendered_appendRows rendered added), appended,
    pairwise_append_iff_getLast? ((chronological_iff_sorted laws rendered).mp chronological) sorted]
  constructor
  · intro order entry member
    exact (noLater_last_iff (dated entry member) rendered.1).mp fun last isLast =>
      order last isLast entry member
  · intro order last isLast entry member
    exact (noLater_last_iff (dated entry member) rendered.1).mpr (order entry member) last isLast

/-- The success of a send does not move rows. -/
theorem chronological_setSuccess (laws : fm.DayLaws) (documentID : String) (success : Bool)
    {sectionVMs : List ChatSectionViewModel} (rendered : Rendered fm sectionVMs)
    (chronological : Chronological fm sectionVMs) :
    Chronological fm (sectionVMs.map (ChatSectionViewModel.setSuccess documentID success)) := by
  rw [chronological_iff_sorted laws (rendered_setSuccess documentID success rendered),
    timeline_setSuccess, List.pairwise_map]
  exact (chronological_iff_sorted laws rendered).mp chronological

/-- One step from chronological sections. -/
theorem chronological_step_iff (laws : fm.DayLaws) {system next : ChatSystem} {event : ChatEvent}
    (rendered : Rendered fm system.sections) (chronological : Chronological fm system.sections)
    (taken : step fm system event = some next) :
    Chronological fm next.sections ↔ InOrder fm system event := by
  cases effect_of_step taken with
  | kept _ sections _ _ _ skips =>
      rw [sections]
      exact iff_of_true chronological skips.inOrder
  | settled _ documentID success sections _ _ _ settles =>
      rw [sections]
      exact iff_of_true
        (chronological_setSuccess laws documentID success rendered chronological)
        (inOrder_of_settles settles)
  | stored _ _ _ _ sections =>
      rw [sections]
      exact iff_of_true (chronological_setSuccess laws _ true rendered chronological) trivial
  | forgotten _ sections =>
      rw [sections]
      exact iff_of_true chronological trivial
  | @rebuilt share messages _ _ sections =>
      refine iff_of_true ?_ trivial
      rw [chronological_iff_sorted laws (rendered_of_step laws.injective rendered taken), sections,
        timeline_builtSections]
      exact builtEntries_sorted laws share messages
  | @received share batch new _ started signedIn received appended =>
      have sorted : (new.map (builtEntry share)).Pairwise ChatEntry.NoLater :=
        List.pairwise_map.mpr (received_sorted received)
      rw [chronological_appendRows_iff laws rendered chronological sorted appended,
        List.forall_mem_map]
      constructor
      · intro order _ _ message inside notFound
        obtain ⟨shown, isNew, same⟩ := exists_received_of_not_found received inside notFound
        exact same.2 ▸ order shown isNew
      · intro order message isNew
        obtain ⟨inside, notFound, -⟩ := (mem_received_iff received).mp isNew
        exact order started signedIn message inside notFound
  | own _ composes _ added =>
      rw [inOrder_iff_of_composes composes,
        chronological_appendRows_iff laws rendered chronological (List.pairwise_singleton _ _)
          (by rw [appendRows_cons, added]; rfl), List.forall_mem_singleton]
      rfl
  | sent _ composes _ _ added =>
      rw [inOrder_iff_of_composes composes,
        chronological_appendRows_iff laws rendered chronological (List.pairwise_singleton _ _)
          (by rw [appendRows_cons, added]; rfl), List.forall_mem_singleton]
      rfl

/-- **When the chat is chronological.** A run shows chronological sections in all
its states exactly when everything it appends is in order. -/
theorem chronological_iff_inOrder (laws : fm.DayLaws) (movieId : Option String)
    (events : List ChatEvent) :
    EventRun.EachState (step fm) (fun system => Chronological fm system.sections)
        (initial movieId) events ↔
      EventRun.EachStep (step fm) (InOrder fm) (initial movieId) events := by
  refine EventRun.eachState_iff_eachStep (fun _ system => Rendered fm system.sections) ?_ ?_ ?_ ?_
  · exact ⟨.nil, fun _ member => absurd member List.not_mem_nil⟩
  · exact ⟨fun _ member => absurd member List.not_mem_nil, rfl⟩
  · exact fun _ event state next _ rendered taken => rendered_of_step laws.injective rendered taken
  · exact fun _ event state next _ rendered chronological taken =>
      chronological_step_iff laws rendered chronological taken

/-- Two messages of this device, written a minute before noon and at noon. -/
def acrossNoon : List ChatEvent :=
  [.start,
    .fetchReply ⟨none, some "an"⟩ (some []) none,
    .listenerReply ⟨none, some "an"⟩ (some []) none,
    .addMessage ⟨none, some "an"⟩ ⟨1566388740000000000⟩ "before noon" "d1",
    .addMessage ⟨none, some "an"⟩ ⟨1566388800000000000⟩ "at noon" "d2"]

/-- The rule holds of that run. -/
theorem chronological_iff_inOrder_acrossNoon :
    EventRun.EachState (step (Gregorian.formatter ⟨0⟩))
        (fun system => Chronological (Gregorian.formatter ⟨0⟩) system.sections)
        (initial (some "1")) acrossNoon ↔
      EventRun.EachStep (step (Gregorian.formatter ⟨0⟩)) (InOrder (Gregorian.formatter ⟨0⟩))
        (initial (some "1")) acrossNoon :=
  chronological_iff_inOrder (Gregorian.dayLaws ⟨0⟩) (some "1") acrossNoon

/-- The second message is cut back to midnight and shown below the first. -/
theorem not_chronological_acrossNoon : ∃ system,
    run (Gregorian.formatter ⟨0⟩) (some "1") acrossNoon = some system ∧
      ¬ Chronological (Gregorian.formatter ⟨0⟩) system.sections := by
  have unsorted : (run (Gregorian.formatter ⟨0⟩) (some "1") acrossNoon).map (fun system =>
      decide (∀ sectionVM ∈ system.sections, sectionVM.entries.Pairwise ChatEntry.NoLater)) =
        some false := by decide +kernel
  obtain ⟨system, reached, out⟩ := Option.map_eq_some_iff.mp unsorted
  exact ⟨system, reached, fun chronological => of_decide_eq_false out chronological.rows⟩

end MovieFun
