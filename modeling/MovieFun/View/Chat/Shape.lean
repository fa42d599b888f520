import MovieFun.Helper.Gregorian
import MovieFun.View.Chat.ChatEffect

/-!
# The shape of the sections

`Rendered` says that the sections lay out a list of dated messages by day. It
holds in every state the chat reaches when days can be read back apart
(`rendered_of_run`), and the shape on which the table view rests follows from it
(`wellShaped_of_run`).
-/

namespace MovieFun

open ChatEntry ChatSystem

/-- The row shows a message of the day of a header. -/
def ChatRowViewModel.ShowsDay (fm : DateFormatter) (sendDateStr : String)
    (rowVM : ChatRowViewModel) : Prop :=
  ∃ bubble message sendDate, rowVM.subclass = .message bubble ∧
    rowVM.currentMessage = some message ∧ message.sendDate = some sendDate ∧
    Utils.stringFromDate fm Utils.YYYYMMDD (some sendDate) = some sendDateStr

/-- A section is one header and at least one row of its day, and each row has the
message of the row above it. -/
def ChatSectionViewModel.WellShaped (fm : DateFormatter) (sectionVM : ChatSectionViewModel) :
    Prop :=
  ∃ headerVM rowVM rowVMs sendDateStr, sectionVM.rowViewModels = headerVM :: rowVM :: rowVMs ∧
    headerVM.subclass = .header (some sendDateStr) ∧
    (∀ row ∈ rowVM :: rowVMs, row.ShowsDay fm sendDateStr) ∧
    rowVM.previousMessage = none ∧
    (rowVM :: rowVMs).IsChain fun above below => below.previousMessage = above.currentMessage

/-- The sections lay out dated messages by day. -/
def Rendered (fm : DateFormatter) (sectionVMs : List ChatSectionViewModel) : Prop :=
  (∀ entry ∈ timeline sectionVMs, entry.Dated) ∧ sectionVMs = render fm (timeline sectionVMs)

variable {fm : DateFormatter}

/-- What is rendered is rendered. -/
theorem rendered_render {entries : List ChatEntry} (dated : ∀ entry ∈ entries, entry.Dated) :
    Rendered fm (render fm entries) := by
  rw [Rendered, timeline_render]
  exact ⟨dated, rfl⟩

/-- Rows that are appended leave the sections rendered. -/
theorem rendered_appendRows {entries : List ChatEntry}
    {sectionVMs next : List ChatSectionViewModel} (rendered : Rendered fm sectionVMs)
    (added : appendRows fm entries sectionVMs = some next) : Rendered fm next := by
  obtain ⟨dated, laidOut⟩ := rendered
  obtain ⟨newDated, -⟩ := timeline_appendRows added
  rw [laidOut, appendRows_render newDated, Option.some.injEq] at added
  rw [← added]
  apply rendered_render
  intro entry member
  rcases List.mem_append.mp member with shown | isNew
  · exact dated entry shown
  · exact newDated entry isNew

/-- A row that is appended leaves the sections rendered. -/
theorem rendered_addRowViewModel {entry : ChatEntry}
    {sectionVMs next : List ChatSectionViewModel} (rendered : Rendered fm sectionVMs)
    (added : ChatController.addRowViewModel fm (entry.row none) sectionVMs = some next) :
    Rendered fm next := by
  have appended : appendRows fm [entry] sectionVMs = some next := by
    rw [appendRows_cons, added]
    rfl
  exact rendered_appendRows rendered appended

theorem rendered_setSuccess (documentID : String) (success : Bool)
    {sectionVMs : List ChatSectionViewModel} (rendered : Rendered fm sectionVMs) :
    Rendered fm (sectionVMs.map (ChatSectionViewModel.setSuccess documentID success)) := by
  obtain ⟨dated, laidOut⟩ := rendered
  refine ⟨fun entry member => ?_, ?_⟩
  · rw [timeline_setSuccess] at member
    obtain ⟨shown, inside, rfl⟩ := List.mem_map.mp member
    exact dated shown inside
  · rw [timeline_setSuccess, render_setSuccess, ← laidOut]

/-- A build shows only messages with a date. -/
theorem dated_of_mem_builtEntries {share : AccountService} {messages : List Message}
    {entry : ChatEntry} (member : entry ∈ builtEntries fm share messages) : entry.Dated := by
  obtain ⟨message, shown, rfl⟩ := List.mem_map.mp member
  exact sendDate_of_dayKey (mem_shownMessages.mp shown).2

/-- Each step keeps the sections laid out by day. -/
theorem rendered_of_step (days : fm.DayInjective) {system next : ChatSystem} {event : ChatEvent}
    (rendered : Rendered fm system.sections) (taken : step fm system event = some next) :
    Rendered fm next.sections := by
  cases effect_of_step taken with
  | kept _ sections => rwa [sections]
  | settled _ documentID success sections =>
      rw [sections]
      exact rendered_setSuccess documentID success rendered
  | stored _ _ _ _ sections =>
      rw [sections]
      exact rendered_setSuccess _ true rendered
  | forgotten _ sections => rwa [sections]
  | rebuilt _ _ sections =>
      rw [sections, builtSections_eq_render days]
      exact rendered_render fun entry => dated_of_mem_builtEntries
  | received _ _ _ _ appended => exact rendered_appendRows rendered appended
  | own _ _ _ added => exact rendered_addRowViewModel rendered added
  | sent _ _ _ _ added => exact rendered_addRowViewModel rendered added

/-- In every state the chat reaches, the sections are laid out by day. -/
theorem rendered_of_run (days : fm.DayInjective) {movieId : Option String}
    {events : List ChatEvent} {system : ChatSystem}
    (reached : run fm movieId events = some system) :
    Rendered fm system.sections := by
  refine EventRun.invariant_state (fun system => Rendered fm system.sections) ?_ ?_ reached
  · exact ⟨fun entry member => absurd member List.not_mem_nil, rfl⟩
  · exact fun state event next rendered taken => rendered_of_step days rendered taken

/-- Each row has the message of the row above. -/
theorem ChatEntry.isChain_rows (previousMessage : Option Message) (entry : ChatEntry)
    (entries : List ChatEntry) :
    (rows previousMessage (entry :: entries)).IsChain fun above below =>
      below.previousMessage = above.currentMessage := by
  induction entries generalizing previousMessage entry with
  | nil => exact List.isChain_singleton _
  | cons second entries ih => exact List.isChain_cons_cons.mpr ⟨rfl, ih (some entry.message) second⟩

/-- Each row of entries is that of one of them. -/
theorem ChatEntry.mem_rows {previousMessage : Option Message} {entries : List ChatEntry}
    {rowVM : ChatRowViewModel} (member : rowVM ∈ rows previousMessage entries) :
    ∃ entry ∈ entries, ∃ above, rowVM = entry.row above := by
  induction entries generalizing previousMessage with
  | nil => exact absurd member List.not_mem_nil
  | cons entry entries ih =>
      rcases List.mem_cons.mp member with rfl | later
      · exact ⟨entry, List.mem_cons_self, previousMessage, rfl⟩
      · obtain ⟨below, inside, made⟩ := ih later
        exact ⟨below, List.mem_cons_of_mem _ inside, made⟩

/-- Sections laid out by day have the shape. -/
theorem Rendered.wellShaped {sectionVMs : List ChatSectionViewModel}
    (rendered : Rendered fm sectionVMs) : ∀ sectionVM ∈ sectionVMs, sectionVM.WellShaped fm := by
  obtain ⟨dated, laidOut⟩ := rendered
  intro sectionVM member
  rw [laidOut] at member
  obtain ⟨group, inside, rfl⟩ := List.mem_map.mp member
  obtain ⟨first, rest, rfl, oneDay⟩ := day_of_mem_splitBy inside
  have members : ∀ entry ∈ first :: rest, entry.Dated := by
    intro entry inGroup
    apply dated entry
    rw [← List.flatten_splitBy (sameDay fm) (timeline sectionVMs)]
    exact List.mem_flatten.mpr ⟨_, inside, inGroup⟩
  obtain ⟨firstDate, firstSent⟩ := Option.isSome_iff_exists.mp (members first List.mem_cons_self)
  refine ⟨_, _, _, fm.string Utils.YYYYMMDD firstDate, rfl, ?_, ?_, rfl,
    isChain_rows none first rest⟩
  · simp only [List.head?_cons, Option.bind_some, day, firstSent]
    rfl
  · intro row inRows
    have inside : row ∈ rows none (first :: rest) := inRows
    obtain ⟨entry, inGroup, above, rfl⟩ := mem_rows inside
    obtain ⟨sendDate, sent⟩ := Option.isSome_iff_exists.mp (members entry inGroup)
    refine ⟨entry.bubble, entry.message, sendDate, rfl, rfl, sent, ?_⟩
    have same := oneDay entry inGroup
    rw [day, day, firstSent, sent] at same
    exact same

/-- **The section shape.** In every state that the chat reaches by any events in
any order, every section is one header and at least one message row below it, all
of the day the header shows, and each row has the message of the row above it. -/
theorem wellShaped_of_run (days : fm.DayInjective) {movieId : Option String}
    {events : List ChatEvent} {system : ChatSystem}
    (reached : run fm movieId events = some system) :
    ∀ sectionVM ∈ system.sections, sectionVM.WellShaped fm :=
  (rendered_of_run days reached).wellShaped

/-- A chat that goes on over midnight. -/
def overMidnight : List ChatEvent :=
  [.start,
    .fetchReply ⟨none, some "an"⟩
      (some [{ accountId := some "binh", sendDate := some ⟨1566396309000000000⟩ }]) none,
    .listenerReply ⟨none, some "an"⟩ (some []) none,
    .listenerReply ⟨none, some "an"⟩
      (some [{ accountId := some "an", sendDate := some ⟨1566396400000000000⟩ }]) none,
    .addMessage ⟨none, some "an"⟩ ⟨1566482800000000000⟩ "hello" "d1"]

/-- Such a chat has two sections of the shape. -/
theorem wellShaped_overMidnight : ∃ system,
    run (Gregorian.formatter ⟨0⟩) (some "1") overMidnight = some system ∧
      system.sections.length = 2 ∧
      ∀ sectionVM ∈ system.sections, sectionVM.WellShaped (Gregorian.formatter ⟨0⟩) := by
  have twoDays : (run (Gregorian.formatter ⟨0⟩) (some "1") overMidnight).map
      (fun system => system.sections.length) = some 2 := by decide +kernel
  obtain ⟨system, reached, two⟩ := Option.map_eq_some_iff.mp twoDays
  exact ⟨system, reached, two, wellShaped_of_run (Gregorian.dayLaws ⟨0⟩).injective reached⟩

end MovieFun
