import MovieFun.Foundation.TableView
import MovieFun.View.Chat.Shape
import MovieFun.View.Settling

/-!
# The table of the chat

The table of the chat is reloaded after a fetch and after messages were added. Messages
are added below, so only a fetch can take rows away from under the table: it builds the
sections anew, without the messages shown while it was under way. No row is missing
exactly when each fetch builds the rows that the table counted
(`safe_iff_refetches`). Every change puts a reload on the queue (`chatTable_current`), and the
row that is scrolled to after it is there (`hasRow_scrollTarget`).
-/

namespace MovieFun

namespace ChatTable

open ChatSystem

/-- The numbers of rows of sections. -/
def rowCounts (sectionVMs : List ChatSectionViewModel) : List Nat :=
  sectionVMs.map fun sectionVM => sectionVM.rowViewModels.length

/-- `numberOfSections` and `tableView(_:numberOfRowsInSection:)`. -/
def counts (system : ChatSystem) : List Nat := rowCounts system.sections

/-- The event sets `haveAddMessage` when it is done. -/
def notes (system : ChatSystem) : ChatEvent → Bool
  | .listenerReply share messageChanges error =>
      system.controller.didStart && error.isNone && messageChanges.isSome &&
        share.getAccountId.isSome
  | .addMessage .. => true
  | .addMessageImage _ _ _ fullSizeImageURL _ => (fullSizeImageURL.bind Utils.getFileName).isSome
  | _ => false

/-- The listener of `isFetching` reloads the table when the flag is lowered, that of
`haveAddMessage` when it is raised and there are sections. -/
def reloads (system : ChatSystem) (event : ChatEvent) (next : ChatSystem) : Nat :=
  (if event.sets system.movieId = some false then 1 else 0) +
    if notes system event && next.controller.chatViewModel.haveAddMessage &&
        0 < next.sections.length then 1 else 0

variable (fm : DateFormatter)

/-- The chat as what its table counts. -/
def source : TableSource ChatSystem ChatEvent where
  step := step fm
  counts := counts
  reloads := reloads

/-- The row that `scrollToBottomTableView` scrolls to: its section and its number there. -/
def scrollTarget (system : ChatSystem) : Option (Nat × Int) :=
  system.sections.getLast?.map fun lastSectionVM =>
    (system.sections.length - 1, (lastSectionVM.rowViewModels.length : Int) - 1)

/-- A fetch builds every row that the table counted. -/
def Refetches (screen : TableScreen ChatSystem) (event : TableEvent ChatEvent) : Prop :=
  ∀ share messages, event = .data (.fetchReply share (some messages) none) →
    ∀ counted ∈ screen.counted,
      TableCounts.Covers (rowCounts (builtSections fm share messages)) counted

variable {fm} {system next : ChatSystem} {event : ChatEvent}
  {sectionVMs added : List ChatSectionViewModel}

theorem rowCounts_setSuccess (documentID : String) (success : Bool)
    (sectionVMs : List ChatSectionViewModel) :
    rowCounts (sectionVMs.map (ChatSectionViewModel.setSuccess documentID success)) =
      rowCounts sectionVMs := by
  simp only [rowCounts, List.map_map, Function.comp_def, ChatSectionViewModel.setSuccess,
    List.length_map]

/-- A row is added below the others. -/
theorem covers_addRowViewModel {rowVM : ChatRowViewModel}
    (adds : ChatController.addRowViewModel fm rowVM sectionVMs = some added) :
    TableCounts.Covers (rowCounts added) (rowCounts sectionVMs) ∧ added ≠ [] := by
  simp only [ChatController.addRowViewModel, Option.bind_eq_bind, Option.bind_eq_some_iff] at adds
  obtain ⟨message, -, sendDate, -, adds⟩ := adds
  split at adds
  · cases adds
    rw [rowCounts, List.map_append]
    exact ⟨TableCounts.covers_append _ _, by simp⟩
  · next lastSection isLast =>
    split at adds
    · cases adds
      have split := List.dropLast_append_getLast? lastSection isLast
      refine ⟨?_, by simp⟩
      rw [rowCounts, rowCounts, ← split, List.map_append, List.map_append, List.dropLast_concat]
      exact TableCounts.covers_grown _ [] (by simp)
    · cases adds
      rw [rowCounts, List.map_append]
      exact ⟨TableCounts.covers_append _ _, by simp⟩

/-- Rows are added below the others. -/
theorem covers_appendRows {entries : List ChatEntry}
    (adds : appendRows fm entries sectionVMs = some added) :
    TableCounts.Covers (rowCounts added) (rowCounts sectionVMs) ∧
      (entries ≠ [] → added ≠ []) := by
  induction entries generalizing sectionVMs with
  | nil =>
      cases adds
      exact ⟨TableCounts.covers_refl _, fun some => absurd rfl some⟩
  | cons entry entries ih =>
      rw [appendRows_cons, Option.bind_eq_some_iff] at adds
      obtain ⟨middle, first, rest⟩ := adds
      obtain ⟨grows, some⟩ := covers_addRowViewModel first
      obtain ⟨furtherGrows, stays⟩ := ih rest
      refine ⟨furtherGrows.trans grows, fun _ => ?_⟩
      cases entries with
      | nil =>
          cases rest
          exact some
      | cons => exact stays (List.cons_ne_nil _ _)

/-- Only a fetch takes rows away. -/
theorem counts_of_step (taken : step fm system event = some next) :
    TableCounts.Covers (counts next) (counts system) ∨
      ∃ share messages, event = .fetchReply share (some messages) none ∧
        counts next = rowCounts (builtSections fm share messages) := by
  cases effect_of_step taken with
  | kept frame sections =>
      rw [counts, counts, sections]
      exact .inl (TableCounts.covers_refl _)
  | settled frame documentID success sections =>
      rw [counts, counts, sections, rowCounts_setSuccess]
      exact .inl (TableCounts.covers_refl _)
  | stored frame send found waiting sections =>
      rw [counts, counts, sections, rowCounts_setSuccess]
      exact .inl (TableCounts.covers_refl _)
  | forgotten frame sections =>
      rw [counts, counts, sections]
      exact .inl (TableCounts.covers_refl _)
  | rebuilt frame stamped sections => exact .inr ⟨_, _, rfl, congrArg rowCounts sections⟩
  | received frame started signedIn gets appended => exact .inl (covers_appendRows appended).1
  | own frame composes noMovie adds => exact .inl (covers_addRowViewModel adds).1
  | sent frame composes fresh written adds => exact .inl (covers_addRowViewModel adds).1

/-- A message of this device is noted when its row is there. -/
theorem haveAddMessage_of_sendMessage {now : Date} {message : Message} {phAsset : Option PHAsset}
    {documentID : String} {stage : SendStage}
    (sent : sendMessage fm now message phAsset documentID stage system = some next) :
    next.controller.chatViewModel.haveAddMessage = true := by
  unfold sendMessage at sent
  split at sent
  · simp only [ChatController.showOwnMessage, Option.bind_eq_bind, Option.bind_eq_some_iff] at sent
    obtain ⟨controller, ⟨sections, -, made⟩, done⟩ := sent
    cases made
    cases done
    rfl
  · simp only [ChatController.showOwnMessage, Option.bind_eq_bind, Option.bind_eq_some_iff] at sent
    obtain ⟨controller, ⟨sections, -, made⟩, -, -, done⟩ := sent
    cases made
    cases done
    rfl

/-- A message of this device puts a reload on the queue. -/
theorem reloads_of_composes {share : AccountService} {now : Date} {send : ChatSend}
    {phAsset : Option PHAsset} (composes : Composes fm share now event send phAsset)
    (taken : step fm system event = some next) (some : next.sections ≠ []) :
    0 < reloads system event next := by
  have noted : notes system event = true ∧
      next.controller.chatViewModel.haveAddMessage = true := by
    obtain ⟨-, done⟩ := step_eq_some taken
    cases composes with
    | text composed =>
        simp only [handle, composed, Option.bind_eq_bind, Option.bind_some] at done
        exact ⟨rfl, haveAddMessage_of_sendMessage done⟩
    | picture named composed =>
        simp only [handle, named, composed, Option.bind_eq_bind, Option.bind_some] at done
        exact ⟨by rw [notes, named]; rfl, haveAddMessage_of_sendMessage done⟩
  have there : 0 < next.sections.length := List.length_pos_iff.mpr some
  rw [reloads, noted.1, noted.2, decide_eq_true there]
  exact Nat.lt_of_lt_of_le Nat.zero_lt_one (Nat.le_add_left _ _)

/-- A batch that the listener hands over is noted. -/
theorem notes_listenerReply {share : AccountService} {batch : List Message}
    (started : system.controller.didStart = true) (signedIn : share.getAccountId.isSome) :
    notes system (.listenerReply share (some batch) none) = true := by
  rw [notes, started, signedIn]
  rfl

/-- Whatever changes the rows puts a reload on the queue. -/
theorem counts_or_reload (taken : step fm system event = some next) :
    counts next = counts system ∨ 0 < reloads system event next := by
  cases effect_of_step taken with
  | kept frame sections => exact .inl (congrArg rowCounts sections)
  | settled frame documentID success sections =>
      rw [counts, sections, rowCounts_setSuccess]
      exact .inl rfl
  | stored frame send found waiting sections =>
      rw [counts, sections, rowCounts_setSuccess]
      exact .inl rfl
  | forgotten frame sections => exact .inl (congrArg rowCounts sections)
  | rebuilt frame stamped sections =>
      exact .inr (Nat.lt_of_lt_of_le Nat.zero_lt_one (Nat.le_add_right _ _))
  | received frame started signedIn gets appended =>
      obtain ⟨new, sectionViewModels, news, adds, rfl⟩ := step_received started signedIn taken
      by_cases none : new = []
      · subst none
        cases adds
        exact .inl rfl
      · have there : sectionViewModels ≠ [] :=
          (covers_appendRows adds).2 fun nothing => none (List.map_eq_nil_iff.mp nothing)
        refine .inr ?_
        rw [reloads, notes_listenerReply started signedIn]
        simp [none, List.length_pos_iff.mpr there]
  | own frame composes noMovie adds =>
      exact .inr (reloads_of_composes composes taken (covers_addRowViewModel adds).2)
  | sent frame composes fresh written adds =>
      exact .inr (reloads_of_composes composes taken (covers_addRowViewModel adds).2)

variable {movieId : Option String} {screen : TableScreen ChatSystem}
  {events : List (TableEvent ChatEvent)}

/-- **No row of the chat is missing** that its table asks for exactly when each fetch builds
the rows that the table counted. -/
theorem safe_iff_refetches (movieId : Option String) (events : List (TableEvent ChatEvent)) :
    EventRun.EachState (TableScreen.step (source fm)) (TableScreen.Safe (source fm))
        { data := ChatSystem.initial movieId } events ↔
      EventRun.EachStep (TableScreen.step (source fm)) (Refetches fm)
        { data := ChatSystem.initial movieId } events := by
  refine EventRun.eachState_iff_eachStep (fun _ _ => True) (fun _ member => by cases member)
    trivial (fun _ _ _ _ _ _ _ => trivial) ?_
  intro before event state next _ _ safe taken
  constructor
  · rintro after share messages rfl counted member
    obtain ⟨data, changed, rfl⟩ := Option.map_eq_some_iff.mp taken
    have covers : TableCounts.Covers (counts data) counted := after counted member
    cases effect_of_step changed with
    | rebuilt frame stamped sections =>
        rw [counts, sections] at covers
        exact covers
    | kept frame sections assets held letters skips => cases skips
    | settled frame documentID success sections assets held letters settles => exact settles.elim
    | own frame composes => cases composes
    | sent frame composes => cases composes
  · intro refetches
    refine (TableScreen.safe_step_iff safe taken).mpr ?_
    rintro change rfl shrinks counted member
    obtain ⟨data, changed, rfl⟩ := Option.map_eq_some_iff.mp taken
    rcases counts_of_step changed with grows | ⟨share, messages, rfl, built⟩
    · exact absurd grows shrinks
    · have covers := refetches share messages rfl counted member
      rw [← built] at covers
      exact covers

/-- **The table of the chat catches up**: when no reload is on the queue, the table counted
the rows of all messages. -/
theorem chatTable_current
    (reached : EventRun.runFrom (TableScreen.step (source fm))
      { data := ChatSystem.initial movieId } events = some screen)
    (reloaded : screen.reloads = 0) : screen.Current (source fm) := by
  have changes : ∀ data change after, (source fm).step data change = some after →
      counts after = counts data ∨ False ∨ 0 < reloads data change after :=
    fun data change after changed => (counts_or_reload changed).imp_right .inr
  have keeps : ∀ data change after, (source fm).step data change = some after → False →
      False ∨ 0 < reloads data change after := fun _ _ _ _ owed => owed.elim
  exact TableScreen.current_of_paid changes keeps reached not_false reloaded

/-- **The row that is scrolled to is there**: after a reload, the last row of the last
section is one that the table counted. -/
theorem hasRow_scrollTarget (days : fm.DayInjective)
    (reached : EventRun.runFrom (TableScreen.step (source fm))
      { data := ChatSystem.initial movieId } (events ++ [.reload]) = some screen) :
    ∀ target ∈ scrollTarget screen.data, ∃ counted ∈ screen.counted, ∃ row : Nat,
      target.2 = row ∧ TableCounts.HasRow counted target.1 row := by
  obtain ⟨middle, run, taken⟩ := EventRun.runFrom_concat_eq_some _ reached
  have rendered : Rendered fm middle.data.sections :=
    TableScreen.data_of_run (fun data => Rendered fm data.sections)
      ⟨fun entry member => absurd member List.not_mem_nil, rfl⟩
      (fun _ _ _ rendered changed => rendered_of_step days rendered changed) run
  simp only [TableScreen.step] at taken
  split at taken
  · cases taken
    intro target isTarget
    obtain ⟨lastSectionVM, isLast, rfl⟩ := Option.map_eq_some_iff.mp isTarget
    have split := List.dropLast_append_getLast? lastSectionVM isLast
    obtain ⟨headerVM, rowVM, rowVMs, -, rows, -⟩ :=
      rendered.wellShaped lastSectionVM (List.mem_of_getLast? isLast)
    refine ⟨_, rfl, (rowVM :: rowVMs).length, ?_, lastSectionVM.rowViewModels.length, ?_, ?_⟩
    · rw [rows, List.length_cons, List.length_cons]
      omega
    · change (counts middle.data)[middle.data.sections.length - 1]? = _
      rw [counts, rowCounts, List.getElem?_map, ← List.getLast?_eq_getElem?, isLast]
      rfl
    · rw [rows]
      exact Nat.lt_succ_self _
  · cases taken

/-- A chat that goes on over midnight, with its reloads. -/
def overMidnight : List (TableEvent ChatEvent) :=
  MovieFun.overMidnight.map .data ++ [.reload, .reload]

/-- The run over midnight goes through. -/
theorem reached_overMidnight : ∃ screen,
    EventRun.runFrom (TableScreen.step (source (Gregorian.formatter ⟨0⟩)))
        { data := ChatSystem.initial (some "1") } (overMidnight ++ [.reload]) = some screen ∧
      screen.reloads = 0 := by
  have drained : (EventRun.runFrom (TableScreen.step (source (Gregorian.formatter ⟨0⟩)))
      { data := ChatSystem.initial (some "1") } (overMidnight ++ [.reload])).map
        (fun screen => screen.reloads) = some 0 := by decide +kernel
  exact Option.map_eq_some_iff.mp drained

/-- The table has counted what there is at its end. -/
theorem current_overMidnight : ∃ screen,
    EventRun.runFrom (TableScreen.step (source (Gregorian.formatter ⟨0⟩)))
        { data := ChatSystem.initial (some "1") } (overMidnight ++ [.reload]) = some screen ∧
      screen.Current (source (Gregorian.formatter ⟨0⟩)) := by
  obtain ⟨screen, reached, reloaded⟩ := reached_overMidnight
  exact ⟨screen, reached, chatTable_current reached reloaded⟩

/-- The row that it scrolls to is there. -/
theorem hasRow_overMidnight : ∃ screen,
    EventRun.runFrom (TableScreen.step (source (Gregorian.formatter ⟨0⟩)))
        { data := ChatSystem.initial (some "1") } (overMidnight ++ [.reload]) = some screen ∧
      ∀ target ∈ scrollTarget screen.data, ∃ counted ∈ screen.counted, ∃ row : Nat,
        target.2 = row ∧ TableCounts.HasRow counted target.1 row := by
  obtain ⟨screen, reached, -⟩ := reached_overMidnight
  exact ⟨screen, reached, hasRow_scrollTarget (Gregorian.dayLaws ⟨0⟩).injective reached⟩

/-- A message is shown while the fetch is under way, which finds none. -/
def sentWhileFetching : List (TableEvent ChatEvent) :=
  [.data .start, .data (.addMessage ⟨none, some "an"⟩ ⟨1566482800000000000⟩ "hello" "d1"), .reload,
    .data (.fetchReply ⟨none, some "an"⟩ (some []) none)]

/-- The table then asks for a row of a section that is gone. -/
example : ¬ EventRun.EachState (TableScreen.step (source (Gregorian.formatter ⟨0⟩)))
    (TableScreen.Safe (source (Gregorian.formatter ⟨0⟩)))
    { data := ChatSystem.initial (some "1") } sentWhileFetching := by
  have ends : (EventRun.runFrom (TableScreen.step (source (Gregorian.formatter ⟨0⟩)))
      { data := ChatSystem.initial (some "1") } sentWhileFetching).map
        (fun screen => (screen.counted, counts screen.data)) = some (some [2], []) := by
    decide +kernel
  obtain ⟨screen, reached, shown⟩ := Option.map_eq_some_iff.mp ends
  intro always
  obtain ⟨rows, there, -⟩ := always sentWhileFetching List.prefix_rfl screen reached [2]
    (congrArg Prod.fst shown) 0 0 ⟨2, rfl, Nat.zero_lt_two⟩
  rw [show (source (Gregorian.formatter ⟨0⟩)).counts screen.data = [] from
    congrArg Prod.snd shown] at there
  cases there

end ChatTable

end MovieFun
