import MovieFun.Helper.Gregorian
import MovieFun.View.Chat.Agreement
import MovieFun.View.Chat.Shape

/-!
# The rows and the messages held

Once a fetch has succeeded, the message rows show the messages that the controller
holds, each as often as it is held (`rowsAgree_of_run`). Every operation changes the two
separately; the one that rebuilds the rows sorts the messages by day on the way.
-/

namespace MovieFun

open ChatEntry ChatSystem

/-- The row is that of a message. -/
def ChatRowViewModel.isMessage (rowVM : ChatRowViewModel) : Bool :=
  match rowVM.subclass with
  | .message _ => true
  | .header _ => false

/-- The message rows of the sections, from top to bottom. -/
def messageRows (sectionVMs : List ChatSectionViewModel) : List ChatRowViewModel :=
  sectionVMs.flatMap fun sectionVM => sectionVM.rowViewModels.filter ChatRowViewModel.isMessage

/-- The rows have the messages held, in some order. -/
def RowsAgree (system : ChatSystem) : Prop :=
  ∃ messages, system.held = some messages ∧
    ((messageRows system.sections).map ChatRowViewModel.currentMessage).Perm (messages.map some)

/-- A fetch that hands on messages. -/
def ChatEvent.Fetches : ChatEvent → Prop
  | fetchReply _ (some _) none => True
  | _ => False

/-- A fetch that is answered without an error hands on messages, all with a date. -/
def ChatEvent.HandsDated : ChatEvent → Prop
  | fetchReply _ messages none =>
      ∃ fetched, messages = some fetched ∧ ∀ message ∈ fetched, message.sendDate.isSome
  | _ => True

variable {fm : DateFormatter} {before : List ChatEvent} {system next : ChatSystem}
  {event : ChatEvent}

/-- All rows of entries are rows of messages. -/
theorem ChatEntry.filter_isMessage_rows (previousMessage : Option Message)
    (entries : List ChatEntry) :
    (rows previousMessage entries).filter ChatRowViewModel.isMessage =
      rows previousMessage entries := by
  induction entries generalizing previousMessage with
  | nil => rfl
  | cons entry entries ih =>
      rw [rows, List.filter_cons_of_pos rfl, ih]

/-- The rows of entries have their messages. -/
theorem ChatEntry.map_currentMessage_rows (previousMessage : Option Message)
    (entries : List ChatEntry) :
    (rows previousMessage entries).map ChatRowViewModel.currentMessage =
      entries.map fun entry => some entry.message := by
  induction entries generalizing previousMessage with
  | nil => rfl
  | cons entry entries ih =>
      rw [rows, List.map_cons, List.map_cons, ih]
      rfl

/-- The message rows of rendered sections are those of the timeline. -/
theorem Rendered.map_messageRows {sectionVMs : List ChatSectionViewModel}
    (rendered : Rendered fm sectionVMs) :
    (messageRows sectionVMs).map ChatRowViewModel.currentMessage =
      (timeline sectionVMs).map fun entry => some entry.message := by
  have ofSection : ∀ entries : List ChatEntry,
      ((renderSection fm entries).rowViewModels.filter ChatRowViewModel.isMessage).map
        ChatRowViewModel.currentMessage = entries.map fun entry => some entry.message := by
    intro entries
    rw [renderSection, List.filter_cons_of_neg Bool.false_ne_true, filter_isMessage_rows,
      map_currentMessage_rows]
  obtain ⟨-, laidOut⟩ := rendered
  conv_lhs => rw [laidOut]
  conv_rhs => rw [← List.flatten_splitBy (sameDay fm) (timeline sectionVMs)]
  simp only [messageRows, render, List.flatMap_map, List.map_flatMap, ofSection, List.map_flatten]
  rfl

/-- The timeline has the messages held, and there are some once a fetch succeeded. -/
structure ShowsHeld (before : List ChatEvent) (system : ChatSystem) : Prop where
  perm : ∀ messages, system.held = some messages →
    (system.shown.map ChatEntry.message).Perm messages
  held : (∃ event ∈ before, event.Fetches) → system.held.isSome

/-- An event that does not fetch keeps what there is once a fetch succeeded. -/
theorem ShowsHeld.held_concat (showsHeld : ShowsHeld before system) (quiet : ¬ event.Fetches) :
    (∃ earlier ∈ before ++ [event], earlier.Fetches) → system.held.isSome := by
  rintro ⟨earlier, member, fetches⟩
  rcases List.mem_append.mp member with inside | isLast
  · exact showsHeld.held ⟨earlier, inside, fetches⟩
  · rw [List.mem_singleton.mp isLast] at fetches
    exact absurd fetches quiet

/-- Rows and messages that are unchanged, up to the success of a send, still agree. -/
theorem ShowsHeld.keep (showsHeld : ShowsHeld before system) (quiet : ¬ event.Fetches)
    (shown : next.shown.map ChatEntry.message = system.shown.map ChatEntry.message)
    (held : next.held = system.held) : ShowsHeld (before ++ [event]) next where
  perm := fun messages isHeld => by
    rw [shown]
    exact showsHeld.perm messages (held.symm.trans isHeld)
  held := by
    rw [held]
    exact showsHeld.held_concat quiet

/-- Messages that are appended to the rows are appended to those held. -/
theorem ShowsHeld.append (showsHeld : ShowsHeld before system) (quiet : ¬ event.Fetches)
    {new : List ChatEntry} (shown : next.shown = system.shown ++ new)
    (held : next.held = system.held.map (· ++ new.map ChatEntry.message)) :
    ShowsHeld (before ++ [event]) next where
  perm := fun messages isHeld => by
    obtain ⟨earlier, wasHeld, rfl⟩ := Option.map_eq_some_iff.mp (held.symm.trans isHeld)
    rw [shown, List.map_append]
    exact (showsHeld.perm earlier wasHeld).append_right _
  held := by
    rw [held, Option.isSome_map]
    exact showsHeld.held_concat quiet

/-- A local event is no reply to a fetch. -/
theorem ChatEvent.IsLocal.not_fetches (isLocal : event.IsLocal) : ¬ event.Fetches := by
  cases event <;> first | exact fun fetches => fetches | exact isLocal.elim

theorem map_message_setSuccess {documentID : String} {success : Bool}
    (sections : next.sections =
      system.sections.map (ChatSectionViewModel.setSuccess documentID success)) :
    next.shown.map ChatEntry.message = system.shown.map ChatEntry.message := by
  rw [shown, sections, timeline_setSuccess, List.map_map]
  rfl

/-- Each step keeps rows and messages in agreement. -/
theorem showsHeld_of_step (laws : fm.DayLaws) (showsHeld : ShowsHeld before system)
    (dated : event.HandsDated) (taken : step fm system event = some next) :
    ShowsHeld (before ++ [event]) next := by
  cases effect_of_step taken with
  | kept _ sections _ held _ skips =>
      refine showsHeld.keep (fun fetches => ?_) (by rw [shown, sections]) held
      cases event with
      | fetchReply share messages error =>
          obtain ⟨thrown, rfl⟩ := Option.isSome_iff_exists.mp skips
          cases messages <;> exact fetches
      | _ => exact fetches
  | settled _ documentID success sections _ held _ settles =>
      exact showsHeld.keep settles.isLocal.not_fetches (map_message_setSuccess sections) held
  | stored _ send _ _ sections _ held =>
      exact showsHeld.keep (fun fetches => fetches) (map_message_setSuccess sections) held
  | forgotten =>
      obtain ⟨fetched, isNone, -⟩ := dated
      cases isNone
  | @rebuilt share messages _ _ sections _ held =>
      obtain ⟨fetched, isFetched, allDated⟩ := dated
      cases isFetched
      constructor
      · intro others isHeld
        cases held.symm.trans isHeld
        rw [shown, sections, timeline_builtSections, builtEntries, List.map_map]
        change ((shownMessages fm messages).map id).Perm messages
        rw [List.map_id]
        exact shownMessages_perm laws allDated
      · intro _
        rw [held]
        rfl
  | @received share batch new _ _ _ _ appended _ held =>
      obtain ⟨-, shows⟩ := timeline_appendRows appended
      refine showsHeld.append (fun fetches => fetches) shows (held.trans ?_)
      rw [List.map_map]
      change _ = system.held.map (· ++ new.map id)
      rw [List.map_id]
  | own _ composes _ added _ held =>
      obtain ⟨-, shows⟩ := timeline_addRowViewModel added
      exact showsHeld.append composes.isLocal.not_fetches shows held
  | sent _ composes _ _ added _ held =>
      obtain ⟨-, shows⟩ := timeline_addRowViewModel added
      exact showsHeld.append composes.isLocal.not_fetches shows held

/-- **The message list and the displayed rows agree.** In every state that the chat
reaches once a fetch has succeeded, whatever is sent, delivered and acknowledged before
and after. -/
theorem rowsAgree_of_run (laws : fm.DayLaws) {movieId : Option String}
    {events : List ChatEvent} {system : ChatSystem}
    (reached : run fm movieId events = some system)
    (dated : ∀ event ∈ events, event.HandsDated)
    (fetched : ∃ event ∈ events, event.Fetches) : RowsAgree system := by
  have initial : ShowsHeld [] (ChatSystem.initial movieId) :=
    ⟨fun _ isHeld => (by cases isHeld), fun ⟨_, member, _⟩ => absurd member List.not_mem_nil⟩
  have showsHeld : ShowsHeld events system := by
    refine EventRun.invariant ShowsHeld initial ?_ reached
    intro before event state next inside showsHeld taken
    have member : event ∈ events := inside.subset (List.mem_append_right _ List.mem_cons_self)
    exact showsHeld_of_step laws showsHeld (dated event member) taken
  obtain ⟨messages, isHeld⟩ := Option.isSome_iff_exists.mp (showsHeld.held fetched)
  refine ⟨messages, isHeld, ?_⟩
  rw [(rendered_of_run laws.injective reached).map_messageRows]
  have perm := (showsHeld.perm messages isHeld).map some
  rwa [List.map_map] at perm

/-- A text is sent before the fetch is answered, and another one after a batch. -/
def sentEarly : List ChatEvent :=
  [.start,
    .addMessage ⟨none, some "an"⟩ ⟨1566396300000000000⟩ "anyone here" "d1",
    .fetchReply ⟨none, some "an"⟩ (some [messageAt "binh" 1566396309000000000]) none,
    .addDocumentReply "d1" none,
    .listenerReply ⟨none, some "an"⟩ (some []) none,
    .listenerReply ⟨none, some "an"⟩ (some [messageAt "binh" 1566396400000000000]) none,
    .addMessage ⟨none, some "an"⟩ ⟨1566482800000000000⟩ "hello" "d2"]

/-- The early text has no row after the fetch and is not held either. -/
theorem rowsAgree_sentEarly : ∃ system,
    run (Gregorian.formatter ⟨0⟩) (some "1") sentEarly = some system ∧
      system.held.map List.length = some 3 ∧ RowsAgree system := by
  have three : (run (Gregorian.formatter ⟨0⟩) (some "1") sentEarly).map
      (fun system => system.held.map List.length) = some (some 3) := by decide +kernel
  obtain ⟨system, reached, isThree⟩ := Option.map_eq_some_iff.mp three
  refine ⟨system, reached, isThree, rowsAgree_of_run (Gregorian.dayLaws ⟨0⟩) reached ?_ ?_⟩
  · simp only [sentEarly, List.forall_mem_cons]
    exact ⟨trivial, trivial, ⟨_, rfl, by decide⟩, trivial, trivial, trivial, trivial,
      fun _ member => absurd member List.not_mem_nil⟩
  · exact ⟨_, List.mem_cons_of_mem _ (List.mem_cons_of_mem _ List.mem_cons_self), trivial⟩

end MovieFun
