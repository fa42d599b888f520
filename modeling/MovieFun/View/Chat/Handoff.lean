import MovieFun.Helper.Gregorian
import MovieFun.View.Chat.ShownDocuments

/-!
# The hand-off from the fetch to the listener

After the reply to the fetch the listener is attached, and its first snapshot is
thrown away. So of the documents of that snapshot the chat shows those the fetch
had and those this device sent in between, and no others (`handoff_iff`).
-/

namespace MovieFun

open ChatSystem

/-- One of the events sends the document. -/
def SentIn (events : List ChatEvent) (documentID : String) : Prop :=
  ∃ event ∈ events, event.sentID = some documentID

/-- The fetch had the document, and with a day that the build can show it on. -/
def FetchedIn (fm : DateFormatter) (documents : List Document) (documentID : String) : Prop :=
  ∃ document ∈ documents, document.documentID = documentID ∧
    (ChatController.dayKey fm (ChatService.message fm document)).isSome

variable {fm : DateFormatter} {system next : ChatSystem} {documentID : String}

/-- What is shown of a fetch is what was fetched with a day. -/
theorem mem_documentIDs_built {share : AccountService} {documents : List Document}
    (sections : next.sections =
      builtSections fm share (documents.map (ChatService.message fm))) :
    documentID ∈ next.documentIDs ↔ FetchedIn fm documents documentID := by
  rw [documentIDs_built sections]
  simp only [List.mem_filterMap, mem_shownMessages, List.mem_map, FetchedIn]
  constructor
  · rintro ⟨message, ⟨⟨document, inside, rfl⟩, keyed⟩, isIt⟩
    exact ⟨document, inside, Option.some.inj isIt, keyed⟩
  · rintro ⟨document, inside, isIt, keyed⟩
    exact ⟨_, ⟨⟨document, inside, rfl⟩, keyed⟩, congrArg some isIt⟩

/-- A local event adds the document it sends to those shown, and nothing else. -/
theorem mem_documentIDs_of_step {event : ChatEvent} (isLocal : event.IsLocal)
    (movie : system.movieId.isSome) (taken : step fm system event = some next) :
    documentID ∈ next.documentIDs ↔
      documentID ∈ system.documentIDs ∨ event.sentID = some documentID := by
  cases effect_of_step taken with
  | kept _ sections _ _ _ skips =>
      rw [documentIDs_congr sections, skips.sentID]
      simp
  | settled _ _ _ sections _ _ _ settles =>
      rw [documentIDs_setSuccess sections, settles.sentID]
      simp
  | stored _ _ _ _ sections =>
      rw [documentIDs_setSuccess sections]
      simp [ChatEvent.sentID]
  | forgotten => exact isLocal.elim
  | rebuilt => exact isLocal.elim
  | received => exact isLocal.elim
  | own _ _ noMovie =>
      rw [noMovie] at movie
      cases movie
  | sent _ composes _ _ added =>
      obtain ⟨-, appended⟩ := timeline_addRowViewModel added
      rw [documentIDs_append appended, composes.sentID]
      simp [composes.documentID_ownEntry, eq_comm]

/-- Local events add the documents they send to those shown, and leave the flag
of the listener. -/
theorem mem_documentIDs_of_runFrom (documentID : String) {events : List ChatEvent}
    (isLocal : ∀ event ∈ events, event.IsLocal) (movie : system.movieId.isSome)
    (reached : EventRun.runFrom (step fm) system events = some next) :
    next.movieId.isSome ∧ next.controller.didStart = system.controller.didStart ∧
      (documentID ∈ next.documentIDs ↔
        documentID ∈ system.documentIDs ∨ SentIn events documentID) := by
  induction events generalizing system with
  | nil =>
      cases reached
      exact ⟨movie, rfl, by simp [SentIn]⟩
  | cons event events ih =>
      obtain ⟨middle, taken, rest⟩ := EventRun.runFrom_cons_eq_some _ reached
      obtain ⟨first, later⟩ := List.forall_mem_cons.mp isLocal
      have frame := frame_of_step taken
      have middleMovie : middle.movieId.isSome := by rwa [frame.movieId]
      obtain ⟨nextMovie, flag, shows⟩ := ih later middleMovie rest
      refine ⟨nextMovie, flag.trans (frame.didStart first.keepsFlag), ?_⟩
      rw [shows, mem_documentIDs_of_step first movie taken]
      simp only [SentIn, List.mem_cons, or_and_right, exists_or, exists_eq_left, or_assoc]

/-- How a chat opens: the reply to its fetch and the first snapshot of its
listener, with the local events before and after the reply. -/
structure ChatOpening where
  share : AccountService
  before : List ChatEvent
  documents : List Document
  between : List ChatEvent
  snapshot : List Document
  beforeLocal : ∀ event ∈ before, event.IsLocal
  betweenLocal : ∀ event ∈ between, event.IsLocal

namespace ChatOpening

/-- A snapshot that delivers documents. -/
def delivery (fm : DateFormatter) (share : AccountService) (batch : List Document) : ChatEvent :=
  .listenerReply share (some (batch.map (ChatService.message fm))) none

/-- The events of the opening. -/
def events (fm : DateFormatter) (opening : ChatOpening) : List ChatEvent :=
  .start :: opening.before ++
    (.fetchReply opening.share (some (opening.documents.map (ChatService.message fm))) none ::
      opening.between ++ [delivery fm opening.share opening.snapshot])

/-- What the opening shows, and that the listener is past its first snapshot. -/
theorem run_events {opening : ChatOpening} {movieId : String}
    (reached : run fm (some movieId) (opening.events fm) = some system) :
    system.controller.didStart = true ∧ 0 < system.listeners ∧ ∀ documentID,
      documentID ∈ system.documentIDs ↔
        FetchedIn fm opening.documents documentID ∨ SentIn opening.between documentID := by
  obtain ⟨started, isStarted, reached⟩ := EventRun.runFrom_cons_eq_some _ reached
  cases isStarted
  obtain ⟨waiting, isWaiting, reached⟩ := EventRun.runFrom_append_eq_some _ reached
  obtain ⟨fetched, isFetched, reached⟩ := EventRun.runFrom_cons_eq_some _ reached
  obtain ⟨listening, isListening, reached⟩ := EventRun.runFrom_append_eq_some _ reached
  obtain ⟨last, isLast, reached⟩ := EventRun.runFrom_cons_eq_some _ reached
  cases reached
  have fetchedFrame := frame_of_step isFetched
  have lastFrame := frame_of_step isLast
  have enabled := (step_eq_some isLast).1
  have listeners : 0 < listening.listeners := of_decide_eq_true enabled
  refine ⟨lastFrame.snapshot trivial, listeners.trans_le lastFrame.listeners,
    fun documentID => ?_⟩
  obtain ⟨waitingMovie, waitingFlag, -⟩ :=
    mem_documentIDs_of_runFrom documentID opening.beforeLocal rfl isWaiting
  obtain ⟨-, listeningFlag, shows⟩ := mem_documentIDs_of_runFrom documentID
    opening.betweenLocal (fetchedFrame.movieId ▸ waitingMovie) isListening
  have flag : listening.controller.didStart = false := by
    rw [listeningFlag, fetchedFrame.didStart trivial, waitingFlag]
    rfl
  have sections : system.sections = listening.sections := by
    cases effect_of_step isLast with
    | kept _ sections => exact sections
    | settled _ _ _ _ _ _ _ settles => exact settles.elim
    | received _ started =>
        rw [flag] at started
        cases started
    | own _ composes => exact composes.isLocal.elim
    | sent _ composes => exact composes.isLocal.elim
  rw [documentIDs_congr sections, shows]
  cases effect_of_step isFetched with
  | kept _ _ _ _ _ skips => cases skips
  | settled _ _ _ _ _ _ _ settles => exact settles.elim
  | rebuilt _ _ built => rw [mem_documentIDs_built built]
  | own _ composes => exact composes.isLocal.elim
  | sent _ composes => exact composes.isLocal.elim

end ChatOpening

/-- **What the hand-off loses.** The chat shows every document of the first
snapshot that has a date and an account exactly when the fetch had all of them
already, but for those that this device sent after the fetch. -/
theorem handoff_iff {opening : ChatOpening} {movieId : String}
    (reached : run fm (some movieId) (opening.events fm) = some system) :
    (∀ document ∈ opening.snapshot, (ChatService.message fm document).Stamped →
        document.documentID ∈ system.documentIDs) ↔
      ∀ document ∈ opening.snapshot, (ChatService.message fm document).Stamped →
        FetchedIn fm opening.documents document.documentID ∨
          SentIn opening.between document.documentID := by
  simp only [(ChatOpening.run_events reached).2.2]

theorem isLocal_of_mem_nil : ∀ event ∈ ([] : List ChatEvent), event.IsLocal :=
  fun _ member => absurd member List.not_mem_nil

/-- A document of the chat with an account and an instant. -/
def documentAt (documentID accountId : String) (nanoseconds : Int) : Document where
  documentID
  data := [("accountId", .string accountId), ("sendDate", .timestamp ⟨nanoseconds⟩)]

/-- This device sends a message while the first snapshot is on its way. -/
def ownInBetween : ChatOpening where
  share := ⟨none, some "an"⟩
  before := []
  documents := [documentAt "d1" "binh" 1566345600000000000]
  between := [.addMessage ⟨none, some "an"⟩ ⟨1566345660000000000⟩ "hello" "d2"]
  snapshot :=
    [documentAt "d1" "binh" 1566345600000000000, documentAt "d2" "an" 1566345660000000000]
  beforeLocal := isLocal_of_mem_nil
  betweenLocal := List.forall_mem_singleton.mpr trivial

/-- Such a message is not lost. -/
theorem handoff_iff_ownInBetween : ∃ system,
    run (Gregorian.formatter ⟨0⟩) (some "1") (ownInBetween.events (Gregorian.formatter ⟨0⟩)) =
        some system ∧
      ((∀ document ∈ ownInBetween.snapshot,
          (ChatService.message (Gregorian.formatter ⟨0⟩) document).Stamped →
            document.documentID ∈ system.documentIDs) ↔
        ∀ document ∈ ownInBetween.snapshot,
          (ChatService.message (Gregorian.formatter ⟨0⟩) document).Stamped →
            FetchedIn (Gregorian.formatter ⟨0⟩) ownInBetween.documents document.documentID ∨
              SentIn ownInBetween.between document.documentID) := by
  have opens : (run (Gregorian.formatter ⟨0⟩) (some "1")
      (ownInBetween.events (Gregorian.formatter ⟨0⟩))).isSome := by decide +kernel
  obtain ⟨system, reached⟩ := Option.isSome_iff_exists.mp opens
  exact ⟨system, reached, handoff_iff reached⟩

/-- Somebody else sends a message between the fetch and the first snapshot. -/
def otherInBetween : ChatOpening where
  share := ⟨none, some "an"⟩
  before := []
  documents := [documentAt "d1" "binh" 1566345600000000000]
  between := []
  snapshot :=
    [documentAt "d1" "binh" 1566345600000000000, documentAt "d2" "binh" 1566345660000000000]
  beforeLocal := isLocal_of_mem_nil
  betweenLocal := isLocal_of_mem_nil

/-- Such a message is in the first snapshot and is not shown. -/
theorem handoff_loses_otherInBetween : ∃ system,
    run (Gregorian.formatter ⟨0⟩) (some "1") (otherInBetween.events (Gregorian.formatter ⟨0⟩)) =
        some system ∧
      ¬ ∀ document ∈ otherInBetween.snapshot,
        (ChatService.message (Gregorian.formatter ⟨0⟩) document).Stamped →
          document.documentID ∈ system.documentIDs := by
  have lost : (run (Gregorian.formatter ⟨0⟩) (some "1")
      (otherInBetween.events (Gregorian.formatter ⟨0⟩))).map (fun system =>
        decide ("d2" ∈ system.documentIDs)) = some false := by decide +kernel
  obtain ⟨system, reached, hidden⟩ := Option.map_eq_some_iff.mp lost
  refine ⟨system, reached, fun shows => of_decide_eq_false hidden ?_⟩
  have stamped : (ChatService.message (Gregorian.formatter ⟨0⟩)
      (documentAt "d2" "binh" 1566345660000000000)).Stamped := by decide +kernel
  exact shows _ (List.mem_cons_of_mem _ List.mem_cons_self) stamped

end MovieFun
