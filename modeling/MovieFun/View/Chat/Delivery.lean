import MovieFun.View.Chat.Handoff

/-!
# Which new documents get a row

The listener knows a message by its account id and its date, which has been cut
down to a second of the 12-hour clock. A new document gets a row exactly when
nothing held and nothing earlier in its batch has the same two
(`getsRow_iff_admits`), so a chat swallows none exactly when that holds of each
of them (`neverSwallows_iff`).
-/

namespace MovieFun

open ChatSystem ChatOpening

variable {fm : DateFormatter}

/-- The batches that the listener delivered after its first snapshot, and the
fetch, had no document of that id, and this device sent none. -/
def ChatOpening.New (fm : DateFormatter) (opening : ChatOpening) (earlier : List ChatEvent)
    (documentID : String) : Prop :=
  (∀ document ∈ opening.documents, document.documentID ≠ documentID) ∧
    (∀ share batch, delivery fm share batch ∈ earlier → ∀ document ∈ batch,
      document.documentID ≠ documentID) ∧
    ¬ SentIn (opening.before ++ opening.between ++ earlier) documentID

/-- The batch appends a row that shows the document. -/
def GetsRow (fm : DateFormatter) (system : ChatSystem) (share : AccountService)
    (batch : List Document) (documentID : String) : Prop :=
  ∃ next added, step fm system (delivery fm share batch) = some next ∧
    next.shown = system.shown ++ added ∧
    ∃ entry ∈ added, entry.message.messageId = some documentID

/-- Nothing held has the account id and the date of the document, and it is the
first of its batch that has them. -/
def NewStamp (fm : DateFormatter) (system : ChatSystem) (batch : List Document)
    (document : Document) : Prop :=
  (∀ messages ∈ system.held, ∀ mess ∈ messages,
      ¬ SameStamp mess (ChatService.message fm document)) ∧
    (system.held.isSome → (batch.map (ChatService.message fm)).find?
      (fun earlier => SameStamp earlier (ChatService.message fm document)) =
        some (ChatService.message fm document))

/-- The condition for a row: somebody is signed in, the check traps on nothing of
the batch, and a document of that id has a new stamp. -/
def Admits (fm : DateFormatter) (system : ChatSystem) (share : AccountService)
    (batch : List Document) (documentID : String) : Prop :=
  share.getAccountId.isSome ∧
    (∀ document ∈ batch, (ChatController.checkExistMessage system.held
      (ChatService.message fm document)).isSome) ∧
    ∃ document ∈ batch, document.documentID = documentID ∧ NewStamp fm system batch document

/-- A property of every new document of every batch after the opening. -/
def EveryNew (fm : DateFormatter) (movieId : String) (opening : ChatOpening)
    (later : List ChatEvent)
    (holds : ChatSystem → AccountService → List Document → String → Prop) : Prop :=
  ∀ earlier share batch rest, later = earlier ++ delivery fm share batch :: rest →
    (∀ document ∈ batch, (ChatService.message fm document).Stamped) →
      ∀ system, run fm (some movieId) (opening.events fm ++ earlier) = some system →
        ∀ document ∈ batch, opening.New fm earlier document.documentID →
          holds system share batch document.documentID

/-- Where the check does not trap it finds exactly the stamps held. -/
theorem checkExistMessage_eq_false_iff {known : Option (List Message)} {message : Message}
    (checked : (ChatController.checkExistMessage known message).isSome) :
    ChatController.checkExistMessage known message = some false ↔
      ∀ messages ∈ known, ∀ mess ∈ messages, ¬ SameStamp mess message := by
  cases known with
  | none => exact iff_of_true rfl nofun
  | some messages =>
      obtain ⟨found, isFound⟩ := Option.isSome_iff_exists.mp checked
      obtain ⟨whenFound, whenNot⟩ := sameStamp_of_checkExistMessage isFound
      rw [isFound]
      cases found with
      | false =>
          apply iff_of_true rfl
          rintro _ ⟨⟩
          exact whenNot rfl
      | true =>
          obtain ⟨-, mess, member, same⟩ := whenFound rfl
          apply iff_of_false nofun
          intro apart
          exact apart messages rfl mess member same

/-- Of a batch of stamped documents, those that get a row. -/
theorem getsRow_iff_admits {system : ChatSystem} (started : system.controller.didStart = true)
    (listening : 0 < system.listeners) {share : AccountService} {batch : List Document}
    (stamped : ∀ document ∈ batch, (ChatService.message fm document).Stamped)
    (documentID : String) :
    GetsRow fm system share batch documentID ↔ Admits fm system share batch documentID := by
  constructor
  · rintro ⟨next, added, taken, grows, entry, member, isIt⟩
    have signedIn : share.getAccountId.isSome := by
      by_contra signedOut
      have same : next.shown = system.shown := by
        cases effect_of_step taken with
        | kept _ sections => rw [shown, sections]
        | settled _ _ _ _ _ _ _ settles => exact settles.elim
        | received _ _ signedIn => exact absurd signedIn signedOut
        | own _ composes => exact composes.isLocal.elim
        | sent _ composes => exact composes.isLocal.elim
      rw [same] at grows
      rw [List.append_right_eq_self.mp grows.symm] at member
      exact absurd member List.not_mem_nil
    obtain ⟨new, sections, gets, appended, rfl⟩ := step_received started signedIn taken
    obtain ⟨-, checked⟩ := received_isSome_iff.mp (Option.isSome_of_mem gets)
    have checks := List.forall_mem_map.mp checked
    obtain ⟨-, appends⟩ := timeline_appendRows appended
    change timeline sections = _ at grows
    rw [appends, List.append_cancel_left_eq] at grows
    rw [← grows] at member
    obtain ⟨message, isNew, rfl⟩ := List.mem_map.mp member
    obtain ⟨inside, notFound, leads⟩ := (mem_received_iff gets).mp isNew
    obtain ⟨document, inBatch, rfl⟩ := List.mem_map.mp inside
    refine ⟨signedIn, checks, document, inBatch, Option.some.inj isIt, ?_, leads⟩
    exact (checkExistMessage_eq_false_iff (checks document inBatch)).mp notFound
  · rintro ⟨signedIn, checks, document, inBatch, isIt, apart, leads⟩
    have gets : (received system.held (batch.map (ChatService.message fm))).isSome :=
      received_isSome_iff.mpr ⟨List.forall_mem_map.mpr stamped, List.forall_mem_map.mpr checks⟩
    obtain ⟨next, taken⟩ := Option.isSome_iff_exists.mp
      (step_listenerReply_isSome_iff.mpr ⟨listening, fun _ _ => gets⟩)
    obtain ⟨new, sections, gets, appended, rfl⟩ := step_received started signedIn taken
    obtain ⟨-, appends⟩ := timeline_appendRows appended
    refine ⟨_, new.map (builtEntry share), taken, appends, ?_⟩
    refine ⟨builtEntry share (ChatService.message fm document), List.mem_map_of_mem ?_, ?_⟩
    · refine (mem_received_iff gets).mpr ⟨List.mem_map_of_mem inBatch, ?_, leads⟩
      exact (checkExistMessage_eq_false_iff (checks document inBatch)).mpr apart
    · exact congrArg some isIt

/-- Unless the screen is started again the listener stays past its first
snapshot. -/
theorem started_of_runFrom {system next : ChatSystem} {events : List ChatEvent}
    (noStart : .start ∉ events) (started : system.controller.didStart = true)
    (listening : 0 < system.listeners)
    (reached : EventRun.runFrom (step fm) system events = some next) :
    next.controller.didStart = true ∧ 0 < next.listeners := by
  induction events generalizing system with
  | nil =>
      cases reached
      exact ⟨started, listening⟩
  | cons event events ih =>
      obtain ⟨middle, taken, rest⟩ := EventRun.runFrom_cons_eq_some _ reached
      rw [List.mem_cons, not_or] at noStart
      obtain ⟨notFirst, notLater⟩ := noStart
      have frame := frame_of_step taken
      have middleStarted : middle.controller.didStart = true := by
        cases event with
        | start => exact absurd rfl notFirst
        | listenerReply share changes error => exact frame.snapshot trivial
        | _ => rw [frame.didStart trivial, started]
      exact ih notLater middleStarted (listening.trans_le frame.listeners) rest

/-- **What the chat swallows.** After an opening, in whatever order batches arrive
and messages are sent, every new document gets a row of its own exactly when every
one has an account id and date that are new to the messages held and to its batch,
somebody is signed in, and the check does not trap. -/
theorem neverSwallows_iff (movieId : String) (opening : ChatOpening) (later : List ChatEvent)
    (noStart : .start ∉ later) :
    EveryNew fm movieId opening later (GetsRow fm) ↔
      EveryNew fm movieId opening later (Admits fm) := by
  have pointwise : ∀ earlier share batch rest,
      later = earlier ++ delivery fm share batch :: rest →
      (∀ document ∈ batch, (ChatService.message fm document).Stamped) →
      ∀ system, run fm (some movieId) (opening.events fm ++ earlier) = some system →
      ∀ documentID, GetsRow fm system share batch documentID ↔
        Admits fm system share batch documentID := by
    intro earlier share batch rest split stamped system reached documentID
    have noEarlierStart : .start ∉ earlier := fun member =>
      noStart (split ▸ List.mem_append_left _ member)
    rw [run_append, Option.bind_eq_some_iff] at reached
    obtain ⟨opened, isOpened, reached⟩ := reached
    obtain ⟨started, listening, -⟩ := run_events isOpened
    obtain ⟨started, listening⟩ := started_of_runFrom noEarlierStart started listening reached
    exact getsRow_iff_admits started listening stamped documentID
  constructor
  · intro gets earlier share batch rest split stamped system reached document inBatch isNew
    exact (pointwise earlier share batch rest split stamped system reached _).mp
      (gets earlier share batch rest split stamped system reached document inBatch isNew)
  · intro admits earlier share batch rest split stamped system reached document inBatch isNew
    exact (pointwise earlier share batch rest split stamped system reached _).mpr
      (admits earlier share batch rest split stamped system reached document inBatch isNew)

/-- A chat with one message of the morning. -/
def oneMorningMessage : ChatOpening where
  share := ⟨none, some "an"⟩
  before := []
  documents := [documentAt "d1" "binh" 1566378309000000000]
  between := []
  snapshot := [documentAt "d1" "binh" 1566378309000000000]
  beforeLocal := isLocal_of_mem_nil
  betweenLocal := isLocal_of_mem_nil

/-- The rule holds of a chat that goes on with a message of noon. -/
theorem neverSwallows_iff_oneMorningMessage :
    EveryNew (Gregorian.formatter ⟨0⟩) "1" oneMorningMessage
        [delivery (Gregorian.formatter ⟨0⟩) ⟨none, some "an"⟩
          [documentAt "d2" "binh" 1566396309000000000]] (GetsRow (Gregorian.formatter ⟨0⟩)) ↔
      EveryNew (Gregorian.formatter ⟨0⟩) "1" oneMorningMessage
        [delivery (Gregorian.formatter ⟨0⟩) ⟨none, some "an"⟩
          [documentAt "d2" "binh" 1566396309000000000]] (Admits (Gregorian.formatter ⟨0⟩)) :=
  neverSwallows_iff "1" oneMorningMessage _ (by simp [delivery])

/-- The same account writes again at the same time of the evening: the text of the
two dates is one text, and the second message is swallowed. -/
theorem swallows_eveningMessage :
    ¬ EveryNew (Gregorian.formatter ⟨0⟩) "1" oneMorningMessage
      [delivery (Gregorian.formatter ⟨0⟩) ⟨none, some "an"⟩
        [documentAt "d2" "binh" 1566421509000000000]] (GetsRow (Gregorian.formatter ⟨0⟩)) := by
  intro gets
  have evening : (run (Gregorian.formatter ⟨0⟩) (some "1")
      (oneMorningMessage.events (Gregorian.formatter ⟨0⟩) ++ [])).bind (fun system =>
        (step (Gregorian.formatter ⟨0⟩) system (delivery (Gregorian.formatter ⟨0⟩)
          ⟨none, some "an"⟩ [documentAt "d2" "binh" 1566421509000000000])).map fun next =>
            (system.shown.length, next.shown.length)) = some (1, 1) := by decide +kernel
  obtain ⟨system, reached, grown⟩ := Option.bind_eq_some_iff.mp evening
  have stamped : (ChatService.message (Gregorian.formatter ⟨0⟩)
      (documentAt "d2" "binh" 1566421509000000000)).Stamped := by decide +kernel
  have isNew : oneMorningMessage.New (Gregorian.formatter ⟨0⟩) [] "d2" :=
    ⟨by decide, fun _ _ member => absurd member List.not_mem_nil,
      fun ⟨_, member, _⟩ => absurd member List.not_mem_nil⟩
  obtain ⟨next, added, taken, grows, entry, member, -⟩ :=
    gets [] _ _ [] rfl (List.forall_mem_singleton.mpr stamped) system reached _ List.mem_cons_self
      isNew
  rw [taken, Option.map_some, Option.some.injEq, Prod.mk.injEq, grows, List.length_append] at grown
  have positive := List.length_pos_of_mem member
  omega

end MovieFun
