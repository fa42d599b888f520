import MovieFun.Foundation.Projection
import MovieFun.View.Chat.Hearing

/-!
# A chat and its devices

Any number of devices have the chat of one movie open, and the store is between
them. A device's write is in its own snapshots at once, in those of the others when
the server has taken it, and the server may refuse it. A listener reports a document
once, but for a write of its own device, whose refusal it reports too. `step` is the
whole of it: what a device does is a step of its `ChatSystem`, and what reaches a
device is what the store can offer it (`offers`).
-/

namespace MovieFun

/-- A device: its chat screen, whether it was opened, the documents written on it, those of
them that the server has neither taken nor refused, and those its listener has reported. -/
structure ChatDevice where
  system : ChatSystem
  opened : Bool := false
  sent : List String := []
  pending : List String := []
  told : List String := []
deriving DecidableEq, Repr

/-- Every document that was written, the ids of those at the server, and the devices. -/
structure ChatRoom (Device : Type*) where
  documents : List Document
  stored : List String
  devices : Device → ChatDevice

/-- Something happens to the chat of a device, or the store takes a document of it. -/
inductive RoomEvent (Device : Type*)
  | chat (device : Device) (event : ChatEvent)
  | takes (device : Device) (documentID : String)

/-- The messages of a movie before anybody opens its chat. -/
structure ChatArchive (fm : DateFormatter) where
  documents : List Document
  distinct : (documents.map Document.documentID).Nodup
  stamped : ∀ document ∈ documents, (ChatService.message fm document).Stamped

/-- The document that an event writes in the chat of a movie. -/
def ChatEvent.writes (fm : DateFormatter) : ChatEvent → Option Document
  | .addMessage share now text documentID => do
      let message ← ChatController.textMessage fm share now text
      let dictionary ← ChatService.addChatMessage now message
      return { documentID, data := dictionary.stored }
  | .addMessageImage share now _ fullSizeImageURL documentID => do
      let fileName ← fullSizeImageURL.bind Utils.getFileName
      let message ← ChatController.imageMessage fm share now fileName
      let dictionary ← ChatService.addChatMessage now message
      return { documentID, data := dictionary.stored }
  | _ => none

/-- The documents that a snapshot reports. -/
def ChatEvent.reports : ChatEvent → List String
  | .listenerReply _ (some messageChanges) none => messageChanges.filterMap Message.messageId
  | _ => []

namespace ChatDevice

/-- What an event changes on the device beside its screen. -/
def note (device : ChatDevice) : ChatEvent → ChatDevice
  | .start => { device with opened := true }
  | .listenerReply _ (some messageChanges) none =>
      { device with told := device.told ++ messageChanges.filterMap Message.messageId }
  | .addDocumentReply documentID (some _) =>
      { device with pending := device.pending.filter (· ≠ documentID) }
  | event =>
      { device with
        sent := device.sent ++ event.sentID.toList
        pending := device.pending ++ event.sentID.toList }

@[simp] theorem sent_note (device : ChatDevice) (event : ChatEvent) :
    (device.note event).sent = device.sent ++ event.sentID.toList := by
  cases event with
  | start => exact (List.append_nil _).symm
  | listenerReply share changes error =>
      cases changes <;> cases error <;> first | rfl | exact (List.append_nil _).symm
  | addDocumentReply documentID error =>
      cases error <;> first | rfl | exact (List.append_nil _).symm
  | _ => rfl

@[simp] theorem told_note (device : ChatDevice) (event : ChatEvent) :
    (device.note event).told = device.told ++ event.reports := by
  cases event with
  | listenerReply share changes error =>
      cases changes <;> cases error <;> first | rfl | exact (List.append_nil _).symm
  | addDocumentReply documentID error => cases error <;> exact (List.append_nil _).symm
  | _ => exact (List.append_nil _).symm

/-- The device has the chat of a movie open, and wrote some of the documents; those it waits for
are among them. -/
structure Keeps (documentIDs : List String) (device : ChatDevice) : Prop where
  movie : device.system.movieId.isSome
  sent : ∀ documentID ∈ device.sent, documentID ∈ documentIDs
  pending : ∀ documentID ∈ device.pending, documentID ∈ device.sent

theorem Keeps.mono {documentIDs more : List String} {device : ChatDevice}
    (keeps : device.Keeps documentIDs) (grown : ∀ documentID ∈ documentIDs, documentID ∈ more) :
    device.Keeps more where
  movie := keeps.movie
  sent := fun documentID member => grown documentID (keeps.sent documentID member)
  pending := keeps.pending

/-- What is pending was so before, or is written by the event. -/
theorem mem_pending_note {device : ChatDevice} {event : ChatEvent} {documentID : String}
    (member : documentID ∈ (device.note event).pending) :
    documentID ∈ device.pending ∨ event.sentID = some documentID := by
  have appended : documentID ∈ device.pending ++ event.sentID.toList →
      documentID ∈ device.pending ∨ event.sentID = some documentID := fun inside =>
    (List.mem_append.mp inside).imp_right Option.mem_toList.mp
  cases event with
  | start => exact .inl member
  | listenerReply share changes error =>
      cases changes <;> cases error <;> first | exact .inl member | exact appended member
  | addDocumentReply otherID error =>
      cases error with
      | none => exact appended member
      | some error => exact .inl (List.mem_of_mem_filter member)
  | _ => exact appended member

/-- An event of the device whose document is among those known keeps it. -/
theorem Keeps.note {fm : DateFormatter} {documentIDs : List String} {device : ChatDevice}
    {event : ChatEvent} {system : ChatSystem} (keeps : device.Keeps documentIDs)
    (moved : ChatSystem.step fm device.system event = some system)
    (written : ∀ documentID, event.sentID = some documentID → documentID ∈ documentIDs) :
    Keeps documentIDs { device.note event with system } where
  movie := by
    rw [(ChatSystem.frame_of_step moved).movieId]
    exact keeps.movie
  sent := by
    rw [sent_note]
    exact List.forall_mem_append.mpr
      ⟨keeps.sent, fun documentID sends => written documentID (Option.mem_toList.mp sends)⟩
  pending := by
    intro documentID member
    rw [sent_note]
    rcases mem_pending_note member with older | sends
    · exact List.mem_append_left _ (keeps.pending documentID older)
    · exact List.mem_append_right _ (Option.mem_toList.mpr sends)

end ChatDevice

namespace ChatRoom

variable {Device : Type*} (fm : DateFormatter)

/-- The message is that of a document with one of the ids. -/
def Has (room : ChatRoom Device) (documentIDs : List String) (message : Message) : Prop :=
  ∃ document ∈ room.documents, ChatService.message fm document = message ∧
    document.documentID ∈ documentIDs

instance (room : ChatRoom Device) (documentIDs : List String) (message : Message) :
    Decidable (room.Has fm documentIDs message) :=
  inferInstanceAs (Decidable (∃ document ∈ room.documents, _ ∧ _))

/-- What can reach a device. The answer to a fetch may come from its cache, which has what was
written on it; a listener reports what is at the server or was written on its device. -/
def offers (room : ChatRoom Device) (device : Device) : ChatEvent → Bool
  | .start => !(room.devices device).opened
  | .fetchReply _ (some messages) none =>
      decide (messages.filterMap Message.messageId).Nodup &&
        decide (∀ message ∈ messages,
          room.Has fm (room.stored ++ (room.devices device).pending) message) &&
        decide (∀ documentID ∈ (room.devices device).sent,
          documentID ∈ room.stored ++ (room.devices device).pending →
            documentID ∈ messages.filterMap Message.messageId)
  | .fetchReply _ none (some _) => true
  | .fetchReply _ _ _ => false
  | .listenerReply _ (some messageChanges) none =>
      decide (∀ message ∈ messageChanges,
        room.Has fm (room.stored ++ (room.devices device).sent) message) &&
        decide (∀ documentID ∈ messageChanges.filterMap Message.messageId,
          documentID ∈ (room.devices device).told → documentID ∈ (room.devices device).sent)
  | .listenerReply _ none (some _) => true
  | .listenerReply _ _ _ => false
  | .addDocumentReply documentID none => documentID ∈ room.stored
  | .addDocumentReply documentID (some _) => documentID ∈ (room.devices device).pending
  | event => decide (∀ document ∈ room.documents, event.sentID ≠ some document.documentID)

variable [DecidableEq Device]

/-- The room after an event that can happen in it. -/
def step (room : ChatRoom Device) : RoomEvent Device → Option (ChatRoom Device)
  | .chat device event =>
      if room.offers fm device event then
        (ChatSystem.step fm (room.devices device).system event).map fun system =>
          { room with
            documents := room.documents ++ (event.writes fm).toList
            devices := Function.update room.devices device
              { (room.devices device).note event with system } }
      else none
  | .takes device documentID =>
      if documentID ∈ (room.devices device).pending then
        some { room with
          stored := room.stored ++ [documentID]
          devices := Function.update room.devices device
            { room.devices device with
              pending := (room.devices device).pending.filter (· ≠ documentID) } }
      else none

end ChatRoom

/-- The room of a movie, with what was written before and every device still closed. -/
def ChatArchive.room {fm : DateFormatter} (archive : ChatArchive fm) (Device : Type*)
    (movieId : String) : ChatRoom Device where
  documents := archive.documents
  stored := archive.documents.map Document.documentID
  devices := fun _ => { system := ChatSystem.initial (some movieId) }

namespace ChatRoom

/-- The events of a device. -/
def concerning {Device : Type*} [DecidableEq Device] (device : Device) :
    RoomEvent Device → Option ChatEvent
  | .chat other event => if other = device then some event else none
  | .takes _ _ => none

/-- What reached a device. -/
def eventsOf {Device : Type*} [DecidableEq Device] (device : Device)
    (events : List (RoomEvent Device)) : List ChatEvent :=
  events.filterMap (concerning device)

/-- The content of a document. -/
def content {Device : Type*} (room : ChatRoom Device) (documentID : String) : Dictionary :=
  ((room.documents.find? fun document => document.documentID = documentID).map
    Document.data).getD []

variable {Device : Type*} {fm : DateFormatter} {room next : ChatRoom Device} {device : Device}

/-- A document that an event writes is the one its send creates. -/
theorem composes_of_writes {event : ChatEvent} {document : Document}
    (written : event.writes fm = some document) :
    ∃ share now send phAsset dictionary, Composes fm share now event send phAsset ∧
      ChatService.addChatMessage now send.message = some dictionary ∧
        document = ⟨send.documentID, dictionary.stored⟩ := by
  cases event with
  | addMessage share now text documentID =>
      simp only [ChatEvent.writes, Option.bind_eq_bind, Option.bind_eq_some_iff] at written
      obtain ⟨message, composed, dictionary, stored, same⟩ := written
      exact ⟨share, now, _, none, dictionary, .text composed, stored, (Option.some.inj same).symm⟩
  | addMessageImage share now asset fullSizeImageURL documentID =>
      simp only [ChatEvent.writes, Option.bind_eq_bind, Option.bind_eq_some_iff] at written
      obtain ⟨fileName, named, message, composed, dictionary, stored, same⟩ := written
      have isName : fullSizeImageURL.bind Utils.getFileName = some fileName :=
        Option.bind_eq_some_iff.mpr named
      exact ⟨share, now, _, some asset, dictionary, .picture isName composed, stored,
        (Option.some.inj same).symm⟩
  | _ => cases written

/-- What a message that is composed writes. -/
theorem writes_of_composes {share : AccountService} {now : Date} {event : ChatEvent}
    {send : ChatSend} {phAsset : Option PHAsset} {dictionary : Dictionary}
    (composes : Composes fm share now event send phAsset)
    (stored : ChatService.addChatMessage now send.message = some dictionary) :
    event.writes fm = some ⟨send.documentID, dictionary.stored⟩ := by
  cases composes with
  | text composed =>
      simp only [ChatEvent.writes, composed, Option.bind_eq_bind, Option.bind_some] at stored ⊢
      rw [stored]
      rfl
  | picture named composed =>
      simp only [ChatEvent.writes, named, composed, Option.bind_eq_bind, Option.bind_some]
        at stored ⊢
      rw [stored]
      rfl

/-- An event that writes a document sends it. -/
theorem sentID_of_writes {event : ChatEvent} {document : Document}
    (written : event.writes fm = some document) : event.sentID = some document.documentID := by
  obtain ⟨share, now, send, phAsset, dictionary, composes, -, rfl⟩ := composes_of_writes written
  exact composes.sentID

/-- In the chat of a movie an event that goes through writes what it sends. -/
theorem exists_writes_of_step {event : ChatEvent} {system after : ChatSystem} {documentID : String}
    (moved : ChatSystem.step fm system event = some after) (movie : system.movieId.isSome)
    (sends : event.sentID = some documentID) :
    ∃ document, event.writes fm = some document ∧ document.documentID = documentID := by
  cases ChatSystem.effect_of_step moved with
  | kept _ _ _ _ _ skips =>
      rw [skips.sentID] at sends
      cases sends
  | settled _ _ _ _ _ _ _ settles =>
      rw [settles.sentID] at sends
      cases sends
  | own _ _ noMovie =>
      rw [noMovie] at movie
      cases movie
  | sent _ composes _ stored =>
      refine ⟨_, writes_of_composes composes stored, ?_⟩
      exact Option.some.inj (composes.sentID.symm.trans sends)
  | _ => cases sends

/-- What is written has an account and a date. -/
theorem stamped_of_writes (reprints : fm.Reprints) {event : ChatEvent} {document : Document}
    (written : event.writes fm = some document) : (ChatService.message fm document).Stamped := by
  obtain ⟨share, now, send, phAsset, dictionary, composes, stored, rfl⟩ :=
    composes_of_writes written
  obtain ⟨-, cut, dated, -⟩ := composes.message
  obtain ⟨sendDate, sent⟩ := Option.isSome_iff_exists.mp dated
  rw [sent] at cut
  obtain ⟨account, date⟩ := sameStamp_of_addChatMessage sent
    (Utils.getCurrentDate_idem reprints cut.symm) stored send.documentID
  obtain ⟨accountId, own, -⟩ := Option.map_eq_some_iff.mp stored
  constructor
  · change (ChatService.getMessage fm send.documentID dictionary.stored).accountId.isSome
    rw [← account, own]
    rfl
  · change (ChatService.getMessage fm send.documentID dictionary.stored).sendDate.isSome
    rw [← date, sent]
    rfl

/-- The ids of all documents. -/
def documentIDs (room : ChatRoom Device) : List String := room.documents.map Document.documentID

/-- A message that the room has is of one of the documents. -/
theorem Has.mem {documentIDs : List String} {message : Message} {documentID : String}
    (has : room.Has fm documentIDs message) (isIt : message.messageId = some documentID) :
    documentID ∈ documentIDs := by
  obtain ⟨document, -, rfl, member⟩ := has
  cases Option.some.inj isIt
  exact member

/-- Messages of documents are decoded from the contents of their ids. -/
theorem eq_decoded {documentIDs : List String} {content : String → Dictionary}
    (contents : ∀ document ∈ room.documents, content document.documentID = document.data)
    {messages : List Message} (ofRoom : ∀ message ∈ messages, room.Has fm documentIDs message) :
    messages = decoded fm content (messages.filterMap Message.messageId) := by
  induction messages with
  | nil => rfl
  | cons message messages ih =>
      obtain ⟨⟨document, inside, rfl, -⟩, later⟩ := List.forall_mem_cons.mp ofRoom
      rw [List.filterMap_cons_some (ChatService.message_messageId document), decoded,
        List.map_cons, contents document inside]
      exact congrArg (_ :: ·) (ih later)

/-- What `ChatService` hands on of documents of the room, or of an error. -/
def HandedOn (fm : DateFormatter) (room : ChatRoom Device) : ChatEvent → Prop
  | .fetchReply _ messages error => ∃ documents failure,
      (∀ document ∈ documents.getD [], document ∈ room.documents) ∧
        ChatService.fetchChatMessages fm documents failure = some (messages, error)
  | .listenerReply _ messageChanges error => ∃ documentChanges failure,
      (∀ document ∈ documentChanges.getD [], document ∈ room.documents) ∧
        ChatService.addListener fm documentChanges failure = (messageChanges, error)
  | _ => True

/-- Messages of the room are decoded from documents of it. -/
theorem exists_documents {documentIDs : List String} {messages : List Message}
    (ofRoom : ∀ message ∈ messages, room.Has fm documentIDs message) :
    ∃ documents : List Document, (∀ document ∈ documents, document ∈ room.documents) ∧
      documents.map (ChatService.message fm) = messages := by
  induction messages with
  | nil => exact ⟨[], fun _ member => absurd member List.not_mem_nil, rfl⟩
  | cons message messages ih =>
      obtain ⟨⟨document, inside, rfl, -⟩, later⟩ := List.forall_mem_cons.mp ofRoom
      obtain ⟨documents, ofRoom, isDecoded⟩ := ih later
      exact ⟨document :: documents, List.forall_mem_cons.mpr ⟨inside, ofRoom⟩,
        congrArg (_ :: ·) isDecoded⟩

/-- **The room speaks through the service.** Each reply and each snapshot that the room offers a
device is one that `ChatService` hands on. -/
theorem handedOn_of_offers {event : ChatEvent} (offered : room.offers fm device event) :
    HandedOn fm room event := by
  have silent : ∀ document ∈ (none : Option (List Document)).getD [], document ∈ room.documents :=
    fun _ member => absurd member List.not_mem_nil
  cases event with
  | fetchReply share messages error =>
      cases messages with
      | none =>
          cases error with
          | none => cases offered
          | some error => exact ⟨none, some error, silent, rfl⟩
      | some messages =>
          cases error with
          | some error => cases offered
          | none =>
              simp only [offers, Bool.and_eq_true, decide_eq_true_eq] at offered
              obtain ⟨documents, inside, rfl⟩ := exists_documents offered.1.2
              exact ⟨some documents, none, inside, rfl⟩
  | listenerReply share messages error =>
      cases messages with
      | none =>
          cases error with
          | none => cases offered
          | some error => exact ⟨none, some error, silent, rfl⟩
      | some messages =>
          cases error with
          | some error => cases offered
          | none =>
              simp only [offers, Bool.and_eq_true, decide_eq_true_eq] at offered
              obtain ⟨documents, inside, rfl⟩ := exists_documents offered.1
              exact ⟨some documents, none, inside, rfl⟩
  | _ => trivial

/-- A document that is sent is a new one. -/
theorem fresh_of_offers {event : ChatEvent} (offered : room.offers fm device event)
    {documentID : String} (sends : event.sentID = some documentID) :
    documentID ∉ room.documentIDs := by
  intro member
  obtain ⟨document, inside, rfl⟩ := List.mem_map.mp member
  cases event with
  | addMessage share now text otherID => exact of_decide_eq_true offered document inside sends
  | addMessageImage share now asset url otherID =>
      exact of_decide_eq_true offered document inside sends
  | _ => cases sends

/-- What else an event brings to a device is at the server or was written on the device. -/
theorem source_of_offers {event : ChatEvent} {documentIDs : List String}
    (keeps : (room.devices device).Keeps documentIDs) (offered : room.offers fm device event)
    {documentID : String} (brought : documentID ∈ event.documentIDs) :
    event.sentID = some documentID ∨
      documentID ∈ room.stored ++ (room.devices device).sent := by
  cases event with
  | fetchReply share messages error =>
      cases messages <;> cases error <;> first
        | exact .inl (Option.mem_toList.mp brought)
        | skip
      obtain ⟨message, member, isIt⟩ := List.mem_filterMap.mp brought
      simp only [offers, Bool.and_eq_true, decide_eq_true_eq] at offered
      rcases List.mem_append.mp ((offered.1.2 message member).mem isIt) with stored | pending
      · exact .inr (List.mem_append_left _ stored)
      · exact .inr (List.mem_append_right _ (keeps.pending documentID pending))
  | listenerReply share messages error =>
      cases messages <;> cases error <;> first
        | exact .inl (Option.mem_toList.mp brought)
        | skip
      obtain ⟨message, member, isIt⟩ := List.mem_filterMap.mp brought
      simp only [offers, Bool.and_eq_true, decide_eq_true_eq] at offered
      exact .inr ((offered.1 message member).mem isIt)
  | _ => exact .inl (Option.mem_toList.mp brought)

variable [DecidableEq Device]

/-- An event of a chat happens on its device, and its document is written. -/
theorem step_chat_eq_some {event : ChatEvent}
    (taken : room.step fm (.chat device event) = some next) :
    room.offers fm device event ∧
      ∃ system, ChatSystem.step fm (room.devices device).system event = some system ∧
        next = { room with
          documents := room.documents ++ (event.writes fm).toList
          devices := Function.update room.devices device
            { (room.devices device).note event with system } } := by
  rw [step] at taken
  split at taken
  · next offered =>
    obtain ⟨system, moved, rfl⟩ := Option.map_eq_some_iff.mp taken
    exact ⟨offered, system, moved, rfl⟩
  · cases taken

/-- A document that is taken was pending, and is at the server from then on. -/
theorem step_takes_eq_some {documentID : String}
    (taken : room.step fm (.takes device documentID) = some next) :
    documentID ∈ (room.devices device).pending ∧
      next = { room with
        stored := room.stored ++ [documentID]
        devices := Function.update room.devices device
          { room.devices device with
            pending := (room.devices device).pending.filter (· ≠ documentID) } } := by
  rw [step] at taken
  split at taken
  · next waits => exact ⟨waits, (Option.some.inj taken).symm⟩
  · cases taken

/-- A device is run by what reaches it. -/
theorem projects (device : Device) :
    EventRun.Projects (step fm) (ChatSystem.step fm)
      (fun room : ChatRoom Device => (room.devices device).system) (concerning device) where
  moves room event next own taken isOwn := by
    cases event with
    | takes other documentID => cases isOwn
    | chat other event =>
        rw [concerning] at isOwn
        split at isOwn
        · next same =>
          cases isOwn
          subst same
          obtain ⟨-, system, moved, rfl⟩ := step_chat_eq_some taken
          simp only [Function.update_self]
          exact moved
        · cases isOwn
  stays room event next taken silent := by
    cases event with
    | takes other documentID =>
        obtain ⟨-, rfl⟩ := step_takes_eq_some taken
        by_cases same : device = other
        · subst same
          simp only [Function.update_self]
        · simp only [Function.update_of_ne same]
    | chat other event =>
        rw [concerning] at silent
        split at silent
        · cases silent
        · next apart =>
          obtain ⟨-, system, -, rfl⟩ := step_chat_eq_some taken
          simp only [Function.update_of_ne (Ne.symm apart)]

/-! ## What the store keeps to -/

/-- What holds of a room after its events: no two documents have one id, all can be shown, and
what is at the server, was sent, or reached a device is among them. -/
structure Sound (fm : DateFormatter) (before : List (RoomEvent Device)) (room : ChatRoom Device) :
    Prop where
  distinct : room.documentIDs.Nodup
  stamped : ∀ document ∈ room.documents, (ChatService.message fm document).Stamped
  stored : ∀ documentID ∈ room.stored, documentID ∈ room.documentIDs
  devices : ∀ device, (room.devices device).Keeps room.documentIDs
  known : ∀ device documentID, Mentioned (eventsOf device before) documentID →
    documentID ∈ room.documentIDs

theorem eventsOf_concat_self (before : List (RoomEvent Device)) (event : ChatEvent) :
    eventsOf device (before ++ [.chat device event]) = eventsOf device before ++ [event] := by
  have own : concerning device (.chat device event) = some event := if_pos rfl
  rw [eventsOf, List.filterMap_append, List.filterMap_cons_some own]
  rfl

theorem eventsOf_concat_of_ne {other : Device} (apart : other ≠ device)
    (before : List (RoomEvent Device)) (event : ChatEvent) :
    eventsOf device (before ++ [.chat other event]) = eventsOf device before :=
  EventRun.filterMap_concat_none (if_neg apart)

/-- The events of a device after the store took a document. -/
theorem eventsOf_concat_takes (before : List (RoomEvent Device)) (other : Device)
    (documentID : String) :
    eventsOf device (before ++ [.takes other documentID]) = eventsOf device before :=
  EventRun.filterMap_concat_none rfl

theorem mentioned_concat {before : List ChatEvent} {event : ChatEvent} {documentID : String}
    (mentioned : Mentioned (before ++ [event]) documentID) :
    Mentioned before documentID ∨ documentID ∈ event.documentIDs := by
  obtain ⟨earlier, member, brought⟩ := mentioned
  rcases List.mem_append.mp member with inside | isLast
  · exact .inl ⟨earlier, inside, brought⟩
  · exact .inr (List.mem_singleton.mp isLast ▸ brought)

/-- What a device knows of after one more event of the room. -/
theorem mentioned_eventsOf_concat {before : List (RoomEvent Device)} {other : Device}
    {event : ChatEvent} {documentID : String}
    (mentioned : Mentioned (eventsOf device (before ++ [.chat other event])) documentID) :
    Mentioned (eventsOf device before) documentID ∨ documentID ∈ event.documentIDs := by
  by_cases same : other = device
  · subst same
    rw [eventsOf_concat_self] at mentioned
    exact mentioned_concat mentioned
  · rw [eventsOf_concat_of_ne same] at mentioned
    exact .inl mentioned

theorem sound_room (archive : ChatArchive fm) (movieId : String) :
    Sound fm [] (archive.room Device movieId) where
  distinct := archive.distinct
  stamped := archive.stamped
  stored := fun _ => id
  devices := fun _ =>
    ⟨rfl, fun _ member => absurd member List.not_mem_nil,
      fun _ member => absurd member List.not_mem_nil⟩
  known := by
    rintro device documentID ⟨event, member, -⟩
    exact absurd member List.not_mem_nil

/-- The room stays sound when a document is taken. -/
theorem sound_of_takes {before : List (RoomEvent Device)} {documentID : String}
    (sound : Sound fm before room) (taken : room.step fm (.takes device documentID) = some next) :
    Sound fm (before ++ [.takes device documentID]) next := by
  obtain ⟨waits, rfl⟩ := step_takes_eq_some taken
  have keeps := sound.devices device
  constructor
  · exact sound.distinct
  · exact sound.stamped
  · refine List.forall_mem_append.mpr ⟨sound.stored, List.forall_mem_singleton.mpr ?_⟩
    exact keeps.sent documentID (keeps.pending documentID waits)
  · refine (Function.forall_update_iff room.devices
      fun _ (state : ChatDevice) => state.Keeps room.documentIDs).mpr
        ⟨⟨keeps.movie, keeps.sent, ?_⟩, fun other _ => sound.devices other⟩
    exact fun id member => keeps.pending id (List.mem_of_mem_filter member)
  · intro other id mentioned
    rw [eventsOf_concat_takes] at mentioned
    exact sound.known other id mentioned

/-- The room stays sound in a step of a chat. -/
theorem sound_of_chat (reprints : fm.Reprints) {before : List (RoomEvent Device)}
    {event : ChatEvent} (sound : Sound fm before room)
    (taken : room.step fm (.chat device event) = some next) :
    Sound fm (before ++ [.chat device event]) next := by
  obtain ⟨offered, system, moved, rfl⟩ := step_chat_eq_some taken
  have ids : (room.documents ++ (event.writes fm).toList).map Document.documentID =
      room.documentIDs ++ (event.writes fm).toList.map Document.documentID := List.map_append
  have grown : ∀ id ∈ room.documentIDs,
      id ∈ (room.documents ++ (event.writes fm).toList).map Document.documentID := by
    intro id member
    rw [ids]
    exact List.mem_append_left _ member
  have written : ∀ id, event.sentID = some id →
      id ∈ (room.documents ++ (event.writes fm).toList).map Document.documentID := by
    intro id sends
    obtain ⟨document, isWritten, rfl⟩ :=
      exists_writes_of_step moved (sound.devices device).movie sends
    rw [ids, isWritten]
    exact List.mem_append_right _ List.mem_cons_self
  constructor
  · change ((room.documents ++ (event.writes fm).toList).map Document.documentID).Nodup
    rw [ids]
    refine List.nodup_append.mpr ⟨sound.distinct, ?_, ?_⟩
    · cases event.writes fm with
      | none => exact .nil
      | some document => exact List.nodup_singleton _
    · rintro id member _ isNew rfl
      obtain ⟨document, isWritten, rfl⟩ := List.mem_map.mp isNew
      exact fresh_of_offers offered (sentID_of_writes (Option.mem_toList.mp isWritten)) member
  · refine List.forall_mem_append.mpr ⟨sound.stamped, fun document isWritten => ?_⟩
    exact stamped_of_writes reprints (Option.mem_toList.mp isWritten)
  · exact fun id member => grown id (sound.stored id member)
  · exact (Function.forall_update_iff room.devices
      fun _ (state : ChatDevice) =>
        state.Keeps ((room.documents ++ (event.writes fm).toList).map Document.documentID)).mpr
          ⟨((sound.devices device).mono grown).note moved written,
            fun other _ => (sound.devices other).mono grown⟩
  · intro other id mentioned
    rcases mentioned_eventsOf_concat mentioned with older | brought
    · exact grown id (sound.known other id older)
    · rcases source_of_offers (sound.devices device) offered brought with sends | isKnown
      · exact written id sends
      · exact grown id (List.mem_append.mp isKnown |>.elim (sound.stored id)
          ((sound.devices device).sent id))

/-- Every step of the room keeps to it. -/
theorem sound_of_step (reprints : fm.Reprints) {before : List (RoomEvent Device)}
    {event : RoomEvent Device} (sound : Sound fm before room)
    (taken : room.step fm event = some next) : Sound fm (before ++ [event]) next := by
  cases event with
  | takes device documentID => exact sound_of_takes sound taken
  | chat device event => exact sound_of_chat reprints sound taken

/-- The room is sound in every run. -/
theorem sound_of_run (reprints : fm.Reprints) (archive : ChatArchive fm) (movieId : String)
    {events : List (RoomEvent Device)}
    (reached : EventRun.runFrom (step fm) (archive.room Device movieId) events = some room) :
    Sound fm events room :=
  EventRun.invariant (Sound fm) (sound_room archive movieId)
    (fun _ _ _ _ _ sound taken => sound_of_step reprints sound taken) reached

/-- No document is ever lost or rewritten. -/
theorem documents_prefix_of_step {event : RoomEvent Device}
    (taken : room.step fm event = some next) : room.documents <+: next.documents := by
  cases event with
  | takes device documentID =>
      obtain ⟨-, rfl⟩ := step_takes_eq_some taken
      exact List.prefix_rfl
  | chat device event =>
      obtain ⟨-, system, -, rfl⟩ := step_chat_eq_some taken
      exact List.prefix_append _ _

/-- Documents are only added. -/
theorem documents_prefix_of_run {events : List (RoomEvent Device)}
    (reached : EventRun.runFrom (step fm) room events = some next) :
    room.documents <+: next.documents :=
  EventRun.invariant_state (fun state => room.documents <+: state.documents) List.prefix_rfl
    (fun _ _ _ inside taken => inside.trans (documents_prefix_of_step taken)) reached

omit [DecidableEq Device] in
/-- The content of a document is its data. -/
theorem content_of_mem (distinct : room.documentIDs.Nodup) {document : Document}
    (member : document ∈ room.documents) : room.content document.documentID = document.data := by
  have found : room.documents.find? (fun other => other.documentID = document.documentID) =
      some document := by
    rw [documentIDs] at distinct
    generalize room.documents = documents at distinct member
    induction documents with
    | nil => cases member
    | cons first documents ih =>
        obtain ⟨apart, later⟩ := List.nodup_cons.mp distinct
        rcases List.mem_cons.mp member with rfl | inside
        · exact List.find?_cons_of_pos (decide_eq_true rfl)
        · rw [List.find?_cons_of_neg]
          · exact ih later inside
          · intro same
            rw [of_decide_eq_true same] at apart
            exact apart (List.mem_map.mpr ⟨document, inside, rfl⟩)
  rw [content, found]
  rfl

/-! ## A device in its room -/

/-- What reaches a device keeps to the contract of its store. -/
theorem genuine_of_chat {before : List (RoomEvent Device)} {event : ChatEvent}
    {content : String → Dictionary} (sound : Sound fm before room)
    (taken : room.step fm (.chat device event) = some next)
    (contents : ∀ document ∈ next.documents, content document.documentID = document.data) :
    Genuine fm content (eventsOf device before) event ∧ event.HandsDated := by
  obtain ⟨offered, system, moved, rfl⟩ := step_chat_eq_some taken
  have older : ∀ document ∈ room.documents, content document.documentID = document.data :=
    fun document member => contents document (List.mem_append_left _ member)
  have sends : ∀ share now send phAsset dictionary, Composes fm share now event send phAsset →
      ChatService.addChatMessage now send.message = some dictionary →
        ¬ Mentioned (eventsOf device before) send.documentID ∧
          content send.documentID = dictionary.stored := by
    intro share now send phAsset dictionary composes stored
    refine ⟨fun mentioned => ?_, ?_⟩
    · exact fresh_of_offers offered composes.sentID (sound.known device _ mentioned)
    · have written := writes_of_composes composes stored
      apply contents ⟨send.documentID, dictionary.stored⟩
      exact List.mem_append_right _ (Option.mem_toList.mpr written)
  cases event with
  | fetchReply share messages error =>
      cases messages with
      | none =>
          cases error with
          | none => cases offered
          | some error => exact ⟨sends, trivial⟩
      | some messages =>
          cases error with
          | some error => cases offered
          | none =>
              simp only [offers, Bool.and_eq_true, decide_eq_true_eq] at offered
              obtain ⟨⟨distinct, ofRoom⟩, -⟩ := offered
              refine ⟨⟨_, distinct, eq_decoded older ofRoom⟩, messages, rfl, ?_⟩
              intro message member
              obtain ⟨document, inside, rfl, -⟩ := ofRoom message member
              exact (sound.stamped document inside).dated
  | listenerReply share messages error =>
      cases messages with
      | none => cases error <;> exact ⟨sends, trivial⟩
      | some messages =>
          cases error with
          | some error => cases offered
          | none =>
              simp only [offers, Bool.and_eq_true, decide_eq_true_eq] at offered
              exact ⟨⟨_, eq_decoded older offered.1⟩, trivial⟩
  | _ => exact ⟨sends, trivial⟩

/-- **Every device shows what it has heard of.** In every run of a room, whatever the other
devices do and in whatever order things reach the devices. -/
theorem hears_of_run (laws : fm.DayLaws) (reprints : fm.Reprints) (archive : ChatArchive fm)
    (movieId : String) {events : List (RoomEvent Device)}
    (reached : EventRun.runFrom (step fm) (archive.room Device movieId) events = some room)
    (device : Device) :
    Hears fm room.content (eventsOf device events) (room.devices device).system := by
  have distinct := (sound_of_run reprints archive movieId reached).distinct
  have owed : ∀ before own, before ++ [own] <+: eventsOf device events →
      Genuine fm room.content before own ∧ own.HandsDated := by
    refine EventRun.owed_of_run reached ?_
    intro earlier event later _ middle after own run taken toEnd isOwn
    cases event with
    | takes other documentID => cases isOwn
    | chat other event =>
        rw [concerning] at isOwn
        split at isOwn
        · next same =>
          cases isOwn
          subst same
          refine genuine_of_chat (sound_of_run reprints archive movieId run) taken ?_
          exact fun document member => content_of_mem distinct
            ((documents_prefix_of_run toEnd).subset member)
        · cases isOwn
  refine MovieFun.hears_of_run laws reprints movieId (fun before own inside => (owed before own
    inside).1) ?_ ((projects device).run reached)
  intro own member
  obtain ⟨before, later, split⟩ := List.append_of_mem member
  refine (owed before own ⟨later, ?_⟩).2
  rw [split, List.append_assoc, List.singleton_append]

end ChatRoom

end MovieFun
