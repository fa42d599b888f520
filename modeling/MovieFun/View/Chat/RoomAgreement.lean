import MovieFun.View.Chat.ChatRoom
import MovieFun.View.Chat.Handoff

/-!
# When the devices of a chat agree

Once the store has answered a device's fetch, told its listener everything and taken all that was
written on it, its rows are the messages at the server, each once and as written, exactly
when every snapshot that the chat passed over had only messages it had heard of
(`inStep_iff_attends`). A chat passes over the first snapshot of its listener and those that
come while nobody is signed in. Two such devices show the same messages (`devices_agree`).
Both suppose that no two messages have the same account and date.
-/

namespace MovieFun

namespace ChatSystem

variable {fm : DateFormatter} {system next : ChatSystem} {event : ChatEvent}

/-- The fetch and the listener that an event leaves. -/
def requests (system : ChatSystem) : ChatEvent → Nat × Nat
  | .start =>
      (match system.movieId with
        | none => system.fetches
        | some _ => system.fetches + 1, system.listeners)
  | .fetchReply _ _ _ => (system.fetches - 1, system.listeners + 1)
  | _ => (system.fetches, system.listeners)

/-- An own message asks for nothing. -/
theorem requests_of_sendMessage {now : Date} {message : Message} {phAsset : Option PHAsset}
    {documentID : String} {stage : SendStage}
    (done : sendMessage fm now message phAsset documentID stage system = some next) :
    (next.fetches, next.listeners) = (system.fetches, system.listeners) := by
  unfold sendMessage at done
  split at done
  · obtain ⟨controller, -, done⟩ := Option.bind_eq_some_iff.mp done
    cases done
    rfl
  · simp only [Option.bind_eq_bind, Option.bind_eq_some_iff] at done
    obtain ⟨controller, -, dictionary, -, done⟩ := done
    cases done
    rfl

/-- Only a start asks for the messages, and only the answer to that attaches a listener. -/
theorem requests_of_step (taken : step fm system event = some next) :
    (next.fetches, next.listeners) = system.requests event := by
  obtain ⟨-, done⟩ := step_eq_some taken
  cases event with
  | start =>
      cases done
      rfl
  | fetchReply share messages error =>
      obtain ⟨controller, -, done⟩ := Option.bind_eq_some_iff.mp done
      cases done
      rfl
  | listenerReply share changes error =>
      obtain ⟨controller, -, done⟩ := Option.bind_eq_some_iff.mp done
      cases done
      rfl
  | addMessage share now text documentID =>
      obtain ⟨message, -, done⟩ := Option.bind_eq_some_iff.mp done
      exact requests_of_sendMessage done
  | addMessageImage share now asset url documentID =>
      simp only [handle] at done
      split at done
      · cases done
        rfl
      · obtain ⟨message, -, done⟩ := Option.bind_eq_some_iff.mp done
        exact requests_of_sendMessage done
  | addDocumentReply documentID error =>
      simp only [handle] at done
      split at done <;> · cases done; rfl
  | fetchImageReply documentID hasData =>
      simp only [handle] at done
      split at done <;> · cases done; rfl
  | putImageReply documentID succeeded =>
      simp only [handle] at done
      split at done
      · split at done
        · cases done
          rfl
        · obtain ⟨controller, -, done⟩ := Option.bind_eq_some_iff.mp done
          cases done
          rfl
      · cases done
        rfl

end ChatSystem

/-- The chat was opened at most once, and its listener reports nothing before there is one. -/
structure ChatDevice.Opens (device : ChatDevice) : Prop where
  closed : device.opened = false → device.system.fetches = 0 ∧ device.system.listeners = 0
  single : device.system.fetches + device.system.listeners ≤ 1
  silent : device.system.listeners = 0 → device.told = []

theorem ChatDevice.opened_note (device : ChatDevice) {event : ChatEvent}
    (quiet : event ≠ .start) : (device.note event).opened = device.opened := by
  cases event with
  | start => exact absurd rfl quiet
  | listenerReply share changes error => cases changes <;> cases error <;> rfl
  | addDocumentReply documentID error => cases error <;> rfl
  | _ => rfl

/-- An event that leaves the requests as they are, and reports nothing unless there is a
listener. -/
theorem ChatDevice.Opens.of_same {device : ChatDevice} {event : ChatEvent} {system : ChatSystem}
    (opens : device.Opens) (quiet : event ≠ .start)
    (same : (system.fetches, system.listeners) =
      (device.system.fetches, device.system.listeners))
    (reports : device.system.listeners = 0 → event.reports = []) :
    Opens { device.note event with system } := by
  obtain ⟨fetches, listeners⟩ := Prod.mk.inj same
  constructor
  · intro isClosed
    rw [device.opened_note quiet] at isClosed
    rw [fetches, listeners]
    exact opens.closed isClosed
  · rw [fetches, listeners]
    exact opens.single
  · intro nobody
    rw [listeners] at nobody
    rw [ChatDevice.told_note, opens.silent nobody, reports nobody]
    rfl

/-- An event that may reach the device keeps that. -/
theorem ChatDevice.Opens.note {Device : Type*} {fm : DateFormatter} {room : ChatRoom Device}
    {name : Device} {event : ChatEvent} {system : ChatSystem}
    (opens : (room.devices name).Opens) (offered : room.offers fm name event)
    (moved : ChatSystem.step fm (room.devices name).system event = some system) :
    Opens { (room.devices name).note event with system } := by
  have left := ChatSystem.requests_of_step moved
  have enabled := (ChatSystem.step_eq_some moved).1
  cases event with
  | start =>
      have isClosed : (room.devices name).opened = false := by
        simpa only [ChatRoom.offers, Bool.not_eq_true'] using offered
      obtain ⟨none, nobody⟩ := opens.closed isClosed
      obtain ⟨fetches, listeners⟩ := Prod.mk.inj left
      refine ⟨fun isOpen => (Bool.false_ne_true isOpen.symm).elim, ?_,
        fun _ => opens.silent nobody⟩
      rw [fetches, listeners, nobody, none]
      split <;> omega
  | fetchReply share messages error =>
      have asked : 0 < (room.devices name).system.fetches := of_decide_eq_true enabled
      have single := opens.single
      obtain ⟨fetches, listeners⟩ := Prod.mk.inj left
      constructor
      · intro isClosed
        have none := (opens.closed isClosed).1
        omega
      · rw [fetches, listeners]
        omega
      · intro nobody
        rw [listeners] at nobody
        cases nobody
  | listenerReply share changes error =>
      have listening : 0 < (room.devices name).system.listeners := of_decide_eq_true enabled
      refine opens.of_same (fun isStart => ?_) left fun nobody => absurd nobody listening.ne'
      cases isStart
  | _ => exact opens.of_same (fun isStart => by cases isStart) left fun _ => rfl

namespace ChatRoom

variable {Device : Type*} [DecidableEq Device] {fm : DateFormatter} {room next : ChatRoom Device}
  {device : Device} {before : List (RoomEvent Device)}

/-- The documents a device has heard of. -/
abbrev heardBy (device : Device) (events : List (RoomEvent Device)) : List String :=
  (hearing (eventsOf device events)).heard

/-- The documents at the server, in the order they were written. -/
def storedDocuments (room : ChatRoom Device) : List Document :=
  room.documents.filter fun document => document.documentID ∈ room.stored

/-- What a device has heard of is at the server or its own, and what it wrote it has heard of,
unless the server refused it. -/
structure Follows (device : Device) (before : List (RoomEvent Device)) (room : ChatRoom Device) :
    Prop where
  opens : (room.devices device).Opens
  known : ∀ documentID ∈ heardBy device before,
    documentID ∈ room.stored ++ (room.devices device).sent
  own : ∀ documentID ∈ (room.devices device).sent,
    documentID ∈ room.stored ++ (room.devices device).pending →
      documentID ∈ heardBy device before

/-- No document was written on two devices. -/
def OneWriter (room : ChatRoom Device) : Prop :=
  ∀ first second documentID, documentID ∈ (room.devices first).sent →
    documentID ∈ (room.devices second).sent → first = second

/-- When the server takes a document, only what the devices wait for changes. -/
theorem exists_pending_of_takes {other : Device} {documentID : String}
    (taken : room.step fm (.takes other documentID) = some next) (device : Device) :
    ∃ pending, next.devices device = { room.devices device with pending } ∧
      ∀ id ∈ pending, id ∈ (room.devices device).pending := by
  obtain ⟨-, rfl⟩ := step_takes_eq_some taken
  by_cases same : device = other
  · subst same
    exact ⟨_, Function.update_self .., fun id => List.mem_of_mem_filter⟩
  · exact ⟨_, Function.update_of_ne same .., fun _ => id⟩

/-- No document gets a second writer. -/
theorem oneWriter_of_step (sound : Sound fm before room) (oneWriter : room.OneWriter)
    {event : RoomEvent Device} (taken : room.step fm event = some next) : next.OneWriter := by
  cases event with
  | takes device documentID =>
      have same : ∀ other, (next.devices other).sent = (room.devices other).sent := by
        intro other
        obtain ⟨pending, isIt, -⟩ := exists_pending_of_takes taken other
        rw [isIt]
      intro first second id inFirst inSecond
      exact oneWriter first second id (same first ▸ inFirst) (same second ▸ inSecond)
  | chat device event =>
      obtain ⟨offered, system, -, rfl⟩ := step_chat_eq_some taken
      -- a document that is new was written on no other device
      have sentBy : ∀ other id, id ∈ (Function.update room.devices device
          { (room.devices device).note event with system } other).sent →
            id ∈ (room.devices other).sent ∨ other = device ∧ id ∉ room.documentIDs := by
        intro other id member
        by_cases isIt : other = device
        · subst isIt
          rw [Function.update_self, ChatDevice.sent_note] at member
          rcases List.mem_append.mp member with older | sends
          · exact .inl older
          · exact .inr ⟨rfl, fresh_of_offers offered (Option.mem_toList.mp sends)⟩
        · rw [Function.update_of_ne isIt] at member
          exact .inl member
      intro first second id inFirst inSecond
      rcases sentBy first id inFirst with older | ⟨rfl, isNew⟩
      · rcases sentBy second id inSecond with also | ⟨rfl, isNew⟩
        · exact oneWriter first second id older also
        · exact absurd ((sound.devices first).sent id older) isNew
      · rcases sentBy second id inSecond with also | ⟨rfl, -⟩
        · exact absurd ((sound.devices second).sent id also) isNew
        · rfl

/-- An event of the device itself. -/
theorem Follows.chat {event : ChatEvent} (sound : Sound fm before room)
    (follows : Follows device before room)
    (taken : room.step fm (.chat device event) = some next) :
    Follows device (before ++ [.chat device event]) next := by
  obtain ⟨offered, system, moved, rfl⟩ := step_chat_eq_some taken
  have keeps := sound.devices device
  constructor
  · dsimp only
    rw [Function.update_self]
    exact follows.opens.note offered moved
  · intro documentID member
    dsimp only
    rw [Function.update_self, ChatDevice.sent_note, ← List.append_assoc]
    rw [heardBy, eventsOf_concat_self, hearing_concat] at member
    rcases Hearing.mem_heard_of_hear member with older | brought
    · exact List.mem_append_left _ (follows.known documentID older)
    · rcases source_of_offers keeps offered brought with sends | source
      · exact List.mem_append_right _ (Option.mem_toList.mpr sends)
      · exact List.mem_append_left _ source
  · intro documentID written waits
    dsimp only at written waits
    rw [Function.update_self, ChatDevice.sent_note] at written
    rw [Function.update_self] at waits
    rw [heardBy, eventsOf_concat_self, hearing_concat]
    rcases List.mem_append.mp written with older | sends
    · have isKnown := keeps.sent documentID older
      have waited : documentID ∈ room.stored ++ (room.devices device).pending := by
        rcases List.mem_append.mp waits with stored | pending
        · exact List.mem_append_left _ stored
        · rcases ChatDevice.mem_pending_note pending with before | sends
          · exact List.mem_append_right _ before
          · exact absurd isKnown (fresh_of_offers offered sends)
      by_cases fetches : event.Fetches
      · cases event with
        | fetchReply share messages error =>
            cases messages <;> cases error <;> first | exact fetches.elim | skip
            simp only [offers, Bool.and_eq_true, decide_eq_true_eq] at offered
            exact offered.2 documentID older waited
        | _ => exact fetches.elim
      · exact Hearing.heard_subset_hear _ fetches (follows.own documentID older waited)
    · have isLocal : event.IsLocal := by
        cases event <;> trivial
      rw [Hearing.heard_of_isLocal _ isLocal]
      exact List.mem_append_right _ sends

/-- The server takes a document, of this device or of another. -/
theorem Follows.takes {other : Device} {documentID : String} (sound : Sound fm before room)
    (oneWriter : room.OneWriter) (follows : Follows device before room)
    (taken : room.step fm (.takes other documentID) = some next) :
    Follows device (before ++ [.takes other documentID]) next := by
  obtain ⟨pending, isDevice, fewer⟩ := exists_pending_of_takes taken device
  obtain ⟨waits, rfl⟩ := step_takes_eq_some taken
  constructor
  · rw [isDevice]
    exact ⟨follows.opens.closed, follows.opens.single, follows.opens.silent⟩
  · intro id member
    rw [isDevice]
    rw [heardBy, eventsOf_concat_takes] at member
    rcases List.mem_append.mp (follows.known id member) with stored | sent
    · exact List.mem_append_left _ (List.mem_append_left _ stored)
    · exact List.mem_append_right _ sent
  · intro id sent waiting
    rw [isDevice] at sent waiting
    rw [heardBy, eventsOf_concat_takes]
    apply follows.own id sent
    rcases List.mem_append.mp waiting with stored | isPending
    · rcases List.mem_append.mp stored with older | isIt
      · exact List.mem_append_left _ older
      · rw [List.mem_singleton.mp isIt] at sent ⊢
        have theirs := (sound.devices other).pending documentID waits
        rw [oneWriter device other documentID sent theirs]
        exact List.mem_append_right _ waits
    · exact List.mem_append_right _ (fewer id isPending)

/-- What another device does changes nothing for this one. -/
theorem Follows.other {other : Device} {event : ChatEvent} (apart : other ≠ device)
    (follows : Follows device before room)
    (taken : room.step fm (.chat other event) = some next) :
    Follows device (before ++ [.chat other event]) next := by
  obtain ⟨-, system, -, rfl⟩ := step_chat_eq_some taken
  constructor
  · dsimp only
    rw [Function.update_of_ne apart.symm]
    exact follows.opens
  · dsimp only
    rw [Function.update_of_ne apart.symm, heardBy, eventsOf_concat_of_ne apart]
    exact follows.known
  · dsimp only
    rw [Function.update_of_ne apart.symm, heardBy, eventsOf_concat_of_ne apart]
    exact follows.own

/-- Each step keeps what a device has heard of to what was written. -/
theorem follows_of_step {event : RoomEvent Device} (sound : Sound fm before room)
    (oneWriter : room.OneWriter) (follows : Follows device before room)
    (taken : room.step fm event = some next) : Follows device (before ++ [event]) next := by
  cases event with
  | takes other documentID => exact follows.takes sound oneWriter taken
  | chat other event =>
      by_cases same : other = device
      · subst same
        exact follows.chat sound taken
      · exact follows.other same taken

/-- What holds of a room and one of its devices after their events. -/
structure Watch (fm : DateFormatter) (device : Device) (before : List (RoomEvent Device))
    (room : ChatRoom Device) : Prop where
  sound : Sound fm before room
  oneWriter : room.OneWriter
  follows : Follows device before room

theorem watch_room (archive : ChatArchive fm) (movieId : String) :
    Watch fm device [] (archive.room Device movieId) where
  sound := sound_room archive movieId
  oneWriter := fun _ _ _ member => absurd member List.not_mem_nil
  follows :=
    { opens := ⟨fun _ => ⟨rfl, rfl⟩, Nat.zero_le 1, fun _ => rfl⟩
      known := fun _ member => absurd member List.not_mem_nil
      own := fun _ member => absurd member List.not_mem_nil }

/-- Each step keeps the watch. -/
theorem watch_of_step (reprints : fm.Reprints) {event : RoomEvent Device}
    (watch : Watch fm device before room) (taken : room.step fm event = some next) :
    Watch fm device (before ++ [event]) next where
  sound := sound_of_step reprints watch.sound taken
  oneWriter := oneWriter_of_step watch.sound watch.oneWriter taken
  follows := follows_of_step watch.sound watch.oneWriter watch.follows taken

/-- The watch is kept in every run. -/
theorem watch_of_run (reprints : fm.Reprints) (archive : ChatArchive fm) (movieId : String)
    {events : List (RoomEvent Device)}
    (reached : EventRun.runFrom (step fm) (archive.room Device movieId) events = some room) :
    Watch fm device events room :=
  EventRun.invariant (Watch fm device) (watch_room archive movieId)
    (fun _ _ _ _ _ watch taken => watch_of_step reprints watch taken) reached

/-! ## What a device misses -/

/-- A snapshot that the chat of the device passes over has nothing that it has not heard of. -/
def Attends (device : Device) (before : List (RoomEvent Device)) : RoomEvent Device → Prop
  | .chat other (.listenerReply share (some messageChanges) none) => other = device →
      ((hearing (eventsOf device before)).listening ∧ share.getAccountId.isSome) ∨
        ∀ documentID ∈ messageChanges.filterMap Message.messageId,
          documentID ∈ heardBy device before
  | _ => True

instance (device : Device) (before : List (RoomEvent Device)) :
    DecidablePred (Attends device before) := fun event => by
  unfold Attends
  split <;> infer_instance

/-- The device will never hear of the document: the server has it and the listener has reported
it already, or it is one of the device that the server refused. -/
def Lost (device : Device) (before : List (RoomEvent Device)) (room : ChatRoom Device)
    (documentID : String) : Prop :=
  (documentID ∈ room.stored ∧ documentID ∈ (room.devices device).told ∧
      documentID ∉ (room.devices device).sent ∧ documentID ∉ heardBy device before) ∨
    (documentID ∈ (room.devices device).sent ∧ documentID ∉ room.stored ∧
      documentID ∉ (room.devices device).pending)

/-- A listener that has reported something leaves no fetch to be answered. -/
theorem Follows.told_of_fetchReply {share : AccountService} {messages : Option (List Message)}
    {error : Option NSError} (follows : Follows device before room)
    (taken : room.step fm (.chat device (.fetchReply share messages error)) = some next) :
    (room.devices device).told = [] := by
  obtain ⟨-, system, moved, -⟩ := step_chat_eq_some taken
  have asked : 0 < (room.devices device).system.fetches :=
    of_decide_eq_true (ChatSystem.step_eq_some moved).1
  have single := follows.opens.single
  exact follows.opens.silent (by omega)

/-- A chat that attends to what it is told has heard of all of it. -/
theorem told_heard_of_step {event : RoomEvent Device} (watch : Watch fm device before room)
    (attends : Attends device before event)
    (heard : ∀ documentID ∈ (room.devices device).told, documentID ∈ heardBy device before)
    (taken : room.step fm event = some next) :
    ∀ documentID ∈ (next.devices device).told,
      documentID ∈ heardBy device (before ++ [event]) := by
  cases event with
  | takes other documentID =>
      obtain ⟨pending, isDevice, -⟩ := exists_pending_of_takes taken device
      rw [isDevice, heardBy, eventsOf_concat_takes]
      exact heard
  | chat other event =>
      by_cases same : other = device
      · subst same
        by_cases fetches : event.Fetches
        · cases event with
          | fetchReply share messages error =>
              have nothing := watch.follows.told_of_fetchReply taken
              obtain ⟨-, system, -, rfl⟩ := step_chat_eq_some taken
              dsimp only
              rw [Function.update_self, ChatDevice.told_note, nothing]
              exact fun _ member => absurd member List.not_mem_nil
          | _ => exact fetches.elim
        · obtain ⟨-, system, -, rfl⟩ := step_chat_eq_some taken
          have kept := (hearing (eventsOf other before)).heard_subset_hear fetches
          dsimp only
          rw [Function.update_self, ChatDevice.told_note, heardBy, eventsOf_concat_self,
            hearing_concat]
          refine List.forall_mem_append.mpr ⟨fun id member => kept (heard id member), ?_⟩
          cases event with
          | listenerReply share changes error =>
              cases changes with
              | none => exact fun _ member => absurd member List.not_mem_nil
              | some batch =>
                  cases error with
                  | some error => exact fun _ member => absurd member List.not_mem_nil
                  | none =>
                      intro id member
                      rcases attends rfl with listened | already
                      · rw [Hearing.hear, if_pos listened]
                        exact List.mem_append_right _ member
                      · exact kept (already id member)
          | _ => exact fun _ member => absurd member List.not_mem_nil
      · obtain ⟨-, system, -, rfl⟩ := step_chat_eq_some taken
        dsimp only
        rw [Function.update_of_ne (Ne.symm same), heardBy, eventsOf_concat_of_ne same]
        exact heard

/-- What is lost to a device stays lost. -/
theorem lost_of_step {event : RoomEvent Device} {documentID : String}
    (watch : Watch fm device before room) (lost : Lost device before room documentID)
    (taken : room.step fm event = some next) :
    Lost device (before ++ [event]) next documentID := by
  cases event with
  | takes other otherID =>
      obtain ⟨pending, isDevice, fewer⟩ := exists_pending_of_takes taken device
      obtain ⟨waits, rfl⟩ := step_takes_eq_some taken
      rw [Lost, isDevice, heardBy, eventsOf_concat_takes]
      rcases lost with ⟨stored, told, foreign, unheard⟩ | ⟨own, refused, gone⟩
      · exact .inl ⟨List.mem_append_left _ stored, told, foreign, unheard⟩
      · refine .inr ⟨own, ?_, fun member => gone (fewer documentID member)⟩
        intro member
        rcases List.mem_append.mp member with older | isIt
        · exact refused older
        · rw [List.mem_singleton.mp isIt] at own gone
          have theirs := (watch.sound.devices other).pending otherID waits
          rw [watch.oneWriter device other otherID own theirs] at gone
          exact gone waits
  | chat other event =>
      by_cases same : other = device
      · subst same
        have keeps := watch.sound.devices other
        have nothingTold : ∀ share messages error, event = .fetchReply share messages error →
            (room.devices other).told = [] := by
          rintro share messages error rfl
          exact watch.follows.told_of_fetchReply taken
        obtain ⟨offered, system, -, rfl⟩ := step_chat_eq_some taken
        dsimp only [Lost]
        rw [Function.update_self, ChatDevice.told_note, ChatDevice.sent_note, heardBy,
          eventsOf_concat_self, hearing_concat]
        rcases lost with ⟨stored, told, foreign, unheard⟩ | ⟨own, refused, gone⟩
        · have notSent : event.sentID ≠ some documentID := fun sends =>
            fresh_of_offers offered sends (watch.sound.stored documentID stored)
          refine .inl ⟨stored, List.mem_append_left _ told, ?_, ?_⟩
          · intro member
            rcases List.mem_append.mp member with older | sends
            · exact foreign older
            · exact notSent (Option.mem_toList.mp sends)
          · intro member
            rcases Hearing.mem_heard_of_hear member with older | brought
            · exact unheard older
            · cases event with
              | fetchReply share messages error =>
                  rw [nothingTold share messages error rfl] at told
                  exact absurd told List.not_mem_nil
              | listenerReply share changes error =>
                  cases changes <;> cases error <;> first
                    | exact notSent (Option.mem_toList.mp brought)
                    | skip
                  simp only [offers, Bool.and_eq_true, decide_eq_true_eq] at offered
                  exact foreign (offered.2 documentID brought told)
              | _ => exact notSent (Option.mem_toList.mp brought)
        · refine .inr ⟨List.mem_append_left _ own, refused, fun member => ?_⟩
          rcases ChatDevice.mem_pending_note member with older | sends
          · exact gone older
          · exact fresh_of_offers offered sends (keeps.sent documentID own)
      · obtain ⟨-, system, -, rfl⟩ := step_chat_eq_some taken
        dsimp only [Lost]
        rw [Function.update_of_ne (Ne.symm same), heardBy, eventsOf_concat_of_ne same]
        exact lost

/-- A snapshot with something unheard of that is passed over loses it. -/
theorem exists_lost_of_step {event : RoomEvent Device} (watch : Watch fm device before room)
    (passes : ¬ Attends device before event) (taken : room.step fm event = some next) :
    ∃ documentID, Lost device (before ++ [event]) next documentID := by
  cases event with
  | takes other documentID => exact absurd trivial passes
  | chat other event =>
      cases event with
      | listenerReply share changes error =>
          cases changes with
          | none => exact absurd trivial passes
          | some batch =>
              cases error with
              | some error => exact absurd trivial passes
              | none =>
                  simp only [Attends, Classical.not_imp, not_or, not_forall] at passes
                  obtain ⟨rfl, ignored, documentID, member, unheard⟩ := passes
                  obtain ⟨offered, system, -, rfl⟩ := step_chat_eq_some taken
                  simp only [offers, Bool.and_eq_true, decide_eq_true_eq] at offered
                  obtain ⟨message, inside, isIt⟩ := List.mem_filterMap.mp member
                  have source := (offered.1 message inside).mem isIt
                  refine ⟨documentID, ?_⟩
                  dsimp only [Lost]
                  rw [Function.update_self, ChatDevice.told_note, ChatDevice.sent_note, heardBy,
                    eventsOf_concat_self, hearing_concat, Hearing.hear, if_neg ignored]
                  by_cases own : documentID ∈ (room.devices other).sent
                  · have refused : documentID ∉ room.stored ++ (room.devices other).pending :=
                      fun waits => unheard (watch.follows.own documentID own waits)
                    rw [List.mem_append, not_or] at refused
                    exact .inr ⟨List.mem_append_left _ own, refused.1, refused.2⟩
                  · refine .inl ⟨(List.mem_append.mp source).resolve_right own,
                      List.mem_append_right _ member, ?_, unheard⟩
                    exact fun isOwn => own ((List.mem_append.mp isOwn).resolve_right
                      List.not_mem_nil)
      | _ => exact absurd trivial passes

/-! ## In step with the server -/

/-- The store has told the listener of the device of everything that it has, has taken everything
that was written on the device, and answered its fetch with documents. -/
structure Settled (device : Device) (room : ChatRoom Device) : Prop where
  told : ∀ documentID ∈ room.stored, documentID ∈ (room.devices device).told
  taken : ∀ documentID ∈ (room.devices device).sent, documentID ∈ room.stored
  fetched : (room.devices device).system.held.isSome

omit [DecidableEq Device] in
theorem settled_iff : Settled device room ↔
    (∀ documentID ∈ room.stored, documentID ∈ (room.devices device).told) ∧
      (∀ documentID ∈ (room.devices device).sent, documentID ∈ room.stored) ∧
        (room.devices device).system.held.isSome :=
  ⟨fun settled => ⟨settled.told, settled.taken, settled.fetched⟩,
    fun ⟨told, taken, fetched⟩ => ⟨told, taken, fetched⟩⟩

instance : Decidable (Settled device room) := decidable_of_iff' _ settled_iff

/-- No two documents have the same account and the same date, as they are decoded. -/
def Apart (fm : DateFormatter) (room : ChatRoom Device) : Prop :=
  ∀ first ∈ room.documents, ∀ second ∈ room.documents,
    SameStamp (ChatService.message fm first) (ChatService.message fm second) →
      first.documentID = second.documentID

instance : Decidable (room.Apart fm) :=
  inferInstanceAs (Decidable (∀ first ∈ room.documents, ∀ second ∈ room.documents, _ → _))

/-- The messages of a device's rows, as the store keeps them. -/
def rowMessages (device : Device) (room : ChatRoom Device) : List (Option Message) :=
  (messageRows (room.devices device).system.sections).map fun rowVM =>
    rowVM.currentMessage.map Message.asWritten

/-- The messages at the server. -/
def storedMessages (fm : DateFormatter) (room : ChatRoom Device) : List (Option Message) :=
  room.storedDocuments.map fun document => some (ChatService.message fm document).asWritten

/-- The rows of the device are the messages at the server, each once. -/
def InStep (fm : DateFormatter) (device : Device) (room : ChatRoom Device) : Prop :=
  (rowMessages device room).Perm (storedMessages fm room)

omit [DecidableEq Device] in
/-- The ids of the documents at the server. -/
theorem mem_storedIDs (stored : ∀ documentID ∈ room.stored, documentID ∈ room.documentIDs)
    {documentID : String} :
    documentID ∈ room.storedDocuments.map Document.documentID ↔ documentID ∈ room.stored := by
  constructor
  · intro member
    obtain ⟨document, inside, rfl⟩ := List.mem_map.mp member
    exact of_decide_eq_true (List.mem_filter.mp inside).2
  · intro member
    obtain ⟨document, inside, rfl⟩ := List.mem_map.mp (stored documentID member)
    exact List.mem_map.mpr ⟨document, List.mem_filter.mpr ⟨inside, decide_eq_true member⟩, rfl⟩

/-- The message of a document, by its id, as the store keeps it. -/
def face (fm : DateFormatter) (room : ChatRoom Device) (documentID : String) : Option Message :=
  some (ChatService.getMessage fm documentID (room.content documentID)).asWritten

omit [DecidableEq Device] in
/-- The messages at the server are the faces of its documents. -/
theorem storedMessages_eq (distinct : room.documentIDs.Nodup) :
    storedMessages fm room =
      (room.storedDocuments.map Document.documentID).map (face fm room) := by
  rw [storedMessages, List.map_map]
  refine List.map_congr_left fun document member => ?_
  have isContent := content_of_mem distinct (List.mem_of_mem_filter member)
  simp only [Function.comp_apply, face, isContent, ChatService.message]

/-- The messages on display are the faces of their documents. -/
theorem rowMessages_eq (laws : fm.DayLaws) {archive : ChatArchive fm} {movieId : String}
    {events : List (RoomEvent Device)}
    (reached : EventRun.runFrom (step fm) (archive.room Device movieId) events = some room)
    (rows : RowsWritten fm room.content (room.devices device).system) :
    rowMessages device room = (room.devices device).system.documentIDs.map (face fm room) := by
  have rendered := rendered_of_run laws.injective ((projects device).run reached)
  have shown := congrArg (List.map (Option.map Message.asWritten)) rendered.map_messageRows
  have written := congrArg (List.map some) rows.map_asWritten
  rw [List.map_map, List.map_map] at shown written
  exact shown.trans written

/-- **Every device shows what it has heard of.** In every run of a room, whatever the other
devices do and in whatever order things reach them: a row shows a document the device has heard
of, as the store keeps it; every one heard of is shown, or one with its account and date is; and
once the fetch succeeded no document has two rows. -/
theorem rows_heard (laws : fm.DayLaws) (reprints : fm.Reprints) (archive : ChatArchive fm)
    (movieId : String) {events : List (RoomEvent Device)}
    (reached : EventRun.runFrom (step fm) (archive.room Device movieId) events = some room)
    (device : Device) : ∃ documentIDs : List String,
    rowMessages device room = documentIDs.map (face fm room) ∧
      (∀ documentID ∈ documentIDs, documentID ∈ heardBy device events) ∧
      (∀ documentID ∈ heardBy device events, ∃ shown ∈ documentIDs,
        Alike fm room.content shown documentID) ∧
      ((room.devices device).system.held.isSome → documentIDs.Nodup) := by
  have hears := hears_of_run laws reprints archive movieId reached device
  exact ⟨_, rowMessages_eq laws reached hears.rows, hears.upToDate.sound, hears.upToDate.complete,
    hears.once⟩

omit [DecidableEq Device] in
/-- Documents with different stamps are told apart by the check. -/
theorem Apart.eq_of_alike (apart : room.Apart fm) (distinct : room.documentIDs.Nodup) :
    ∀ first ∈ room.documentIDs, ∀ second ∈ room.documentIDs,
      Alike fm room.content first second → first = second := by
  intro first inFirst second inSecond alike
  obtain ⟨one, isOne, rfl⟩ := List.mem_map.mp inFirst
  obtain ⟨two, isTwo, rfl⟩ := List.mem_map.mp inSecond
  rw [Alike, content_of_mem distinct isOne, content_of_mem distinct isTwo] at alike
  exact apart one isOne two isTwo alike

/-- The rows are those of the documents heard of. -/
theorem inStep_iff_heard (laws : fm.DayLaws) (reprints : fm.Reprints) (archive : ChatArchive fm)
    (movieId : String) {events : List (RoomEvent Device)}
    (reached : EventRun.runFrom (step fm) (archive.room Device movieId) events = some room)
    (settled : Settled device room) (apart : room.Apart fm) :
    InStep fm device room ↔ ∀ documentID ∈ room.stored, documentID ∈ heardBy device events := by
  have watch : Watch fm device events room := watch_of_run reprints archive movieId reached
  have hears := hears_of_run laws reprints archive movieId reached device
  have sound := watch.sound
  have told := apart.eq_of_alike sound.distinct
  have heardStored : ∀ documentID ∈ heardBy device events, documentID ∈ room.stored := by
    intro documentID member
    rcases List.mem_append.mp (watch.follows.known documentID member) with stored | own
    · exact stored
    · exact settled.taken documentID own
  have inside : ∀ documentID ∈ heardBy device events, documentID ∈ room.documentIDs :=
    fun documentID member => sound.stored documentID (heardStored documentID member)
  have shownIff := hears.mem_documentIDs_iff fun first inFirst second inSecond =>
    told first (inside first inFirst) second (inside second inSecond)
  have storedIff := fun documentID => @mem_storedIDs _ room sound.stored documentID
  rw [InStep, rowMessages_eq laws reached hears.rows, storedMessages_eq sound.distinct]
  constructor
  · intro perm documentID member
    have isFace : face fm room documentID ∈
        (room.devices device).system.documentIDs.map (face fm room) :=
      perm.mem_iff.mpr (List.mem_map.mpr ⟨documentID, (storedIff documentID).mpr member, rfl⟩)
    obtain ⟨shown, isShown, same⟩ := List.mem_map.mp isFace
    have isHeard := (shownIff shown).mp isShown
    rw [← told shown (inside shown isHeard) documentID (sound.stored documentID member)
      (Message.sameStamp_of_asWritten (Option.some.inj same))]
    exact isHeard
  · intro allHeard
    apply List.Perm.map
    have distinct : (room.storedDocuments.map Document.documentID).Nodup :=
      sound.distinct.sublist (List.filter_sublist.map _)
    apply (List.perm_ext_iff_of_nodup (hears.once settled.fetched) distinct).mpr
    intro documentID
    rw [shownIff, storedIff]
    exact ⟨heardStored documentID, allHeard documentID⟩

/-- Everything at the server was heard of, exactly when the chat attended to all it was told. -/
theorem heard_iff_attends (reprints : fm.Reprints) (archive : ChatArchive fm) (movieId : String)
    {events : List (RoomEvent Device)}
    (reached : EventRun.runFrom (step fm) (archive.room Device movieId) events = some room)
    (settled : Settled device room) :
    (∀ documentID ∈ room.stored, documentID ∈ heardBy device events) ↔
      EventRun.EachTransition (step fm) (fun before _ event => Attends device before event)
        (archive.room Device movieId) events := by
  constructor
  · intro allHeard before event inside state next run taken
    by_contra passes
    have watch : Watch fm device before state := watch_of_run reprints archive movieId run
    obtain ⟨documentID, -⟩ := exists_lost_of_step watch passes taken
    -- from the step on, something is lost
    have always : Watch fm device events room ∧
        (before ++ [event] <+: events → ∃ documentID, Lost device events room documentID) := by
      refine EventRun.invariant (fun earlier room => Watch fm device earlier room ∧
        (before ++ [event] <+: earlier → ∃ documentID, Lost device earlier room documentID))
          ⟨watch_room archive movieId, fun short => ?_⟩ ?_ reached
      · exact absurd (List.prefix_nil.mp short) (by simp)
      · rintro earlier other state next - ⟨watch, lost⟩ taken
        refine ⟨watch_of_step reprints watch taken, fun within => ?_⟩
        rcases List.prefix_concat_iff.mp within with same | older
        · obtain ⟨rfl, isEvent⟩ := List.append_inj' same rfl
          cases isEvent
          exact exists_lost_of_step watch passes taken
        · obtain ⟨lostID, isLost⟩ := lost older
          exact ⟨lostID, lost_of_step watch isLost taken⟩
    obtain ⟨lostID, ⟨stored, -, -, unheard⟩ | ⟨own, refused, -⟩⟩ := always.2 inside
    · exact unheard (allHeard lostID stored)
    · exact refused (settled.taken lostID own)
  · intro attends
    have always : Watch fm device events room ∧
        ∀ documentID ∈ (room.devices device).told, documentID ∈ heardBy device events := by
      refine EventRun.invariant (fun before room => Watch fm device before room ∧
        EventRun.runFrom (step fm) (archive.room Device movieId) before = some room ∧
          ∀ documentID ∈ (room.devices device).told, documentID ∈ heardBy device before)
            ⟨watch_room archive movieId, rfl, fun _ member => absurd member List.not_mem_nil⟩ ?_
              reached |>.imp_right And.right
      rintro before event state next inside ⟨watch, run, heard⟩ taken
      refine ⟨watch_of_step reprints watch taken, ?_, ?_⟩
      · rw [EventRun.runFrom_concat, run, Option.bind_some, taken]
      · exact told_heard_of_step watch (attends before event inside state next run taken) heard
          taken
    exact fun documentID member => always.2 documentID (settled.told documentID member)

/-- **In step with the server.** When the fetch of a device brought documents, its listener was
told of everything and the store has taken all that was written on it, and no two messages have
the same account and date, its rows are the messages at the server, each once, exactly when every
snapshot that its chat passed over had only messages it had heard of. -/
theorem inStep_iff_attends (laws : fm.DayLaws) (reprints : fm.Reprints) (archive : ChatArchive fm)
    (movieId : String) {events : List (RoomEvent Device)}
    (reached : EventRun.runFrom (step fm) (archive.room Device movieId) events = some room)
    (settled : Settled device room) (apart : room.Apart fm) :
    InStep fm device room ↔
      EventRun.EachTransition (step fm) (fun before _ event => Attends device before event)
        (archive.room Device movieId) events :=
  (inStep_iff_heard laws reprints archive movieId reached settled apart).trans
    (heard_iff_attends reprints archive movieId reached settled)

/-- **The devices of a chat agree.** Where no two messages have the same account and date, two
settled devices that passed over only what they had heard of show the same messages, in whatever
order things reached them. -/
theorem devices_agree (laws : fm.DayLaws) (reprints : fm.Reprints) (archive : ChatArchive fm)
    (movieId : String) {first second : Device} {events : List (RoomEvent Device)}
    (reached : EventRun.runFrom (step fm) (archive.room Device movieId) events = some room)
    (apart : room.Apart fm) (settledFirst : Settled first room)
    (settledSecond : Settled second room)
    (attends : ∀ device ∈ [first, second],
      EventRun.EachTransition (step fm) (fun before _ event => Attends device before event)
        (archive.room Device movieId) events) :
    (rowMessages first room).Perm (rowMessages second room) := by
  have firstHeard := (heard_iff_attends reprints archive movieId reached settledFirst).mpr
    (attends first List.mem_cons_self)
  have secondHeard := (heard_iff_attends reprints archive movieId reached settledSecond).mpr
    (attends second (List.mem_cons_of_mem _ List.mem_cons_self))
  have one := (inStep_iff_heard laws reprints archive movieId reached settledFirst apart).mpr
    firstHeard
  have two := (inStep_iff_heard laws reprints archive movieId reached settledSecond apart).mpr
    secondHeard
  exact one.trans two.symm

end ChatRoom

/-! ## Two devices -/

/-- A chat with one message in it. -/
def oneMessage : ChatArchive (Gregorian.formatter ⟨0⟩) where
  documents := [documentAt "d1" "binh" 1566345600000000000]
  distinct := List.nodup_singleton _
  stamped := by
    refine List.forall_mem_singleton.mpr ?_
    decide +kernel

/-- A text that is sent on the first device. -/
def hello : ChatEvent :=
  .addMessage ⟨none, some "an"⟩ ⟨1566345660000000000⟩ "hello" "d2"

/-- The messages of some documents, as a store hands them on. -/
def handedOn (documents : List Document) : Option (List Message) :=
  some (documents.map (ChatService.message (Gregorian.formatter ⟨0⟩)))

/-- A text is sent on the first device while the second one opens the chat. -/
def twoDevices : List (RoomEvent Bool) :=
  let old := documentAt "d1" "binh" 1566345600000000000
  let written := (hello.writes (Gregorian.formatter ⟨0⟩)).toList
  [.chat true .start,
    .chat true (.fetchReply ⟨none, some "an"⟩ (handedOn [old]) none),
    .chat true (.listenerReply ⟨none, some "an"⟩ (handedOn [old]) none),
    .chat false .start,
    .chat false (.fetchReply ⟨none, some "binh"⟩ (handedOn [old]) none),
    .chat true hello,
    .chat true (.listenerReply ⟨none, some "an"⟩ (handedOn written) none),
    .takes true "d2",
    .chat false (.listenerReply ⟨none, some "binh"⟩ (handedOn [old]) none),
    .chat true (.addDocumentReply "d2" none),
    .chat false (.listenerReply ⟨none, some "binh"⟩ (handedOn written) none)]

/-- Both devices are settled in the end, and the two messages are told apart. -/
theorem settled_twoDevices : ∃ room,
    EventRun.runFrom (ChatRoom.step (Gregorian.formatter ⟨0⟩)) (oneMessage.room Bool "1")
        twoDevices = some room ∧
      ChatRoom.Settled true room ∧ ChatRoom.Settled false room ∧
        room.Apart (Gregorian.formatter ⟨0⟩) := by
  have holds : (EventRun.runFrom (ChatRoom.step (Gregorian.formatter ⟨0⟩))
      (oneMessage.room Bool "1") twoDevices).map (fun room =>
        decide (ChatRoom.Settled true room ∧ ChatRoom.Settled false room ∧
          room.Apart (Gregorian.formatter ⟨0⟩))) = some true := by decide +kernel
  obtain ⟨room, reached, isTrue⟩ := Option.map_eq_some_iff.mp holds
  exact ⟨room, reached, of_decide_eq_true isTrue⟩

/-- Neither passes over anything that is new to it. -/
theorem attends_twoDevices (device : Bool) : ∀ before event, before ++ [event] <+: twoDevices →
    ChatRoom.Attends device before event := by
  apply EventRun.forall_prefix_of_positions
  cases device <;> decide +kernel

/-- The rows of the first device, at the end of the run. -/
theorem rows_heard_twoDevices : ∃ room,
    EventRun.runFrom (ChatRoom.step (Gregorian.formatter ⟨0⟩)) (oneMessage.room Bool "1")
        twoDevices = some room ∧
      ∃ documentIDs : List String,
        ChatRoom.rowMessages false room =
            documentIDs.map (ChatRoom.face (Gregorian.formatter ⟨0⟩) room) ∧
          (∀ documentID ∈ documentIDs, documentID ∈ ChatRoom.heardBy false twoDevices) ∧
          (∀ documentID ∈ ChatRoom.heardBy false twoDevices, ∃ shown ∈ documentIDs,
            Alike (Gregorian.formatter ⟨0⟩) room.content shown documentID) ∧
          ((room.devices false).system.held.isSome → documentIDs.Nodup) := by
  obtain ⟨room, reached, -⟩ := settled_twoDevices
  exact ⟨room, reached, ChatRoom.rows_heard (Gregorian.dayLaws ⟨0⟩) (Gregorian.reprints ⟨0⟩)
    oneMessage "1" reached false⟩

/-- The first device is in step exactly if it attended. -/
theorem inStep_iff_attends_twoDevices : ∃ room,
    EventRun.runFrom (ChatRoom.step (Gregorian.formatter ⟨0⟩)) (oneMessage.room Bool "1")
        twoDevices = some room ∧
      (ChatRoom.InStep (Gregorian.formatter ⟨0⟩) false room ↔
        EventRun.EachTransition (ChatRoom.step (Gregorian.formatter ⟨0⟩))
          (fun before _ event => ChatRoom.Attends false before event)
          (oneMessage.room Bool "1") twoDevices) := by
  obtain ⟨room, reached, -, settled, apart⟩ := settled_twoDevices
  exact ⟨room, reached, ChatRoom.inStep_iff_attends (Gregorian.dayLaws ⟨0⟩)
    (Gregorian.reprints ⟨0⟩) oneMessage "1" reached settled apart⟩

/-- The two devices show the same. -/
theorem devices_agree_twoDevices : ∃ room,
    EventRun.runFrom (ChatRoom.step (Gregorian.formatter ⟨0⟩)) (oneMessage.room Bool "1")
        twoDevices = some room ∧
      (ChatRoom.rowMessages true room).Perm (ChatRoom.rowMessages false room) := by
  obtain ⟨room, reached, first, second, apart⟩ := settled_twoDevices
  refine ⟨room, reached, ChatRoom.devices_agree (Gregorian.dayLaws ⟨0⟩) (Gregorian.reprints ⟨0⟩)
    oneMessage "1" reached apart first second ?_⟩
  exact fun device _ before event inside _ _ _ _ => attends_twoDevices device before event inside

end MovieFun
