import MovieFun.View.Chat.Admission
import MovieFun.View.Chat.ChatSystem

/-!
# What an event does to the chat

`Effect` says of each event what it can do to the sections, the assets and the
messages held. `effect_of_step` is the one place where the steps of the system
are taken apart; the invariants of the chat are read off the effects.
-/

namespace MovieFun

namespace ChatEvent

/-- The id of the document that an event sends to the chat of a movie. -/
def sentID : ChatEvent → Option String
  | addMessage _ _ _ documentID => some documentID
  | addMessageImage _ _ _ fullSizeImageURL documentID =>
      if (fullSizeImageURL.bind Utils.getFileName).isSome then some documentID else none
  | _ => none

/-- The event is neither a start nor a snapshot of a listener. -/
def KeepsFlag : ChatEvent → Prop
  | start => False
  | listenerReply .. => False
  | _ => True

/-- The event comes from this device: a call of the screen or a completion of
one of its sends. -/
def IsLocal : ChatEvent → Prop
  | start => False
  | fetchReply .. => False
  | listenerReply .. => False
  | _ => True

/-- The event is a snapshot of a listener. -/
def IsSnapshot : ChatEvent → Prop
  | listenerReply .. => True
  | _ => False

/-- A local event is no snapshot. -/
theorem IsLocal.not_isSnapshot {event : ChatEvent} (isLocal : event.IsLocal) :
    ¬ event.IsSnapshot := by
  intro isSnapshot
  cases event <;> first | exact isLocal | exact isSnapshot

/-- The event may end a send without a picture being stored. -/
def Settles : ChatEvent → Prop
  | addDocumentReply .. => True
  | fetchImageReply .. => True
  | putImageReply _ succeeded => succeeded = false
  | _ => False

theorem Settles.isLocal {event : ChatEvent} (settles : event.Settles) : event.IsLocal := by
  cases event <;> first | exact settles.elim | trivial

theorem Settles.sentID {event : ChatEvent} (settles : event.Settles) : event.sentID = none := by
  cases event <;> first | exact settles.elim | rfl

theorem IsLocal.keepsFlag {event : ChatEvent} (isLocal : event.IsLocal) : event.KeepsFlag := by
  cases event <;> first | exact isLocal | trivial

end ChatEvent

namespace ChatSystem

/-- The sections the screen shows. -/
abbrev sections (system : ChatSystem) : List ChatSectionViewModel :=
  system.controller.chatViewModel.sectionViewModels

/-- The pictures that the gallery is opened on. -/
abbrev assets (system : ChatSystem) : List ChatAsset :=
  system.controller.chatViewModel.assets

/-- The messages that `checkExistMessage` compares with. -/
abbrev held (system : ChatSystem) : Option (List Message) := system.controller.messages

/-- The movie of the chat. -/
abbrev movieId (system : ChatSystem) : Option String := system.controller.chatViewModel.movieId

/-- The message rows of the chat, section after section. -/
abbrev shown (system : ChatSystem) : List ChatEntry := timeline system.sections

/-- The documents sent so far, each with the message of its row. -/
def letters (system : ChatSystem) : List (String × Message) :=
  system.sends.map fun send => (send.documentID, send.message)

/-- What waits for a document of a text is a text. -/
def TextsPlain (system : ChatSystem) : Prop :=
  ∀ send ∈ system.sends, send.stage = .addText → send.message.isMessageImage = none

@[simp] theorem letters_setStage (documentID : String) (stage : SendStage) (system : ChatSystem) :
    (system.setStage documentID stage).letters = system.letters := by
  simp only [letters, setStage, List.map_map]
  apply List.map_congr_left
  intro send _
  simp only [Function.comp_apply]
  split <;> rfl

/-- The texts stay plain when a send gets another stage than that of a text. -/
theorem textsPlain_setStage {stage : SendStage} (notText : stage ≠ .addText)
    {system : ChatSystem} (plain : system.TextsPlain) (documentID : String) :
    (system.setStage documentID stage).TextsPlain := by
  intro send member isText
  obtain ⟨older, inside, rfl⟩ := List.mem_map.mp member
  split at isText
  · exact absurd isText notText
  · next other =>
    rw [if_neg other]
    exact plain older inside isText

end ChatSystem

/-- The message that an event composes, as the send of it. -/
inductive Composes (fm : DateFormatter) (share : AccountService) (now : Date) :
    ChatEvent → ChatSend → Option PHAsset → Prop
  | text {text documentID : String} {message : Message}
      (composed : ChatController.textMessage fm share now text = some message) :
      Composes fm share now (.addMessage share now text documentID)
        { documentID, message, stage := .addText } none
  | picture {asset : PHAsset} {fullSizeImageURL : Option String} {documentID fileName : String}
      {message : Message} (named : fullSizeImageURL.bind Utils.getFileName = some fileName)
      (composed : ChatController.imageMessage fm share now fileName = some message) :
      Composes fm share now (.addMessageImage share now asset fullSizeImageURL documentID)
        { documentID, message, stage := .addPicture } (some asset)

/-- The row of a message of this device, not yet sent. -/
def ownEntry (send : ChatSend) (phAsset : Option PHAsset) (sendID : Option String) : ChatEntry where
  message := send.message
  bubble := .right false phAsset sendID

section Composes

variable {fm : DateFormatter} {share : AccountService} {now : Date} {event : ChatEvent}
  {send : ChatSend} {phAsset : Option PHAsset}

theorem Composes.sentID (composes : Composes fm share now event send phAsset) :
    event.sentID = some send.documentID := by
  cases composes with
  | text composed => rfl
  | picture named composed => rw [ChatEvent.sentID, named, Option.isSome_some, if_pos rfl]

/-- An own message is of the session and of the moment, cut down to what the text
of a date keeps. -/
theorem Composes.message (composes : Composes fm share now event send phAsset) :
    send.message.accountId = share.getAccountId ∧
      send.message.sendDate = Utils.getCurrentDate fm now ∧
      send.message.sendDate.isSome ∧ send.message.messageId = none := by
  cases composes with
  | text composed =>
      obtain ⟨sendDate, cut, rfl⟩ := ChatController.textMessage_eq_some fm composed
      exact ⟨rfl, cut.symm, rfl, rfl⟩
  | picture named composed =>
      obtain ⟨sendDate, cut, rfl⟩ := ChatController.imageMessage_eq_some fm composed
      exact ⟨rfl, cut.symm, rfl, rfl⟩

/-- A text message that is composed is no picture. -/
theorem Composes.plain (composes : Composes fm share now event send phAsset)
    (isText : send.stage = .addText) : send.message.isMessageImage = none := by
  cases composes with
  | text composed =>
      obtain ⟨sendDate, cut, rfl⟩ := ChatController.textMessage_eq_some fm composed
      rfl
  | picture named composed => cases isText

theorem Composes.isLocal (composes : Composes fm share now event send phAsset) :
    event.IsLocal := by
  cases composes <;> trivial

end Composes

/-- What no event changes, what only a start and the first snapshot change, and
what no event takes away. -/
structure Frame (event : ChatEvent) (system next : ChatSystem) : Prop where
  movieId : next.movieId = system.movieId
  didStart : event.KeepsFlag → next.controller.didStart = system.controller.didStart
  snapshot : event.IsSnapshot → next.controller.didStart = true
  listeners : system.listeners ≤ next.listeners
  plain : system.TextsPlain → next.TextsPlain

/-- The events that leave the view as it is: a failed fetch, the first snapshot,
one that is passed over, and what neither sends nor completes a send. -/
def Skips (system : ChatSystem) : ChatEvent → Prop
  | .fetchReply _ _ error => error.isSome
  | .listenerReply share changes error =>
      system.controller.didStart = false ∨
        (error.isSome ∨ changes = none ∨ share.getAccountId = none)
  | .putImageReply .. => False
  | event => event.sentID = none

theorem Skips.sentID {system : ChatSystem} {event : ChatEvent} (skips : Skips system event) :
    event.sentID = none := by
  cases event <;> first | exact skips | rfl

/-- A snapshot that is passed over is not listened to. -/
theorem Skips.not_listened {system : ChatSystem} {share : AccountService}
    {batch : List Message} (skips : Skips system (.listenerReply share (some batch) none))
    (started : system.controller.didStart = true) : ¬ share.getAccountId.isSome := by
  intro signedIn
  rcases skips with first | failed | nothing | signedOut
  · rw [first] at started
    cases started
  · cases failed
  · cases nothing
  · rw [signedOut] at signedIn
    cases signedIn

/-- What an event can do. The stages of the sends are left out. -/
inductive Effect (fm : DateFormatter) (system next : ChatSystem) : ChatEvent → Prop
  | kept {event : ChatEvent} (frame : Frame event system next)
      (sections : next.sections = system.sections)
      (assets : next.assets = system.assets) (held : next.held = system.held)
      (letters : next.letters = system.letters) (skips : Skips system event) :
      Effect fm system next event
  | settled {event : ChatEvent} (frame : Frame event system next) (documentID : String)
      (success : Bool)
      (sections : next.sections =
        system.sections.map (ChatSectionViewModel.setSuccess documentID success))
      (assets : next.assets = system.assets) (held : next.held = system.held)
      (letters : next.letters = system.letters) (settles : event.Settles)
      (ofText : success = true → system.stage? documentID = some .addText) :
      Effect fm system next event
  | stored {documentID : String} (frame : Frame (.putImageReply documentID true) system next)
      (send : ChatSend) (found : system.send? documentID = some send)
      (waiting : send.stage = .putImage)
      (sections : next.sections =
        system.sections.map (ChatSectionViewModel.setSuccess documentID true))
      (added : system.controller.addAsset send.message =
        some { system.controller with
          chatViewModel := { system.controller.chatViewModel with assets := next.assets } })
      (held : next.held = system.held) (letters : next.letters = system.letters) :
      Effect fm system next (.putImageReply documentID true)
  | forgotten {share : AccountService} (frame : Frame (.fetchReply share none none) system next)
      (sections : next.sections = system.sections)
      (assets : next.assets = system.assets) (held : next.held = none)
      (letters : next.letters = system.letters) :
      Effect fm system next (.fetchReply share none none)
  | rebuilt {share : AccountService} {messages : List Message}
      (frame : Frame (.fetchReply share (some messages) none) system next)
      (stamped : ∀ message ∈ shownMessages fm messages,
        message.Stamped ∧ share.getAccountId.isSome)
      (sections : next.sections = builtSections fm share messages)
      (assets : next.assets = (shownMessages fm messages).flatMap (listedAssets share))
      (held : next.held = some messages) (letters : next.letters = system.letters) :
      Effect fm system next (.fetchReply share (some messages) none)
  | received {share : AccountService} {batch new : List Message}
      (frame : Frame (.listenerReply share (some batch) none) system next)
      (started : system.controller.didStart = true) (signedIn : share.getAccountId.isSome)
      (taken : received system.held batch = some new)
      (appended : appendRows fm (new.map (builtEntry share)) system.sections =
        some next.sections)
      (assets : next.assets = system.assets) (held : next.held = system.held.map (· ++ new))
      (letters : next.letters = system.letters) :
      Effect fm system next (.listenerReply share (some batch) none)
  | own {event : ChatEvent} {share : AccountService} {now : Date} {send : ChatSend}
      {phAsset : Option PHAsset} (frame : Frame event system next)
      (composes : Composes fm share now event send phAsset)
      (noMovie : system.movieId = none)
      (added : ChatController.addRowViewModel fm ((ownEntry send phAsset none).row none)
        system.sections = some next.sections)
      (assets : next.assets = system.assets)
      (held : next.held = system.held.map (· ++ [send.message]))
      (letters : next.letters = system.letters) : Effect fm system next event
  | sent {event : ChatEvent} {share : AccountService} {now : Date} {send : ChatSend}
      {phAsset : Option PHAsset} {dictionary : Dictionary} (frame : Frame event system next)
      (composes : Composes fm share now event send phAsset)
      (fresh : system.send? send.documentID = none)
      (written : ChatService.addChatMessage now send.message = some dictionary)
      (added : ChatController.addRowViewModel fm
        ((ownEntry send phAsset (some send.documentID)).row none) system.sections =
          some next.sections)
      (assets : next.assets = system.assets)
      (held : next.held = system.held.map (· ++ [send.message]))
      (letters : next.letters = system.letters ++ [(send.documentID, send.message)]) :
      Effect fm system next event

namespace ChatSystem

variable {fm : DateFormatter} {system next : ChatSystem} {event : ChatEvent}

/-- What an own message does: its row is added. -/
theorem effect_of_sendMessage {share : AccountService} {now : Date} {send : ChatSend}
    {phAsset : Option PHAsset} (composes : Composes fm share now event send phAsset)
    (fresh : system.send? send.documentID = none)
    (done : sendMessage fm now send.message phAsset send.documentID send.stage system =
      some next) : Effect fm system next event := by
  unfold sendMessage at done
  split at done
  · next noMovie =>
    simp only [ChatController.showOwnMessage, Option.bind_eq_bind, Option.bind_eq_some_iff] at done
    obtain ⟨controller, ⟨sectionViewModels, added, made⟩, done⟩ := done
    cases made
    cases done
    exact .own ⟨rfl, fun _ => rfl, composes.isLocal.not_isSnapshot.elim, le_rfl, id⟩ composes
      noMovie added rfl rfl rfl
  · simp only [ChatController.showOwnMessage, Option.bind_eq_bind, Option.bind_eq_some_iff] at done
    obtain ⟨controller, ⟨sectionViewModels, added, made⟩, dictionary, written, done⟩ := done
    cases made
    cases done
    refine .sent ⟨rfl, fun _ => rfl, composes.isLocal.not_isSnapshot.elim, le_rfl, fun plain => ?_⟩
      composes fresh written added rfl rfl ?_
    · exact List.forall_mem_append.mpr
        ⟨plain, List.forall_mem_singleton.mpr composes.plain⟩
    · simp only [letters, List.map_append, List.map_singleton]

/-- What the end of an own message does: its row is told. -/
theorem effect_of_finish (documentID : String) (success : Bool) (settles : event.Settles)
    (ofText : success = true → system.stage? documentID = some .addText) :
    Effect fm system (system.finish documentID success) event := by
  refine .settled ⟨rfl, fun _ => rfl, settles.isLocal.not_isSnapshot.elim, le_rfl,
    fun plain => textsPlain_setStage (by decide) plain _⟩ documentID success rfl rfl rfl ?_
      settles ofText
  exact letters_setStage _ _ _

/-- What the reply to the fetch does. -/
theorem effect_of_fetchReply {share : AccountService} {messages : Option (List Message)}
    {error : Option NSError} (done : handle fm system (.fetchReply share messages error) =
      some next) : Effect fm system next (.fetchReply share messages error) := by
  simp only [handle, Option.bind_eq_bind, Option.bind_eq_some_iff] at done
  obtain ⟨controller, completed, done⟩ := done
  cases done
  cases error with
  | some error =>
      cases completed
      exact .kept ⟨rfl, fun _ => rfl, False.elim, Nat.le_succ _, id⟩ rfl rfl rfl rfl rfl
  | none =>
      cases messages with
      | none =>
          cases completed
          exact .forgotten ⟨rfl, fun _ => rfl, False.elim, Nat.le_succ _, id⟩ rfl rfl rfl rfl
      | some messages =>
          simp only [ChatController.fetchCompletion, Option.bind_eq_bind,
            Option.bind_eq_some_iff] at completed
          obtain ⟨chatViewModel, built, completed⟩ := completed
          cases completed
          obtain ⟨stamped, rfl⟩ := buildViewModels_eq_some built
          exact .rebuilt ⟨rfl, fun _ => rfl, False.elim, Nat.le_succ _, id⟩ stamped rfl rfl rfl rfl

/-- What a callback of the listener does. -/
theorem effect_of_listenerReply {share : AccountService} {changes : Option (List Message)}
    {error : Option NSError} (done : handle fm system (.listenerReply share changes error) =
      some next) : Effect fm system next (.listenerReply share changes error) := by
  simp only [handle, Option.bind_eq_bind, Option.bind_eq_some_iff] at done
  obtain ⟨controller, completed, done⟩ := done
  cases done
  rcases listenerCompletion_eq_some completed with
    ⟨first, rfl⟩ | ⟨started, reason, rfl⟩ |
      ⟨started, rfl, signedIn, batch, new, sections, rfl, taken, added, rfl⟩
  · exact .kept ⟨rfl, fun keeps => keeps.elim, fun _ => rfl, le_rfl, id⟩ rfl rfl rfl rfl
      (.inl first)
  · exact .kept ⟨rfl, fun _ => rfl, fun _ => started, le_rfl, id⟩ rfl rfl rfl rfl
      (.inr reason)
  · exact .received ⟨rfl, fun _ => rfl, fun _ => started, le_rfl, id⟩ started signedIn
      taken added rfl rfl rfl

/-- What the end of an upload does. -/
theorem effect_of_putImageReply {documentID : String} {succeeded : Bool}
    (possible : system.stage? documentID = some .putImage)
    (done : handle fm system (.putImageReply documentID succeeded) = some next) :
    Effect fm system next (.putImageReply documentID succeeded) := by
  obtain ⟨send, found, stage⟩ := Option.map_eq_some_iff.mp possible
  cases succeeded with
  | false =>
      simp only [handle, Bool.false_eq_true, if_false] at done
      cases done
      exact effect_of_finish documentID false (by trivial) (Bool.false_ne_true.elim ·)
  | true =>
      simp only [handle, found, if_true, Option.bind_eq_bind, Option.bind_eq_some_iff] at done
      obtain ⟨controller, added, done⟩ := done
      cases done
      have shape : controller = { system.controller with
          chatViewModel := { system.controller.chatViewModel with
            assets := controller.chatViewModel.assets } } := by
        unfold ChatController.addAsset at added
        split at added
        · cases added
          rfl
        · split at added
          · cases added
            rfl
          · simp only [Option.bind_eq_bind, Option.bind_eq_some_iff] at added
            obtain ⟨accountId, -, added⟩ := added
            cases added
            rfl
      refine .stored ⟨?_, fun _ => ?_, False.elim, le_rfl,
        fun plain => textsPlain_setStage (by decide) plain _⟩ send found stage ?_ ?_ ?_
          (letters_setStage _ _ _)
      · rw [shape]
        rfl
      · rw [shape]
        rfl
      · rw [shape]
        rfl
      · exact added.trans (congrArg some shape)
      · rw [shape]
        rfl

/-- Every step of the chat has one of the effects. -/
theorem effect_of_step (taken : step fm system event = some next) :
    Effect fm system next event := by
  obtain ⟨possible, done⟩ := step_eq_some taken
  cases event with
  | start =>
      cases done
      have same : ∀ controller : ChatController,
          controller.start.chatViewModel.movieId = controller.chatViewModel.movieId ∧
            controller.start.chatViewModel.sectionViewModels =
              controller.chatViewModel.sectionViewModels ∧
            controller.start.chatViewModel.assets = controller.chatViewModel.assets ∧
            controller.start.messages = controller.messages := by
        intro controller
        unfold ChatController.start
        split <;> exact ⟨rfl, rfl, rfl, rfl⟩
      obtain ⟨movieId, sections, assets, held⟩ := same system.controller
      exact .kept ⟨movieId, fun keeps => keeps.elim, False.elim, le_rfl, id⟩ sections assets held
        rfl rfl
  | fetchReply share messages error => exact effect_of_fetchReply done
  | listenerReply share changes error => exact effect_of_listenerReply done
  | addMessage share now text documentID =>
      simp only [handle, Option.bind_eq_bind, Option.bind_eq_some_iff] at done
      obtain ⟨message, composed, done⟩ := done
      exact effect_of_sendMessage (.text composed) (of_decide_eq_true possible) done
  | addMessageImage share now asset fullSizeImageURL documentID =>
      simp only [handle] at done
      split at done
      · next unnamed =>
        cases done
        refine .kept ⟨rfl, fun _ => rfl, False.elim, le_rfl, id⟩ rfl rfl rfl rfl ?_
        change ChatEvent.sentID _ = none
        rw [ChatEvent.sentID, unnamed]
        rfl
      · next fileName named =>
        simp only [Option.bind_eq_bind, Option.bind_eq_some_iff] at done
        obtain ⟨message, composed, done⟩ := done
        exact effect_of_sendMessage (.picture named composed) (of_decide_eq_true possible) done
  | addDocumentReply documentID error =>
      simp only [handle] at done
      split at done
      · next ofText =>
        cases done
        exact effect_of_finish documentID true trivial fun _ => ofText
      · cases done
        exact .kept ⟨rfl, fun _ => rfl, False.elim, le_rfl, fun plain =>
          textsPlain_setStage (by decide) plain _⟩ rfl rfl rfl (letters_setStage _ _ _) rfl
      · cases done
        exact effect_of_finish documentID false (by trivial) (Bool.false_ne_true.elim ·)
  | fetchImageReply documentID hasData =>
      cases hasData with
      | true =>
          cases done
          exact .kept ⟨rfl, fun _ => rfl, False.elim, le_rfl, fun plain =>
            textsPlain_setStage (by decide) plain _⟩ rfl rfl rfl (letters_setStage _ _ _) rfl
      | false =>
          cases done
          exact effect_of_finish documentID false (by trivial) (Bool.false_ne_true.elim ·)
  | putImageReply documentID succeeded =>
      exact effect_of_putImageReply (of_decide_eq_true possible) done

/-- A snapshot that is listened to, in full. -/
theorem step_received {share : AccountService} {batch : List Message}
    (started : system.controller.didStart = true) (signedIn : share.getAccountId.isSome)
    (taken : step fm system (.listenerReply share (some batch) none) = some next) :
    ∃ new sectionViewModels, received system.held batch = some new ∧
      appendRows fm (new.map (builtEntry share)) system.sections = some sectionViewModels ∧
      next = { system with
        controller := { system.controller with
          messages := system.held.map (· ++ new)
          chatViewModel := { system.controller.chatViewModel with
            sectionViewModels
            haveAddMessage := !new.isEmpty } } } := by
  obtain ⟨-, done⟩ := step_eq_some taken
  simp only [handle, Option.bind_eq_bind, Option.bind_eq_some_iff] at done
  obtain ⟨controller, completed, done⟩ := done
  cases done
  rcases listenerCompletion_eq_some completed with
    ⟨first, -⟩ | ⟨-, failed | nothing | signedOut, -⟩ |
      ⟨-, -, -, _, new, sections, whole, gets, added, rfl⟩
  · rw [first] at started
    cases started
  · cases failed
  · cases nothing
  · rw [signedOut] at signedIn
    cases signedIn
  · cases whole
    exact ⟨new, sections, gets, added, rfl⟩

/-- A snapshot of a listener traps only where the listener does. -/
theorem step_listenerReply_isSome_iff {share : AccountService} {batch : List Message} :
    (step fm system (.listenerReply share (some batch) none)).isSome ↔
      0 < system.listeners ∧ (system.controller.didStart = true → share.getAccountId.isSome →
        (received system.held batch).isSome) := by
  rw [← listenerCompletion_isSome_iff]
  unfold step enabled handle
  by_cases listening : 0 < system.listeners
  · simp only [listening, decide_true, if_true, true_and]
    cases ChatController.listenerCompletion fm share (some batch) none system.controller <;> rfl
  · simp [listening]

/-- What a step leaves as it is. -/
theorem frame_of_step (taken : step fm system event = some next) : Frame event system next := by
  cases effect_of_step taken <;> assumption

end ChatSystem

end MovieFun
