import MovieFun.Helper.Gregorian
import MovieFun.View.Chat.ChatEffect
import MovieFun.View.PhotoGallery.PhotoGalleryController

/-!
# When a tapped picture opens in the gallery

The three ways a picture comes into the chat treat the list of assets
differently: a build lists every named picture under the id of the session, the
listener lists nothing, and the send of a picture lists it under the id of its
message once it is stored. The list agrees with the pictures shown exactly when
every step meets `Listed` (`galleryComplete_iff_listed`).
-/

namespace MovieFun

open ChatSystem

namespace Message

/-- The message names an image file. -/
def NamesImage (message : Message) : Prop :=
  ∃ imageName ∈ message.imageName, ¬ (Utils.trim imageName).isEmpty

/-- The message is a picture and names it. -/
def IsPicture (message : Message) : Prop :=
  message.isMessageImage = some true ∧ message.NamesImage

/-- The key of the picture of a message. -/
def asset (message : Message) : Option ChatAsset :=
  ChatRowViewModel.tapButtonMessageImageView
    { currentMessage := some message, subclass := .message .left }

end Message

namespace ChatEntry

/-- What a tap on the picture of the entry's row hands on. -/
def tapped (entry : ChatEntry) : Option ChatAsset :=
  (entry.row none).tapButtonMessageImageView

/-- The row was fetched or delivered, or its send has succeeded. -/
def Arrived (entry : ChatEntry) : Prop :=
  match entry.bubble with
  | .left => True
  | .right addMessagesSuccess _ _ => addMessagesSuccess = true

end ChatEntry

/-- A tap on any picture opens the gallery on it, and the gallery has no picture
that the chat does not show. -/
structure GalleryComplete (system : ChatSystem) : Prop where
  opens : ∀ entry ∈ system.shown, entry.Arrived → entry.message.IsPicture →
    ∃ asset, entry.tapped = some asset ∧ GalleryOpensOn system.assets asset
  displayed : ∀ asset ∈ system.assets, ∃ entry ∈ system.shown,
    entry.message.IsPicture ∧ entry.message.asset = some asset

/-- A message of a fetch that the build shows. -/
def Buildable (fm : DateFormatter) (messages : List Message) (message : Message) : Prop :=
  message ∈ messages ∧ (ChatController.dayKey fm message).isSome

/-- The pictures that the event shows are or get listed, and what it lists is
shown. A fetch has only pictures of the session, and no other message names an
image; a delivered picture is listed already; a stored picture is still shown. -/
def Listed (fm : DateFormatter) (system : ChatSystem) : ChatEvent → Prop
  | .fetchReply share (some messages) none =>
      (∀ message, Buildable fm messages message → message.IsPicture →
        message.accountId = share.getAccountId) ∧
      ∀ message, Buildable fm messages message → message.NamesImage →
        ∃ picture, Buildable fm messages picture ∧ picture.IsPicture ∧
          picture.accountId = share.getAccountId ∧ picture.imageName = message.imageName
  | .listenerReply share (some batch) none =>
      system.controller.didStart = true → share.getAccountId.isSome →
        ∀ message, Fresh system.held batch message → message.IsPicture →
          ∀ asset ∈ message.asset, asset ∈ system.assets
  | .putImageReply documentID true =>
      ∀ send, system.send? documentID = some send → send.message.NamesImage →
        ∃ entry ∈ system.shown, entry.message.IsPicture ∧ entry.message.asset = send.message.asset
  | _ => True

/-- The rows of sends have the messages of the sends. -/
structure Linked (system : ChatSystem) : Prop where
  plain : system.TextsPlain
  distinct : (system.letters.map Prod.fst).Nodup
  rows : ∀ entry ∈ system.shown, ∀ documentID ∈ entry.bubble.sendID,
    (documentID, entry.message) ∈ system.letters

variable {fm : DateFormatter} {system next : ChatSystem} {event : ChatEvent}

namespace ChatEntry

@[simp] theorem message_setSuccess (documentID : String) (success : Bool) (entry : ChatEntry) :
    (entry.setSuccess documentID success).message = entry.message := rfl

theorem arrived_builtEntry (share : AccountService) (message : Message) :
    (builtEntry share message).Arrived := by
  by_cases own : share.getAccountId = message.accountId
  · simp only [Arrived, builtEntry, if_pos own]
  · simp only [Arrived, builtEntry, if_neg own]

theorem sendID_builtEntry (share : AccountService) (message : Message) :
    (builtEntry share message).bubble.sendID = none := by
  by_cases own : share.getAccountId = message.accountId
  · simp only [builtEntry, if_pos own, ChatBubble.sendID]
  · simp only [builtEntry, if_neg own, ChatBubble.sendID]

/-- Success reaches the row of its send only, and failure makes no row arrive. -/
theorem arrived_of_setSuccess {documentID : String} {success : Bool} {entry : ChatEntry}
    (arrived : (entry.setSuccess documentID success).Arrived) :
    entry.Arrived ∨ (success = true ∧ entry.bubble.sendID = some documentID) := by
  obtain ⟨message, bubble⟩ := entry
  cases bubble with
  | left => exact .inl trivial
  | right addMessagesSuccess phAsset sendID =>
      by_cases own : sendID = some documentID
      · refine .inr ⟨?_, own⟩
        simpa [setSuccess, Arrived, ChatBubble.setSuccess, own] using arrived
      · apply Or.inl
        simpa [setSuccess, Arrived, ChatBubble.setSuccess, own] using arrived

end ChatEntry

/-- The send that the list of letters gives for a document. -/
theorem Linked.message_eq (linked : Linked system) {documentID : String} {send : ChatSend}
    (found : system.send? documentID = some send) {entry : ChatEntry}
    (shown : entry ∈ system.shown) (own : entry.bubble.sendID = some documentID) :
    entry.message = send.message := by
  have isIt : send.documentID = documentID := by simpa using List.find?_some found
  have ofSend : (documentID, send.message) ∈ system.letters :=
    List.mem_map.mpr ⟨send, List.mem_of_find?_eq_some found, by rw [isIt]⟩
  have ofRow := linked.rows entry shown documentID own
  have same := List.inj_on_of_nodup_map linked.distinct ofRow ofSend rfl
  exact congrArg Prod.snd same

/-- Rows stay linked while sends keep their messages and no row gets a send. -/
theorem Linked.of_same (linked : Linked system) (plain : next.TextsPlain)
    (letters : next.letters = system.letters)
    (rows : ∀ entry ∈ next.shown, ∀ documentID ∈ entry.bubble.sendID,
      ∃ older ∈ system.shown, older.message = entry.message ∧
        older.bubble.sendID = some documentID) : Linked next where
  plain := plain
  distinct := by
    rw [letters]
    exact linked.distinct
  rows entry shown documentID own := by
    obtain ⟨older, wasShown, same, wasOwn⟩ := rows entry shown documentID own
    rw [letters, ← same]
    exact linked.rows older wasShown documentID wasOwn

/-- Rows and messages on their way stay linked when a row is told. -/
theorem Linked.of_setSuccess (linked : Linked system) (plain : next.TextsPlain)
    (letters : next.letters = system.letters) {documentID : String} {success : Bool}
    (sections : next.sections =
      system.sections.map (ChatSectionViewModel.setSuccess documentID success)) :
    Linked next := by
  apply linked.of_same plain letters
  intro entry shown otherID own
  rw [ChatSystem.shown, sections, timeline_setSuccess] at shown
  obtain ⟨older, wasShown, rfl⟩ := List.mem_map.mp shown
  have same := ChatBubble.sendID_setSuccess documentID success older.bubble
  exact ⟨older, wasShown, rfl, same.symm.trans own⟩

/-- Each step keeps the rows of sends linked. -/
theorem linked_of_step (linked : Linked system) (taken : step fm system event = some next) :
    Linked next := by
  have plain := (frame_of_step taken).plain linked.plain
  cases effect_of_step taken with
  | kept _ sections _ _ letters =>
      apply linked.of_same plain letters
      intro entry shown documentID own
      rw [ChatSystem.shown, sections] at shown
      exact ⟨entry, shown, rfl, own⟩
  | settled _ _ _ sections _ _ letters => exact linked.of_setSuccess plain letters sections
  | stored _ _ _ _ sections _ _ letters => exact linked.of_setSuccess plain letters sections
  | forgotten _ sections _ _ letters =>
      apply linked.of_same plain letters
      intro entry shown documentID own
      rw [ChatSystem.shown, sections] at shown
      exact ⟨entry, shown, rfl, own⟩
  | rebuilt _ _ sections _ _ letters =>
      apply linked.of_same plain letters
      intro entry shown documentID own
      rw [ChatSystem.shown, sections, timeline_builtSections] at shown
      obtain ⟨message, -, rfl⟩ := List.mem_map.mp shown
      rw [ChatEntry.sendID_builtEntry] at own
      cases own
  | received _ _ _ _ appended _ _ letters =>
      obtain ⟨-, grown⟩ := timeline_appendRows appended
      apply linked.of_same plain letters
      intro entry shown documentID own
      rw [ChatSystem.shown, grown] at shown
      rcases List.mem_append.mp shown with wasShown | isNew
      · exact ⟨entry, wasShown, rfl, own⟩
      · obtain ⟨message, -, rfl⟩ := List.mem_map.mp isNew
        rw [ChatEntry.sendID_builtEntry] at own
        cases own
  | own _ composes _ added _ _ letters =>
      obtain ⟨-, grown⟩ := timeline_addRowViewModel added
      apply linked.of_same plain letters
      intro entry shown documentID own
      rw [ChatSystem.shown, grown] at shown
      rcases List.mem_append.mp shown with wasShown | isNew
      · exact ⟨entry, wasShown, rfl, own⟩
      · rw [List.mem_singleton.mp isNew] at own
        cases own
  | @sent event share now send phAsset dictionary _ composes fresh _ added _ _ letters =>
      obtain ⟨-, grown⟩ := timeline_addRowViewModel added
      constructor
      · exact plain
      · rw [letters, List.map_append, List.nodup_append]
        refine ⟨linked.distinct, List.nodup_singleton _, ?_⟩
        rintro documentID older _ isSent rfl
        rw [List.map_singleton, List.mem_singleton] at isSent
        obtain ⟨letter, isLetter, rfl⟩ := List.mem_map.mp older
        obtain ⟨earlier, wasSent, rfl⟩ := List.mem_map.mp isLetter
        have other := List.find?_eq_none.mp fresh earlier wasSent
        exact other (decide_eq_true isSent)
      · intro entry shown documentID own
        rw [ChatSystem.shown, grown] at shown
        rw [letters]
        rcases List.mem_append.mp shown with wasShown | isNew
        · exact List.mem_append_left _ (linked.rows entry wasShown documentID own)
        · rw [List.mem_singleton.mp isNew] at own ⊢
          cases own
          exact List.mem_append_right _ List.mem_cons_self

/-- The keys of the pictures that the chat shows. -/
theorem galleryComplete_iff : GalleryComplete system ↔
    (∀ entry ∈ system.shown, entry.Arrived → entry.message.IsPicture →
      ∃ asset ∈ system.assets, entry.message.asset = some asset) ∧
    ∀ asset ∈ system.assets, ∃ entry ∈ system.shown,
      entry.message.IsPicture ∧ entry.message.asset = some asset := by
  constructor
  · rintro ⟨opens, displayed⟩
    refine ⟨fun entry shown arrived picture => ?_, displayed⟩
    obtain ⟨asset, tapped, opensOn⟩ := opens entry shown arrived picture
    exact ⟨asset, galleryOpensOn_iff.mp opensOn, tapped⟩
  · rintro ⟨listed, displayed⟩
    refine ⟨fun entry shown arrived picture => ?_, displayed⟩
    obtain ⟨asset, member, tapped⟩ := listed entry shown arrived picture
    exact ⟨asset, tapped, galleryOpensOn_iff.mpr member⟩

/-- The gallery is as complete as one with the same sections and assets. -/
theorem GalleryComplete.of_same (complete : GalleryComplete system)
    (sections : next.sections = system.sections) (assets : next.assets = system.assets) :
    GalleryComplete next := by
  rw [galleryComplete_iff, ChatSystem.shown, sections, assets]
  exact galleryComplete_iff.mp complete

/-- The same rows, and arrivals only of rows without a picture. -/
theorem GalleryComplete.of_setSuccess (complete : GalleryComplete system)
    {documentID : String} {success : Bool}
    (sections : next.sections =
      system.sections.map (ChatSectionViewModel.setSuccess documentID success))
    (assets : next.assets = system.assets)
    (noPicture : success = true → ∀ entry ∈ system.shown,
      entry.bubble.sendID = some documentID → ¬ entry.message.IsPicture) :
    GalleryComplete next := by
  have shown : next.shown = system.shown.map (ChatEntry.setSuccess documentID success) := by
    rw [ChatSystem.shown, sections, timeline_setSuccess]
  obtain ⟨listed, displayed⟩ := galleryComplete_iff.mp complete
  rw [galleryComplete_iff, shown, assets]
  constructor
  · intro entry member arrived picture
    obtain ⟨older, wasShown, rfl⟩ := List.mem_map.mp member
    rcases ChatEntry.arrived_of_setSuccess arrived with arrived | ⟨succeeded, own⟩
    · exact listed older wasShown arrived picture
    · exact absurd picture (noPicture succeeded older wasShown own)
  · intro asset member
    obtain ⟨entry, wasShown, picture, isAsset⟩ := displayed asset member
    exact ⟨_, List.mem_map_of_mem wasShown, picture, isAsset⟩

/-- Further rows, of which only arrived pictures matter. -/
theorem galleryComplete_append_iff (complete : GalleryComplete system)
    {entries : List ChatEntry} (shown : next.shown = system.shown ++ entries)
    (assets : next.assets = system.assets) :
    GalleryComplete next ↔ ∀ entry ∈ entries, entry.Arrived → entry.message.IsPicture →
      ∃ asset ∈ system.assets, entry.message.asset = some asset := by
  obtain ⟨listed, displayed⟩ := galleryComplete_iff.mp complete
  rw [galleryComplete_iff, shown, assets, List.forall_mem_append]
  refine ⟨fun both => both.1.2, fun added => ⟨⟨listed, added⟩, fun asset member => ?_⟩⟩
  obtain ⟨entry, wasShown, picture, isAsset⟩ := displayed asset member
  exact ⟨entry, List.mem_append_left _ wasShown, picture, isAsset⟩

/-- A message has an asset exactly if it names a picture and an account. -/
theorem Message.asset_eq_some_iff {message : Message} {key : ChatAsset} :
    message.asset = some key ↔
      message.imageName = some key.imageName ∧ message.accountId = some key.accountId := by
  simp only [Message.asset, ChatRowViewModel.tapButtonMessageImageView, Option.bind_eq_bind,
    Option.bind_some, Option.bind_eq_some_iff, Option.pure_def, Option.some.injEq]
  constructor
  · rintro ⟨imageName, named, accountId, own, rfl⟩
    exact ⟨named, own⟩
  · rintro ⟨named, own⟩
    exact ⟨_, named, _, own, rfl⟩

/-- What a build lists for a message. -/
theorem mem_listedAssets {share : AccountService} {message : Message} {asset : ChatAsset} :
    asset ∈ listedAssets share message ↔ message.NamesImage ∧
      message.imageName = some asset.imageName ∧ share.getAccountId = some asset.accountId := by
  unfold listedAssets ChatController.builtAssets Message.NamesImage
  cases share.getAccountId with
  | none => simp
  | some accountId =>
      cases message.imageName with
      | none => simp
      | some imageName =>
          simp only [Option.elim_some, Option.mem_def, Option.some.injEq, exists_eq_left']
          split
          · simp_all
          · next named =>
            simp only [List.mem_singleton, named, ChatAsset.ext_iff]
            simp [and_comm, eq_comm]

/-- A build lists what it shows exactly when the pictures are of the session and
the other messages name none. -/
theorem galleryComplete_rebuilt_iff {share : AccountService} {messages : List Message}
    (stamped : ∀ message ∈ shownMessages fm messages,
      message.Stamped ∧ share.getAccountId.isSome)
    (sections : next.sections = builtSections fm share messages)
    (assets : next.assets = (shownMessages fm messages).flatMap (listedAssets share)) :
    GalleryComplete next ↔ Listed fm system (.fetchReply share (some messages) none) := by
  have shown : next.shown = builtEntries fm share messages := by
    rw [ChatSystem.shown, sections, timeline_builtSections]
  have built : ∀ message, message ∈ shownMessages fm messages ↔ Buildable fm messages message :=
    fun message => mem_shownMessages
  rw [galleryComplete_iff, shown, builtEntries, List.forall_mem_map, assets]
  simp only [List.mem_flatMap, List.mem_map, exists_exists_and_eq_and, mem_listedAssets]
  constructor
  · rintro ⟨listed, displayed⟩
    constructor
    · intro message isBuilt picture
      obtain ⟨asset, ⟨other, -, -, -, session⟩, isAsset⟩ := listed message
        ((built message).mpr isBuilt) (ChatEntry.arrived_builtEntry share message) picture
      rw [session]
      exact (Message.asset_eq_some_iff.mp isAsset).2
    · intro message isBuilt names
      obtain ⟨-, signedIn⟩ := stamped message ((built message).mpr isBuilt)
      obtain ⟨accountId, session⟩ := Option.isSome_iff_exists.mp signedIn
      obtain ⟨imageName, named, notBlank⟩ := names
      obtain ⟨picture, isShown, isPicture, isAsset⟩ := displayed ⟨accountId, imageName⟩
        ⟨message, (built message).mpr isBuilt, ⟨imageName, named, notBlank⟩, named, session⟩
      obtain ⟨sameName, own⟩ := Message.asset_eq_some_iff.mp isAsset
      refine ⟨picture, (built picture).mp isShown, isPicture, ?_, ?_⟩
      · rw [session]
        exact own
      · rw [Option.mem_def.mp named]
        exact sameName
  · rintro ⟨ownPictures, noOthers⟩
    constructor
    · intro message isShown _ picture
      obtain ⟨isStamped, -⟩ := stamped message isShown
      obtain ⟨accountId, account⟩ := Option.isSome_iff_exists.mp isStamped.accounted
      obtain ⟨imageName, named, notBlank⟩ := picture.2
      have session := ownPictures message ((built message).mp isShown) picture
      rw [account] at session
      exact ⟨⟨accountId, imageName⟩, ⟨message, isShown, ⟨imageName, named, notBlank⟩, named,
        session.symm⟩, Message.asset_eq_some_iff.mpr ⟨named, account⟩⟩
    · rintro asset ⟨message, isShown, names, named, session⟩
      obtain ⟨picture, isBuilt, isPicture, own, sameName⟩ :=
        noOthers message ((built message).mp isShown) names
      refine ⟨picture, (built picture).mpr isBuilt, isPicture, ?_⟩
      exact Message.asset_eq_some_iff.mpr ⟨sameName.trans named, own.trans session⟩

/-- What a stored picture adds to the list. -/
theorem addAsset_eq_some {controller : ChatController} {message : Message}
    {assets : List ChatAsset} (added : controller.addAsset message =
      some { controller with chatViewModel := { controller.chatViewModel with assets } }) :
    (¬ message.NamesImage ∧ assets = controller.chatViewModel.assets) ∨
      (message.NamesImage ∧ ∃ asset, message.asset = some asset ∧
        assets = controller.chatViewModel.assets ++ [asset]) := by
  unfold ChatController.addAsset at added
  split at added
  · next unnamed =>
    refine .inl ⟨?_, ?_⟩
    · rintro ⟨imageName, named, -⟩
      rw [unnamed] at named
      cases named
    · exact (congrArg (fun controller => controller.chatViewModel.assets)
        (Option.some.inj added)).symm
  · next imageName named =>
    split at added
    · next blank =>
      refine .inl ⟨?_, ?_⟩
      · rintro ⟨other, isIt, notBlank⟩
        rw [named] at isIt
        cases isIt
        exact notBlank blank
      · exact (congrArg (fun controller => controller.chatViewModel.assets)
          (Option.some.inj added)).symm
    · next notBlank =>
      simp only [Option.bind_eq_bind, Option.bind_eq_some_iff] at added
      obtain ⟨accountId, account, added⟩ := added
      refine .inr ⟨⟨imageName, named, notBlank⟩, ⟨accountId, imageName⟩,
        Message.asset_eq_some_iff.mpr ⟨named, account⟩, ?_⟩
      exact (congrArg (fun controller => controller.chatViewModel.assets)
        (Option.some.inj added)).symm

/-- A stored picture is listed, and its row arrives; what it lists is shown only if
its row still is. -/
theorem galleryComplete_stored_iff (linked : Linked system) (complete : GalleryComplete system)
    {documentID : String} {send : ChatSend} (found : system.send? documentID = some send)
    (sections : next.sections =
      system.sections.map (ChatSectionViewModel.setSuccess documentID true))
    (added : system.controller.addAsset send.message = some { system.controller with
      chatViewModel := { system.controller.chatViewModel with assets := next.assets } }) :
    GalleryComplete next ↔ Listed fm system (.putImageReply documentID true) := by
  have shown : next.shown = system.shown.map (ChatEntry.setSuccess documentID true) := by
    rw [ChatSystem.shown, sections, timeline_setSuccess]
  have meets : Listed fm system (.putImageReply documentID true) ↔
      (send.message.NamesImage → ∃ entry ∈ system.shown,
        entry.message.IsPicture ∧ entry.message.asset = send.message.asset) := by
    refine ⟨fun listed => listed send found, fun listed other isIt => ?_⟩
    rw [found] at isIt
    cases isIt
    exact listed
  rw [meets]
  rcases addAsset_eq_some added with ⟨unnamed, assets⟩ | ⟨names, asset, isAsset, assets⟩
  · refine iff_of_true ?_ fun names => absurd names unnamed
    refine complete.of_setSuccess sections assets fun _ entry wasShown own picture => unnamed ?_
    rw [← linked.message_eq found wasShown own]
    exact picture.2
  · obtain ⟨listed, displayed⟩ := galleryComplete_iff.mp complete
    rw [galleryComplete_iff, shown, assets, List.forall_mem_map]
    simp only [List.mem_map, exists_exists_and_eq_and, ChatEntry.message_setSuccess,
      List.mem_append, List.mem_singleton]
    constructor
    · rintro ⟨-, displayed⟩ -
      rw [isAsset]
      exact displayed asset (.inr rfl)
    · intro stillShown
      constructor
      · intro entry wasShown arrived picture
        rcases ChatEntry.arrived_of_setSuccess arrived with arrived | ⟨-, own⟩
        · obtain ⟨older, member, isOlder⟩ := listed entry wasShown arrived picture
          exact ⟨older, .inl member, isOlder⟩
        · refine ⟨asset, .inr rfl, ?_⟩
          rw [linked.message_eq found wasShown own]
          exact isAsset
      · rintro other (wasListed | rfl)
        · exact displayed other wasListed
        · rw [← isAsset]
          exact stillShown names

/-- An event that leaves the view as it is lists and shows nothing. -/
theorem Skips.listed (skips : Skips system event) : Listed fm system event := by
  cases event with
  | fetchReply share messages error =>
      cases messages with
      | none => trivial
      | some messages =>
          cases error with
          | some error => trivial
          | none => cases skips
  | listenerReply share changes error =>
      cases changes with
      | none => trivial
      | some batch =>
          cases error with
          | some error => trivial
          | none =>
              intro started signedIn
              exact absurd signedIn (skips.not_listened started)
  | putImageReply documentID succeeded => exact skips.elim
  | _ => trivial

/-- An event that settles a message lists what it should. -/
theorem listed_of_settles (settles : event.Settles) : Listed fm system event := by
  cases event with
  | putImageReply documentID succeeded =>
      cases settles
      trivial
  | addDocumentReply documentID error => trivial
  | fetchImageReply documentID hasData => trivial
  | _ => exact settles.elim

/-- An event that composes a message lists what it should. -/
theorem listed_of_composes {share : AccountService} {now : Date} {send : ChatSend}
    {phAsset : Option PHAsset} (composes : Composes fm share now event send phAsset) :
    Listed fm system event := by
  cases composes <;> trivial

/-- The row of a message that is not sent yet asks nothing of the list. -/
theorem galleryComplete_ownEntry (complete : GalleryComplete system) {send : ChatSend}
    {phAsset : Option PHAsset} {sendID : Option String}
    (added : ChatController.addRowViewModel fm ((ownEntry send phAsset sendID).row none)
      system.sections = some next.sections)
    (assets : next.assets = system.assets) : GalleryComplete next := by
  obtain ⟨-, grown⟩ := timeline_addRowViewModel added
  apply (galleryComplete_append_iff complete grown assets).mpr
  intro entry isNew arrived
  rw [List.mem_singleton.mp isNew] at arrived
  cases arrived

/-- One step from a chat whose gallery is complete. -/
theorem galleryComplete_step_iff (linked : Linked system) (complete : GalleryComplete system)
    (taken : step fm system event = some next) :
    GalleryComplete next ↔ Listed fm system event := by
  cases effect_of_step taken with
  | kept _ sections assets _ _ skips =>
      exact iff_of_true (complete.of_same sections assets) skips.listed
  | settled _ documentID success sections assets _ _ settles ofText =>
      refine iff_of_true ?_ (listed_of_settles settles)
      apply complete.of_setSuccess sections assets
      intro succeeded entry wasShown own picture
      obtain ⟨send, found, isText⟩ := Option.map_eq_some_iff.mp (ofText succeeded)
      have plain := linked.plain send (List.mem_of_find?_eq_some found) isText
      rw [linked.message_eq found wasShown own] at picture
      rw [picture.1] at plain
      cases plain
  | stored _ send found _ sections added =>
      exact galleryComplete_stored_iff linked complete found sections added
  | forgotten _ sections assets =>
      exact iff_of_true (complete.of_same sections assets) trivial
  | rebuilt _ stamped sections assets =>
      exact galleryComplete_rebuilt_iff stamped sections assets
  | @received share batch new _ started signedIn gets appended assets =>
      obtain ⟨-, grown⟩ := timeline_appendRows appended
      rw [galleryComplete_append_iff complete grown assets, List.forall_mem_map]
      constructor
      · intro listed _ _ message fresh picture asset isAsset
        obtain ⟨other, member, isOther⟩ := listed message ((mem_received_iff gets).mpr fresh)
          (ChatEntry.arrived_builtEntry share message) picture
        have same := isOther.symm.trans isAsset
        exact Option.some.inj same ▸ member
      · intro listed message isNew _ picture
        have fresh := (mem_received_iff gets).mp isNew
        have isStamped := stamped_of_received gets message fresh.1
        obtain ⟨imageName, named, -⟩ := picture.2
        obtain ⟨accountId, account⟩ := Option.isSome_iff_exists.mp isStamped.accounted
        have isAsset : message.asset = some ⟨accountId, imageName⟩ :=
          Message.asset_eq_some_iff.mpr ⟨named, account⟩
        exact ⟨_, listed started signedIn message fresh picture _ isAsset, isAsset⟩
  | own _ composes _ added assets =>
      exact iff_of_true (galleryComplete_ownEntry complete added assets)
        (listed_of_composes composes)
  | sent _ composes _ _ added assets =>
      exact iff_of_true (galleryComplete_ownEntry complete added assets)
        (listed_of_composes composes)

/-- **When the gallery opens on the picture that was tapped.** In every run the list
of assets agrees with the pictures shown in all states exactly when each step lists
what it shows. -/
theorem galleryComplete_iff_listed (movieId : Option String) (events : List ChatEvent) :
    EventRun.EachState (step fm) GalleryComplete (initial movieId) events ↔
      EventRun.EachStep (step fm) (Listed fm) (initial movieId) events := by
  refine EventRun.eachState_iff_eachStep (fun _ system => Linked system) ?_ ?_ ?_ ?_
  · exact ⟨fun _ member => absurd member List.not_mem_nil,
      fun _ member => absurd member List.not_mem_nil⟩
  · exact ⟨fun _ member => absurd member List.not_mem_nil, List.nodup_nil,
      fun _ member => absurd member List.not_mem_nil⟩
  · exact fun before event state next _ linked taken => linked_of_step linked taken
  · exact fun before event state next _ linked complete taken =>
      galleryComplete_step_iff linked complete taken

/-- A picture of "binh". -/
def pictureOfBinh : Message where
  messageId := some "d1"
  accountId := some "binh"
  sendDate := some ⟨1566396309000000000⟩
  isMessageImage := some true
  imageName := some "cat.png-1566396309.0"

/-- A fetch of "an" with that picture. -/
def pictureOfOther : List ChatEvent :=
  [.start, .fetchReply ⟨none, some "an"⟩ (some [pictureOfBinh]) none]

/-- Its tap hands on an asset that the list has not. -/
theorem not_galleryComplete_pictureOfOther : ¬ EventRun.EachState
    (step (Gregorian.formatter ⟨0⟩)) GalleryComplete (initial (some "1")) pictureOfOther := by
  intro always
  have whole : (run (Gregorian.formatter ⟨0⟩) (some "1") pictureOfOther).map
      (fun system => (system.assets, system.shown.map fun entry => (entry.message, entry.bubble))) =
    some ([⟨"an", "cat.png-1566396309.0"⟩], [(pictureOfBinh, .left)]) := by decide +kernel
  obtain ⟨system, reached, same⟩ := Option.map_eq_some_iff.mp whole
  obtain ⟨isAssets, rows⟩ := Prod.mk.inj same
  obtain ⟨⟨message, bubble⟩, isShown, isRow⟩ := List.map_eq_singleton_iff.mp rows
  cases isRow
  have picture : pictureOfBinh.IsPicture := ⟨rfl, _, rfl, by decide⟩
  obtain ⟨asset, tapped, opensOn⟩ := (always _ List.prefix_rfl system reached).opens
    ⟨pictureOfBinh, .left⟩ (isShown ▸ List.mem_cons_self) trivial picture
  rw [galleryOpensOn_iff, isAssets, List.mem_singleton] at opensOn
  rw [opensOn] at tapped
  exact absurd tapped (by decide)

end MovieFun
