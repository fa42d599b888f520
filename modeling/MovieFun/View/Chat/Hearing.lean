import MovieFun.View.Chat.RowsAgree
import MovieFun.View.Chat.Uniqueness

/-!
# What a chat has heard of

A chat is there to show the messages it was told about. `Hearing` keeps the
documents it was told about and nothing else: those of the last fetch, those of the
snapshots after the first that came while somebody was signed in, and those sent
from this device. The screen shows exactly these, up to messages that the check
takes for the same (`hears_of_run`), and once each when a fetch succeeded.
-/

namespace MovieFun

open ChatSystem

/-- Whether the listener is past its first snapshot, and the documents heard of. -/
structure Hearing where
  listening : Bool := false
  heard : List String := []

/-- What an event tells the chat. -/
def Hearing.hear (hearing : Hearing) : ChatEvent → Hearing
  | .start => { hearing with listening := false }
  | .fetchReply _ (some messages) none =>
      { hearing with heard := messages.filterMap Message.messageId }
  | .listenerReply share (some messageChanges) none =>
      if hearing.listening ∧ share.getAccountId.isSome then
        { hearing with heard := hearing.heard ++ messageChanges.filterMap Message.messageId }
      else { hearing with listening := true }
  | .listenerReply _ _ _ => { hearing with listening := true }
  | event => { hearing with heard := hearing.heard ++ event.sentID.toList }

/-- What a chat has heard of after a list of events. -/
def hearing (events : List ChatEvent) : Hearing := events.foldl Hearing.hear {}

@[simp] theorem hearing_concat (events : List ChatEvent) (event : ChatEvent) :
    hearing (events ++ [event]) = (hearing events).hear event := by
  rw [hearing, List.foldl_concat]
  rfl

/-- The message as the store keeps it: what is missing as empty, and no id. -/
def Message.asWritten (message : Message) : Message where
  isMessageImage := some (message.isMessageImage.getD false)
  imageName := some (message.imageName.getD "")
  accountId := message.accountId
  accountName := some (message.accountName.getD "")
  sendDate := message.sendDate
  content := some (message.content.getD "")

variable {fm : DateFormatter} {content : String → Dictionary} {before : List ChatEvent}
  {event : ChatEvent} {system next : ChatSystem}

/-- Messages that are written the same have the same stamp. -/
theorem Message.sameStamp_of_asWritten {first second : Message}
    (same : first.asWritten = second.asWritten) : SameStamp first second := by
  have account : first.asWritten.accountId = second.asWritten.accountId := by rw [same]
  have date : first.asWritten.sendDate = second.asWritten.sendDate := by rw [same]
  exact ⟨account, date⟩

/-- A message that was written with a date a text can have is decoded as it was. -/
theorem Message.asWritten_of_addChatMessage {now sendDate : Date} {message : Message}
    {dictionary : Dictionary}
    (written : ChatService.addChatMessage now message = some dictionary)
    (sent : message.sendDate = some sendDate)
    (keeps : Utils.getCurrentDate fm sendDate = some sendDate) (documentID : String) :
    (ChatService.getMessage fm documentID dictionary.stored).asWritten = message.asWritten := by
  obtain ⟨flag, picture⟩ :=
    @ChatService.getMessage_picture_of_addChatMessage fm _ _ _ written documentID
  obtain ⟨name, text⟩ := @ChatService.getMessage_texts_of_addChatMessage fm _ _ _ written documentID
  obtain ⟨account, date⟩ := sameStamp_of_addChatMessage sent keeps written documentID
  rw [asWritten, asWritten, flag, picture, name, text, ← account, ← date]
  rfl

/-! ## How an event changes what was heard of -/

/-- An event that is neither a fetch nor a snapshot that is listened to adds what it sends. -/
theorem Hearing.heard_of_isLocal (hearing : Hearing) (isLocal : event.IsLocal) :
    (hearing.hear event).heard = hearing.heard ++ event.sentID.toList := by
  cases event <;> first | rfl | exact isLocal.elim

/-- An event that leaves the view as it is tells nothing, but for a fetch that fails. -/
theorem Hearing.heard_of_skips {hearing : Hearing} (skips : Skips system event)
    (listening : system.controller.didStart = hearing.listening) :
    (hearing.hear event).heard = hearing.heard := by
  cases event with
  | listenerReply share changes error =>
      cases changes with
      | none => rfl
      | some batch =>
          cases error with
          | some error => rfl
          | none =>
              rw [hear]
              split
              · next both =>
                exact absurd both.2 (skips.not_listened (listening.trans both.1))
              · rfl
  | fetchReply share messages error =>
      obtain ⟨thrown, rfl⟩ := Option.isSome_iff_exists.mp skips
      cases messages <;> exact List.append_nil _
  | start => rfl
  | _ =>
      refine (hearing.heard_of_isLocal (by trivial)).trans ?_
      rw [skips.sentID]
      exact List.append_nil _

/-- What was heard of is what was heard of before or what the event brings. -/
theorem Hearing.mem_heard_of_hear {hearing : Hearing} {documentID : String}
    (member : documentID ∈ (hearing.hear event).heard) :
    documentID ∈ hearing.heard ∨ documentID ∈ event.documentIDs := by
  cases event with
  | start => exact .inl member
  | fetchReply share messages error =>
      cases messages <;> cases error <;> first
        | exact .inr member
        | exact List.mem_append.mp member
  | listenerReply share changes error =>
      cases changes with
      | none => exact .inl member
      | some batch =>
          cases error with
          | some error => exact .inl member
          | none =>
              rw [hear] at member
              split at member
              · exact List.mem_append.mp member
              · exact .inl member
  | _ => exact List.mem_append.mp member

/-- Only a fetch makes a chat forget what it has heard of. -/
theorem Hearing.heard_subset_hear (hearing : Hearing) (quiet : ¬ event.Fetches) :
    hearing.heard ⊆ (hearing.hear event).heard := by
  cases event with
  | start => exact List.Subset.refl _
  | fetchReply share messages error =>
      cases messages <;> cases error <;> first
        | exact absurd trivial quiet
        | exact List.subset_append_left _ _
  | listenerReply share changes error =>
      cases changes with
      | none => exact List.Subset.refl _
      | some batch =>
          cases error with
          | some error => exact List.Subset.refl _
          | none =>
              rw [hear]
              split
              · exact List.subset_append_left _ _
              · exact List.Subset.refl _
  | _ => exact List.subset_append_left _ _

/-- The flag of the listener tells whether it is past its first snapshot. -/
theorem Hearing.listening_of_step {hearing : Hearing}
    (listening : system.controller.didStart = hearing.listening)
    (taken : step fm system event = some next) :
    next.controller.didStart = (hearing.hear event).listening := by
  have frame := frame_of_step taken
  cases event with
  | start =>
      obtain ⟨-, done⟩ := step_eq_some taken
      cases done
      simp only [ChatController.start]
      split <;> rfl
  | listenerReply share changes error =>
      rw [frame.snapshot trivial]
      cases changes with
      | none => rfl
      | some batch =>
          cases error with
          | some error => rfl
          | none =>
              rw [hear]
              split
              · next both => exact both.1.symm
              · rfl
  | fetchReply share messages error =>
      rw [frame.didStart trivial, listening]
      cases messages <;> cases error <;> rfl
  | _ =>
      rw [frame.didStart trivial, listening]
      rfl

/-! ## What is shown against what was heard of -/

/-- Two documents that the check takes for the same. -/
def Alike (fm : DateFormatter) (content : String → Dictionary) (first second : String) : Prop :=
  SameStamp (ChatService.getMessage fm first (content first))
    (ChatService.getMessage fm second (content second))

/-- The documents shown were heard of, and what was heard of or is held is shown, at least by
one that the check takes for the same. -/
structure UpToDate (fm : DateFormatter) (content : String → Dictionary) (heard : List String)
    (system : ChatSystem) : Prop where
  sound : ∀ documentID ∈ system.documentIDs, documentID ∈ heard
  complete : ∀ documentID ∈ heard, ∃ shown ∈ system.documentIDs, Alike fm content shown documentID
  held : ∀ messages ∈ system.held, ∀ mess ∈ messages, ∃ shown ∈ system.documentIDs,
    SameStamp (ChatService.getMessage fm shown (content shown)) mess

/-- Each row has the message of the document it shows, as the store keeps it. -/
def RowsWritten (fm : DateFormatter) (content : String → Dictionary) (system : ChatSystem) : Prop :=
  ∀ entry ∈ system.shown, ∃ documentID, entry.documentID = some documentID ∧
    entry.message.asWritten =
      (ChatService.getMessage fm documentID (content documentID)).asWritten

/-- Documents that are told of and appended to the rows. -/
theorem UpToDate.append {heard told documentIDs : List String} {new : List Message}
    (upToDate : UpToDate fm content heard system)
    (grown : next.documentIDs = system.documentIDs ++ documentIDs)
    (nowHeld : next.held = system.held.map (· ++ new))
    (ofTold : ∀ documentID ∈ documentIDs, documentID ∈ told)
    (represented : ∀ documentID ∈ told, ∃ shown ∈ next.documentIDs,
      Alike fm content shown documentID)
    (stamped : ∀ mess ∈ new, ∃ shown ∈ documentIDs,
      SameStamp (ChatService.getMessage fm shown (content shown)) mess) :
    UpToDate fm content (heard ++ told) next where
  sound documentID member := by
    rw [grown] at member
    rcases List.mem_append.mp member with older | isNew
    · exact List.mem_append_left _ (upToDate.sound documentID older)
    · exact List.mem_append_right _ (ofTold documentID isNew)
  complete documentID member := by
    rcases List.mem_append.mp member with older | isTold
    · obtain ⟨shown, inside, alike⟩ := upToDate.complete documentID older
      exact ⟨shown, grown ▸ List.mem_append_left _ inside, alike⟩
    · exact represented documentID isTold
  held messages isHeld mess member := by
    rw [nowHeld] at isHeld
    obtain ⟨older, wasHeld, rfl⟩ := Option.map_eq_some_iff.mp isHeld
    rw [grown]
    rcases List.mem_append.mp member with inOlder | isNew
    · obtain ⟨shown, inside, same⟩ := upToDate.held older wasHeld mess inOlder
      exact ⟨shown, List.mem_append_left _ inside, same⟩
    · obtain ⟨shown, inside, same⟩ := stamped mess isNew
      exact ⟨shown, List.mem_append_right _ inside, same⟩

/-- What changes neither the documents shown nor the messages held. -/
theorem UpToDate.of_same {heard : List String} (upToDate : UpToDate fm content heard system)
    (same : next.documentIDs = system.documentIDs) (held : next.held = system.held) :
    UpToDate fm content heard next where
  sound := by
    rw [same]
    exact upToDate.sound
  complete := by
    rw [same]
    exact upToDate.complete
  held := by
    rw [same, held]
    exact upToDate.held

/-- After a fetch the rows have its documents, and so have the messages held. -/
theorem UpToDate.of_built {documentIDs : List String}
    (shown : next.documentIDs.Perm documentIDs)
    (held : next.held = some (decoded fm content documentIDs)) :
    UpToDate fm content documentIDs next where
  sound documentID member := shown.mem_iff.mp member
  complete documentID member := ⟨documentID, shown.mem_iff.mpr member, SameStamp.refl _⟩
  held messages isHeld mess member := by
    rw [held] at isHeld
    cases isHeld
    obtain ⟨documentID, inside, rfl⟩ := List.mem_map.mp member
    exact ⟨documentID, shown.mem_iff.mpr inside, SameStamp.refl _⟩

/-- Of a batch that is listened to, every message has a row afterwards, or one with its stamp
had one before. -/
theorem UpToDate.represented {heard documentIDs : List String} {new : List Message}
    (upToDate : UpToDate fm content heard system)
    (gets : received system.held (decoded fm content documentIDs) = some new)
    (grown : next.documentIDs = system.documentIDs ++ new.filterMap Message.messageId) :
    ∀ documentID ∈ documentIDs, ∃ shown ∈ next.documentIDs, Alike fm content shown documentID := by
  intro documentID member
  have inBatch : ChatService.getMessage fm documentID (content documentID) ∈
      decoded fm content documentIDs := List.mem_map.mpr ⟨documentID, member, rfl⟩
  have checked := (received_isSome_iff.mp (Option.isSome_of_eq_some gets)).2 _ inBatch
  obtain ⟨found, isFound⟩ := Option.isSome_iff_exists.mp checked
  rw [grown]
  cases found with
  | true =>
      cases held : system.held with
      | none =>
          rw [held] at isFound
          cases isFound
      | some messages =>
          rw [held] at isFound
          obtain ⟨-, mess, inside, same⟩ := (sameStamp_of_checkExistMessage isFound).1 rfl
          obtain ⟨shown, isShown, alike⟩ := upToDate.held messages held mess inside
          exact ⟨shown, List.mem_append_left _ isShown, alike.trans same⟩
  | false =>
      obtain ⟨first, isNew, same⟩ := exists_received_of_not_found gets inBatch isFound
      have ofBatch := ((mem_received_iff gets).mp isNew).1
      obtain ⟨shown, inside, rfl⟩ := List.mem_map.mp ofBatch
      refine ⟨shown, List.mem_append_right _ ?_, same⟩
      exact List.mem_filterMap.mpr ⟨_, isNew, rfl⟩

/-- Every step keeps the rows up to date with what was heard of. -/
theorem upToDate_of_step (laws : fm.DayLaws) (reprints : fm.Reprints) {hearing : Hearing}
    (genuine : Genuine fm content before event) (dated : event.HandsDated)
    (movie : system.movieId.isSome) (listening : system.controller.didStart = hearing.listening)
    (upToDate : UpToDate fm content hearing.heard system)
    (taken : step fm system event = some next) :
    UpToDate fm content (hearing.hear event).heard next := by
  cases effect_of_step taken with
  | kept _ sections _ held _ skips =>
      rw [Hearing.heard_of_skips skips listening]
      exact upToDate.of_same (documentIDs_congr sections) held
  | settled _ _ _ sections _ held _ settles =>
      rw [hearing.heard_of_isLocal settles.isLocal, settles.sentID, Option.toList_none,
        List.append_nil]
      exact upToDate.of_same (documentIDs_setSuccess sections) held
  | @stored documentID _ _ _ _ sections _ held =>
      have silent : (hearing.hear (.putImageReply documentID true)).heard = hearing.heard :=
        List.append_nil _
      rw [silent]
      exact upToDate.of_same (documentIDs_setSuccess sections) held
  | forgotten =>
      obtain ⟨fetched, isNone, -⟩ := dated
      cases isNone
  | @rebuilt share messages _ _ sections _ held =>
      obtain ⟨fetched, isFetched, allDated⟩ := dated
      cases isFetched
      obtain ⟨documentIDs, -, rfl⟩ := genuine
      change UpToDate fm content ((decoded fm content documentIDs).filterMap Message.messageId) next
      have perm := (shownMessages_perm laws allDated).filterMap Message.messageId
      rw [← documentIDs_built sections] at perm
      rw [filterMap_decoded] at perm ⊢
      exact UpToDate.of_built perm held
  | @received share batch new _ started signedIn gets appended _ held =>
      obtain ⟨documentIDs, rfl⟩ := genuine
      have told : (hearing.hear (.listenerReply share (some (decoded fm content documentIDs))
          none)).heard = hearing.heard ++ documentIDs := by
        rw [Hearing.hear, if_pos ⟨listening.symm.trans started, signedIn⟩, filterMap_decoded]
      have ofBatch : ∀ message ∈ new, message ∈ decoded fm content documentIDs :=
        fun message isNew => ((mem_received_iff gets).mp isNew).1
      have grown := documentIDs_received appended
      rw [told]
      refine upToDate.append grown held ?_ (upToDate.represented gets grown) ?_
      · intro documentID member
        obtain ⟨message, isNew, isIt⟩ := List.mem_filterMap.mp member
        obtain ⟨own, inside, rfl⟩ := List.mem_map.mp (ofBatch message isNew)
        cases Option.some.inj isIt
        exact inside
      · intro mess isNew
        obtain ⟨own, -, rfl⟩ := List.mem_map.mp (ofBatch mess isNew)
        exact ⟨own, List.mem_filterMap.mpr ⟨_, isNew, rfl⟩, SameStamp.refl _⟩
  | own _ _ noMovie =>
      rw [noMovie] at movie
      cases movie
  | @sent _ share now send phAsset dictionary _ composes _ written added _ held =>
      obtain ⟨-, stored, -⟩ := genuine.of_composes composes written
      have same := sameStamp_of_genuine reprints composes written stored
      have grown := documentIDs_sent composes added
      rw [hearing.heard_of_isLocal composes.isLocal, composes.sentID]
      refine upToDate.append grown held (fun documentID => id) ?_ ?_
      · refine List.forall_mem_singleton.mpr ⟨send.documentID, ?_, SameStamp.refl _⟩
        rw [grown]
        exact List.mem_append_right _ List.mem_cons_self
      · exact List.forall_mem_singleton.mpr ⟨_, List.mem_cons_self, same.symm⟩

/-- Once a fetch succeeded, every step keeps the documents of the rows apart. -/
theorem once_of_step (genuine : Genuine fm content before event)
    (recognised : Recognised fm content before system)
    (once : system.held.isSome → system.documentIDs.Nodup)
    (taken : step fm system event = some next) : next.held.isSome → next.documentIDs.Nodup := by
  intro nowHeld
  have ofHeld : system.held.isSome → next.documentIDs.Nodup := by
    intro wasHeld
    apply (nodup_step_iff genuine recognised (once wasHeld) taken).mpr
    cases event with
    | listenerReply share changes error =>
        cases changes with
        | none => trivial
        | some batch =>
            cases error with
            | some error => trivial
            | none =>
                intro _ _ nothingHeld
                rw [nothingHeld] at wasHeld
                cases wasHeld
    | _ => trivial
  cases effect_of_step taken with
  | kept _ _ _ held => exact ofHeld (held ▸ nowHeld)
  | settled _ _ _ _ _ held => exact ofHeld (held ▸ nowHeld)
  | stored _ _ _ _ _ _ held => exact ofHeld (held ▸ nowHeld)
  | forgotten _ _ _ held =>
      rw [held] at nowHeld
      cases nowHeld
  | @rebuilt share messages _ _ sections _ held =>
      obtain ⟨documentIDs, distinct, rfl⟩ := genuine
      rw [documentIDs_built sections]
      have perm := Bucket.flatten_buckets_perm (ChatController.dayKey fm) Message.NoLater
        (decoded fm content documentIDs)
      apply ((perm.filterMap Message.messageId).nodup_iff).mpr
      apply List.Nodup.sublist (List.Sublist.filterMap _ List.filter_sublist)
      rwa [filterMap_decoded]
  | received _ _ _ _ _ _ held =>
      rw [held, Option.isSome_map] at nowHeld
      exact ofHeld nowHeld
  | own _ _ _ _ _ held =>
      rw [held, Option.isSome_map] at nowHeld
      exact ofHeld nowHeld
  | sent _ _ _ _ _ _ held =>
      rw [held, Option.isSome_map] at nowHeld
      exact ofHeld nowHeld

/-- The row of a decoded message has the message of its document. -/
theorem written_builtEntry (share : AccountService) {documentIDs : List String} {message : Message}
    (member : message ∈ decoded fm content documentIDs) :
    ∃ documentID, (builtEntry share message).documentID = some documentID ∧
      (builtEntry share message).message.asWritten =
        (ChatService.getMessage fm documentID (content documentID)).asWritten := by
  obtain ⟨documentID, -, rfl⟩ := List.mem_map.mp member
  exact ⟨documentID, ChatEntry.documentID_builtEntry share _, rfl⟩

theorem RowsWritten.setSuccess {otherID : String} {success : Bool}
    (rowsWritten : RowsWritten fm content system)
    (sections : next.sections =
      system.sections.map (ChatSectionViewModel.setSuccess otherID success)) :
    RowsWritten fm content next := by
  intro entry member
  rw [shown, sections, timeline_setSuccess] at member
  obtain ⟨older, inside, rfl⟩ := List.mem_map.mp member
  obtain ⟨documentID, isIt, same⟩ := rowsWritten older inside
  exact ⟨documentID, (older.documentID_setSuccess otherID success).trans isIt, same⟩

/-- Every step keeps the rows to what the store has. -/
theorem rowsWritten_of_step (reprints : fm.Reprints) (genuine : Genuine fm content before event)
    (movie : system.movieId.isSome) (rowsWritten : RowsWritten fm content system)
    (taken : step fm system event = some next) : RowsWritten fm content next := by
  cases effect_of_step taken with
  | kept _ sections =>
      rw [RowsWritten, shown, sections]
      exact rowsWritten
  | settled _ _ _ sections => exact rowsWritten.setSuccess sections
  | stored _ _ _ _ sections => exact rowsWritten.setSuccess sections
  | forgotten _ sections =>
      rw [RowsWritten, shown, sections]
      exact rowsWritten
  | @rebuilt share messages _ _ sections =>
      obtain ⟨documentIDs, -, rfl⟩ := genuine
      intro entry member
      rw [shown, sections, timeline_builtSections] at member
      obtain ⟨message, isShown, rfl⟩ := List.mem_map.mp member
      exact written_builtEntry share (mem_shownMessages.mp isShown).1
  | @received share batch new _ _ _ gets appended =>
      obtain ⟨documentIDs, rfl⟩ := genuine
      obtain ⟨-, shows⟩ := timeline_appendRows appended
      intro entry member
      rw [shown, shows] at member
      rcases List.mem_append.mp member with older | added
      · exact rowsWritten entry older
      · obtain ⟨message, isNew, rfl⟩ := List.mem_map.mp added
        exact written_builtEntry share ((mem_received_iff gets).mp isNew).1
  | own _ _ noMovie =>
      rw [noMovie] at movie
      cases movie
  | @sent _ share now send phAsset dictionary _ composes _ written added =>
      obtain ⟨-, stored, -⟩ := genuine.of_composes composes written
      obtain ⟨-, shows⟩ := timeline_addRowViewModel added
      intro entry member
      rw [shown, shows] at member
      rcases List.mem_append.mp member with older | isOwn
      · exact rowsWritten entry older
      · rw [List.mem_singleton.mp isOwn]
        obtain ⟨-, cut, dated, -⟩ := composes.message
        obtain ⟨sendDate, sent⟩ := Option.isSome_iff_exists.mp dated
        rw [sent] at cut
        refine ⟨send.documentID, composes.documentID_ownEntry _, ?_⟩
        rw [stored]
        exact (Message.asWritten_of_addChatMessage written sent
          (Utils.getCurrentDate_idem reprints cut.symm) send.documentID).symm

/-- What holds of the chat of a movie after its events, in a run that keeps to the contract of
the store. -/
structure Hears (fm : DateFormatter) (content : String → Dictionary) (before : List ChatEvent)
    (system : ChatSystem) : Prop where
  movie : system.movieId.isSome
  listening : system.controller.didStart = (hearing before).listening
  recognised : Recognised fm content before system
  upToDate : UpToDate fm content (hearing before).heard system
  once : system.held.isSome → system.documentIDs.Nodup
  rows : RowsWritten fm content system

theorem hears_initial (movieId : String) : Hears fm content [] (initial (some movieId)) where
  movie := rfl
  listening := rfl
  recognised :=
    ⟨fun _ member => absurd member List.not_mem_nil,
      fun _ _ _ member => absurd member List.not_mem_nil⟩
  upToDate :=
    ⟨fun _ member => absurd member List.not_mem_nil,
      fun _ member => absurd member List.not_mem_nil, fun _ isHeld => by cases isHeld⟩
  once := fun _ => List.nodup_nil
  rows := fun _ member => absurd member List.not_mem_nil

/-- Each step keeps the rows to what was heard of. -/
theorem hears_of_step (laws : fm.DayLaws) (reprints : fm.Reprints)
    (genuine : Genuine fm content before event) (dated : event.HandsDated)
    (hears : Hears fm content before system) (taken : step fm system event = some next) :
    Hears fm content (before ++ [event]) next where
  movie := by
    rw [(frame_of_step taken).movieId]
    exact hears.movie
  listening := by
    rw [hearing_concat]
    exact Hearing.listening_of_step hears.listening taken
  recognised := recognised_of_step reprints genuine hears.recognised taken
  upToDate := by
    rw [hearing_concat]
    exact upToDate_of_step laws reprints genuine dated hears.movie hears.listening hears.upToDate
      taken
  once := once_of_step genuine hears.recognised hears.once taken
  rows := rowsWritten_of_step reprints genuine hears.movie hears.rows taken

/-- **The chat shows what it has heard of.** In every state the chat of a movie reaches, against
a store that keeps to its contract. -/
theorem hears_of_run (laws : fm.DayLaws) (reprints : fm.Reprints) (movieId : String)
    {events : List ChatEvent}
    (genuine : ∀ before event, before ++ [event] <+: events → Genuine fm content before event)
    (dated : ∀ event ∈ events, event.HandsDated)
    (reached : run fm (some movieId) events = some system) : Hears fm content events system := by
  refine EventRun.invariant (Hears fm content) (hears_initial movieId) ?_ reached
  intro before event state next inside hears taken
  have member : event ∈ events := inside.subset (List.mem_append_right _ List.mem_cons_self)
  exact hears_of_step laws reprints (genuine before event inside) (dated event member) hears taken

/-- When no two documents heard of are taken for the same, the rows show exactly those heard of. -/
theorem Hears.mem_documentIDs_iff {events : List ChatEvent}
    (hears : Hears fm content events system)
    (apart : ∀ first ∈ (hearing events).heard, ∀ second ∈ (hearing events).heard,
      Alike fm content first second → first = second) (documentID : String) :
    documentID ∈ system.documentIDs ↔ documentID ∈ (hearing events).heard := by
  constructor
  · exact hears.upToDate.sound documentID
  · intro member
    obtain ⟨shown, inside, alike⟩ := hears.upToDate.complete documentID member
    have same := apart shown (hears.upToDate.sound shown inside) documentID member alike
    exact same ▸ inside

/-- The rows are what the store has of the documents. -/
theorem RowsWritten.map_asWritten (rows : RowsWritten fm content system) :
    system.shown.map (fun entry => entry.message.asWritten) =
      system.documentIDs.map fun documentID =>
        (ChatService.getMessage fm documentID (content documentID)).asWritten := by
  rw [RowsWritten] at rows
  rw [documentIDs]
  generalize system.shown = entries at rows ⊢
  induction entries with
  | nil => rfl
  | cons entry entries ih =>
      obtain ⟨first, later⟩ := List.forall_mem_cons.mp rows
      obtain ⟨documentID, isIt, same⟩ := first
      rw [List.filterMap_cons_some isIt, List.map_cons, List.map_cons, same, ih later]


end MovieFun
