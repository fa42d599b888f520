import MovieFun.Helper.Gregorian
import MovieFun.View.Chat.ShownDocuments

/-!
# When a document has one row

Against the store's side of the contract (`Genuine`) the account id and the date
of a message are a function of its document, so `checkExistMessage` recognises
every document that has a row, provided the array of messages exists. It does not
after a failed fetch, and then a document has one row exactly when it is delivered
once and not sent from this device (`nodup_iff_unseen`).
-/

namespace MovieFun

open ChatSystem

/-- The documents that an event brings to the screen. -/
def ChatEvent.documentIDs : ChatEvent → List String
  | .fetchReply _ (some messages) none => messages.filterMap Message.messageId
  | .listenerReply _ (some messageChanges) none => messageChanges.filterMap Message.messageId
  | event => event.sentID.toList

/-- An event of the list brings the document. -/
def Mentioned (events : List ChatEvent) (documentID : String) : Prop :=
  ∃ event ∈ events, documentID ∈ event.documentIDs

/-- The messages of documents of a store. -/
def decoded (fm : DateFormatter) (content : String → Dictionary) (documentIDs : List String) :
    List Message :=
  documentIDs.map fun documentID => ChatService.getMessage fm documentID (content documentID)

/-- The store's side: a fetch has each document once, what is fetched or delivered
is decoded from the content of its document, and a send creates a new document
whose content is what was written. -/
def Genuine (fm : DateFormatter) (content : String → Dictionary) (before : List ChatEvent) :
    ChatEvent → Prop
  | .fetchReply _ (some messages) none =>
      ∃ documentIDs : List String, documentIDs.Nodup ∧ messages = decoded fm content documentIDs
  | .listenerReply _ (some messageChanges) none =>
      ∃ documentIDs, messageChanges = decoded fm content documentIDs
  | event => ∀ share now send phAsset dictionary, Composes fm share now event send phAsset →
      ChatService.addChatMessage now send.message = some dictionary →
        ¬ Mentioned before send.documentID ∧ content send.documentID = dictionary.stored

/-- While there is no array of messages, a batch that is listened to has each
document once and none that has a row. -/
def Unseen (system : ChatSystem) : ChatEvent → Prop
  | .listenerReply share (some messageChanges) none =>
      system.controller.didStart = true → share.getAccountId.isSome → system.held = none →
        (messageChanges.filterMap Message.messageId).Nodup ∧
          ∀ documentID ∈ messageChanges.filterMap Message.messageId,
            documentID ∉ system.documentIDs
  | _ => True

/-- Every document that has a row was mentioned, and its account id and date are
those of a message held, if any messages are held. -/
structure Recognised (fm : DateFormatter) (content : String → Dictionary)
    (before : List ChatEvent) (system : ChatSystem) : Prop where
  mentioned : ∀ documentID ∈ system.documentIDs, Mentioned before documentID
  held : ∀ messages ∈ system.held, ∀ documentID ∈ system.documentIDs, ∃ mess ∈ messages,
    SameStamp mess (ChatService.getMessage fm documentID (content documentID))

variable {fm : DateFormatter} {content : String → Dictionary} {before : List ChatEvent}
  {event : ChatEvent} {system next : ChatSystem}

theorem Mentioned.concat {documentID : String} (mentioned : Mentioned before documentID) :
    Mentioned (before ++ [event]) documentID := by
  obtain ⟨earlier, member, isIt⟩ := mentioned
  exact ⟨earlier, List.mem_append_left _ member, isIt⟩

/-- What the last event brings is mentioned. -/
theorem mentioned_last {documentID : String} (member : documentID ∈ event.documentIDs) :
    Mentioned (before ++ [event]) documentID :=
  ⟨event, List.mem_append_right _ List.mem_cons_self, member⟩

/-- A decoded message is the one of its document. -/
theorem eq_of_mem_decoded {documentIDs : List String} {message : Message}
    (member : message ∈ decoded fm content documentIDs) {documentID : String}
    (isIt : message.messageId = some documentID) :
    message = ChatService.getMessage fm documentID (content documentID) := by
  obtain ⟨own, -, rfl⟩ := List.mem_map.mp member
  cases Option.some.inj isIt
  rfl

/-- The ids of decoded documents are those of the documents. -/
theorem filterMap_decoded (documentIDs : List String) :
    (decoded fm content documentIDs).filterMap Message.messageId = documentIDs := by
  rw [decoded, List.filterMap_map]
  exact List.filterMap_some

/-- An own message has the account id and the date that its document will have. -/
theorem sameStamp_of_genuine (reprints : fm.Reprints) {share : AccountService} {now : Date}
    {send : ChatSend} {phAsset : Option PHAsset} {dictionary : Dictionary}
    (composes : Composes fm share now event send phAsset)
    (written : ChatService.addChatMessage now send.message = some dictionary)
    (stored : content send.documentID = dictionary.stored) :
    SameStamp send.message
      (ChatService.getMessage fm send.documentID (content send.documentID)) := by
  obtain ⟨-, cut, dated, -⟩ := composes.message
  obtain ⟨sendDate, sent⟩ := Option.isSome_iff_exists.mp dated
  rw [sent] at cut
  rw [stored]
  exact sameStamp_of_addChatMessage sent (Utils.getCurrentDate_idem reprints cut.symm) written _

/-- The rows of a row of a message that no send goes with show no document. -/
theorem documentIDs_own {share : AccountService} {now : Date} {send : ChatSend}
    {phAsset : Option PHAsset} (composes : Composes fm share now event send phAsset)
    (added : ChatController.addRowViewModel fm ((ownEntry send phAsset none).row none)
      system.sections = some next.sections) : next.documentIDs = system.documentIDs := by
  obtain ⟨-, appended⟩ := timeline_addRowViewModel added
  rw [documentIDs_append appended, List.filterMap_cons, composes.documentID_ownEntry]
  exact List.append_nil _

/-- An own message is the last document on display. -/
theorem documentIDs_sent {share : AccountService} {now : Date} {send : ChatSend}
    {phAsset : Option PHAsset} (composes : Composes fm share now event send phAsset)
    (added : ChatController.addRowViewModel fm
      ((ownEntry send phAsset (some send.documentID)).row none) system.sections =
        some next.sections) : next.documentIDs = system.documentIDs ++ [send.documentID] := by
  obtain ⟨-, appended⟩ := timeline_addRowViewModel added
  rw [documentIDs_append appended, List.filterMap_cons, composes.documentID_ownEntry]
  rfl

/-- What is received comes after what was on display. -/
theorem documentIDs_received {share : AccountService} {new : List Message}
    (appended : appendRows fm (new.map (builtEntry share)) system.sections = some next.sections) :
    next.documentIDs = system.documentIDs ++ new.filterMap Message.messageId := by
  obtain ⟨-, appended⟩ := timeline_appendRows appended
  rw [documentIDs_append appended, List.filterMap_map]
  congr 1
  exact List.filterMap_congr fun message _ => ChatEntry.documentID_builtEntry share message

/-- What an own message does to the rows is in the contract. -/
theorem Genuine.of_composes {share : AccountService} {now : Date} {send : ChatSend}
    {phAsset : Option PHAsset} {dictionary : Dictionary}
    (genuine : Genuine fm content before event)
    (composes : Composes fm share now event send phAsset)
    (written : ChatService.addChatMessage now send.message = some dictionary) :
    ¬ Mentioned before send.documentID ∧ content send.documentID = dictionary.stored ∧
      event.documentIDs = [send.documentID] := by
  have sends := composes.sentID
  cases composes with
  | text composed =>
      obtain ⟨fresh, stored⟩ := genuine _ _ _ _ _ (.text composed) written
      exact ⟨fresh, stored, rfl⟩
  | picture named composed =>
      obtain ⟨fresh, stored⟩ := genuine _ _ _ _ _ (.picture named composed) written
      refine ⟨fresh, stored, ?_⟩
      rw [ChatEvent.documentIDs, sends]
      · rfl
      all_goals nofun

/-- Rows of the same documents stay recognised while no message is let go, or all
of them are. -/
theorem Recognised.of_same (recognised : Recognised fm content before system)
    (same : next.documentIDs = system.documentIDs)
    (kept : ∀ messages ∈ next.held, ∃ older ∈ system.held, older ⊆ messages) :
    Recognised fm content (before ++ [event]) next where
  mentioned documentID member := (recognised.mentioned documentID (same ▸ member)).concat
  held messages isHeld documentID member := by
    obtain ⟨older, wasHeld, inside⟩ := kept messages isHeld
    obtain ⟨mess, inOlder, stamp⟩ := recognised.held older wasHeld documentID (same ▸ member)
    exact ⟨mess, inside inOlder, stamp⟩

/-- Rows of further documents are recognised when their messages are held as well. -/
theorem Recognised.of_append (recognised : Recognised fm content before system)
    {new : List Message} {documentIDs : List String}
    (grown : next.documentIDs = system.documentIDs ++ documentIDs)
    (nowHeld : next.held = system.held.map (· ++ new))
    (mentioned : ∀ documentID ∈ documentIDs, documentID ∈ event.documentIDs)
    (stamped : ∀ documentID ∈ documentIDs, ∃ mess ∈ new,
      SameStamp mess (ChatService.getMessage fm documentID (content documentID))) :
    Recognised fm content (before ++ [event]) next where
  mentioned documentID member := by
    rw [grown] at member
    rcases List.mem_append.mp member with older | isNew
    · exact (recognised.mentioned documentID older).concat
    · exact mentioned_last (mentioned documentID isNew)
  held messages isHeld documentID member := by
    rw [nowHeld] at isHeld
    obtain ⟨older, wasHeld, rfl⟩ := Option.map_eq_some_iff.mp isHeld
    rw [grown] at member
    rcases List.mem_append.mp member with wasShown | isNew
    · obtain ⟨mess, inOlder, stamp⟩ := recognised.held older wasHeld documentID wasShown
      exact ⟨mess, List.mem_append_left _ inOlder, stamp⟩
    · obtain ⟨mess, inNew, stamp⟩ := stamped documentID isNew
      exact ⟨mess, List.mem_append_right _ inNew, stamp⟩

/-- Every step recognises what it shows. -/
theorem recognised_of_step (reprints : fm.Reprints) (genuine : Genuine fm content before event)
    (recognised : Recognised fm content before system)
    (taken : step fm system event = some next) :
    Recognised fm content (before ++ [event]) next := by
  cases effect_of_step taken with
  | kept _ sections _ held =>
      exact recognised.of_same (documentIDs_congr sections) fun messages isHeld =>
        ⟨messages, held ▸ isHeld, List.Subset.refl _⟩
  | settled _ _ _ sections _ held =>
      exact recognised.of_same (documentIDs_setSuccess sections) fun messages isHeld =>
        ⟨messages, held ▸ isHeld, List.Subset.refl _⟩
  | stored _ _ _ _ sections _ held =>
      exact recognised.of_same (documentIDs_setSuccess sections) fun messages isHeld =>
        ⟨messages, held ▸ isHeld, List.Subset.refl _⟩
  | forgotten _ sections _ held =>
      apply recognised.of_same (documentIDs_congr sections)
      intro messages isHeld
      rw [held] at isHeld
      cases isHeld
  | @rebuilt share messages _ _ sections _ held =>
      obtain ⟨documentIDs, -, whole⟩ := genuine
      have ids := documentIDs_built sections
      have fromFetch : ∀ documentID ∈ next.documentIDs, ∃ message ∈ messages,
          message.messageId = some documentID := by
        intro documentID member
        rw [ids] at member
        obtain ⟨message, shown, isIt⟩ := List.mem_filterMap.mp member
        exact ⟨message, (mem_shownMessages.mp shown).1, isIt⟩
      constructor
      · intro documentID member
        obtain ⟨message, inside, isIt⟩ := fromFetch documentID member
        exact mentioned_last (List.mem_filterMap.mpr ⟨message, inside, isIt⟩)
      · intro known isHeld documentID member
        rw [held] at isHeld
        cases isHeld
        obtain ⟨message, inside, isIt⟩ := fromFetch documentID member
        exact ⟨message, inside, eq_of_mem_decoded (whole ▸ inside) isIt ▸ SameStamp.refl _⟩
  | @received share batch new _ _ _ gets appended _ held =>
      obtain ⟨documentIDs, whole⟩ := genuine
      have fromBatch : ∀ message ∈ new, message ∈ batch := fun message isNew =>
        ((mem_received_iff gets).mp isNew).1
      apply recognised.of_append (documentIDs_received appended) held
      · intro documentID member
        obtain ⟨message, isNew, isIt⟩ := List.mem_filterMap.mp member
        exact List.mem_filterMap.mpr ⟨message, fromBatch message isNew, isIt⟩
      · intro documentID member
        obtain ⟨message, isNew, isIt⟩ := List.mem_filterMap.mp member
        refine ⟨message, isNew, ?_⟩
        exact eq_of_mem_decoded (whole ▸ fromBatch message isNew) isIt ▸ SameStamp.refl _
  | own _ composes _ added _ held =>
      apply recognised.of_same (documentIDs_own composes added)
      intro messages isHeld
      rw [held] at isHeld
      obtain ⟨older, wasHeld, rfl⟩ := Option.map_eq_some_iff.mp isHeld
      exact ⟨older, wasHeld, List.subset_append_left _ _⟩
  | sent _ composes _ written added _ held =>
      obtain ⟨-, stored, brings⟩ := genuine.of_composes composes written
      apply recognised.of_append (documentIDs_sent composes added) held
      · rw [brings]
        exact fun documentID => id
      · exact List.forall_mem_singleton.mpr ⟨_, List.mem_cons_self,
          sameStamp_of_genuine reprints composes written stored⟩

/-- Of a batch that is listened to while messages are held, what gets through has
no row yet and is shown once. -/
theorem nodup_of_received {batch new known : List Message} {documentIDs : List String}
    (recognised : Recognised fm content before system) (once : system.documentIDs.Nodup)
    (held : system.held = some known) (gets : received system.held batch = some new)
    (whole : batch = decoded fm content documentIDs) :
    (system.documentIDs ++ new.filterMap Message.messageId).Nodup := by
  have ofNew : ∀ message ∈ new, ∀ documentID, message.messageId = some documentID →
      message = ChatService.getMessage fm documentID (content documentID) :=
    fun message isNew documentID isIt =>
      eq_of_mem_decoded (whole ▸ ((mem_received_iff gets).mp isNew).1) isIt
  refine List.nodup_append.mpr ⟨once, ?_, ?_⟩
  · have isHeld : system.held.isSome := by rw [held]; rfl
    refine List.pairwise_filterMap.mpr ((received_pairwise isHeld gets).imp_of_mem ?_)
    rintro first second inFirst inSecond apart firstID isFirst _ isSecond rfl
    rw [ofNew first inFirst _ isFirst, ofNew second inSecond _ isSecond] at apart
    exact apart (SameStamp.refl _)
  · rintro documentID wasShown _ isNew rfl
    obtain ⟨message, inNew, isIt⟩ := List.mem_filterMap.mp isNew
    obtain ⟨-, notFound, -⟩ := (mem_received_iff gets).mp inNew
    obtain ⟨mess, inKnown, same⟩ := recognised.held known held documentID wasShown
    rw [← ofNew message inNew _ isIt] at same
    rw [held] at notFound
    exact (sameStamp_of_checkExistMessage notFound).2 rfl mess inKnown same

/-- An event that leaves the view as it is shows nothing unseen. -/
theorem Skips.unseen (skips : Skips system event) : Unseen system event := by
  cases event with
  | listenerReply share changes error =>
      cases changes with
      | none => trivial
      | some batch =>
          cases error with
          | some error => trivial
          | none =>
              intro started signedIn _
              exact absurd signedIn (skips.not_listened started)
  | _ => trivial

/-- Only snapshots can show a document twice. -/
theorem unseen_of_isLocal (isLocal : event.IsLocal) : Unseen system event := by
  cases event <;> trivial

/-- One step from a state where every document has at most one row. -/
theorem nodup_step_iff (genuine : Genuine fm content before event)
    (recognised : Recognised fm content before system) (once : system.documentIDs.Nodup)
    (taken : step fm system event = some next) :
    next.documentIDs.Nodup ↔ Unseen system event := by
  cases effect_of_step taken with
  | kept _ sections _ _ _ skips =>
      rw [documentIDs_congr sections]
      exact iff_of_true once skips.unseen
  | settled _ _ _ sections _ _ _ settles =>
      rw [documentIDs_setSuccess sections]
      exact iff_of_true once (unseen_of_isLocal settles.isLocal)
  | stored _ _ _ _ sections =>
      rw [documentIDs_setSuccess sections]
      exact iff_of_true once trivial
  | forgotten _ sections =>
      rw [documentIDs_congr sections]
      exact iff_of_true once trivial
  | @rebuilt share messages _ _ sections =>
      obtain ⟨documentIDs, distinct, rfl⟩ := genuine
      refine iff_of_true ?_ trivial
      rw [documentIDs_built sections]
      have perm := Bucket.flatten_buckets_perm (ChatController.dayKey fm) Message.NoLater
        (decoded fm content documentIDs)
      apply ((perm.filterMap Message.messageId).nodup_iff).mpr
      apply List.Nodup.sublist (List.Sublist.filterMap _ List.filter_sublist)
      rwa [filterMap_decoded]
  | @received share batch new _ started signedIn gets appended =>
      obtain ⟨documentIDs, whole⟩ := genuine
      rw [documentIDs_received appended]
      cases held : system.held with
      | some known =>
          apply iff_of_true (nodup_of_received recognised once held gets whole)
          intro _ _ nothingHeld
          rw [held] at nothingHeld
          cases nothingHeld
      | none =>
          rw [held] at gets
          have perm := (received_none gets).filterMap Message.messageId
          have meets : Unseen system (.listenerReply share (some batch) none) ↔
              (batch.filterMap Message.messageId).Nodup ∧
                ∀ documentID ∈ batch.filterMap Message.messageId,
                  documentID ∉ system.documentIDs :=
            ⟨fun unseen => unseen started signedIn held, fun apart _ _ _ => apart⟩
          rw [meets, List.nodup_append, perm.nodup_iff]
          constructor
          · rintro ⟨-, distinct, apart⟩
            exact ⟨distinct, fun documentID member wasShown =>
              apart documentID wasShown documentID (perm.mem_iff.mpr member) rfl⟩
          · rintro ⟨distinct, apart⟩
            refine ⟨once, distinct, ?_⟩
            rintro documentID wasShown _ isNew rfl
            exact apart documentID (perm.mem_iff.mp isNew) wasShown
  | own _ composes _ added =>
      rw [documentIDs_own composes added]
      exact iff_of_true once (unseen_of_isLocal composes.isLocal)
  | sent _ composes _ written added =>
      obtain ⟨fresh, -, -⟩ := genuine.of_composes composes written
      refine iff_of_true ?_ (unseen_of_isLocal composes.isLocal)
      rw [documentIDs_sent composes added]
      refine List.nodup_append.mpr ⟨once, List.nodup_singleton _, ?_⟩
      rintro documentID wasShown _ isSent rfl
      rw [List.mem_singleton] at isSent
      exact fresh (isSent ▸ recognised.mentioned documentID wasShown)

/-- **When every document has one row.** In runs that keep to the contract of the
store, every document has at most one row in all states exactly when no batch is
listened to without an array of messages that repeats a document or one that has a
row. -/
theorem nodup_iff_unseen (reprints : fm.Reprints) (movieId : Option String)
    {events : List ChatEvent}
    (genuine : ∀ before event, before ++ [event] <+: events → Genuine fm content before event) :
    EventRun.EachState (step fm) (fun system => system.documentIDs.Nodup)
        (initial movieId) events ↔
      EventRun.EachStep (step fm) Unseen (initial movieId) events := by
  refine EventRun.eachState_iff_eachStep (Recognised fm content) .nil ?_ ?_ ?_
  · exact ⟨fun _ member => absurd member List.not_mem_nil,
      fun _ _ _ member => absurd member List.not_mem_nil⟩
  · exact fun before event state next inside recognised taken =>
      recognised_of_step reprints (genuine before event inside) recognised taken
  · exact fun before event state next inside recognised once taken =>
      nodup_step_iff (genuine before event inside) recognised once taken

/-- The store after the message of `echoAfterFailedFetch`: what its send wrote. -/
def echoContent (_ : String) : Dictionary :=
  (((ChatController.textMessage (Gregorian.formatter ⟨0⟩) ⟨none, some "an"⟩ ⟨1566396309000000000⟩
    "hello").bind (ChatService.addChatMessage ⟨1566396309000000000⟩)).map Dictionary.stored).getD []

/-- The fetch fails, the listener opens, this device sends a message, and the
snapshot with it arrives. -/
def echoAfterFailedFetch : List ChatEvent :=
  [.start,
    .fetchReply ⟨none, some "an"⟩ none (some ⟨"offline"⟩),
    .listenerReply ⟨none, some "an"⟩ (some []) none,
    .addMessage ⟨none, some "an"⟩ ⟨1566396309000000000⟩ "hello" "d1",
    .listenerReply ⟨none, some "an"⟩
      (some (decoded (Gregorian.formatter ⟨0⟩) echoContent ["d1"])) none]

/-- That run keeps to the contract. -/
theorem genuine_echoAfterFailedFetch : ∀ before event,
    before ++ [event] <+: echoAfterFailedFetch →
      Genuine (Gregorian.formatter ⟨0⟩) echoContent before event := by
  refine EventRun.forall_prefix_cons ?_ (EventRun.forall_prefix_cons ?_
    (EventRun.forall_prefix_cons ?_ (EventRun.forall_prefix_cons ?_
      (EventRun.forall_prefix_cons ?_ ?_))))
  · rintro _ _ _ _ _ ⟨⟩
  · rintro _ _ _ _ _ ⟨⟩
  · exact ⟨[], rfl⟩
  · rintro _ _ _ _ dictionary ⟨composed⟩ written
    refine ⟨?_, ?_⟩
    · rintro ⟨event, member, brought⟩
      have nothing : ∀ event ∈ echoAfterFailedFetch.take 3, event.documentIDs = [] := by decide
      rw [nothing event member] at brought
      exact absurd brought List.not_mem_nil
    · simp only [echoContent, composed, Option.bind_some, written, Option.map_some,
        Option.getD_some]
  · exact ⟨["d1"], rfl⟩
  · intro before event inside
    simp at inside

/-- The rule holds of that run. -/
theorem nodup_iff_unseen_echoAfterFailedFetch :
    EventRun.EachState (step (Gregorian.formatter ⟨0⟩)) (fun system => system.documentIDs.Nodup)
        (initial (some "1")) echoAfterFailedFetch ↔
      EventRun.EachStep (step (Gregorian.formatter ⟨0⟩)) Unseen (initial (some "1"))
        echoAfterFailedFetch :=
  nodup_iff_unseen (Gregorian.reprints ⟨0⟩) (some "1") genuine_echoAfterFailedFetch

/-- Its message has two rows in the end. -/
theorem doubled_echoAfterFailedFetch :
    (∀ before event, before ++ [event] <+: echoAfterFailedFetch →
        Genuine (Gregorian.formatter ⟨0⟩) echoContent before event) ∧
      ∃ system, run (Gregorian.formatter ⟨0⟩) (some "1") echoAfterFailedFetch = some system ∧
        ¬ system.documentIDs.Nodup := by
  have twice : (run (Gregorian.formatter ⟨0⟩) (some "1") echoAfterFailedFetch).map documentIDs =
      some ["d1", "d1"] := by decide +kernel
  obtain ⟨system, reached, rows⟩ := Option.map_eq_some_iff.mp twice
  refine ⟨genuine_echoAfterFailedFetch, system, reached, ?_⟩
  rw [rows]
  decide

end MovieFun
