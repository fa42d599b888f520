import MovieFun.View.Chat.ChatEffect

/-!
# The documents that the rows show

A message row shows a document of the store: the one its message was decoded
from, or the one that its send creates. What an effect does to the rows, in terms
of these documents.
-/

namespace MovieFun

open ChatSystem

/-- The document that a message row shows: the one its message was decoded from,
or the one its send creates. -/
def ChatEntry.documentID (entry : ChatEntry) : Option String :=
  entry.message.messageId.or entry.bubble.sendID

/-- The documents that the message rows show, from top to bottom. -/
def ChatSystem.documentIDs (system : ChatSystem) : List String :=
  system.shown.filterMap ChatEntry.documentID

variable {fm : DateFormatter} {system next : ChatSystem}

@[simp] theorem ChatEntry.documentID_setSuccess (otherID : String) (success : Bool)
    (entry : ChatEntry) : (entry.setSuccess otherID success).documentID = entry.documentID := by
  simp only [documentID, setSuccess, ChatBubble.sendID_setSuccess]

@[simp] theorem ChatEntry.documentID_builtEntry (share : AccountService) (message : Message) :
    (builtEntry share message).documentID = message.messageId := by
  have noSend : (builtEntry share message).bubble.sendID = none := by
    unfold builtEntry
    dsimp only
    split <;> rfl
  rw [documentID, noSend, Option.or_none]
  rfl

/-- The row of an own message shows the document of its send. -/
theorem Composes.documentID_ownEntry {share : AccountService} {now : Date} {event : ChatEvent}
    {send : ChatSend} {phAsset : Option PHAsset}
    (composes : Composes fm share now event send phAsset) (sendID : Option String) :
    (ownEntry send phAsset sendID).documentID = sendID := by
  rw [ChatEntry.documentID, ownEntry, composes.message.2.2.2, Option.none_or]
  rfl

theorem documentIDs_congr (sections : next.sections = system.sections) :
    next.documentIDs = system.documentIDs := by
  rw [documentIDs, documentIDs, shown, shown, sections]

theorem documentIDs_setSuccess {otherID : String} {success : Bool}
    (sections : next.sections =
      system.sections.map (ChatSectionViewModel.setSuccess otherID success)) :
    next.documentIDs = system.documentIDs := by
  rw [documentIDs, documentIDs, shown, sections, timeline_setSuccess, List.filterMap_map]
  exact List.filterMap_congr fun entry _ => entry.documentID_setSuccess otherID success

/-- Appended rows add their documents. -/
theorem documentIDs_append {entries : List ChatEntry}
    (shown : next.shown = system.shown ++ entries) :
    next.documentIDs = system.documentIDs ++ entries.filterMap ChatEntry.documentID := by
  rw [documentIDs, shown, List.filterMap_append]
  rfl

/-- The documents a build shows are the ones of the messages it shows. -/
theorem documentIDs_built {share : AccountService} {messages : List Message}
    (sections : next.sections = builtSections fm share messages) :
    next.documentIDs = (shownMessages fm messages).filterMap Message.messageId := by
  rw [documentIDs, shown, sections, timeline_builtSections, builtEntries, List.filterMap_map]
  exact List.filterMap_congr fun message _ => ChatEntry.documentID_builtEntry share message

end MovieFun
