import MovieFun.Helper.Utils
import MovieFun.Model.Message
import MovieFun.Network.Firestore

/-!
# The chat collection

What `ChatService` writes for a message, how it decodes a document, and what it
hands to the completions of a fetch and of a snapshot listener.
-/

namespace MovieFun

namespace ChatService

variable (fm : DateFormatter)

/-- The message of a document. Its date passes through the 12-hour text. -/
def getMessage (messageId : String) (dictionay : Dictionary) : Message where
  messageId := some messageId
  isMessageImage := (dictionay.get "isMessageImage").bind Value.asBool
  imageName := (dictionay.get "imageName").bind Value.asString
  accountId := (dictionay.get "accountId").bind Value.asString
  accountName := (dictionay.get "accountName").bind Value.asString
  sendDate := (dictionay.get "sendDate").bind Value.asTimestamp |>.bind fun sendDate =>
    Utils.dateFromString fm Utils.YYYY_MM_DD_HH_MM_SS
      (Utils.stringFromDate fm Utils.YYYY_MM_DD_HH_MM_SS (some sendDate))
  content := (dictionay.get "content").bind Value.asString

/-- The message of a document of a snapshot or query. -/
def message (document : Document) : Message :=
  getMessage fm document.documentID document.data

/-- The dictionary written for a message, `now` being the date at the call. It
traps when the message has no account id. -/
def addChatMessage (now : Date) (message : Message) : Option Dictionary :=
  message.accountId.map fun accountId => [
    ("isMessageImage", .bool (message.isMessageImage.getD false)),
    ("imageName", .string (message.imageName.getD "")),
    ("accountId", .string accountId),
    ("accountName", .string (message.accountName.getD "")),
    ("sendDate", .date (message.sendDate.getD now)),
    ("content", .string (message.content.getD ""))]

/-- What the completion of `fetchChatMessages` receives. Without an error and
without documents it is not called. -/
def fetchChatMessages (documents : Option (List Document)) (error : Option NSError) :
    Option (Option (List Message) × Option NSError) :=
  match error, documents with
  | none, some documents => some (some (documents.map (message fm)), none)
  | none, none => none
  | some error, _ => some (none, some error)

/-- What the completion of `addListener` receives for one snapshot. -/
def addListener (documentChanges : Option (List Document)) (error : Option NSError) :
    Option (List Message) × Option NSError :=
  match error, documentChanges with
  | none, some documentChanges => (some (documentChanges.map (message fm)), none)
  | none, none => (none, none)
  | some error, _ => (none, some error)

variable {fm}

@[simp] theorem message_messageId (document : Document) :
    (message fm document).messageId = some document.documentID := rfl

/-- A written message is decoded with its own account. -/
theorem getMessage_accountId_of_addChatMessage {now : Date} {written : Message}
    {dictionary : Dictionary} (write : addChatMessage now written = some dictionary)
    (documentID : String) :
    (getMessage fm documentID dictionary.stored).accountId = written.accountId := by
  obtain ⟨accountId, own, rfl⟩ := Option.map_eq_some_iff.mp write
  rw [own]
  rfl

/-- A written date is decoded through the text of it. -/
theorem getMessage_sendDate_of_addChatMessage {now sendDate : Date} {written : Message}
    {dictionary : Dictionary} (write : addChatMessage now written = some dictionary)
    (dated : written.sendDate = some sendDate) (documentID : String) :
    (getMessage fm documentID dictionary.stored).sendDate = Utils.getCurrentDate fm sendDate := by
  obtain ⟨accountId, own, rfl⟩ := Option.map_eq_some_iff.mp write
  rw [dated]
  rfl

/-- A written flag and a written picture are decoded, a missing flag as not set. -/
theorem getMessage_picture_of_addChatMessage {now : Date} {written : Message}
    {dictionary : Dictionary} (write : addChatMessage now written = some dictionary)
    (documentID : String) :
    (getMessage fm documentID dictionary.stored).isMessageImage =
        some (written.isMessageImage.getD false) ∧
      (getMessage fm documentID dictionary.stored).imageName =
        some (written.imageName.getD "") := by
  obtain ⟨accountId, own, rfl⟩ := Option.map_eq_some_iff.mp write
  exact ⟨rfl, rfl⟩

/-- A written name and a written text are decoded, missing ones as empty. -/
theorem getMessage_texts_of_addChatMessage {now : Date} {written : Message}
    {dictionary : Dictionary} (write : addChatMessage now written = some dictionary)
    (documentID : String) :
    (getMessage fm documentID dictionary.stored).accountName = some (written.accountName.getD "") ∧
      (getMessage fm documentID dictionary.stored).content = some (written.content.getD "") := by
  obtain ⟨accountId, own, rfl⟩ := Option.map_eq_some_iff.mp write
  exact ⟨rfl, rfl⟩

end ChatService

/-- Cutting a date down twice changes nothing more. -/
theorem Utils.getCurrentDate_idem {fm : DateFormatter} (reprints : fm.Reprints)
    {currentDate date : Date} (cut : getCurrentDate fm currentDate = some date) :
    getCurrentDate fm date = some date := by
  change fm.date YYYY_MM_DD_HH_MM_SS (fm.string YYYY_MM_DD_HH_MM_SS date) = some date
  have parsed : fm.date YYYY_MM_DD_HH_MM_SS (fm.string YYYY_MM_DD_HH_MM_SS currentDate) =
      some date := cut
  rw [reprints currentDate date parsed, parsed]

end MovieFun
