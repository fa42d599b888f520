import MovieFun.Helper.Gregorian
import MovieFun.View.Chat.Admission

/-!
# The echo of a sent message

A message of this device is shown at once, written, and delivered again by the listener.
The echo has gone through the encoder, the store and the decoder, and its date a second time
through the text of a date. It still has the account id and the date of the message, so
`checkExistMessage` finds the message, and the other fields are those of the message
(`comesBack_of_built`).
-/

namespace MovieFun

open ChatController

/-- The message is one that `addMessage` or `addMessageImage` builds. -/
def BuiltAt (fm : DateFormatter) (share : AccountService) (now : Date) (message : Message) :
    Prop :=
  (∃ text, textMessage fm share now text = some message) ∨
    ∃ fileName, imageMessage fm share now fileName = some message

/-- A decoded message has the fields of the sent one, the encoder's defaults for those that
it lacks, and is found wherever the sent one is held. -/
structure ComesBack (message back : Message) : Prop where
  dated : message.sendDate.isSome
  accountId : back.accountId = message.accountId
  sendDate : back.sendDate = message.sendDate
  content : back.content = some (message.content.getD "")
  accountName : back.accountName = some (message.accountName.getD "")
  isMessageImage : back.isMessageImage = some (message.isMessageImage.getD false)
  imageName : back.imageName = some (message.imageName.getD "")
  found : ∀ messages, message ∈ messages → (∀ mess ∈ messages, mess.Stamped) →
    checkExistMessage (some messages) back = some true

variable {fm : DateFormatter} {share : AccountService} {now : Date} {message : Message}

/-- A built message is of the session, and its date is one that a text keeps. -/
theorem BuiltAt.stamp (built : BuiltAt fm share now message) :
    message.accountId = share.getAccountId ∧ ∃ sendDate,
      Utils.getCurrentDate fm now = some sendDate ∧ message.sendDate = some sendDate := by
  rcases built with ⟨text, built⟩ | ⟨fileName, built⟩
  · obtain ⟨sendDate, cut, rfl⟩ := textMessage_eq_some fm built
    exact ⟨rfl, sendDate, cut, rfl⟩
  · obtain ⟨sendDate, cut, rfl⟩ := imageMessage_eq_some fm built
    exact ⟨rfl, sendDate, cut, rfl⟩

/-- A message is found among stamped ones as soon as one of them has its stamp. -/
theorem checkExistMessage_of_mem {messages : List Message} {mess : Message}
    (member : mess ∈ messages) (stamped : ∀ mess ∈ messages, mess.Stamped)
    (same : SameStamp mess message) : checkExistMessage (some messages) message = some true := by
  have own := stamped mess member
  have isStamped : message.Stamped := ⟨same.1 ▸ own.accounted, same.2 ▸ own.dated⟩
  obtain ⟨found, checked⟩ :=
    Option.isSome_iff_exists.mp (checkExistMessage_isSome stamped isStamped)
  obtain ⟨-, whenNot⟩ := sameStamp_of_checkExistMessage checked
  cases found with
  | true => exact checked
  | false => exact absurd same (whenNot rfl mess member)

/-- A written message comes back when its date is one that a text keeps. -/
theorem comesBack_of_addChatMessage {sendDate writtenAt : Date} {dictionary : Dictionary}
    (sent : message.sendDate = some sendDate)
    (keeps : Utils.getCurrentDate fm sendDate = some sendDate)
    (write : ChatService.addChatMessage writtenAt message = some dictionary)
    (documentID : String) :
    ComesBack message (ChatService.getMessage fm documentID dictionary.stored) := by
  have same := sameStamp_of_addChatMessage sent keeps write documentID
  obtain ⟨name, text⟩ := ChatService.getMessage_texts_of_addChatMessage write documentID
  obtain ⟨flag, picture⟩ := ChatService.getMessage_picture_of_addChatMessage write documentID
  refine ⟨Option.isSome_of_mem sent, same.1.symm, same.2.symm, text, name, flag, picture, ?_⟩
  intro messages member stamped
  exact checkExistMessage_of_mem member stamped same

/-- **A sent message comes back recognisable.** At every instant each text and each file name
makes a message, the message is written, and whatever the store calls the document, what is
decoded from it has the stamp and the fields of the message. -/
theorem comesBack_of_built (zone : TimeZone) (share : AccountService) (now : Date)
    {accountId : String} (signedIn : share.getAccountId = some accountId) :
    (∀ text, (textMessage (Gregorian.formatter zone) share now text).isSome) ∧
      (∀ fileName, (imageMessage (Gregorian.formatter zone) share now fileName).isSome) ∧
      ∀ message, BuiltAt (Gregorian.formatter zone) share now message →
        ∀ writtenAt, ∃ dictionary,
          ChatService.addChatMessage writtenAt message = some dictionary ∧ ∀ documentID,
            ComesBack message (ChatService.getMessage (Gregorian.formatter zone) documentID
              dictionary.stored) := by
  have cut : Utils.getCurrentDate (Gregorian.formatter zone) now = some _ :=
    Gregorian.date_string_seconds zone now
  refine ⟨fun text => ?_, fun fileName => ?_, fun message built writtenAt => ?_⟩
  · rw [textMessage, cut]
    rfl
  · rw [imageMessage, cut]
    rfl
  · obtain ⟨own, sendDate, isCut, sent⟩ := built.stamp
    rw [signedIn] at own
    have keeps := Utils.getCurrentDate_idem (Gregorian.reprints zone) isCut
    have write : ChatService.addChatMessage writtenAt message = some _ :=
      congrArg (Option.map _) own
    exact ⟨_, write, comesBack_of_addChatMessage sent keeps write⟩

/-- A picture sent in the afternoon comes back, with the date of the morning that it was
shown with. -/
theorem comesBack_afternoonPicture : ∃ message dictionary,
    imageMessage (Gregorian.formatter ⟨0⟩) ⟨none, some "an"⟩ ⟨1566396309000000000⟩ "IMG_1.JPG" =
      some message ∧
    ChatService.addChatMessage ⟨0⟩ message = some dictionary ∧
    ComesBack message
      (ChatService.getMessage (Gregorian.formatter ⟨0⟩) "d1" dictionary.stored) := by
  obtain ⟨-, made, comesBack⟩ := comesBack_of_built ⟨0⟩ ⟨none, some "an"⟩ ⟨1566396309000000000⟩
    (rfl : AccountService.getAccountId ⟨none, some "an"⟩ = some "an")
  obtain ⟨message, isMade⟩ := Option.isSome_iff_exists.mp (made "IMG_1.JPG")
  obtain ⟨dictionary, write, back⟩ := comesBack message (.inr ⟨_, isMade⟩) ⟨0⟩
  exact ⟨message, dictionary, isMade, write, back "d1"⟩

end MovieFun
