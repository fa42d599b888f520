import MovieFun.Helper.Gregorian
import MovieFun.View.CommentListMovie.CommentListController

/-!
# The two previews of a sent message

A message sent from a chat is previewed twice: by the screen that sent it, once it was
added, and by the comment list, once the chat brings it back. The screen takes the word
"Image" for a picture and the list its content, which is empty; and only the list can do
without a loaded account (`samePreview_iff`).
-/

namespace MovieFun

namespace ChatViewController

variable (fm : DateFormatter) (share : AccountService) (now : Date) (movie : Movie)

/-- The message that a text becomes, and the group comment of its completion. Nothing is
sent for a blank text. -/
def sendMessage (messageText : String) : Option (Option (Message × GroupComment)) :=
  let text := Utils.trim messageText
  if text = "" then some none
  else do
    let message ← ChatController.textMessage fm share now text
    return some (message, {
      movie := some movie
      newMessage := some text
      newSenderName := message.accountName
      sendDate := message.sendDate })

/-- The message that a picture becomes, and the group comment of its completion. Nothing
is sent for a picture without a file name. -/
def sendImage (fullSizeImageURL : Option String) : Option (Option (Message × GroupComment)) :=
  match fullSizeImageURL.bind Utils.getFileName with
  | none => some none
  | some fileName => do
      let message ← ChatController.imageMessage fm share now fileName
      return some (message, {
        movie := some movie
        newMessage := some "Image"
        newSenderName := message.accountName
        sendDate := message.sendDate })

/-- What the screen is asked to send. -/
inductive Sending
  | text (messageText : String)
  | image (fullSizeImageURL : Option String)
deriving DecidableEq, Repr

/-- What a sending writes to the chat and to the comment list. -/
def send : Sending → Option (Option (Message × GroupComment))
  | .text messageText => sendMessage fm share now movie messageText
  | .image fullSizeImageURL => sendImage fm share now movie fullSizeImageURL

variable {fm share now movie}

/-- What is sent has the name of the session and the date of the sending, and so has its
group comment. -/
theorem send_eq_some {sending : Sending} {message : Message} {groupMessage : GroupComment}
    (sent : send fm share now movie sending = some (some (message, groupMessage))) :
    ∃ text sendDate, Utils.getCurrentDate fm now = some sendDate ∧
      message.accountName = share.getAccountName ∧ message.sendDate = some sendDate ∧
      groupMessage = ⟨some movie, some text, share.getAccountName, some sendDate⟩ ∧
      ((∃ messageText, sending = .text messageText) ∧ message.content = some text ∨
        (∃ fullSizeImageURL, sending = .image fullSizeImageURL) ∧ message.content = none ∧
          text = "Image") := by
  cases sending with
  | text messageText =>
      rw [send, sendMessage] at sent
      split at sent
      · cases sent
      · simp only [Option.bind_eq_bind, Option.bind_eq_some_iff] at sent
        obtain ⟨_, made, isSent⟩ := sent
        obtain ⟨sendDate, cut, rfl⟩ := ChatController.textMessage_eq_some fm made
        cases isSent
        exact ⟨_, sendDate, cut, rfl, rfl, rfl, .inl ⟨⟨messageText, rfl⟩, rfl⟩⟩
  | image fullSizeImageURL =>
      rw [send, sendImage] at sent
      split at sent
      · cases sent
      · simp only [Option.bind_eq_bind, Option.bind_eq_some_iff] at sent
        obtain ⟨_, made, isSent⟩ := sent
        obtain ⟨sendDate, cut, rfl⟩ := ChatController.imageMessage_eq_some fm made
        cases isSent
        exact ⟨_, sendDate, cut, rfl, rfl, rfl, .inr ⟨⟨fullSizeImageURL, rfl⟩, rfl, rfl⟩⟩

end ChatViewController

open ChatViewController CommentListController

/-- A message sent in the chat of a movie that the list listens to, and a later snapshot
of the chat whose newest message it is. Somebody is signed in at both writes. -/
structure Echo (fm : DateFormatter) where
  share : AccountService
  now : Date
  movie : Movie
  sending : Sending
  message : Message
  groupMessage : GroupComment
  sent : send fm share now movie sending = some (some (message, groupMessage))
  writtenAt : Date
  dictionary : Dictionary
  written : ChatService.addChatMessage writtenAt message = some dictionary
  documentID : String
  watched : Movie
  sameMovie : watched.id = movie.id
  named : movie.id.isSome
  messageChanges : List Message
  sortable : Sortable messageChanges
  isNewest : newest messageChanges =
    some (ChatService.message fm ⟨documentID, dictionary.stored⟩)
  atSuccess : AccountService
  successDate : Date
  success : atSuccess.getAccountId.isSome
  atSnapshot : AccountService
  snapshotDate : Date
  snapshot : atSnapshot.getAccountId.isSome

namespace Echo

variable {fm : DateFormatter} (echo : Echo fm)

/-- What the screen writes once the message was added. -/
def sentPreview : Option (Option GroupCommentWrite) :=
  CommentListService.addGroupComment echo.atSuccess echo.successDate echo.groupMessage

/-- What the list writes for the snapshot. -/
def listPreview : Option (Option GroupCommentWrite) :=
  newsOf echo.atSnapshot echo.snapshotDate echo.watched (some echo.messageChanges) none

/-- Both write the document of the movie, with the same preview. -/
def SamePreview : Prop :=
  ∃ first second, echo.sentPreview = some (some first) ∧ echo.listPreview = some (some second) ∧
    first.documentID = second.documentID ∧
    { CommentListService.getGroupComment first.dictionary.stored with movie := none } =
      { CommentListService.getGroupComment second.dictionary.stored with movie := none }

/-- The message as the snapshot has it. -/
def echoed : Message := ChatService.message fm ⟨echo.documentID, echo.dictionary.stored⟩

variable {echo}

/-- Two group comments have the same preview. -/
theorem preview_eq_iff {first second : GroupComment} :
    ({ first with movie := none } : GroupComment) = { second with movie := none } ↔
      first.newMessage = second.newMessage ∧ first.newSenderName = second.newSenderName ∧
        first.sendDate = second.sendDate := by
  rw [GroupComment.mk.injEq]
  exact and_iff_right rfl

/-- What was written agrees if the sent group comment has what the echo has. -/
theorem samePreview_iff_of_written {first second : GroupCommentWrite}
    (sends : echo.sentPreview = some (some first)) (lists : echo.listPreview = some (some second))
    (about : echo.groupMessage.movie = some echo.movie) :
    echo.SamePreview ↔ echo.groupMessage.newMessage = echo.echoed.content ∧
      echo.groupMessage.newSenderName = echo.echoed.accountName ∧
        echo.groupMessage.sendDate = echo.echoed.sendDate := by
  obtain ⟨-, sentDocument, sentMessage, sentName, sentDate⟩ :=
    CommentListService.addGroupComment_eq_write sends
  obtain ⟨-, -, listDocument, _, message, same, -, isNewest, -, written⟩ := newsOf_eq_write lists
  cases same
  rw [echo.isNewest, Option.some.injEq] at isNewest
  subst isNewest
  obtain ⟨-, -, listMessage, listName, listDate⟩ :=
    CommentListService.addGroupComment_eq_write written
  have sameDocument : first.documentID = second.documentID := by
    rw [about, Option.bind_some, ← echo.sameMovie, listDocument, Option.some.injEq] at sentDocument
    exact sentDocument.symm
  constructor
  · rintro ⟨_, _, sends', lists', -, agree⟩
    rw [sends, Option.some.injEq, Option.some.injEq] at sends'
    rw [lists, Option.some.injEq, Option.some.injEq] at lists'
    subst sends' lists'
    rw [preview_eq_iff, sentMessage, sentName, sentDate, listMessage, listName, listDate] at agree
    exact agree
  · intro agree
    refine ⟨first, second, sends, lists, sameDocument, preview_eq_iff.mpr ?_⟩
    rw [sentMessage, sentName, sentDate, listMessage, listName, listDate]
    exact agree

/-- The echo has the text of the message, or an empty one, and its name and date. -/
theorem echoed_eq (reprints : fm.Reprints) {sendDate : Date}
    (cut : Utils.getCurrentDate fm echo.now = some sendDate)
    (dated : echo.message.sendDate = some sendDate) :
    echo.echoed.content = some (echo.message.content.getD "") ∧
      echo.echoed.accountName = some (echo.message.accountName.getD "") ∧
        echo.echoed.sendDate = some sendDate := by
  obtain ⟨name, content⟩ :=
    @ChatService.getMessage_texts_of_addChatMessage fm _ _ _ echo.written echo.documentID
  have date : echo.echoed.sendDate = Utils.getCurrentDate fm sendDate :=
    ChatService.getMessage_sendDate_of_addChatMessage echo.written dated echo.documentID
  exact ⟨content, name, date.trans (Utils.getCurrentDate_idem reprints cut)⟩

/-- The list always writes a preview of the echo. -/
theorem exists_listPreview (previewable : Previewable echo.echoed) :
    ∃ second, echo.listPreview = some (some second) := by
  have named : echo.watched.id.isSome := by
    rw [echo.sameMovie]
    exact echo.named
  exact exists_newsOf_eq_write named echo.snapshot echo.sortable echo.isNewest previewable

/-- The screen writes one if the message has a name. -/
theorem exists_sentPreview_iff {text : String} {sendDate : Date}
    (groupMessage : echo.groupMessage =
      ⟨some echo.movie, some text, echo.share.getAccountName, some sendDate⟩) :
    (∃ first, echo.sentPreview = some (some first)) ↔ echo.share.account.isSome := by
  have complete : echo.sentPreview.isSome ↔ echo.share.account.isSome := by
    rw [sentPreview, groupMessage, CommentListService.addGroupComment_isSome_iff rfl]
    simp only [echo.success, echo.named, AccountService.getAccountName, Option.isSome_map,
      Option.isSome_some, true_and, and_true, true_implies]
  rw [← complete]
  constructor
  · rintro ⟨first, sends⟩
    exact Option.isSome_of_mem sends
  · exact CommentListService.exists_write_of_isSome echo.success

end Echo

/-- **Both previews agree exactly for a text sent with a loaded account.** For every
message sent, and every later snapshot of which it is the news. -/
theorem samePreview_iff {fm : DateFormatter} (reprints : fm.Reprints) (echo : Echo fm) :
    echo.SamePreview ↔
      (∃ messageText, echo.sending = .text messageText) ∧ echo.share.account.isSome := by
  obtain ⟨text, sendDate, cut, name, dated, groupMessage, content⟩ := send_eq_some echo.sent
  obtain ⟨echoedContent, echoedName, echoedDate⟩ := Echo.echoed_eq reprints cut dated
  have about : echo.groupMessage.movie = some echo.movie := by rw [groupMessage]
  constructor
  · rintro ⟨first, second, sends, lists, same⟩
    obtain ⟨sameText, -, -⟩ := (Echo.samePreview_iff_of_written sends lists about).mp
      ⟨first, second, sends, lists, same⟩
    refine ⟨?_, (Echo.exists_sentPreview_iff groupMessage).mp ⟨first, sends⟩⟩
    rcases content with ⟨isText, -⟩ | ⟨-, noContent, isImage⟩
    · exact isText
    · -- the list previews a picture by its content, which was written as empty
      rw [groupMessage, echoedContent, noContent, isImage] at sameText
      have empty : "Image" = "" := Option.some.inj sameText
      exact absurd empty (by decide)
  · rintro ⟨⟨messageText, sending⟩, login⟩
    have content : echo.message.content = some text := by
      rcases content with ⟨-, content⟩ | ⟨⟨_, otherwise⟩, -⟩
      · exact content
      · rw [sending] at otherwise
        cases otherwise
    obtain ⟨first, sends⟩ := (Echo.exists_sentPreview_iff groupMessage).mpr login
    obtain ⟨second, lists⟩ := Echo.exists_listPreview
      ⟨by rw [echoedContent]; rfl, by rw [echoedName]; rfl, by rw [echoedDate]; rfl⟩
    apply (Echo.samePreview_iff_of_written sends lists about).mpr
    obtain ⟨account, loaded⟩ := Option.isSome_iff_exists.mp login
    rw [groupMessage, echoedContent, echoedName, echoedDate, content, name,
      AccountService.getAccountName, loaded]
    exact ⟨rfl, rfl, rfl⟩

/-- The session of "an". -/
def sender : AccountService where
  account := some ⟨"an", "An", "an@example.com", "", ⟨0⟩⟩
  userLogin := some "an"

/-- A picture, and the snapshot that brings it back. -/
def sentPicture : Echo (Gregorian.formatter ⟨0⟩) where
  share := sender
  now := ⟨1566345600000000000⟩
  movie := { id := some 1 }
  sending := .image (some "/cat.png")
  message := {
    isMessageImage := some true
    imageName := some "cat.png-1566345600.0"
    accountId := some "an"
    accountName := some "An"
    sendDate := some ⟨1566345600000000000⟩ }
  groupMessage := ⟨some { id := some 1 }, some "Image", some "An", some ⟨1566345600000000000⟩⟩
  sent := by decide
  writtenAt := ⟨0⟩
  dictionary := [
    ("isMessageImage", .bool true),
    ("imageName", .string "cat.png-1566345600.0"),
    ("accountId", .string "an"),
    ("accountName", .string "An"),
    ("sendDate", .date ⟨1566345600000000000⟩),
    ("content", .string "")]
  written := rfl
  documentID := "d1"
  watched := { id := some 1 }
  sameMovie := rfl
  named := rfl
  messageChanges := [{
    messageId := some "d1"
    isMessageImage := some true
    imageName := some "cat.png-1566345600.0"
    accountId := some "an"
    accountName := some "An"
    sendDate := some ⟨1566345600000000000⟩
    content := some "" }]
  sortable := .inl le_rfl
  isNewest := by decide
  atSuccess := sender
  successDate := ⟨0⟩
  success := rfl
  atSnapshot := sender
  snapshotDate := ⟨0⟩
  snapshot := rfl

/-- The screen writes "Image" and the list an empty text. -/
theorem not_samePreview_sentPicture : ¬ sentPicture.SamePreview := by
  rintro ⟨first, second, sends, lists, -, same⟩
  cases sends
  cases lists
  exact absurd (Echo.preview_eq_iff.mp same).1 (by decide)

/-- The rule holds of a picture that is sent. -/
theorem samePreview_iff_sentPicture : sentPicture.SamePreview ↔
    (∃ messageText, sentPicture.sending = .text messageText) ∧
      sentPicture.share.account.isSome :=
  samePreview_iff (Gregorian.reprints _) sentPicture

end MovieFun
