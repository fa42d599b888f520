import MovieFun.Foundation.Bucket
import MovieFun.Network.AccountService
import MovieFun.Network.ChatService
import MovieFun.View.Chat.ChatViewModel

/-!
# ChatController

The functions of the chat screen, each on the state it reads. `none` is a trap
of a forced unwrap; `now` is the date at the call and `share` the account
service at that moment.
-/

namespace MovieFun

/-- What the controller of a chat holds. -/
structure ChatController where
  chatViewModel : ChatViewModel
  messages : Option (List Message) := none
  didStart : Bool := false
deriving DecidableEq, Repr

/-- The order of the two sorts by `sendDate`. Both sorts only see messages with
a date; those without one come first. -/
def Message.NoLater (mess1 mess2 : Message) : Prop :=
  match mess1.sendDate, mess2.sendDate with
  | none, _ => True
  | some _, none => False
  | some date1, some date2 => date1 ≤ date2

instance : DecidableRel Message.NoLater := fun mess1 mess2 => by
  unfold Message.NoLater
  split <;> infer_instance

namespace ChatController

variable (fm : DateFormatter)

/-- A controller as it is created for a movie. -/
def initial (movieId : Option String) : ChatController where
  chatViewModel := { movieId }

/-- Sorting by `sendDate!` traps when a comparison meets a message without one. -/
def sortedBySendDate (messages : List Message) : Option (List Message) :=
  if messages.length ≤ 1 ∨ ∀ message ∈ messages, message.sendDate.isSome then
    some (messages.insertionSort Message.NoLater)
  else none

/-- Whether a message of the list has the account and the date of the message. -/
def checkExistMessageIn (message : Message) : List Message → Option Bool
  | [] => some false
  | mess :: messages => do
      let messAccountId ← mess.accountId
      let accountId ← message.accountId
      if messAccountId = accountId then
        let messSendDate ← mess.sendDate
        let sendDate ← message.sendDate
        if messSendDate = sendDate then some true else checkExistMessageIn message messages
      else checkExistMessageIn message messages

/-- Whether the message is among those held. It is not where none are held. -/
def checkExistMessage (messages : Option (List Message)) (message : Message) : Option Bool :=
  match messages with
  | none => some false
  | some messages => checkExistMessageIn message messages

/-- The key of the day of a message in the dictionary of groups. -/
def dayKey (message : Message) : Option TimeInterval := do
  let sendDate ← message.sendDate
  let date ← Utils.dateFromString fm Utils.YYYYMMDD
    (Utils.stringFromDate fm Utils.YYYYMMDD (some sendDate))
  return date.timeIntervalSince1970

/-- The messages by day, each day sorted by `sendDate`. -/
def createGroupMessage (messages : List Message) : List (List Message) :=
  Bucket.buckets (dayKey fm) Message.NoLater messages

/-- The day of a row's message, as the header of its section shows it. -/
def headerVM (sendDate : Date) : ChatRowViewModel where
  subclass := .header (Utils.stringFromDate fm Utils.YYYYMMDD (some sendDate))

/-- The asset of a built row is listed under the id of the session. -/
def builtAssets (accountId : String) (message : Message) : List ChatAsset :=
  match message.imageName with
  | none => []
  | some imageName => if (Utils.trim imageName).isEmpty then [] else [{ accountId, imageName }]

/-- The loop over one group, with the message before the current one and whether
the header is there already. -/
def buildRows (share : AccountService) :
    Option Message → Bool → List Message → Option (List ChatRowViewModel × List ChatAsset)
  | _, _, [] => some ([], [])
  | previousMessage, hasHeader, message :: groupMessage =>
      match message.sendDate with
      | none => buildRows share (some message) hasHeader groupMessage
      | some sendDate => do
          let accountId ← share.getAccountId
          let sender ← message.accountId
          let rowVM : ChatRowViewModel :=
            { previousMessage
              currentMessage := some message
              subclass := .message (if accountId = sender then .right true none none else .left) }
          let (rowVMs, assets) ← buildRows share (some message) true groupMessage
          let header := if hasHeader then [] else [headerVM fm sendDate]
          some (header ++ rowVM :: rowVMs, builtAssets accountId message ++ assets)

/-- The sections and the assets of messages that are grouped by day. -/
def buildViewModels (share : AccountService) (groupMessages : List (List Message))
    (chatViewModel : ChatViewModel) : Option ChatViewModel := do
  let built ← groupMessages.mapM (buildRows fm share none false)
  return { chatViewModel with
    sectionViewModels := built.map fun (rowVMs, _) => ⟨rowVMs⟩
    assets := built.flatMap fun (_, assets) => assets }

/-- The header text of the last section, when its first row is a header. -/
def lastHeader (sectionVM : ChatSectionViewModel) : Option String := do
  let first ← sectionVM.rowViewModels.head?
  match first.subclass with
  | .header sendDateStr => sendDateStr
  | .message _ => none

/-- Append a row to the last section when that section is of its day, and to a
new section otherwise. -/
def addRowViewModel (rowVM : ChatRowViewModel) (sectionVMs : List ChatSectionViewModel) :
    Option (List ChatSectionViewModel) := do
  let message ← rowVM.currentMessage
  let sendDate ← message.sendDate
  let newSection : ChatSectionViewModel := ⟨[headerVM fm sendDate, rowVM]⟩
  match sectionVMs.getLast? with
  | none => some (sectionVMs ++ [newSection])
  | some lastSection =>
      if (lastHeader lastSection).isSome ∧
          lastHeader lastSection = Utils.stringFromDate fm Utils.YYYYMMDD (some sendDate) then
        let rowVM := match lastSection.rowViewModels.getLast? with
          | none => rowVM
          | some previousRowVM => { rowVM with previousMessage := previousRowVM.currentMessage }
        some (sectionVMs.dropLast ++ [⟨lastSection.rowViewModels ++ [rowVM]⟩])
      else some (sectionVMs ++ [newSection])

/-- `start` resets the flag and, for a movie, asks for its messages. -/
def start (controller : ChatController) : ChatController :=
  match controller.chatViewModel.movieId with
  | none => { controller with didStart := false }
  | some _ =>
      { controller with
        didStart := false
        chatViewModel := { controller.chatViewModel with isFetching := true } }

/-- The completion of the fetch, up to `initListener`. -/
def fetchCompletion (share : AccountService) (messages : Option (List Message))
    (error : Option NSError) (controller : ChatController) : Option ChatController :=
  match error with
  | some _ => some controller
  | none => do
      let chatViewModel ← match messages with
        | none => some controller.chatViewModel
        | some messages =>
            buildViewModels fm share (createGroupMessage fm messages) controller.chatViewModel
      return { controller with
        chatViewModel := { chatViewModel with isFetching := false }
        messages }

/-- The row of a message that the listener delivered. -/
def receivedRow (accountId : String) (sender : String) (message : Message) : ChatRowViewModel where
  currentMessage := some message
  subclass := .message (if sender ≠ accountId then .left else .right true none none)

/-- The body of the listener's loop. -/
def receiveMessage (accountId : String) (state : ChatController × Bool) (message : Message) :
    Option (ChatController × Bool) := do
  let (controller, haveAddMessage) := state
  if ← checkExistMessage controller.messages message then
    some (controller, haveAddMessage)
  else
    let sender ← message.accountId
    let sectionViewModels ← addRowViewModel fm (receivedRow accountId sender message)
      controller.chatViewModel.sectionViewModels
    some ({ controller with
      messages := controller.messages.map (· ++ [message])
      chatViewModel := { controller.chatViewModel with sectionViewModels } }, true)

/-- The listener's completion. The first one only sets the flag. -/
def listenerCompletion (share : AccountService) (messageChanges : Option (List Message))
    (error : Option NSError) (controller : ChatController) : Option ChatController :=
  if controller.didStart = false then some { controller with didStart := true }
  else
    match error, messageChanges, share.getAccountId with
    | none, some messageChanges, some accountId => do
        let messageChanges ← sortedBySendDate messageChanges
        let (controller, haveAddMessage) ←
          messageChanges.foldlM (receiveMessage fm accountId) (controller, false)
        return { controller with
          chatViewModel := { controller.chatViewModel with haveAddMessage } }
    | _, _, _ => some controller

/-- Show a message of this device at once, as not yet sent. -/
def showOwnMessage (message : Message) (phAsset : Option PHAsset) (sendID : Option String)
    (controller : ChatController) : Option ChatController := do
  let rowVM : ChatRowViewModel :=
    { currentMessage := some message, subclass := .message (.right false phAsset sendID) }
  let sectionViewModels ←
    addRowViewModel fm rowVM controller.chatViewModel.sectionViewModels
  return { controller with
    messages := controller.messages.map (· ++ [message])
    chatViewModel :=
      { controller.chatViewModel with sectionViewModels, haveAddMessage := true } }

/-- The message that `addMessage` builds. -/
def textMessage (share : AccountService) (now : Date) (text : String) : Option Message := do
  let sendDate ← Utils.getCurrentDate fm now
  return {
    accountId := share.getAccountId
    accountName := share.getAccountName
    sendDate := some sendDate
    content := some text }

/-- What a text message says. -/
theorem textMessage_eq_some {share : AccountService} {now : Date} {text : String}
    {message : Message} (made : textMessage fm share now text = some message) :
    ∃ sendDate, Utils.getCurrentDate fm now = some sendDate ∧
      message =
        { accountId := share.getAccountId
          accountName := share.getAccountName
          sendDate := some sendDate
          content := some text } := by
  simp only [textMessage, Option.bind_eq_bind, Option.bind_eq_some_iff] at made
  obtain ⟨sendDate, cut, made⟩ := made
  exact ⟨sendDate, cut, (Option.some.inj made).symm⟩

/-- The message that `addMessageImage` builds for a file name. -/
def imageMessage (share : AccountService) (now : Date) (fileName : String) : Option Message := do
  let sendDate ← Utils.getCurrentDate fm now
  return {
    accountId := share.getAccountId
    accountName := share.getAccountName
    sendDate := some sendDate
    isMessageImage := some true
    imageName := some
      (fileName ++ "-" ++ TimeInterval.description sendDate.timeIntervalSince1970) }

/-- What a message with a picture says. -/
theorem imageMessage_eq_some {share : AccountService} {now : Date} {fileName : String}
    {message : Message} (made : imageMessage fm share now fileName = some message) :
    ∃ sendDate, Utils.getCurrentDate fm now = some sendDate ∧
      message =
        { accountId := share.getAccountId
          accountName := share.getAccountName
          sendDate := some sendDate
          isMessageImage := some true
          imageName := some
            (fileName ++ "-" ++ TimeInterval.description sendDate.timeIntervalSince1970) } := by
  simp only [imageMessage, Option.bind_eq_bind, Option.bind_eq_some_iff] at made
  obtain ⟨sendDate, cut, made⟩ := made
  exact ⟨sendDate, cut, (Option.some.inj made).symm⟩

/-- Tell the row of a message whether it was sent. -/
def setSuccess (documentID : String) (success : Bool) (controller : ChatController) :
    ChatController :=
  { controller with
    chatViewModel :=
      { controller.chatViewModel with
        sectionViewModels := controller.chatViewModel.sectionViewModels.map
          (ChatSectionViewModel.setSuccess documentID success) } }

/-- The asset of a sent picture is listed under the id of its message. -/
def addAsset (message : Message) (controller : ChatController) : Option ChatController :=
  match message.imageName with
  | none => some controller
  | some imageName =>
      if (Utils.trim imageName).isEmpty then some controller
      else do
        let accountId ← message.accountId
        return { controller with
          chatViewModel :=
            { controller.chatViewModel with
              assets := controller.chatViewModel.assets ++ [{ accountId, imageName }] } }

end ChatController

end MovieFun
