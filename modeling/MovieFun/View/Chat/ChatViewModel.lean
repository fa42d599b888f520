import MovieFun.Model.Message

/-!
# View models of the chat

The rows of the chat are one record: the two messages every row has, and the
subclass with what that subclass adds. A row made for a message of this device
carries the id of the document its send creates, which names the row object the
completion of that send captures.
-/

namespace MovieFun

/-- A picture of the photo library. -/
structure PHAsset where
  localIdentifier : String
deriving DecidableEq, Repr

/-- The key under which a picture of the chat is stored. -/
@[ext] structure ChatAsset where
  accountId : String
  imageName : String
deriving DecidableEq, Repr

/-- The two subclasses of a message row. -/
inductive ChatBubble
  | left
  | right (addMessagesSuccess : Bool) (phAsset : Option PHAsset) (sendID : Option String)
deriving DecidableEq, Repr

/-- What a row of the chat is: the header of a day, or a message. -/
inductive ChatRowSubclass
  | header (sendDateStr : Option String)
  | message (bubble : ChatBubble)
deriving DecidableEq, Repr

/-- A row of the chat, with the message above it. -/
structure ChatRowViewModel where
  previousMessage : Option Message := none
  currentMessage : Option Message := none
  subclass : ChatRowSubclass
deriving DecidableEq, Repr

/-- The rows of a day. -/
structure ChatSectionViewModel where
  rowViewModels : List ChatRowViewModel
deriving DecidableEq, Repr

/-- What the screen of the chat is bound to. -/
structure ChatViewModel where
  assets : List ChatAsset := []
  movieId : Option String
  haveAddMessage : Bool := false
  isFetching : Bool := false
  sectionViewModels : List ChatSectionViewModel := []
deriving DecidableEq, Repr

/-- The id of the document that the send of this row creates. -/
def ChatBubble.sendID : ChatBubble → Option String
  | left => none
  | right _ _ sendID => sendID

/-- The `addMessagesSuccess` of the row whose send creates a document. -/
def ChatBubble.setSuccess (documentID : String) (success : Bool) : ChatBubble → ChatBubble
  | left => left
  | right addMessagesSuccess phAsset sendID =>
      right (if sendID = some documentID then success else addMessagesSuccess) phAsset sendID

/-- Tell the row of a message whether it was sent. -/
def ChatRowViewModel.setSuccess (documentID : String) (success : Bool)
    (rowVM : ChatRowViewModel) : ChatRowViewModel :=
  match rowVM.subclass with
  | .header _ => rowVM
  | .message bubble => { rowVM with subclass := .message (bubble.setSuccess documentID success) }

/-- Tell the row of a section whether its message was sent. -/
def ChatSectionViewModel.setSuccess (documentID : String) (success : Bool)
    (sectionVM : ChatSectionViewModel) : ChatSectionViewModel :=
  ⟨sectionVM.rowViewModels.map (ChatRowViewModel.setSuccess documentID success)⟩

/-- What `tapButtonMessageImageView` of the row's cell hands on. -/
def ChatRowViewModel.tapButtonMessageImageView (rowVM : ChatRowViewModel) : Option ChatAsset := do
  let imageName ← rowVM.currentMessage.bind Message.imageName
  let accountId ← rowVM.currentMessage.bind Message.accountId
  return { accountId, imageName }

@[simp] theorem ChatBubble.sendID_setSuccess (documentID : String) (success : Bool)
    (bubble : ChatBubble) : (bubble.setSuccess documentID success).sendID = bubble.sendID := by
  cases bubble <;> rfl

end MovieFun
