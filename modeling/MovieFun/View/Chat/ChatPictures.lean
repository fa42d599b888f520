import Mathlib.Data.List.Nodup
import MovieFun.View.Chat.RowsAgree
import MovieFun.View.Chat.StorageKeys
import MovieFun.View.ImageView
import MovieFun.View.PhotoGallery.ZoomedPicture

/-!
# The pictures of a reused chat cell

A cell of the chat shows one row after another. For a picture that is not cached it puts a new
image view over its own, and the reply writes into that view; the next set-up removes it. So a
late reply reaches no view that is still shown, and a cell only ever shows pictures cached under
the keys of its row (`ownPictures_of_run`). A late reply does take away the spinner, and a failed
one leaves it (`spinnerTells_iff_allowed`).
-/

namespace MovieFun

/-- Where a picture is fetched from: the photo library, or the storage, for a message or for an
account. -/
inductive PictureSource
  | photo
  | message
  | account
deriving DecidableEq, Repr

/-- A request for a picture, with the number of the image view that its completion captures. -/
structure PictureRequest where
  number : Nat
  key : String
  source : PictureSource
deriving DecidableEq, Repr

namespace UIImageView

/-- A new view without an image is put over this one. -/
def addImageView (number : Nat) (view : UIImageView) : UIImageView :=
  { view with subviews := view.subviews ++ [.imageView number none] }

/-- Set the image of a created view, which shows only while the view is over this one. -/
def setImage (number : Nat) (image : UIImage) (view : UIImageView) : UIImageView :=
  { view with
    subviews := view.subviews.map fun subview =>
      match subview with
      | .spinnerView => .spinnerView
      | .imageView other old => .imageView other (if other = number then some image else old) }

/-- Every image that the view or a view over it has. -/
def pictures (view : UIImageView) : List UIImage :=
  view.image.toList ++ view.subviews.filterMap Subview.image

/-- Show the picture of a request from the cache, or make the request. -/
def load (request : PictureRequest) (spins : Bool) (cache : ImageCache) (view : UIImageView) :
    UIImageView × Option PictureRequest :=
  match cache request.key with
  | some image => ({ view with image := some image }, none)
  | none =>
      let view : UIImageView := { view with image := none }
      let view := if spins then view.addSpinnerView else view
      (view.addImageView request.number, some request)

end UIImageView

/-- The photo of a right-hand row. -/
def ChatRowViewModel.phAsset (viewModel : ChatRowViewModel) : Option PHAsset :=
  match viewModel.subclass with
  | .message (.right _ phAsset _) => phAsset
  | _ => none

/-- Whether the message of the row is flagged as a picture. -/
def ChatRowViewModel.isMessageImage (viewModel : ChatRowViewModel) : Bool :=
  (viewModel.currentMessage.bind Message.isMessageImage).getD false

/-- The pictures of a cell, with the row that it was last set up with. -/
structure ChatPictureCell where
  chatViewModel : Option ChatRowViewModel := none
  messageImageView : UIImageView := {}
  accountImageView : UIImageView := {}
deriving DecidableEq, Repr

namespace ChatPictureCell

/-- The picture of the message of a row, from the cache or by a request. -/
def setUpChatImage (accountId : String) (viewModel : ChatRowViewModel) (number : Nat)
    (cache : ImageCache) (messageImageView : UIImageView) :
    UIImageView × Option PictureRequest :=
  match viewModel.currentMessage.bind Message.imageName with
  | none => (messageImageView, none)
  | some imageName =>
      let source := if viewModel.phAsset.isSome then .photo else .message
      messageImageView.load { number, key := accountId ++ "/" ++ imageName, source } true cache

/-- The picture of an account, from the cache or by a request. -/
def setUpAccountImage (accountId : String) (number : Nat) (cache : ImageCache)
    (accountImageView : UIImageView) : UIImageView × Option PictureRequest :=
  accountImageView.load { number, key := accountId, source := .account } false cache

/-- The picture of a message, where the row has one. -/
def setUpMessageImage (hasPicture : Bool) (viewModel : ChatRowViewModel) (number : Nat)
    (cache : ImageCache) (messageImageView : UIImageView) :
    Option (UIImageView × Option PictureRequest) :=
  if hasPicture then
    (viewModel.currentMessage.bind Message.accountId).map fun accountId =>
      setUpChatImage accountId viewModel number cache messageImageView
  else some ({ messageImageView with image := none }, none)

/-- The picture of the sender, where the row above is another one's. -/
def setUpSenderImage (viewModel : ChatRowViewModel) (number : Nat) (cache : ImageCache)
    (accountImageView : UIImageView) : Option (UIImageView × Option PictureRequest) :=
  let previousAccId := viewModel.previousMessage.bind Message.accountId
  let currentAccId := viewModel.currentMessage.bind Message.accountId
  if previousAccId ≠ currentAccId then
    currentAccId.map fun accountId => setUpAccountImage accountId number cache accountImageView
  else some ({ accountImageView with image := none }, none)

/-- A cell at a row of another account, with what it requests. -/
def setUpChatLeft (viewModel : ChatRowViewModel) (created : Nat) (cache : ImageCache)
    (cell : ChatPictureCell) : Option (ChatPictureCell × List PictureRequest) := do
  let (accountImageView, account) ←
    setUpSenderImage viewModel created cache cell.accountImageView.removeSubviews
  let hasPicture := viewModel.isMessageImage ∧
    (viewModel.currentMessage.bind Message.imageName).isSome
  let (messageImageView, picture) ←
    setUpMessageImage hasPicture viewModel (created + 1) cache cell.messageImageView
  return ({ cell with messageImageView, accountImageView }, account.toList ++ picture.toList)

/-- A cell at a row of the own account, with what it requests. -/
def setUpChatRight (viewModel : ChatRowViewModel) (created : Nat) (cache : ImageCache)
    (cell : ChatPictureCell) : Option (ChatPictureCell × List PictureRequest) := do
  let hasPicture := viewModel.isMessageImage ∧
    ((viewModel.currentMessage.bind Message.imageName).isSome ∨ viewModel.phAsset.isSome)
  let (messageImageView, picture) ←
    setUpMessageImage hasPicture viewModel (created + 1) cache cell.messageImageView
  return ({ cell with messageImageView }, picture.toList)

/-- The cell set up with a row, and the requests it makes. `none` is a trap. -/
def setUp (viewModel : ChatRowViewModel) (created : Nat) (cache : ImageCache)
    (cell : ChatPictureCell) : Option (ChatPictureCell × List PictureRequest) :=
  let cell : ChatPictureCell :=
    { cell with
      chatViewModel := some viewModel
      messageImageView := cell.messageImageView.removeSubviews }
  match viewModel.subclass with
  | .message .left => cell.setUpChatLeft viewModel created cache
  | .message (.right ..) => cell.setUpChatRight viewModel created cache
  | .header _ => some (cell, [])

/-- A picture arrives: the view of its request has it, and a message spins no more. -/
def bring (request : PictureRequest) (image : UIImage) (cell : ChatPictureCell) :
    ChatPictureCell :=
  match request.source with
  | .account =>
      { cell with accountImageView := cell.accountImageView.setImage request.number image }
  | _ =>
      { cell with
        messageImageView :=
          (cell.messageImageView.setImage request.number image).removeSpinnerView }

/-- The picture of an account does not touch the picture of the message. -/
theorem messageImageView_bring_account {request : PictureRequest} (image : UIImage)
    (cell : ChatPictureCell) (forAccount : request.source = .account) :
    (cell.bring request image).messageImageView = cell.messageImageView := by
  rw [bring, forAccount]

/-- The picture of a message goes to its view, and the spinner goes. -/
theorem messageImageView_bring {request : PictureRequest} (image : UIImage)
    (cell : ChatPictureCell) (forMessage : request.source ≠ .account) :
    (cell.bring request image).messageImageView =
      (cell.messageImageView.setImage request.number image).removeSpinnerView := by
  rw [bring]
  split
  · next forAccount => exact absurd forAccount forMessage
  · rfl

end ChatPictureCell

/-- A cell for the rows of one side, the cache, the requests without a reply, and how many
image views were created. -/
structure ChatPictures where
  isLeft : Bool
  cell : ChatPictureCell := {}
  cache : ImageCache := fun _ => none
  requests : List PictureRequest := []
  created : Nat := 0

/-- What can reach the cell and the cache. -/
inductive ChatPictureEvent
  | setUp (viewModel : ChatRowViewModel)
  | photoReply (request : PictureRequest) (hasImage : Bool)
  | downloadReply (request : PictureRequest) (data : Option ImageData) (error : Option NSError)
  | cached (key : String)
  | evicted (key : String)

namespace ChatPictures

/-- A cell is dequeued for the rows of its side, and a request is answered once. -/
def enabled (system : ChatPictures) : ChatPictureEvent → Bool
  | .setUp viewModel =>
      match viewModel.subclass with
      | .message .left => system.isLeft
      | .message (.right ..) => !system.isLeft
      | .header _ => false
  | .photoReply request _ => decide (request ∈ system.requests) && request.source == .photo
  | .downloadReply request _ _ =>
      decide (request ∈ system.requests) && !(request.source == .photo)
  | _ => true

/-- A reply without a picture. -/
def drop (request : PictureRequest) (system : ChatPictures) : ChatPictures :=
  { system with requests := system.requests.erase request }

/-- A reply with a picture. -/
def arrive (request : PictureRequest) (image : UIImage) (system : ChatPictures) : ChatPictures :=
  { system with
    cell := system.cell.bring request image
    cache := Function.update system.cache request.key (some image)
    requests := system.requests.erase request }

/-- `none` is a trap. -/
def handle (system : ChatPictures) : ChatPictureEvent → Option ChatPictures
  | .setUp viewModel =>
      (system.cell.setUp viewModel system.created system.cache).map fun (cell, requests) =>
        { system with
          cell
          requests := system.requests ++ requests
          created := system.created + 2 }
  | .photoReply request hasImage =>
      some (if hasImage then system.arrive request ⟨request.key⟩ else system.drop request)
  | .downloadReply request data error =>
      match error, data with
      | none, some data => (UIImage.ofData request.key data).map fun image =>
          system.arrive request image
      | _, _ => some (system.drop request)
  | .cached key => some { system with cache := Function.update system.cache key (some ⟨key⟩) }
  | .evicted key => some { system with cache := Function.update system.cache key none }

/-- The system after an event that can happen. -/
def step (system : ChatPictures) (event : ChatPictureEvent) : Option ChatPictures :=
  if system.enabled event then system.handle event else none

end ChatPictures

/-! ## An image view and its requests -/

namespace UIImageView

variable {view : UIImageView} {requests : List PictureRequest} {created : Nat} {key : Option String}

/-- One of the created views is over this one. -/
def Over (number : Nat) (view : UIImageView) : Prop :=
  ∃ image, .imageView number image ∈ view.subviews

/-- The view has only pictures of the key, at most one created view is over it, and what is
requested for that one is of the key. -/
structure Follows (requests : List PictureRequest) (created : Nat) (key : Option String)
    (view : UIImageView) : Prop where
  own : ∀ image ∈ view.pictures, key = some image.path
  below : ∀ number, view.Over number → number < created
  single : ∀ first second, view.Over first → view.Over second → first = second
  requested : ∀ request ∈ requests, view.Over request.number → key = some request.key

/-- A picture is that of the view itself or of one over it. -/
theorem mem_pictures {image : UIImage} :
    image ∈ view.pictures ↔
      view.image = some image ∨ ∃ number, .imageView number (some image) ∈ view.subviews := by
  rw [pictures, List.mem_append, Option.mem_toList, List.mem_filterMap]
  refine or_congr Iff.rfl ⟨?_, ?_⟩
  · rintro ⟨subview, inside, isImage⟩
    cases subview with
    | spinnerView => cases isImage
    | imageView number old =>
        change old = some image at isImage
        subst isImage
        exact ⟨number, inside⟩
  · rintro ⟨number, inside⟩
    exact ⟨_, inside, rfl⟩

/-- The views over a view when the image of one is set. -/
theorem mem_subviews_setImage {number other : Nat} {image : UIImage} {shown : Option UIImage} :
    .imageView other shown ∈ (view.setImage number image).subviews ↔
      ∃ old, .imageView other old ∈ view.subviews ∧
        shown = if other = number then some image else old := by
  simp only [setImage, List.mem_map]
  constructor
  · rintro ⟨subview, inside, isIt⟩
    cases subview with
    | spinnerView => cases isIt
    | imageView own old =>
        cases isIt
        exact ⟨old, inside, rfl⟩
  · rintro ⟨old, inside, rfl⟩
    exact ⟨_, inside, rfl⟩

@[simp] theorem over_setImage {number other : Nat} {image : UIImage} :
    (view.setImage number image).Over other ↔ view.Over other := by
  simp only [Over, mem_subviews_setImage]
  constructor
  · rintro ⟨shown, old, inside, -⟩
    exact ⟨old, inside⟩
  · rintro ⟨old, inside⟩
    exact ⟨_, old, inside, rfl⟩

/-- Removing the spinner leaves the image views. -/
theorem mem_subviews_removeSpinnerView {number : Nat} {image : Option UIImage} :
    .imageView number image ∈ view.removeSpinnerView.subviews ↔
      .imageView number image ∈ view.subviews := by
  rw [removeSpinnerView, List.mem_filter]
  exact and_iff_left (by simp)

@[simp] theorem over_removeSpinnerView {number : Nat} :
    view.removeSpinnerView.Over number ↔ view.Over number := by
  simp only [Over, mem_subviews_removeSpinnerView]

/-- A view with nothing on it. -/
theorem follows_of_blank (image : view.image = none) (subviews : view.subviews = []) :
    view.Follows requests created key where
  own shown member := by
    rw [pictures, image, subviews] at member
    cases member
  below number covers := by
    obtain ⟨shown, inside⟩ := covers
    rw [subviews] at inside
    cases inside
  single first second covers := by
    obtain ⟨shown, inside⟩ := covers
    rw [subviews] at inside
    cases inside
  requested request _ covers := by
    obtain ⟨shown, inside⟩ := covers
    rw [subviews] at inside
    cases inside

/-- The requests may become fewer, or more by ones for views yet to be created. -/
theorem Follows.mono {more : List PictureRequest} {later : Nat}
    (follows : view.Follows requests created key) (grows : created ≤ later)
    (known : ∀ request ∈ more, request ∈ requests ∨ created ≤ request.number) :
    view.Follows more later key where
  own := follows.own
  below := fun number covers => (follows.below number covers).trans_le grows
  single := follows.single
  requested := fun request member covers => by
    rcases known request member with older | isNew
    · exact follows.requested request older covers
    · exact absurd (follows.below request.number covers) (Nat.not_lt.mpr isNew)

/-- What a request brings is a picture of the key, where it is seen at all. -/
theorem Follows.setImage (follows : view.Follows requests created key) {request : PictureRequest}
    (member : request ∈ requests) :
    (view.setImage request.number ⟨request.key⟩).Follows requests created key where
  own := by
    intro shown isShown
    rcases mem_pictures.mp isShown with own | ⟨number, inside⟩
    · exact follows.own shown (mem_pictures.mpr (.inl own))
    · obtain ⟨old, wasInside, isImage⟩ := mem_subviews_setImage.mp inside
      split at isImage
      · next same =>
        subst same
        cases isImage
        exact follows.requested request member ⟨old, wasInside⟩
      · subst isImage
        exact follows.own shown (mem_pictures.mpr (.inr ⟨number, wasInside⟩))
  below := fun number covers => follows.below number (over_setImage.mp covers)
  single := fun first second one two =>
    follows.single first second (over_setImage.mp one) (over_setImage.mp two)
  requested := fun other inside covers => follows.requested other inside (over_setImage.mp covers)

/-- Removing the spinner leaves what the view follows. -/
theorem Follows.removeSpinnerView (follows : view.Follows requests created key) :
    view.removeSpinnerView.Follows requests created key where
  own := by
    intro shown isShown
    rcases mem_pictures.mp isShown with own | ⟨number, inside⟩
    · exact follows.own shown (mem_pictures.mpr (.inl own))
    · exact follows.own shown
        (mem_pictures.mpr (.inr ⟨number, mem_subviews_removeSpinnerView.mp inside⟩))
  below := fun number covers => follows.below number (over_removeSpinnerView.mp covers)
  single := fun first second one two =>
    follows.single first second (over_removeSpinnerView.mp one) (over_removeSpinnerView.mp two)
  requested := fun other inside covers =>
    follows.requested other inside (over_removeSpinnerView.mp covers)

/-- What loading does to a view that has nothing over it. -/
inductive Loaded (request : PictureRequest) (spins : Bool) (cache : ImageCache) :
    UIImageView × Option PictureRequest → Prop
  | cached {image : UIImage} (held : cache request.key = some image) :
      Loaded request spins cache ({ image := some image }, none)
  | requested (absent : cache request.key = none) :
      Loaded request spins cache
        ({ subviews := (if spins then [.spinnerView] else []) ++ [.imageView request.number none] },
          some request)

/-- What loading a picture does to a view without others over it. -/
theorem loaded_load (request : PictureRequest) (spins : Bool) (cache : ImageCache)
    (bare : view.subviews = []) : Loaded request spins cache (view.load request spins cache) := by
  rw [load]
  cases held : cache request.key with
  | some image =>
      dsimp only
      rw [bare]
      exact .cached held
  | none =>
      cases spins <;>
      · simp only [addImageView, addSpinnerView, bare]
        exact .requested held

/-- A view that loads a picture follows its key. -/
theorem Loaded.follows {request : PictureRequest} {spins : Bool} {cache : ImageCache}
    {loaded : UIImageView × Option PictureRequest} (isLoaded : Loaded request spins cache loaded)
    (cached : ∀ path image, cache path = some image → image.path = path)
    (below : request.number < created)
    (known : ∀ other ∈ requests, other.number = request.number → other = request) :
    loaded.1.Follows requests created (some request.key) := by
  cases isLoaded with
  | cached held =>
      refine ⟨?_, ?_, ?_, ?_⟩
      · intro image member
        rcases mem_pictures.mp member with own | ⟨number, inside⟩
        · cases own
          rw [cached request.key _ held]
        · cases inside
      · rintro number ⟨shown, inside⟩
        cases inside
      · rintro first second ⟨shown, inside⟩
        cases inside
      · rintro other _ ⟨shown, inside⟩
        cases inside
  | requested absent =>
      have overIff : ∀ number, UIImageView.Over number
          { subviews := (if spins then [.spinnerView] else []) ++
            [.imageView request.number none] } → number = request.number := by
        rintro number ⟨shown, inside⟩
        cases spins <;> simp at inside <;> exact inside.1
      refine ⟨?_, ?_, ?_, ?_⟩
      · intro image member
        rcases mem_pictures.mp member with own | ⟨number, inside⟩
        · cases own
        · cases spins <;> simp at inside
      · intro number covers
        rw [overIff number covers]
        exact below
      · intro first second one two
        rw [overIff first one, overIff second two]
      · intro other member covers
        rw [known other member (overIff other.number covers)]

end UIImageView

/-! ## What holds of the cell in every run -/

/-- The key of the picture of a row. -/
def ChatRowViewModel.pictureKey (viewModel : ChatRowViewModel) : Option String :=
  viewModel.currentMessage.bind storageKey

/-- The key of the picture of the sender, which a row shows when the row above it is another
one's. -/
def ChatRowViewModel.accountKey (viewModel : ChatRowViewModel) : Option String :=
  if viewModel.previousMessage.bind Message.accountId ≠
      viewModel.currentMessage.bind Message.accountId then
    viewModel.currentMessage.bind Message.accountId
  else none

/-- A row with a photo has a message that names its picture. -/
def ChatRowViewModel.Named (viewModel : ChatRowViewModel) : Prop :=
  viewModel.phAsset.isSome → (viewModel.currentMessage.bind Message.imageName).isSome

/-- What an event answers, and whether with a picture. -/
def ChatPictureEvent.answer : ChatPictureEvent → Option (PictureRequest × Bool)
  | photoReply request hasImage => some (request, hasImage)
  | downloadReply request data error => some (request, error.isNone && data.isSome)
  | _ => none

/-- A row that is set up has a name for its photo. -/
def ChatPictureEvent.Named : ChatPictureEvent → Prop
  | setUp viewModel => viewModel.Named
  | _ => True

namespace ChatPictures

/-- What a step does, by its event. -/
inductive Taken (system next : ChatPictures) : ChatPictureEvent → Prop
  | setUp {viewModel : ChatRowViewModel} {cell : ChatPictureCell}
      {requests : List PictureRequest}
      (side : system.enabled (.setUp viewModel))
      (isSetUp : system.cell.setUp viewModel system.created system.cache = some (cell, requests))
      (isNext : next = { system with
        cell
        requests := system.requests ++ requests
        created := system.created + 2 }) : Taken system next (.setUp viewModel)
  | arrived {event : ChatPictureEvent} {request : PictureRequest}
      (answers : event.answer = some (request, true)) (waits : request ∈ system.requests)
      (isNext : next = system.arrive request ⟨request.key⟩) : Taken system next event
  | dropped {event : ChatPictureEvent} {request : PictureRequest}
      (answers : event.answer = some (request, false)) (waits : request ∈ system.requests)
      (isNext : next = system.drop request) : Taken system next event
  | stored {event : ChatPictureEvent} {key : String} {image : Option UIImage}
      (silent : event.answer = none) (quiet : ∀ viewModel, event ≠ .setUp viewModel)
      (own : ∀ shown ∈ image, shown.path = key)
      (isNext : next = { system with cache := Function.update system.cache key image }) :
      Taken system next event

variable {system next : ChatPictures} {event : ChatPictureEvent}

/-- A step is what its event does. -/
theorem taken_of_step (taken : system.step event = some next) : Taken system next event := by
  unfold step at taken
  split at taken
  · next isEnabled =>
    cases event with
    | setUp viewModel =>
        obtain ⟨⟨cell, requests⟩, isSetUp, isNext⟩ := Option.map_eq_some_iff.mp taken
        exact .setUp isEnabled isSetUp isNext.symm
    | photoReply request hasImage =>
        have waits : request ∈ system.requests :=
          of_decide_eq_true (Bool.and_eq_true_iff.mp isEnabled).1
        cases hasImage with
        | true => exact .arrived rfl waits (Option.some.inj taken).symm
        | false => exact .dropped rfl waits (Option.some.inj taken).symm
    | downloadReply request data error =>
        have waits : request ∈ system.requests :=
          of_decide_eq_true (Bool.and_eq_true_iff.mp isEnabled).1
        cases error with
        | some error => exact .dropped rfl waits (Option.some.inj taken).symm
        | none =>
            cases data with
            | none => exact .dropped rfl waits (Option.some.inj taken).symm
            | some data =>
                obtain ⟨image, isImage, isNext⟩ := Option.map_eq_some_iff.mp taken
                rw [UIImage.ofData] at isImage
                split at isImage
                · cases isImage
                  exact .arrived rfl waits isNext.symm
                · cases isImage
    | cached key =>
        refine .stored rfl (fun _ same => by cases same) ?_ (Option.some.inj taken).symm
        rintro _ ⟨⟩
        rfl
    | evicted key =>
        exact .stored rfl (fun _ same => by cases same) (fun _ nothing => by cases nothing)
          (Option.some.inj taken).symm
  · cases taken

/-- What a set-up does to one of the two image views: it leaves it blank, or loads the picture
of the key with a view of that number. -/
inductive Prepared (key : Option String) (number : Nat) (forAccount : Bool) (cache : ImageCache) :
    UIImageView × Option PictureRequest → Prop
  | blank : Prepared key number forAccount cache ({}, none)
  | loaded {request : PictureRequest} {loaded : UIImageView × Option PictureRequest}
      (isKey : key = some request.key) (isNumber : request.number = number)
      (isSource : request.source = .account ↔ forAccount)
      (isLoaded : UIImageView.Loaded request (!forAccount) cache loaded) :
      Prepared key number forAccount cache loaded

/-- What setting up the picture of a message does. -/
theorem prepared_message {hasPicture : Bool} {viewModel : ChatRowViewModel} {number : Nat}
    {cache : ImageCache} {view : UIImageView} {result : UIImageView × Option PictureRequest}
    (bare : view.subviews = [])
    (named : hasPicture → (viewModel.currentMessage.bind Message.imageName).isSome)
    (isSetUp : ChatPictureCell.setUpMessageImage hasPicture viewModel number cache view =
      some result) : Prepared viewModel.pictureKey number false cache result := by
  rw [ChatPictureCell.setUpMessageImage] at isSetUp
  split at isSetUp
  · next picture =>
    obtain ⟨accountId, account, rfl⟩ := Option.map_eq_some_iff.mp isSetUp
    obtain ⟨imageName, isName⟩ := Option.isSome_iff_exists.mp (named picture)
    rw [ChatPictureCell.setUpChatImage, isName]
    refine .loaded ?_ rfl ?_ (UIImageView.loaded_load _ true cache bare)
    · obtain ⟨message, isMessage, isOwn⟩ := Option.bind_eq_some_iff.mp account
      rw [isMessage, Option.bind_some] at isName
      rw [ChatRowViewModel.pictureKey, isMessage, Option.bind_some, storageKey, isOwn, isName]
      rfl
    · dsimp only
      split <;> exact iff_of_false (fun isAccount => by cases isAccount) Bool.false_ne_true
  · cases isSetUp
    rw [bare]
    exact .blank

/-- What setting up the picture of a sender does. -/
theorem prepared_account {viewModel : ChatRowViewModel} {number : Nat} {cache : ImageCache}
    {view : UIImageView} {result : UIImageView × Option PictureRequest}
    (bare : view.subviews = [])
    (isSetUp : ChatPictureCell.setUpSenderImage viewModel number cache view = some result) :
    Prepared viewModel.accountKey number true cache result := by
  rw [ChatPictureCell.setUpSenderImage] at isSetUp
  split at isSetUp
  · next another =>
    obtain ⟨accountId, account, rfl⟩ := Option.map_eq_some_iff.mp isSetUp
    refine .loaded ?_ rfl (iff_of_true rfl rfl) (UIImageView.loaded_load _ false cache bare)
    rw [ChatRowViewModel.accountKey, if_pos another, account]
  · cases isSetUp
    rw [bare]
    exact .blank

/-- A set-up prepares both image views. -/
theorem prepared_of_setUp {viewModel : ChatRowViewModel} {cell : ChatPictureCell}
    {requests : List PictureRequest} (named : viewModel.Named)
    (side : system.enabled (.setUp viewModel))
    (right : system.isLeft = false → system.cell.accountImageView = {})
    (isSetUp : system.cell.setUp viewModel system.created system.cache =
      some (cell, requests)) :
    ∃ message account, cell = ⟨some viewModel, message.1, account.1⟩ ∧
      requests = account.2.toList ++ message.2.toList ∧
      Prepared viewModel.pictureKey (system.created + 1) false system.cache message ∧
      Prepared viewModel.accountKey system.created true system.cache account ∧
      (system.isLeft = false → account = ({}, none)) := by
  cases subclass : viewModel.subclass with
  | header sendDateStr =>
      simp only [enabled, subclass] at side
      cases side
  | message bubble =>
      cases bubble with
      | left =>
          simp only [enabled, subclass] at side
          simp only [ChatPictureCell.setUp, subclass, ChatPictureCell.setUpChatLeft,
            Option.bind_eq_bind, Option.bind_eq_some_iff] at isSetUp
          obtain ⟨account, isAccount, message, isMessage, done⟩ := isSetUp
          cases done
          refine ⟨message, account, rfl, rfl, prepared_message rfl ?_ isMessage,
            prepared_account rfl isAccount, fun notLeft => ?_⟩
          · exact fun picture => (of_decide_eq_true picture).2
          · rw [side] at notLeft
            cases notLeft
      | right addMessagesSuccess phAsset sendID =>
          simp only [enabled, subclass, Bool.not_eq_true'] at side
          simp only [ChatPictureCell.setUp, subclass, ChatPictureCell.setUpChatRight,
            Option.bind_eq_bind, Option.bind_eq_some_iff] at isSetUp
          obtain ⟨message, isMessage, done⟩ := isSetUp
          cases done
          refine ⟨message, ({}, none), ?_, rfl, prepared_message rfl ?_ isMessage, .blank,
            fun _ => rfl⟩
          · rw [right side]
          · intro picture
            rcases (of_decide_eq_true picture).2 with isName | isPhoto
            · exact isName
            · exact named isPhoto

/-- A request of a set-up has its number and its kind. -/
theorem Prepared.request {key : Option String} {number : Nat} {forAccount : Bool}
    {cache : ImageCache} {result : UIImageView × Option PictureRequest}
    (prepared : Prepared key number forAccount cache result) :
    ∀ request ∈ result.2, request.number = number ∧
      (request.source = .account ↔ forAccount) := by
  intro request member
  cases prepared with
  | blank => cases member
  | loaded isKey isNumber isSource isLoaded =>
      cases isLoaded with
      | cached held => cases member
      | requested absent =>
          cases member
          exact ⟨isNumber, isSource⟩

/-- A prepared view follows the key of its row. -/
theorem Prepared.follows {key : Option String} {number later : Nat} {forAccount : Bool}
    {cache : ImageCache} {result : UIImageView × Option PictureRequest}
    {requests : List PictureRequest} (prepared : Prepared key number forAccount cache result)
    (cached : ∀ path image, cache path = some image → image.path = path)
    (below : number < later)
    (known : ∀ other ∈ requests, other.number = number → other ∈ result.2) :
    result.1.Follows requests later key := by
  cases prepared with
  | blank => exact UIImageView.follows_of_blank rfl rfl
  | @loaded request _ isKey isNumber isSource isLoaded =>
      rw [isKey]
      refine isLoaded.follows cached (isNumber ▸ below) fun other member same => ?_
      have inResult := known other member (same.trans isNumber)
      cases isLoaded with
      | cached held => cases inResult
      | requested absent => exact (Option.some.inj inResult).symm

/-- The view over a prepared one is of its number. -/
theorem Prepared.covers {key : Option String} {number other : Nat} {forAccount : Bool}
    {cache : ImageCache} {result : UIImageView × Option PictureRequest}
    (prepared : Prepared key number forAccount cache result) (covers : result.1.Over other) :
    other = number := by
  obtain ⟨image, inside⟩ := covers
  cases prepared with
  | blank => cases inside
  | loaded isKey isNumber isSource isLoaded =>
      cases isLoaded with
      | cached held => cases inside
      | requested absent =>
          cases forAccount <;> simp at inside <;> exact inside.1.trans isNumber

/-- What holds of the cell, the cache and the requests in every run. -/
structure Sound (system : ChatPictures) : Prop where
  cached : ∀ path image, system.cache path = some image → image.path = path
  below : ∀ request ∈ system.requests, request.number < system.created
  distinct : (system.requests.map PictureRequest.number).Nodup
  message : system.cell.messageImageView.Follows system.requests system.created
    (system.cell.chatViewModel.bind ChatRowViewModel.pictureKey)
  account : system.cell.accountImageView.Follows system.requests system.created
    (system.cell.chatViewModel.bind ChatRowViewModel.accountKey)
  right : system.isLeft = false → system.cell.accountImageView = {}
  forMessage : ∀ request ∈ system.requests,
    system.cell.messageImageView.Over request.number → request.source ≠ .account

theorem sound_initial (isLeft : Bool) : Sound { isLeft } where
  cached _ _ held := nomatch held
  below _ member := absurd member List.not_mem_nil
  distinct := List.nodup_nil
  message := UIImageView.follows_of_blank rfl rfl
  account := UIImageView.follows_of_blank rfl rfl
  right _ := rfl
  forMessage _ member := absurd member List.not_mem_nil

/-- A set-up keeps what is sound. -/
theorem sound_of_setUp {viewModel : ChatRowViewModel} (sound : system.Sound)
    (named : viewModel.Named) (taken : system.step (.setUp viewModel) = some next) :
    next.Sound := by
  cases taken_of_step taken with
  | arrived answers => cases answers
  | dropped answers => cases answers
  | stored _ quiet => exact absurd rfl (quiet viewModel)
  | @setUp _ cell requests side isSetUp isNext =>
      obtain ⟨message, account, rfl, rfl, isMessage, isAccount, blank⟩ :=
        prepared_of_setUp named side sound.right isSetUp
      subst isNext
      have messageBelow : system.created + 1 < system.created + 2 := Nat.lt_succ_self _
      have accountBelow : system.created < system.created + 2 := by omega
      have ofAccount : ∀ request ∈ account.2.toList, request.number = system.created :=
        fun request member => (isAccount.request request (Option.mem_toList.mp member)).1
      have ofMessage : ∀ request ∈ message.2.toList, request.number = system.created + 1 :=
        fun request member => (isMessage.request request (Option.mem_toList.mp member)).1
      have numbers : ∀ request ∈ system.requests ++ (account.2.toList ++ message.2.toList),
          request.number < system.created ∨ request ∈ account.2 ∧
            request.number = system.created ∨ request ∈ message.2 ∧
              request.number = system.created + 1 := by
        intro request member
        rcases List.mem_append.mp member with older | isNew
        · exact .inl (sound.below request older)
        · rcases List.mem_append.mp isNew with inAccount | inMessage
          · exact .inr (.inl ⟨Option.mem_toList.mp inAccount, ofAccount request inAccount⟩)
          · exact .inr (.inr ⟨Option.mem_toList.mp inMessage, ofMessage request inMessage⟩)
      constructor
      · exact sound.cached
      · intro request member
        rcases numbers request member with older | ⟨-, isIt⟩ | ⟨-, isIt⟩ <;> dsimp only <;> omega
      · rw [List.map_append, List.map_append]
        refine List.nodup_append.mpr ⟨sound.distinct, List.nodup_append.mpr ⟨?_, ?_, ?_⟩, ?_⟩
        · cases account.2 <;> simp
        · cases message.2 <;> simp
        · rintro _ inAccount _ inMessage rfl
          obtain ⟨first, isFirst, isNumber⟩ := List.mem_map.mp inAccount
          obtain ⟨second, isSecond, same⟩ := List.mem_map.mp inMessage
          rw [← isNumber, ofMessage second isSecond, ofAccount first isFirst] at same
          omega
        · rintro _ older _ isNew rfl
          obtain ⟨first, isFirst, isNumber⟩ := List.mem_map.mp older
          have below := sound.below first isFirst
          rcases List.mem_append.mp isNew with inAccount | inMessage
          · obtain ⟨second, isSecond, same⟩ := List.mem_map.mp inAccount
            rw [← isNumber, ofAccount second isSecond] at same
            omega
          · obtain ⟨second, isSecond, same⟩ := List.mem_map.mp inMessage
            rw [← isNumber, ofMessage second isSecond] at same
            omega
      · refine isMessage.follows sound.cached messageBelow fun other member same => ?_
        rcases numbers other member with older | ⟨-, isIt⟩ | ⟨inMessage, -⟩
        · omega
        · omega
        · exact inMessage
      · refine isAccount.follows sound.cached accountBelow fun other member same => ?_
        rcases numbers other member with older | ⟨inAccount, -⟩ | ⟨-, isIt⟩
        · omega
        · exact inAccount
        · omega
      · intro notLeft
        rw [blank notLeft]
      · intro request member covers
        have isOver := isMessage.covers covers
        rcases numbers request member with older | ⟨-, isIt⟩ | ⟨inMessage, -⟩
        · omega
        · omega
        · exact fun isAccount => nomatch ((isMessage.request request inMessage).2.mp isAccount)

/-- The requests but for one that was answered. -/
theorem known_erase {request : PictureRequest} :
    ∀ other ∈ system.requests.erase request,
      other ∈ system.requests ∨ system.created ≤ other.number :=
  fun _ member => .inl (List.mem_of_mem_erase member)

/-- What is requested stays numbered apart when one of it is answered. -/
theorem distinct_erase (sound : system.Sound) (request : PictureRequest) :
    ((system.requests.erase request).map PictureRequest.number).Nodup :=
  sound.distinct.sublist (List.erase_sublist.map _)

/-- A reply without a picture keeps what is sound. -/
theorem sound_drop (sound : system.Sound) (request : PictureRequest) :
    (system.drop request).Sound where
  cached := sound.cached
  below := fun other member => sound.below other (List.mem_of_mem_erase member)
  distinct := distinct_erase sound request
  message := sound.message.mono le_rfl known_erase
  account := sound.account.mono le_rfl known_erase
  right := sound.right
  forMessage := fun other member => sound.forMessage other (List.mem_of_mem_erase member)

/-- A reply with a picture keeps what is sound. -/
theorem sound_arrive (sound : system.Sound) {request : PictureRequest}
    (waits : request ∈ system.requests) : (system.arrive request ⟨request.key⟩).Sound := by
  have message := sound.message.mono le_rfl (@known_erase system request)
  have account := sound.account.mono le_rfl (@known_erase system request)
  have brought := ((sound.message.setImage waits).removeSpinnerView).mono le_rfl
    (@known_erase system request)
  have signed := (sound.account.setImage waits).mono le_rfl (@known_erase system request)
  constructor
  · exact GalleryCellSystem.cached_update sound.cached GalleryCellSystem.path_of_mem
  · exact fun other member => sound.below other (List.mem_of_mem_erase member)
  · exact distinct_erase sound request
  · rw [arrive, ChatPictureCell.bring]
    cases request.source <;> assumption
  · rw [arrive, ChatPictureCell.bring]
    cases request.source <;> assumption
  · intro notLeft
    rw [arrive, ChatPictureCell.bring]
    cases request.source with
    | account => exact (congrArg (UIImageView.setImage _ _) (sound.right notLeft)).trans rfl
    | _ => exact sound.right notLeft
  · intro other member covers
    apply sound.forMessage other (List.mem_of_mem_erase member)
    rw [arrive, ChatPictureCell.bring] at covers
    cases source : request.source <;> rw [source] at covers <;> simpa using covers

/-- Every step keeps the cell sound. -/
theorem sound_of_step (sound : system.Sound) (named : event.Named)
    (taken : system.step event = some next) : next.Sound := by
  cases taken_of_step taken with
  | setUp => exact sound_of_setUp sound named taken
  | arrived _ waits isNext => exact isNext ▸ sound_arrive sound waits
  | dropped _ _ isNext => exact isNext ▸ sound_drop sound _
  | stored _ _ own isNext =>
      subst isNext
      exact ⟨GalleryCellSystem.cached_update sound.cached own, sound.below, sound.distinct,
        sound.message, sound.account, sound.right, sound.forMessage⟩

/-- The cell shows only a picture cached under the file name of its row's message, and one cached
under its sender only where the row above is another one's. -/
def OwnPictures (system : ChatPictures) : Prop :=
  (∀ image ∈ system.cell.messageImageView.pictures,
      system.cell.chatViewModel.bind ChatRowViewModel.pictureKey = some image.path) ∧
    ∀ image ∈ system.cell.accountImageView.pictures,
      system.cell.chatViewModel.bind ChatRowViewModel.accountKey = some image.path

/-! ## The rows of the chat -/

end ChatPictures

/-- An entry with a photo has a message that names its picture. -/
def ChatEntry.Named (entry : ChatEntry) : Prop :=
  (entry.row none).Named

section Rows

open ChatSystem

variable {fm : DateFormatter} {system next : ChatSystem} {event : ChatEvent}

theorem ChatEntry.named_builtEntry (share : AccountService) (message : Message) :
    (builtEntry share message).Named := by
  intro isPhoto
  simp only [builtEntry, row, ChatRowViewModel.phAsset] at isPhoto
  split at isPhoto
  · next same =>
    split at same
    · cases same
      cases isPhoto
    · cases same
  · cases isPhoto

/-- A message that is composed names its picture. -/
theorem Composes.named {share : AccountService} {now : Date} {send : ChatSend}
    {phAsset : Option PHAsset} (composes : Composes fm share now event send phAsset)
    (sendID : Option String) : (ownEntry send phAsset sendID).Named := by
  intro isPhoto
  cases composes with
  | text composed => cases isPhoto
  | picture named composed =>
      obtain ⟨sendDate, cut, rfl⟩ := ChatController.imageMessage_eq_some fm composed
      rfl

theorem ChatEntry.Named.setSuccess {entry : ChatEntry} (named : entry.Named)
    (documentID : String) (success : Bool) : (entry.setSuccess documentID success).Named := by
  obtain ⟨message, bubble⟩ := entry
  cases bubble with
  | left => exact named
  | right addMessagesSuccess phAsset sendID => exact named

/-- Every step keeps the photos with named pictures. -/
theorem named_of_chatStep (named : ∀ entry ∈ system.shown, entry.Named)
    (taken : step fm system event = some next) : ∀ entry ∈ next.shown, entry.Named := by
  have settled : ∀ documentID success, next.sections =
      system.sections.map (ChatSectionViewModel.setSuccess documentID success) →
        ∀ entry ∈ next.shown, entry.Named := by
    intro documentID success sections
    rw [shown, sections, timeline_setSuccess]
    exact List.forall_mem_map.mpr fun entry member =>
      (named entry member).setSuccess documentID success
  have own : ∀ {share now send phAsset sendID}, Composes fm share now event send phAsset →
      ChatController.addRowViewModel fm ((ownEntry send phAsset sendID).row none)
        system.sections = some next.sections → ∀ entry ∈ next.shown, entry.Named := by
    intro share now send phAsset sendID composes added
    rw [shown, (timeline_addRowViewModel added).2]
    exact List.forall_mem_append.mpr ⟨named, List.forall_mem_singleton.mpr (composes.named sendID)⟩
  cases effect_of_step taken with
  | kept _ sections =>
      rw [shown, sections]
      exact named
  | settled _ documentID success sections => exact settled documentID success sections
  | @stored documentID _ _ _ _ sections => exact settled documentID true sections
  | forgotten _ sections =>
      rw [shown, sections]
      exact named
  | @rebuilt share messages _ _ sections =>
      rw [shown, sections, timeline_builtSections]
      exact List.forall_mem_map.mpr fun message _ => ChatEntry.named_builtEntry share message
  | @received share batch new _ _ _ _ appended =>
      rw [shown, (timeline_appendRows appended).2]
      exact List.forall_mem_append.mpr ⟨named, List.forall_mem_map.mpr fun message _ =>
        ChatEntry.named_builtEntry share message⟩
  | own _ composes _ added => exact own composes added
  | sent _ composes _ _ added => exact own composes added

/-- A message row that a chat reaches. -/
def ChatRowViewModel.FromChat (fm : DateFormatter) (viewModel : ChatRowViewModel) : Prop :=
  ∃ movieId events system, run fm movieId events = some system ∧
    viewModel ∈ messageRows system.sections

/-- A row of a chat names its picture. -/
theorem ChatRowViewModel.FromChat.named (days : fm.DayInjective) {viewModel : ChatRowViewModel}
    (fromChat : viewModel.FromChat fm) : viewModel.Named := by
  obtain ⟨movieId, events, system, reached, member⟩ := fromChat
  have named : ∀ entry ∈ system.shown, entry.Named :=
    EventRun.invariant_state (fun system => ∀ entry ∈ system.shown, entry.Named)
      (fun _ inside => absurd inside List.not_mem_nil)
        (fun _ _ _ named taken => named_of_chatStep named taken) reached
  have rows := (rendered_of_run days reached).map_messageRows
  have hasMessage : viewModel.currentMessage ∈
      (timeline system.sections).map fun entry => some entry.message :=
    rows ▸ List.mem_map.mpr ⟨viewModel, member, rfl⟩
  obtain ⟨other, -, isMessage⟩ := List.mem_map.mp hasMessage
  obtain ⟨sectionVM, inSections, inside⟩ := List.mem_flatMap.mp member
  obtain ⟨isRow, isMessageRow⟩ := List.mem_filter.mp inside
  obtain ⟨previousMessage, currentMessage, subclass⟩ := viewModel
  cases isMessage
  cases subclass with
  | header sendDateStr => cases isMessageRow
  | message bubble =>
      refine named ⟨other.message, bubble⟩ (List.mem_flatMap.mpr ⟨sectionVM, inSections, ?_⟩)
      exact List.mem_filterMap.mpr ⟨_, isRow, rfl⟩

end Rows

namespace ChatPictures

variable {fm : DateFormatter} {isLeft : Bool} {events : List ChatPictureEvent}
  {system next : ChatPictures} {event : ChatPictureEvent}

/-- Set-ups with rows of a chat are with rows that name their pictures. -/
theorem named_of_fromChat (days : fm.DayInjective)
    (fromChat : ∀ viewModel, .setUp viewModel ∈ events → viewModel.FromChat fm) :
    ∀ event ∈ events, event.Named := by
  intro event member
  cases event with
  | setUp viewModel => exact (fromChat viewModel member).named days
  | _ => trivial

/-- Every run keeps what is sound. -/
theorem sound_of_run (named : ∀ event ∈ events, event.Named)
    (reached : EventRun.runFrom step { isLeft } events = some system) : system.Sound := by
  refine EventRun.invariant (fun _ => Sound) (sound_initial isLeft) ?_ reached
  intro before event state next inside sound taken
  have member : event ∈ events := inside.subset (List.mem_append_right _ List.mem_cons_self)
  exact sound_of_step sound (named event member) taken

/-- **A cell shows the pictures of its row.** Whatever rows of the chat a cell is set up with,
in whatever order its requests are answered, and whatever is cached and let go, the pictures it
shows are cached under the keys of the row it was last set up with. -/
theorem ownPictures_of_run (days : fm.DayInjective)
    (fromChat : ∀ viewModel, .setUp viewModel ∈ events → viewModel.FromChat fm)
    (reached : EventRun.runFrom step { isLeft } events = some system) : OwnPictures system := by
  have sound := sound_of_run (named_of_fromChat days fromChat) reached
  exact ⟨sound.message.own, sound.account.own⟩

/-! ## The spinner -/

/-- A request for the view over the picture of the message has no reply. -/
def Loading (system : ChatPictures) : Prop :=
  ∃ request ∈ system.requests, system.cell.messageImageView.Over request.number

/-- The spinner is there exactly while the request of the last set-up is on its way. -/
def SpinnerTells (system : ChatPictures) : Prop :=
  .spinnerView ∈ system.cell.messageImageView.subviews ↔ system.Loading

/-- A picture of a message arrives where it is waited for, or while nothing is; and what is
waited for is not answered without a picture. -/
def Allowed (system : ChatPictures) (event : ChatPictureEvent) : Prop :=
  ∀ request succeeded, event.answer = some (request, succeeded) →
    if succeeded then
      request.source = .account ∨
        system.cell.messageImageView.Over request.number ∨ ¬ system.Loading
    else ¬ system.cell.messageImageView.Over request.number

/-- What is left to wait for when a request was answered. -/
theorem loading_erase (sound : system.Sound) {request : PictureRequest}
    (waits : request ∈ system.requests) :
    (∃ other ∈ system.requests.erase request,
        system.cell.messageImageView.Over other.number) ↔
      system.Loading ∧ ¬ system.cell.messageImageView.Over request.number := by
  have nodup : system.requests.Nodup := sound.distinct.of_map _
  constructor
  · rintro ⟨other, inside, covers⟩
    have member := List.mem_of_mem_erase inside
    refine ⟨⟨other, member, covers⟩, fun also => ?_⟩
    have same := sound.message.single other.number request.number covers also
    have isIt := List.inj_on_of_nodup_map sound.distinct member waits same
    exact (nodup.mem_erase_iff.mp inside).1 isIt
  · rintro ⟨⟨other, member, covers⟩, gone⟩
    refine ⟨other, nodup.mem_erase_iff.mpr ⟨?_, member⟩, covers⟩
    rintro rfl
    exact gone covers

/-- A step leaves the spinner telling exactly when it is allowed. -/
theorem spinnerTells_step_iff (sound : system.Sound) (named : event.Named)
    (tells : system.SpinnerTells) (taken : system.step event = some next) :
    next.SpinnerTells ↔ system.Allowed event := by
  cases taken_of_step taken with
  | @setUp viewModel cell requests side isSetUp isNext =>
      obtain ⟨message, account, rfl, rfl, isMessage, -, -⟩ :=
        prepared_of_setUp named side sound.right isSetUp
      subst isNext
      refine iff_of_true ?_ fun _ _ answers => by cases answers
      cases isMessage with
      | blank => exact iff_of_false nofun fun ⟨_, _, _, inside⟩ => by cases inside
      | @loaded request _ isKey isNumber isSource isLoaded =>
          cases isLoaded with
          | cached held => exact iff_of_false nofun fun ⟨_, _, _, inside⟩ => by cases inside
          | requested absent =>
              refine iff_of_true List.mem_cons_self ⟨request, ?_, none, ?_⟩
              · exact List.mem_append_right _ (List.mem_append_right _ List.mem_cons_self)
              · exact List.mem_cons_of_mem _ List.mem_cons_self
  | @arrived _ request answers waits isNext =>
      subst isNext
      have allowed : system.Allowed event ↔ request.source = .account ∨
          system.cell.messageImageView.Over request.number ∨ ¬ system.Loading := by
        constructor
        · exact fun isAllowed => isAllowed request true answers
        · intro holds other succeeded isAnswer
          cases answers.symm.trans isAnswer
          exact holds
      have left := loading_erase sound waits
      rw [allowed]
      by_cases forAccount : request.source = .account
      · have gone : ¬ system.cell.messageImageView.Over request.number :=
          fun covers => sound.forMessage request waits covers forAccount
        refine iff_of_true ?_ (.inl forAccount)
        have view := ChatPictureCell.messageImageView_bring_account ⟨request.key⟩ system.cell
          forAccount
        rw [SpinnerTells, Loading, arrive]
        dsimp only
        rw [view]
        exact tells.trans ((and_iff_left gone).symm.trans left.symm)
      · have view := ChatPictureCell.messageImageView_bring ⟨request.key⟩ system.cell forAccount
        rw [SpinnerTells, Loading, arrive]
        dsimp only
        rw [view]
        simp only [UIImageView.over_removeSpinnerView, UIImageView.over_setImage,
          UIImageView.spinnerView_removeSpinnerView, false_iff, forAccount, false_or, left]
        tauto
  | @dropped _ request answers waits isNext =>
      subst isNext
      have allowed : system.Allowed event ↔
          ¬ system.cell.messageImageView.Over request.number := by
        constructor
        · exact fun isAllowed => isAllowed request false answers
        · intro holds other succeeded isAnswer
          cases answers.symm.trans isAnswer
          exact holds
      have left := loading_erase sound waits
      rw [allowed]
      constructor
      · intro after covers
        have spins := tells.mpr ⟨request, waits, covers⟩
        exact (left.mp (after.mp spins)).2 covers
      · intro gone
        refine tells.trans (Iff.trans ?_ left.symm)
        exact (and_iff_left gone).symm
  | stored silent _ _ isNext =>
      subst isNext
      refine iff_of_true tells fun _ _ answers => ?_
      rw [silent] at answers
      cases answers

/-- **What the spinner tells.** For rows of the chat and in every run, the spinner is there
exactly while the request that the last set-up made for the message's picture has no reply, if
and only if no message picture of an earlier set-up arrives in between and that request is not
answered without a picture. -/
theorem spinnerTells_iff_allowed (days : fm.DayInjective) (isLeft : Bool)
    (fromChat : ∀ viewModel, .setUp viewModel ∈ events → viewModel.FromChat fm) :
    EventRun.EachState step SpinnerTells { isLeft } events ↔
      EventRun.EachStep step Allowed { isLeft } events := by
  have named := named_of_fromChat days fromChat
  have ofPrefix : ∀ before event, before ++ [event] <+: events → event.Named :=
    fun before event inside =>
      named event (inside.subset (List.mem_append_right _ List.mem_cons_self))
  refine EventRun.eachState_iff_eachStep (fun _ => Sound) ?_ (sound_initial isLeft) ?_ ?_
  · exact iff_of_false List.not_mem_nil fun ⟨_, member, _⟩ => absurd member List.not_mem_nil
  · exact fun before event _ _ inside sound taken =>
      sound_of_step sound (ofPrefix before event inside) taken
  · exact fun before event _ _ inside sound tells taken =>
      spinnerTells_step_iff sound (ofPrefix before event inside) tells taken

end ChatPictures

/-! ## Two pictures on one cell -/

/-- A picture somebody sent. -/
def pictureBy (accountId imageName : String) (nanoseconds : Int) : Message where
  isMessageImage := some true
  imageName := some imageName
  accountId := some accountId
  sendDate := some ⟨nanoseconds⟩

/-- The row of a first picture of somebody else, and that of a second one. -/
def firstPicture : ChatRowViewModel where
  currentMessage := some (pictureBy "binh" "1" 1566396309000000000)
  subclass := .message .left

/-- The row of the second picture of "binh". -/
def secondPicture : ChatRowViewModel where
  previousMessage := some (pictureBy "binh" "1" 1566396309000000000)
  currentMessage := some (pictureBy "binh" "2" 1566396400000000000)
  subclass := .message .left

/-- The cell goes on to the second picture before the first one arrives. -/
def lateFirstPicture : List ChatPictureEvent :=
  [.setUp firstPicture, .setUp secondPicture,
    .downloadReply ⟨1, "binh/1", .message⟩ (some ⟨true⟩) none,
    .downloadReply ⟨0, "binh", .account⟩ (some ⟨true⟩) none,
    .downloadReply ⟨3, "binh/2", .message⟩ (some ⟨true⟩) none]

/-- The rows of the run are rows of a chat. -/
theorem fromChat_lateFirstPicture : ∀ viewModel, .setUp viewModel ∈ lateFirstPicture →
    viewModel.FromChat (Gregorian.formatter ⟨0⟩) := by
  have rows : (ChatSystem.run (Gregorian.formatter ⟨0⟩) (some "1")
      [.start, .fetchReply ⟨none, some "an"⟩ (some
        [pictureBy "binh" "1" 1566396309000000000, pictureBy "binh" "2" 1566396400000000000])
          none]).map (fun system => messageRows system.sections) =
      some [firstPicture, secondPicture] := by decide +kernel
  obtain ⟨system, reached, isRows⟩ := Option.map_eq_some_iff.mp rows
  intro viewModel member
  refine ⟨some "1", _, system, reached, ?_⟩
  rw [isRows]
  simp only [lateFirstPicture, List.mem_cons, ChatPictureEvent.setUp.injEq, reduceCtorEq,
    List.not_mem_nil, or_false] at member
  rcases member with rfl | rfl
  · exact List.mem_cons_self
  · exact List.mem_cons_of_mem _ List.mem_cons_self

/-- The late picture is not seen. -/
theorem ownPictures_lateFirstPicture : ∃ system,
    EventRun.runFrom ChatPictures.step { isLeft := true } lateFirstPicture = some system ∧
      system.cell.messageImageView.pictures = [⟨"binh/2"⟩] ∧ system.OwnPictures := by
  have shown : (EventRun.runFrom ChatPictures.step { isLeft := true } lateFirstPicture).map
      (fun system => system.cell.messageImageView.pictures) = some [⟨"binh/2"⟩] := by
    decide +kernel
  obtain ⟨system, reached, isShown⟩ := Option.map_eq_some_iff.mp shown
  exact ⟨system, reached, isShown, ChatPictures.ownPictures_of_run
    (Gregorian.dayLaws ⟨0⟩).injective fromChat_lateFirstPicture reached⟩

/-- It takes away the spinner of the second one. -/
theorem spinnerTells_iff_allowed_lateFirstPicture :
    EventRun.EachState ChatPictures.step ChatPictures.SpinnerTells { isLeft := true }
        lateFirstPicture ↔
      EventRun.EachStep ChatPictures.step ChatPictures.Allowed { isLeft := true }
        lateFirstPicture :=
  ChatPictures.spinnerTells_iff_allowed (Gregorian.dayLaws ⟨0⟩).injective true
    fromChat_lateFirstPicture

end MovieFun
