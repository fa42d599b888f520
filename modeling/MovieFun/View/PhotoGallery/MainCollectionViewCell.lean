import Mathlib.Logic.Function.Basic
import MovieFun.Foundation.Run
import MovieFun.Network.Firestore
import MovieFun.View.PhotoGallery.PhotoGalleryController

/-!
# The reused cell of the gallery

`MainCollectionViewCell` shows one row of the main collection after another. A download that it
starts for a row writes the image of the cell whenever it completes. The system is the cell with
the rows, the cache and the downloads without a reply; other cells put images in the cache, and
the cache may let them go.
-/

namespace MovieFun

/-- An image, told by the path that it is stored and cached under. Two pictures under one path
are not told apart. -/
structure UIImage where
  path : String
deriving DecidableEq, Repr

/-- The bytes that a download brings, and whether they are an image. -/
structure ImageData where
  isImage : Bool
deriving DecidableEq, Repr

/-- The image in the bytes that are stored at a path. -/
def UIImage.ofData (path : String) (data : ImageData) : Option UIImage :=
  if data.isImage then some ⟨path⟩ else none

/-- The images that `CacheService` holds, by their keys. -/
abbrev ImageCache := String → Option UIImage

/-- The path of the picture of a row, which is also its key in the cache. -/
def PhotoGalleryRowViewModel.path (viewModel : PhotoGalleryRowViewModel) : Option String := do
  let imageName ← viewModel.imageName
  let accountId ← viewModel.accountId
  return accountId ++ "/" ++ imageName

/-- A cell, with the number of the row that it was last set up with. -/
structure MainCollectionViewCell where
  viewModel : Option Nat := none
  image : Option UIImage := none
  zoomInButtonIsHidden : Bool := false
deriving DecidableEq, Repr

namespace MainCollectionViewCell

/-- The button that zooms is shown. -/
def displayZoomInButton (cell : MainCollectionViewCell) : MainCollectionViewCell :=
  { cell with zoomInButtonIsHidden := false }

/-- The button that zooms is hidden. -/
def hideZoomInButton (cell : MainCollectionViewCell) : MainCollectionViewCell :=
  { cell with zoomInButtonIsHidden := true }

/-- What the cell does with the selection of a row that it is bound to. -/
def selectionListener (isSelected : Bool) (cell : MainCollectionViewCell) :
    MainCollectionViewCell :=
  if isSelected then cell.displayZoomInButton else cell.hideZoomInButton

/-- The cell set up with a row, and the path of the download that it starts. Without a name of
a picture, or while the picture is not cached, the image stays. -/
def setUp (number : Nat) (viewModel : PhotoGalleryRowViewModel) (isSelectedCell : Bool)
    (cache : ImageCache) (cell : MainCollectionViewCell) :
    MainCollectionViewCell × Option String :=
  let cell := { cell with viewModel := some number }
  let (cell, download) :=
    match viewModel.path with
    | none => (cell, none)
    | some path =>
        match cache path with
        | some image => ({ cell with image := some image }, none)
        | none => (cell, some path)
  (cell.selectionListener isSelectedCell, download)

/-- The completion of a download of a path. Data that is no image traps. -/
def downloadCompletion (path : String) (data : Option ImageData) (error : Option NSError)
    (cache : ImageCache) (cell : MainCollectionViewCell) :
    Option (MainCollectionViewCell × ImageCache) :=
  match error, data with
  | none, some data =>
      (UIImage.ofData path data).map fun image =>
        ({ cell with image := some image }, Function.update cache path (some image))
  | _, _ => some (cell, cache)

/-- The image that is presented. The rows have the gallery as their delegate. -/
def zoomInClicked (cell : MainCollectionViewCell) : Option UIImage := do
  let image ← cell.image
  let _ ← cell.viewModel
  return image

end MainCollectionViewCell

/-- The rows with their selections, those whose selection the cell listens to, the cell, the
cache, and the paths of the downloads without a reply. -/
structure GalleryCellSystem where
  rows : List PhotoGalleryRowViewModel
  isSelectedCell : Nat → Bool := fun _ => false
  listening : Nat → Bool := fun _ => false
  cell : MainCollectionViewCell := {}
  cache : ImageCache := fun _ => none
  downloads : List String := []

/-- What can reach the cell and the cache. -/
inductive GalleryCellEvent
  | setUp (number : Nat)
  | didSelectItemAt (number : Nat)
  | downloadReply (path : String) (data : Option ImageData) (error : Option NSError)
  | cached (path : String)
  | evicted (path : String)

namespace GalleryCellSystem

/-- Set the selection of a row, and tell the cell when it listens. -/
def setSelected (isSelected : Bool) (system : GalleryCellSystem) (number : Nat) :
    GalleryCellSystem :=
  { system with
    isSelectedCell := Function.update system.isSelectedCell number isSelected
    cell :=
      if system.listening number then system.cell.selectionListener isSelected else system.cell }

/-- A reply answers a download without one. -/
def enabled (system : GalleryCellSystem) : GalleryCellEvent → Bool
  | .downloadReply path .. => path ∈ system.downloads
  | _ => true

/-- `none` is a trap. -/
def handle (system : GalleryCellSystem) : GalleryCellEvent → Option GalleryCellSystem
  | .setUp number => do
      let viewModel ← system.rows[number]?
      let (cell, download) :=
        system.cell.setUp number viewModel (system.isSelectedCell number) system.cache
      return { system with
        cell
        listening := Function.update system.listening number true
        downloads := system.downloads ++ download.toList }
  | .didSelectItemAt number => do
      let _ ← system.rows[number]?
      let unselected := (List.range system.rows.length).foldl (setSelected false) system
      return unselected.setSelected true number
  | .downloadReply path data error => do
      let (cell, cache) ← system.cell.downloadCompletion path data error system.cache
      return { system with cell, cache, downloads := system.downloads.erase path }
  | .cached path =>
      some { system with cache := Function.update system.cache path (some ⟨path⟩) }
  | .evicted path => some { system with cache := Function.update system.cache path none }

/-- The system after an event that can happen. -/
def step (system : GalleryCellSystem) (event : GalleryCellEvent) : Option GalleryCellSystem :=
  if system.enabled event then system.handle event else none

/-- The path of the picture of the row that the cell was last set up with. -/
def currentPath (system : GalleryCellSystem) : Option String := do
  let number ← system.cell.viewModel
  let viewModel ← system.rows[number]?
  viewModel.path

/-- The system with other selections, of which the cell shows nothing but the button. -/
def reselected (isSelectedCell : Nat → Bool) (zoomInButtonIsHidden : Bool)
    (system : GalleryCellSystem) : GalleryCellSystem :=
  { system with isSelectedCell, cell := { system.cell with zoomInButtonIsHidden } }

/-- What a step does, by its event. -/
inductive Taken (system next : GalleryCellSystem) : GalleryCellEvent → Prop
  | reused {number : Nat} {viewModel : PhotoGalleryRowViewModel} {path : String} {image : UIImage}
      (isRow : system.rows[number]? = some viewModel) (named : viewModel.path = some path)
      (cached : system.cache path = some image)
      (isNext : next = { system with
        cell :=
          { viewModel := some number
            image := some image
            zoomInButtonIsHidden := !system.isSelectedCell number }
        listening := Function.update system.listening number true }) :
      Taken system next (.setUp number)
  | kept {number : Nat} {viewModel : PhotoGalleryRowViewModel}
      (isRow : system.rows[number]? = some viewModel)
      (absent : viewModel.path.bind system.cache = none)
      (isNext : next = { system with
        cell :=
          { viewModel := some number
            image := system.cell.image
            zoomInButtonIsHidden := !system.isSelectedCell number }
        listening := Function.update system.listening number true
        downloads := system.downloads ++ viewModel.path.toList }) :
      Taken system next (.setUp number)
  | selected {number : Nat} {isSelectedCell : Nat → Bool} {zoomInButtonIsHidden : Bool}
      (inRange : number < system.rows.length)
      (shown : system.listening number = true → zoomInButtonIsHidden = false)
      (isNext : next = system.reselected isSelectedCell zoomInButtonIsHidden) :
      Taken system next (.didSelectItemAt number)
  | failed {path : String} {data : Option ImageData} {error : Option NSError}
      (nothing : ¬ (error = none ∧ data.isSome))
      (isNext : next = { system with downloads := system.downloads.erase path }) :
      Taken system next (.downloadReply path data error)
  | downloaded {path : String} {data : ImageData} (waits : path ∈ system.downloads)
      (isNext : next = { system with
        cell := { system.cell with image := some ⟨path⟩ }
        cache := Function.update system.cache path (some ⟨path⟩)
        downloads := system.downloads.erase path }) :
      Taken system next (.downloadReply path (some data) none)
  | cached {path : String}
      (isNext : next =
        { system with cache := Function.update system.cache path (some ⟨path⟩) }) :
      Taken system next (.cached path)
  | evicted {path : String}
      (isNext : next = { system with cache := Function.update system.cache path none }) :
      Taken system next (.evicted path)

variable {system next : GalleryCellSystem} {event : GalleryCellEvent}

/-- The listener changes nothing but the button. -/
theorem selectionListener_eq (isSelected : Bool) (cell : MainCollectionViewCell) :
    cell.selectionListener isSelected = { cell with zoomInButtonIsHidden := !isSelected } := by
  cases isSelected <;> rfl

/-- A selection changes the button only, and as the cell is told if it listens. -/
theorem setSelected_eq (isSelected : Bool) (number : Nat) :
    ∃ isSelectedCell zoomInButtonIsHidden,
      system.setSelected isSelected number =
        system.reselected isSelectedCell zoomInButtonIsHidden ∧
      (system.listening number = true → zoomInButtonIsHidden = !isSelected) := by
  unfold setSelected
  split
  · rw [selectionListener_eq]
    exact ⟨_, _, rfl, fun _ => rfl⟩
  · next silent => exact ⟨_, system.cell.zoomInButtonIsHidden, rfl, fun listens =>
      absurd listens silent⟩

/-- Selections one after another change the button only. -/
theorem foldl_setSelected_eq (isSelected : Bool) (numbers : List Nat)
    (system : GalleryCellSystem) :
    ∃ isSelectedCell zoomInButtonIsHidden, numbers.foldl (setSelected isSelected) system =
      system.reselected isSelectedCell zoomInButtonIsHidden := by
  induction numbers generalizing system with
  | nil => exact ⟨_, _, rfl⟩
  | cons number numbers ih =>
      obtain ⟨isSelectedCell, hidden, first, -⟩ := system.setSelected_eq isSelected number
      rw [List.foldl_cons, first]
      exact ih (system.reselected isSelectedCell hidden)

/-- A step is what its event does. -/
theorem taken_of_step (taken : system.step event = some next) : Taken system next event := by
  unfold step at taken
  split at taken
  · next isEnabled =>
    cases event with
    | setUp number =>
        simp only [handle, MainCollectionViewCell.setUp, selectionListener_eq,
          Option.bind_eq_bind, Option.bind_eq_some_iff] at taken
        obtain ⟨viewModel, isRow, taken⟩ := taken
        cases named : viewModel.path with
        | none =>
            rw [named] at taken
            cases taken
            exact .kept isRow (by rw [named]; rfl) (by rw [named])
        | some path =>
            rw [named] at taken
            cases held : system.cache path with
            | none =>
                simp only [held] at taken
                cases taken
                exact .kept isRow (by rw [named]; exact held) (by rw [named])
            | some image =>
                simp only [held] at taken
                cases taken
                refine .reused isRow named held ?_
                rw [Option.toList_none, List.append_nil]
    | didSelectItemAt number =>
        simp only [handle, Option.bind_eq_bind, Option.bind_eq_some_iff] at taken
        obtain ⟨viewModel, isRow, taken⟩ := taken
        cases taken
        obtain ⟨isSelectedCell, hidden, unselected⟩ :=
          foldl_setSelected_eq false (List.range system.rows.length) system
        rw [unselected]
        obtain ⟨_, _, selected, shown⟩ :=
          (system.reselected isSelectedCell hidden).setSelected_eq true number
        exact .selected (List.getElem?_eq_some_iff.mp isRow).1 shown selected
    | downloadReply path data error =>
        have waits : path ∈ system.downloads := of_decide_eq_true isEnabled
        simp only [handle, MainCollectionViewCell.downloadCompletion, Option.bind_eq_bind,
          Option.bind_eq_some_iff] at taken
        obtain ⟨⟨cell, cache⟩, completed, taken⟩ := taken
        cases taken
        split at completed
        · next data =>
          rw [UIImage.ofData] at completed
          split at completed
          · cases completed
            exact .downloaded waits rfl
          · cases completed
        · next nothing =>
          cases completed
          refine .failed ?_ rfl
          rintro ⟨rfl, given⟩
          obtain ⟨bytes, rfl⟩ := Option.isSome_iff_exists.mp given
          exact nothing bytes rfl rfl
    | cached path => exact .cached (Option.some.inj taken).symm
    | evicted path => exact .evicted (Option.some.inj taken).symm
  · cases taken

end GalleryCellSystem

end MovieFun
