import MovieFun.Network.SearchURL
import MovieFun.View.ImageView

/-!
# Posters on reused cells

Every picture of a movie or of its cast is loaded into an image view by `setImage`, which
clears the view, cancels what the view was loading and loads anew. A row without the name of
a picture skips it: then the view keeps its old picture, and what it was loading still
arrives. So a reused view shows only the picture of its own row, with a spinner exactly while
it shows none, just where rows without a picture meet views without one
(`tells_iff_allowed`).
-/

namespace MovieFun

/-- The sizes that the server has pictures in. -/
inductive ImageSize
  | w92
  | w154
  | w185
  | w342
  | w500
  | w780
  | original
deriving DecidableEq, Repr

/-- The name of a size in a URL. -/
def ImageSize.rawValue : ImageSize → String
  | w92 => "w92"
  | w154 => "w154"
  | w185 => "w185"
  | w342 => "w342"
  | w500 => "w500"
  | w780 => "w780"
  | original => "original"

/-- The URL of a picture. -/
def IMAGE_URL : String := "https://image.tmdb.org/t/p/%@/%@"

/-- The address of a picture. -/
def imageURL (imageName : String) (imageSize : ImageSize) : Option URL :=
  URL.ofString? (String.ofList (format IMAGE_URL.toList
    [.string imageSize.rawValue, .string imageName]))

/-- Setting `myImage` sets no image, only the spinner. -/
def UIImageView.setMyImage (image : Option UIImage) (view : UIImageView) : UIImageView :=
  match image with
  | none => view.addSpinnerView
  | some _ => view.removeSpinnerView

/-- What a cell stands for. -/
inductive PosterRow
  | movie (movie : Movie)
  | cast (cast : Cast)
deriving DecidableEq, Repr

/-- The cells and views that show a picture of a row. -/
inductive PosterCell
  | newMovieListTableViewCell
  | nowMovieListTableViewCell
  | topRateListTableViewCell
  | trailerMovieListTableViewCell
  | searchMovieTableViewCell
  | favoriteTableViewCell
  | commentListTableViewCell
  | moviePlayerTableViewCell
  | castCollectionViewCell
  | newMovieCollectionViewCell
  | topRateCollectionViewCell
  | trailerCollectionViewCell
  | nowMovieView
  | trailerMovieView
deriving DecidableEq, Repr

namespace PosterCell

/-- What `setContent` does to the image view before it looks at the name of the picture. -/
def prepare : PosterCell → UIImageView → UIImageView
  | trailerCollectionViewCell, view => { view with image := none }
  | commentListTableViewCell, view => view
  | _, view => view.setMyImage none

/-- The cell adds a spinner first. -/
def spins : PosterCell → Bool
  | trailerCollectionViewCell | commentListTableViewCell => false
  | _ => true

/-- Which picture of a row the cell shows. -/
def imageName : PosterCell → PosterRow → Option String
  | _, .cast cast => cast.profilePath
  | trailerMovieListTableViewCell, .movie movie | moviePlayerTableViewCell, .movie movie
  | topRateCollectionViewCell, .movie movie | trailerCollectionViewCell, .movie movie =>
      movie.backdropPath
  | _, .movie movie => movie.posterPath

/-- In which size the cell shows it. -/
def imageSize : PosterCell → ImageSize
  | commentListTableViewCell => .w92
  | _ => .original

/-- The address of the picture of a row. -/
def url (cell : PosterCell) (row : PosterRow) : Option URL :=
  (cell.imageName row).bind fun imageName => imageURL imageName cell.imageSize

end PosterCell

/-- The image view of a cell, with the row that was last set up and the address that the view
is loading from. -/
structure PosterView where
  imageView : UIImageView := {}
  row : Option PosterRow := none
  load : Option URL := none

/-- What can reach the view. A load ends with an image, with none, or with an error. -/
inductive PosterEvent
  | setContent (row : PosterRow)
  | loaded (hasImage : Bool)
  | failed

namespace PosterView

/-- A load that is cancelled by another never ends. Without an address there is none, and the
completion hears of an error at once. -/
def sd_setImage (url : Option URL) (view : PosterView) : PosterView :=
  { view with imageView := { view.imageView with image := none }, load := url }

/-- The image view shows the picture of a name, once it is loaded. -/
def setImage (imageName : String) (imageSize : ImageSize) (view : PosterView) : PosterView :=
  view.sd_setImage (imageURL imageName imageSize)

/-- The cell is set up with a row. -/
def setContent (cell : PosterCell) (row : PosterRow) (view : PosterView) : PosterView :=
  let view := { view with imageView := cell.prepare view.imageView, row := some row }
  match cell.imageName row with
  | none => view
  | some imageName => view.setImage imageName cell.imageSize

/-- The end of a load: an image is shown before the completion hears of it. -/
def completed (image : Option UIImage) (view : PosterView) : PosterView :=
  { view with
    imageView := { view.imageView with image := image.or view.imageView.image }.setMyImage image
    load := none }

/-- The image view after a set-up, or the end of a load that is under way. -/
def step (cell : PosterCell) (view : PosterView) : PosterEvent → Option PosterView
  | .setContent row => some (view.setContent cell row)
  | .loaded hasImage =>
      view.load.map fun url =>
        view.completed (if hasImage then some ⟨url.absoluteString⟩ else none)
  | .failed => view.load.map fun _ => { view with load := none }

/-- The view shows no picture but that of its row, and where the cell adds spinners there is
one exactly while it shows none. -/
structure Tells (cell : PosterCell) (view : PosterView) : Prop where
  own : ∀ image, view.imageView.image = some image →
    ∃ url, view.row.bind cell.url = some url ∧ image.path = url.absoluteString
  spinner : cell.spins = true → view.row ≠ none →
    (.spinnerView ∈ view.imageView.subviews ↔ view.imageView.image = none)

/-- A row without a picture is set up where none is shown, or the cell clears the view
itself; and no picture arrives for such a row. -/
def Allowed (cell : PosterCell) (view : PosterView) : PosterEvent → Prop
  | .setContent row =>
      cell.imageName row ≠ none ∨ cell = .trailerCollectionViewCell ∨
        view.imageView.image = none
  | .loaded hasImage => hasImage = true → view.row.bind cell.imageName ≠ none
  | .failed => True

/-- A view that loads shows nothing, and loads the picture of its row if that has one. -/
structure Sound (cell : PosterCell) (view : PosterView) : Prop where
  blank : view.load ≠ none → view.imageView.image = none
  loads : ∀ url, view.load = some url → ∃ row, view.row = some row ∧
    (cell.imageName row ≠ none → cell.url row = some url)

variable {cell : PosterCell} {view next : PosterView} {row : PosterRow} {event : PosterEvent}

/-- The URL of a row with a picture. -/
theorem url_of_named {imageName : String} (named : cell.imageName row = some imageName) :
    cell.url row = imageURL imageName cell.imageSize := by
  rw [PosterCell.url, named, Option.bind_some]

/-- A set-up with a picture loads it. -/
theorem setContent_of_named {imageName : String} (named : cell.imageName row = some imageName) :
    view.setContent cell row =
      { imageView := { cell.prepare view.imageView with image := none }
        row := some row
        load := cell.url row } := by
  rw [url_of_named named, setContent, named]
  simp only [setImage, sd_setImage]

/-- A set-up without a picture loads nothing. -/
theorem setContent_of_unnamed (unnamed : cell.imageName row = none) :
    view.setContent cell row =
      { view with imageView := cell.prepare view.imageView, row := some row } := by
  rw [setContent, unnamed]

/-- A row without a picture leaves the image, but for the cell that clears it. -/
theorem image_prepare (image : UIImageView) :
    (cell.prepare image).image = none ↔
      cell = .trailerCollectionViewCell ∨ image.image = none := by
  cases cell with
  | trailerCollectionViewCell => exact iff_of_true rfl (.inl rfl)
  | _ => exact (or_iff_right nofun).symm

/-- A cell with spinners adds one when it is set up. -/
theorem spinnerView_prepare (spins : cell.spins = true) (image : UIImageView) :
    .spinnerView ∈ (cell.prepare image).subviews := by
  cases cell with
  | trailerCollectionViewCell | commentListTableViewCell => cases spins
  | _ => exact UIImageView.spinnerView_addSpinnerView

/-- Each step keeps what is sound. -/
theorem sound_of_step (sound : Sound cell view) (taken : step cell view event = some next) :
    Sound cell next := by
  cases event with
  | setContent row =>
      cases taken
      cases named : cell.imageName row with
      | some imageName =>
          rw [setContent_of_named named]
          exact ⟨fun _ => rfl, fun url isLoad => ⟨row, rfl, fun _ => isLoad⟩⟩
      | none =>
          rw [setContent_of_unnamed named]
          refine ⟨fun loading => ?_, fun url _ => ⟨row, rfl, fun isNamed => absurd named isNamed⟩⟩
          exact (image_prepare _).mpr (.inr (sound.blank loading))
  | loaded hasImage =>
      obtain ⟨url, -, rfl⟩ := Option.map_eq_some_iff.mp taken
      exact ⟨fun loading => absurd rfl loading, fun _ isLoad => by cases isLoad⟩
  | failed =>
      obtain ⟨url, -, rfl⟩ := Option.map_eq_some_iff.mp taken
      exact ⟨fun loading => absurd rfl loading, fun _ isLoad => by cases isLoad⟩

/-- A view without a picture tells, where it has its spinner. -/
theorem tells_blank (blank : view.imageView.image = none)
    (spinner : cell.spins = true → view.row ≠ none →
      .spinnerView ∈ view.imageView.subviews) : Tells cell view where
  own image shown := by cases blank.symm.trans shown
  spinner spins isSet := iff_of_true (spinner spins isSet) blank

/-- A set-up leaves the view telling exactly if it is allowed. -/
theorem tells_setContent_iff : Tells cell (view.setContent cell row) ↔
    Allowed cell view (.setContent row) := by
  cases named : cell.imageName row with
  | some imageName =>
      rw [setContent_of_named named]
      refine iff_of_true (tells_blank rfl fun spins _ => ?_) (.inl ?_)
      · exact spinnerView_prepare spins view.imageView
      · rw [named]
        exact Option.some_ne_none imageName
  | none =>
      rw [setContent_of_unnamed named, Allowed, or_iff_right (not_not_intro named),
        ← image_prepare]
      constructor
      · intro tells
        by_contra shown
        obtain ⟨image, isShown⟩ := Option.ne_none_iff_exists'.mp shown
        obtain ⟨url, isURL, -⟩ := tells.own image isShown
        rw [Option.bind_some, PosterCell.url, named] at isURL
        cases isURL
      · exact fun blank => tells_blank blank fun spins _ => spinnerView_prepare spins _

/-- A step keeps the view telling exactly if it is allowed. -/
theorem tells_step_iff (sound : Sound cell view) (tells : Tells cell view)
    (taken : step cell view event = some next) : Tells cell next ↔ Allowed cell view event := by
  cases event with
  | setContent row =>
      cases taken
      exact tells_setContent_iff
  | loaded hasImage =>
      obtain ⟨url, isLoad, rfl⟩ := Option.map_eq_some_iff.mp taken
      have blank : view.imageView.image = none := by
        apply sound.blank
        rw [isLoad]
        exact Option.some_ne_none url
      obtain ⟨row, isRow, loads⟩ := sound.loads url isLoad
      cases hasImage with
      | false =>
          refine iff_of_true (tells_blank blank fun _ _ => ?_) nofun
          exact UIImageView.spinnerView_addSpinnerView
      | true =>
          rw [Allowed, isRow, Option.bind_some]
          constructor
          · intro after _ unnamed
            obtain ⟨other, isURL, -⟩ := after.own _ rfl
            change view.row.bind cell.url = some other at isURL
            rw [isRow, Option.bind_some, PosterCell.url, unnamed] at isURL
            cases isURL
          · intro isNamed
            refine ⟨fun image isImage => ?_, fun _ _ => ?_⟩
            · cases isImage
              refine ⟨url, ?_, rfl⟩
              change view.row.bind cell.url = some url
              rw [isRow]
              exact loads (isNamed rfl)
            · exact iff_of_false UIImageView.spinnerView_removeSpinnerView nofun
  | failed =>
      obtain ⟨url, isLoad, rfl⟩ := Option.map_eq_some_iff.mp taken
      exact iff_of_true ⟨tells.own, tells.spinner⟩ trivial

theorem sound_initial : Sound cell {} :=
  ⟨fun loading => absurd rfl loading, fun _ isLoad => by cases isLoad⟩

/-- **A reused view shows the picture of its own row.** In every run of set-ups and ends of
loads the view has no picture but that of its row, and a spinner exactly while it has none,
throughout, exactly when a row without a picture is never set up where another picture is
shown, unless the cell clears it, and no picture arrives for such a row. -/
theorem tells_iff_allowed (cell : PosterCell) (events : List PosterEvent) :
    EventRun.EachState (step cell) (Tells cell) {} events ↔
      EventRun.EachStep (step cell) (Allowed cell) {} events := by
  refine EventRun.eachState_iff_eachStep (fun _ => Sound cell) ?_ sound_initial ?_ ?_
  · exact tells_blank rfl fun _ isSet => absurd rfl isSet
  · exact fun before event state next _ sound taken => sound_of_step sound taken
  · exact fun before event state next _ sound tells taken => tells_step_iff sound tells taken

/-- The row of a view is the one that was set up last. -/
theorem row_of_step (taken : step cell view event = some next) :
    next.row = view.row ∨ ∃ row, event = .setContent row ∧ next.row = some row := by
  cases event with
  | setContent row =>
      cases taken
      refine .inr ⟨row, rfl, ?_⟩
      cases named : cell.imageName row with
      | some imageName => rw [setContent_of_named named]
      | none => rw [setContent_of_unnamed named]
  | loaded hasImage =>
      obtain ⟨url, -, rfl⟩ := Option.map_eq_some_iff.mp taken
      exact .inl rfl
  | failed =>
      obtain ⟨url, -, rfl⟩ := Option.map_eq_some_iff.mp taken
      exact .inl rfl

/-- Where every row has a picture, the view always tells. -/
theorem tells_of_named {events : List PosterEvent}
    (named : ∀ row, .setContent row ∈ events → cell.imageName row ≠ none) :
    EventRun.EachState (step cell) (Tells cell) {} events := by
  intro before inside view run
  have both : (Sound cell view ∧ ∀ row, view.row = some row → cell.imageName row ≠ none) ∧
      Tells cell view := by
    refine EventRun.invariant
      (fun _ view => (Sound cell view ∧
        ∀ row, view.row = some row → cell.imageName row ≠ none) ∧ Tells cell view) ?_ ?_ run
    · exact ⟨⟨sound_initial, fun _ isRow => by cases isRow⟩,
        tells_blank rfl fun _ isSet => absurd rfl isSet⟩
    · rintro earlier event view next within ⟨⟨sound, rowNamed⟩, tells⟩ taken
      have eventNamed : ∀ row, event = .setContent row → cell.imageName row ≠ none := by
        rintro row rfl
        exact named row (inside.subset (within.subset
          (List.mem_append_right _ List.mem_cons_self)))
      refine ⟨⟨sound_of_step sound taken, fun row isRow => ?_⟩, ?_⟩
      · rcases row_of_step taken with same | ⟨added, isSetUp, isAdded⟩
        · exact rowNamed row (same ▸ isRow)
        · cases isAdded.symm.trans isRow
          exact eventNamed row isSetUp
      · refine (tells_step_iff sound tells taken).mpr ?_
        cases event with
        | setContent row => exact .inl (eventNamed row rfl)
        | loaded hasImage =>
            intro _ unnamed
            obtain ⟨url, isLoad, -⟩ := Option.map_eq_some_iff.mp taken
            obtain ⟨row, isRow, -⟩ := sound.loads url isLoad
            rw [isRow] at unnamed
            exact rowNamed row isRow unnamed
        | failed => trivial
  exact both.2

end PosterView

end MovieFun
