import MovieFun.Foundation.Display
import MovieFun.Foundation.Run
import MovieFun.Helper.DynamicType
import MovieFun.View.MovieList.ListController

/-!
# The stars of reused cells

A cell of the list of new movies shows the star of the row that it is set up with, and listens
to it. Reused for another row it goes on listening to the first one, whose later assignments
change its star as well. So the cells show the stars of their own rows exactly as long as each
assignment reaches a cell that is still at its row, or makes no difference there
(`showsOwnStars_iff_allowed`).
-/

namespace MovieFun

/-- The images of the star button. -/
inductive StarImage
  | star64Yellow
  | star64
deriving DecidableEq, Repr

/-- The star of a favourite, and of what is none. -/
def StarImage.ofFavorite (isFavoriteMovie : Bool) : StarImage :=
  if isFavoriteMovie then star64Yellow else star64

/-- A `ListRowViewModel` as the object that cells listen to. -/
structure ListRowObject (Cell : Type) where
  subclass : ListSubclass
  movie : Option Movie
  isFavoriteMovie : DynamicType Bool Cell := { value := some false }

/-- A cell, with the movie whose texts and poster it shows. -/
structure NewMovieListTableViewCell (Row : Type) where
  newMovieListRowVM : Option Row := none
  content : Option Movie := none
  starImage : StarImage := .star64

namespace NewMovieListTableViewCell

variable {Row : Type}

/-- The cell shows a star. -/
def setStar (isFavoriteMovie : Bool) (cell : NewMovieListTableViewCell Row) :
    NewMovieListTableViewCell Row :=
  { cell with starImage := .ofFavorite isFavoriteMovie }

/-- The cell shows a movie, and its star once it is known. -/
def setContent (movie : Movie) (isFavoriteMovie : Option Bool)
    (cell : NewMovieListTableViewCell Row) : NewMovieListTableViewCell Row :=
  let cell := { cell with content := some movie }
  match isFavoriteMovie with
  | none => cell
  | some isFavoriteMovie => cell.setStar isFavoriteMovie

end NewMovieListTableViewCell

/-- The rows and the cells of a list. -/
structure StarCells (Row Cell : Type) where
  rows : Row → ListRowObject Cell
  cells : Cell → NewMovieListTableViewCell Row

/-- A cell is set up with a row, or the star of a row is assigned. -/
inductive StarCellEvent (Row Cell : Type)
  | setUp (cell : Cell) (row : Row)
  | assign (row : Row) (isFavoriteMovie : Bool)

variable {Row Cell : Type} [DecidableEq Row] [DecidableEq Cell]

namespace StarCellEvent

/-- The row that the event sets up on a cell. -/
def rowOn (cell : Cell) : StarCellEvent Row Cell → Option Row
  | setUp reached row => if reached = cell then some row else none
  | assign _ _ => none

/-- The cell on which the event sets up a row. -/
def cellOf (row : Row) : StarCellEvent Row Cell → Option Cell
  | setUp cell reached => if reached = row then some cell else none
  | assign _ _ => none

end StarCellEvent

/-- The row was set up last on the cell, and on no other cell since. -/
def SetUpLast (before : List (StarCellEvent Row Cell)) (cell : Cell) (row : Row) : Prop :=
  EventRun.last (StarCellEvent.rowOn cell) before = some row ∧
    EventRun.last (StarCellEvent.cellOf row) before = some cell

namespace StarCells

/-- Only a row of the cell's own class, and with a movie, is shown and listened to. -/
def setUp (cell : Cell) (row : Row) (system : StarCells Row Cell) : StarCells Row Cell :=
  let viewModel := system.rows row
  if viewModel.subclass = .newMovieList then
    let kept := { system.cells cell with newMovieListRowVM := some row }
    match viewModel.movie with
    | none => { system with cells := Function.update system.cells cell kept }
    | some movie =>
        { rows := Function.update system.rows row
            { viewModel with isFavoriteMovie := viewModel.isFavoriteMovie.listen cell }
          cells := Function.update system.cells cell
            (kept.setContent movie viewModel.isFavoriteMovie.value) }
  else system

/-- An assignment to a row sets the star of the cell that listens to it. -/
def assign (row : Row) (value : Bool) (system : StarCells Row Cell) : StarCells Row Cell :=
  let (isFavoriteMovie, called) := (system.rows row).isFavoriteMovie.setValue (some value)
  { rows := Function.update system.rows row { system.rows row with isFavoriteMovie }
    cells :=
      match called with
      | none => system.cells
      | some (cell, isFavoriteMovie) =>
          Function.update system.cells cell ((system.cells cell).setStar isFavoriteMovie) }

/-- The cells after a set-up or an assignment. -/
def step (system : StarCells Row Cell) : StarCellEvent Row Cell → Option (StarCells Row Cell)
  | .setUp cell row => some (system.setUp cell row)
  | .assign row isFavoriteMovie => some (system.assign row isFavoriteMovie)

/-- The star of a row. -/
def star (system : StarCells Row Cell) (row : Row) : Option StarImage :=
  (system.rows row).isFavoriteMovie.value.map StarImage.ofFavorite

/-- The star that a cell shows. -/
def shown (system : StarCells Row Cell) (cell : Cell) : Option StarImage :=
  some (system.cells cell).starImage

/-- Each cell shows the star of the row it was last set up with, unless that row was set up on
another cell since. -/
def ShowsOwnStars (before : List (StarCellEvent Row Cell)) (system : StarCells Row Cell) : Prop :=
  ∀ cell row, SetUpLast before cell row → system.shown cell = system.star row

/-- The row is of the class of the cells, and has a movie and a star. -/
def Binds (system : StarCells Row Cell) (row : Row) : Prop :=
  (system.rows row).subclass = .newMovieList ∧ (system.rows row).movie.isSome ∧
    (system.star row).isSome

/-- A set-up binds, or finds the star of the row there. An assignment reaches a cell that is at
the row, or at one with the same star, and no other cell waits for it. -/
def Allowed (before : List (StarCellEvent Row Cell)) (system : StarCells Row Cell) :
    StarCellEvent Row Cell → Prop
  | .setUp cell row => system.Binds row ∨ system.shown cell = system.star row
  | .assign row isFavoriteMovie => ∀ cell other, SetUpLast before cell other →
      if (system.rows row).isFavoriteMovie.listener = some cell then
        other = row ∨ system.star other = some (.ofFavorite isFavoriteMovie)
      else other = row → system.star row = some (.ofFavorite isFavoriteMovie)

variable {system next : StarCells Row Cell} {event : StarCellEvent Row Cell}
  {before : List (StarCellEvent Row Cell)} {cell : Cell} {row : Row}

omit [DecidableEq Row] in
/-- Where one cell changes, its star does. -/
theorem shown_update {rows : Row → ListRowObject Cell} (new : NewMovieListTableViewCell Row) :
    (StarCells.mk rows (Function.update system.cells cell new)).shown =
      Function.update system.shown cell (some new.starImage) := by
  funext other
  by_cases same : other = cell
  · subst same
    simp only [shown, Function.update_self]
  · simp only [shown, Function.update_of_ne same]

omit [DecidableEq Cell] in
/-- Where one row changes, its star does. -/
theorem star_update {cells : Cell → NewMovieListTableViewCell Row} (new : ListRowObject Cell) :
    (StarCells.mk (Function.update system.rows row new) cells).star =
      Function.update system.star row (new.isFavoriteMovie.value.map StarImage.ofFavorite) := by
  funext other
  by_cases same : other = row
  · subst same
    simp only [star, Function.update_self]
  · simp only [star, Function.update_of_ne same]

/-- A cell that binds a star shows it. -/
theorem shown_setUp_of_binds (binds : system.Binds row) :
    (system.setUp cell row).shown = Function.update system.shown cell (system.star row) := by
  obtain ⟨isNew, hasMovie, hasStar⟩ := binds
  obtain ⟨movie, isMovie⟩ := Option.isSome_iff_exists.mp hasMovie
  rw [star, Option.isSome_map] at hasStar
  obtain ⟨isFavoriteMovie, isStar⟩ := Option.isSome_iff_exists.mp hasStar
  simp only [setUp, isNew, if_true, isMovie, shown_update, star, isStar]
  rfl

/-- A cell without a star to bind shows what it showed. -/
theorem shown_setUp_of_not_binds (unbound : ¬ system.Binds row) :
    (system.setUp cell row).shown = system.shown := by
  have keeps : Function.update system.shown cell (some (system.cells cell).starImage) =
      system.shown := Function.update_eq_self cell system.shown
  by_cases isNew : (system.rows row).subclass = .newMovieList
  · cases isMovie : (system.rows row).movie with
    | none =>
        simp only [setUp, isNew, if_true, isMovie, shown_update]
        exact keeps
    | some movie =>
        cases isStar : (system.rows row).isFavoriteMovie.value with
        | none =>
            simp only [setUp, isNew, if_true, isMovie, shown_update, isStar]
            exact keeps
        | some isFavoriteMovie =>
            have binds : system.Binds row :=
              ⟨isNew, by rw [isMovie]; rfl, by rw [star, isStar]; rfl⟩
            exact absurd binds unbound
  · rw [setUp, if_neg isNew]

/-- A set-up changes no row's star. -/
theorem star_setUp : (system.setUp cell row).star = system.star := by
  by_cases isNew : (system.rows row).subclass = .newMovieList
  · cases isMovie : (system.rows row).movie with
    | none =>
        simp only [setUp, isNew, if_true, isMovie]
        rfl
    | some movie =>
        simp only [setUp, isNew, if_true, isMovie, star_update]
        exact Function.update_eq_self row system.star
  · rw [setUp, if_neg isNew]

theorem star_assign (isFavoriteMovie : Bool) : (system.assign row isFavoriteMovie).star =
    Function.update system.star row (some (.ofFavorite isFavoriteMovie)) :=
  star_update _

/-- An assignment reaches the cell that listens. -/
theorem shown_assign (isFavoriteMovie : Bool) : (system.assign row isFavoriteMovie).shown =
    Display.report (system.rows row).isFavoriteMovie.listener (some (.ofFavorite isFavoriteMovie))
      system.shown := by
  cases listens : (system.rows row).isFavoriteMovie.listener with
  | none =>
      simp only [assign, DynamicType.setValue, listens]
      rfl
  | some cell =>
      simp only [assign, DynamicType.setValue, listens, shown_update]
      rfl

/-- A cell that was set up with a row is at it, and no other cell is. -/
theorem setUpLast_setUp : SetUpLast (before ++ [.setUp cell row]) cell row := by
  simp only [SetUpLast, EventRun.last_concat, StarCellEvent.rowOn, StarCellEvent.cellOf, if_true,
    Option.some_or, and_self]

theorem eq_of_setUpLast_setUp {other : Row}
    (last : SetUpLast (before ++ [.setUp cell row]) cell other) : other = row := by
  have own := last.1
  simp only [EventRun.last_concat, StarCellEvent.rowOn, if_true, Option.some_or,
    Option.some.injEq] at own
  exact own.symm

theorem setUpLast_of_setUp {reached : Cell} {other : Row} (different : reached ≠ cell)
    (last : SetUpLast (before ++ [.setUp cell row]) reached other) :
    SetUpLast before reached other := by
  obtain ⟨onCell, ofRow⟩ := last
  simp only [EventRun.last_concat, StarCellEvent.rowOn, StarCellEvent.cellOf] at onCell ofRow
  rw [if_neg (Ne.symm different), Option.none_or] at onCell
  by_cases same : row = other
  · rw [if_pos same, Option.some_or, Option.some.injEq] at ofRow
    exact absurd ofRow.symm different
  · rw [if_neg same, Option.none_or] at ofRow
    exact ⟨onCell, ofRow⟩

theorem setUpLast_assign {isFavoriteMovie : Bool} :
    SetUpLast (before ++ [.assign row isFavoriteMovie]) = SetUpLast before := by
  funext cell other
  simp only [SetUpLast, EventRun.last_concat, StarCellEvent.rowOn, StarCellEvent.cellOf,
    Option.none_or]

/-- A step keeps the stars right exactly if it is allowed. -/
theorem showsOwnStars_step_iff (shows : system.ShowsOwnStars before)
    (taken : system.step event = some next) :
    next.ShowsOwnStars (before ++ [event]) ↔ system.Allowed before event := by
  cases event with
  | setUp cell row =>
      cases taken
      have turned : ∀ value, Display.Shows (SetUpLast (before ++ [.setUp cell row])) system.star
          (Function.update system.shown cell value) ↔ value = system.star row := fun value =>
        Display.shows_turn_iff shows setUpLast_setUp (fun _ => eq_of_setUpLast_setUp)
          fun _ _ => setUpLast_of_setUp
      unfold ShowsOwnStars
      rw [star_setUp]
      by_cases binds : system.Binds row
      · rw [shown_setUp_of_binds binds]
        exact iff_of_true ((turned _).mpr rfl) (.inl binds)
      · have kept := turned (system.shown cell)
        rw [Function.update_eq_self] at kept
        rw [shown_setUp_of_not_binds binds]
        exact kept.trans (or_iff_right binds).symm
  | assign row isFavoriteMovie =>
      cases taken
      unfold ShowsOwnStars
      rw [setUpLast_assign, shown_assign, star_assign]
      exact Display.shows_report_iff shows _

/-- **The stars of reused cells.** In every run over any rows and cells, each cell shows the
star of its own row at every point exactly if each step is allowed. -/
theorem showsOwnStars_iff_allowed (start : StarCells Row Cell)
    (events : List (StarCellEvent Row Cell)) :
    EventRun.EachPoint step ShowsOwnStars start events ↔
      EventRun.EachTransition step Allowed start events := by
  refine EventRun.eachPoint_iff_eachTransition (fun _ _ => True) ?_ trivial
    (fun _ _ _ _ _ _ _ => trivial) ?_
  · intro cell row never
    cases never.1
  · intro before event system next _ _ shows taken
    exact showsOwnStars_step_iff shows taken

/-- A cell is reused for a second movie, and then the first one turns out to be a favourite. -/
def reusedCell : List (StarCellEvent Nat Nat) := [.setUp 0 0, .setUp 0 1, .assign 0 true]

/-- Two rows of the list of new movies, without favourites, and cells not yet used. -/
def twoNewMovies : StarCells Nat Nat where
  rows number := { subclass := .newMovieList, movie := some { id := some number } }
  cells _ := {}

/-- The star of the second movie is then yellow. -/
theorem not_showsOwnStars_reusedCell :
    ¬ EventRun.EachPoint step ShowsOwnStars twoNewMovies reusedCell := by
  intro always
  have shows := always reusedCell List.prefix_rfl _ rfl 0 1 ⟨rfl, rfl⟩
  cases shows

end StarCells

end MovieFun
