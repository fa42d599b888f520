import MovieFun.View.MovieRows

/-!
# SearchMovieController

The screen that lists new movies while its search text is empty, and the movies of a
search otherwise. It has a completion for each of its four requests. Three of them
test for an error in the same way; the load-more of the new movies tests the other
way round (`loadMoreForNewMovieCompletion_fetchMovie`).
-/

namespace MovieFun

/-- A row with a movie has the fields of a row of a movie list. -/
abbrev SearchMovieRowViewModel := ListRowViewModel

/-- A row of the search screen: a movie, or the header. -/
inductive SearchMovieBaseRowViewModel
  | movie (rowVM : SearchMovieRowViewModel)
  | header
deriving DecidableEq, Repr

/-- A section of the search screen. -/
structure SearchMovieSectionViewModel where
  rowViewModels : List SearchMovieBaseRowViewModel := []
deriving DecidableEq, Repr

/-- What the search screen is bound to. -/
structure SearchMovieViewModel where
  isLoadFail : Bool := false
  searchText : Option String := none
  totalPage : Int := 0
  currentPage : Nat := 0
  url : String := MovieService.NEW_MOVIE_URL
  isFetching : Bool := false
  isLoadMore : Bool := false
  sectionViewModels : List SearchMovieSectionViewModel := []
deriving DecidableEq, Repr

/-- The flags that a favourite check resets. -/
inductive SearchFlag
  | isFetching
  | isLoadMore
deriving DecidableEq, Repr

namespace SearchMovieViewModel

/-- Raise or lower a flag. -/
def setFlag (searchFlag : SearchFlag) (value : Bool)
    (searchMovieViewModel : SearchMovieViewModel) : SearchMovieViewModel :=
  match searchFlag with
  | .isFetching => { searchMovieViewModel with isFetching := value }
  | .isLoadMore => { searchMovieViewModel with isLoadMore := value }

/-- Whether a flag is raised. -/
def flag (searchFlag : SearchFlag) (searchMovieViewModel : SearchMovieViewModel) : Bool :=
  match searchFlag with
  | .isFetching => searchMovieViewModel.isFetching
  | .isLoadMore => searchMovieViewModel.isLoadMore

theorem flag_setFlag (searchFlag other : SearchFlag) (value : Bool)
    (searchMovieViewModel : SearchMovieViewModel) :
    (searchMovieViewModel.setFlag searchFlag value).flag other =
      if searchFlag = other then value else searchMovieViewModel.flag other := by
  cases searchFlag <;> cases other <;> rfl

end SearchMovieViewModel

/-- The view model of the search, what its view controller notes of the current page,
and the rows by their numbers. -/
structure SearchScreen where
  searchMovieViewModel : SearchMovieViewModel := {}
  needLoadMore : Bool := true
  created : Nat := 0
  isFavoriteMovie : Nat → Option Bool := fun _ => some false

/-- A check of favourites: the flag that its completion resets, if any, and the rows
that the completion captures. -/
structure SearchCheck where
  searchFlag : Option SearchFlag
  rowVMs : List SearchMovieRowViewModel
deriving DecidableEq, Repr

namespace SearchMovieController

open ListRowViewModel

/-- The cast of a row to the class of rows with a movie. -/
def asMovieRow : SearchMovieBaseRowViewModel → Option SearchMovieRowViewModel
  | .movie rowVM => some rowVM
  | .header => none

/-- The rows of the sections without a header: the cast of the rows of a section
fails as a whole. -/
def getRowVMFromListViewModel (screen : SearchScreen) : List SearchMovieRowViewModel :=
  screen.searchMovieViewModel.sectionViewModels.flatMap fun sectionVM =>
    (sectionVM.rowViewModels.mapM asMovieRow).getD []

/-- The ids of the movies on display. -/
def getMovieIdsFromListViewModel (screen : SearchScreen) : List Int :=
  (getRowVMFromListViewModel screen).filterMap fun rowVM => rowVM.movie.id

/-- One section with the movies, or with a header where there are none. -/
def buildViewModels (movies : List Movie) (screen : SearchScreen) : SearchScreen :=
  { screen with
    searchMovieViewModel :=
      { screen.searchMovieViewModel with
        sectionViewModels :=
          [{ rowViewModels := (newRows screen.created movies).map .movie ++
              if movies.length = 0 then [.header] else [] }] }
    created := screen.created + movies.length }

/-- Append the rows to the first section. It traps when there is none. -/
def buildViewModelAfterLoadMore (totalPages : Int) (movies : List Movie) (screen : SearchScreen) :
    Option SearchScreen :=
  match screen.searchMovieViewModel.sectionViewModels with
  | [] => none
  | sectionVM :: others =>
      some { screen with
        searchMovieViewModel :=
          { screen.searchMovieViewModel with
            totalPage := totalPages
            sectionViewModels :=
              { rowViewModels :=
                  sectionVM.rowViewModels ++ (newRows screen.created movies).map .movie } ::
                others }
        created := screen.created + movies.length }

/-- The number of pages is that of the reply. -/
def setTotalPage (totalPage : Int) (screen : SearchScreen) : SearchScreen :=
  { screen with searchMovieViewModel := { screen.searchMovieViewModel with totalPage } }

/-- Set the current page, whose listener compares it with the total. -/
def setCurrentPage (currentPage : Nat) (screen : SearchScreen) : SearchScreen :=
  { screen with
    searchMovieViewModel := { screen.searchMovieViewModel with currentPage }
    needLoadMore := needsMore screen.searchMovieViewModel.totalPage currentPage }

/-- Raise or lower a flag of the screen. -/
def setFlag (searchFlag : SearchFlag) (value : Bool) (screen : SearchScreen) : SearchScreen :=
  { screen with searchMovieViewModel := screen.searchMovieViewModel.setFlag searchFlag value }

/-- The answer could not be loaded. -/
def setLoadFail (screen : SearchScreen) : SearchScreen :=
  { screen with searchMovieViewModel := { screen.searchMovieViewModel with isLoadFail := true } }

/-- What `start` and `search` do before they ask. -/
def setSearchText (searchText : Option String) (screen : SearchScreen) : SearchScreen :=
  setFlag .isFetching true
    { screen with searchMovieViewModel := { screen.searchMovieViewModel with searchText } }

/-- Show the first page instead of what is shown. -/
def showFirst (totalPage : Int) (movies : List Movie) (screen : SearchScreen) :
    Option SearchScreen :=
  some (setCurrentPage 2 (setTotalPage totalPage (buildViewModels movies screen)))

/-- Show one more page. -/
def showMore (totalPages : Int) (movies : List Movie) (screen : SearchScreen) :
    Option SearchScreen :=
  (buildViewModelAfterLoadMore totalPages movies screen).map fun shown =>
    setCurrentPage (shown.searchMovieViewModel.currentPage + 1) shown

/-- The check of the rows on display, which resets a flag. -/
def checkOf (searchFlag : SearchFlag) (screen : SearchScreen) : SearchCheck where
  searchFlag := some searchFlag
  rowVMs := getRowVMFromListViewModel screen

/-- A reply that cannot be shown resets a flag. -/
def malformed (searchFlag : SearchFlag) (screen : SearchScreen) : SearchScreen :=
  setFlag searchFlag false (setLoadFail screen)

/-- The reply to the fetch of `start`. -/
def startCompletion : Option Int → Option (List Movie) → Option NSError → SearchScreen →
    Option (SearchScreen × Option SearchCheck) :=
  fetchCompletion setLoadFail showFirst (checkOf .isFetching) (malformed .isFetching)

/-- The reply to the fetch of `search`. -/
def searchCompletion : Option Int → Option (List Movie) → Option NSError → SearchScreen →
    Option (SearchScreen × Option SearchCheck) :=
  fetchCompletion setLoadFail showFirst (checkOf .isFetching) (malformed .isFetching)

/-- The reply to the fetch of the next page of a search. -/
def loadMoreForMovieWhenSearchCompletion : Option Int → Option (List Movie) → Option NSError →
    SearchScreen → Option (SearchScreen × Option SearchCheck) :=
  fetchCompletion setLoadFail showMore (checkOf .isLoadMore) (malformed .isLoadMore)

/-- The `guard` lets errors through and stops at success. -/
def loadMoreForNewMovieCompletion (totalPages : Option Int) (movies : Option (List Movie))
    (error : Option NSError) (screen : SearchScreen) :
    Option (SearchScreen × Option SearchCheck) :=
  match error, totalPages, movies with
  | none, _, _ => some (setLoadFail screen, none)
  | some _, some totalPages, some movies =>
      (showMore totalPages movies screen).map fun shown => (shown, some (checkOf .isLoadMore shown))
  | some _, _, _ => some (malformed .isLoadMore screen, none)

/-- The completion of a check sets stars, and resets the flag of its operation. -/
def checkCompletion (check : SearchCheck) (isFavoriteMovies : Option IsFavorites)
    (error : Option NSError) (screen : SearchScreen) : SearchScreen :=
  let starred : SearchScreen :=
    { screen with
      isFavoriteMovie :=
        setFavorites check.rowVMs isFavoriteMovies error screen.isFavoriteMovie }
  match check.searchFlag with
  | some searchFlag => setFlag searchFlag false starred
  | none => starred

/-- The rows with a movie on display. -/
def movieRows (screen : SearchScreen) : List SearchMovieRowViewModel :=
  screen.searchMovieViewModel.sectionViewModels.flatMap fun sectionVM =>
    sectionVM.rowViewModels.filterMap asMovieRow

/-- The rows that a list of movies is shown as, with or without a header. -/
theorem filterMap_asMovieRow (rowVMs : List SearchMovieRowViewModel) :
    (rowVMs.map .movie).filterMap asMovieRow = rowVMs := by
  rw [List.filterMap_map]
  exact List.filterMap_some

/-- A first page is displayed alone. -/
theorem showFirst_eq_some {total : Int} {movies : List Movie} {screen shown : SearchScreen}
    (isShown : showFirst total movies screen = some shown) :
    (∃ sectionVM, shown.searchMovieViewModel.sectionViewModels = [sectionVM] ∧
        sectionVM.rowViewModels.filterMap asMovieRow = newRows screen.created movies) ∧
      shown.searchMovieViewModel.totalPage = total ∧
      shown.searchMovieViewModel.currentPage = 2 ∧
      shown.created = screen.created + movies.length ∧
      shown.searchMovieViewModel.searchText = screen.searchMovieViewModel.searchText := by
  cases isShown
  refine ⟨⟨_, rfl, ?_⟩, rfl, rfl, rfl, rfl⟩
  rw [List.filterMap_append, filterMap_asMovieRow]
  split <;> exact List.append_nil _

/-- More pages are appended to the first section. -/
theorem buildViewModelAfterLoadMore_eq_some {totalPages : Int} {movies : List Movie}
    {screen built : SearchScreen}
    (isBuilt : buildViewModelAfterLoadMore totalPages movies screen = some built) :
    ∃ sectionVM others, screen.searchMovieViewModel.sectionViewModels = sectionVM :: others ∧
      built =
        { screen with
          searchMovieViewModel :=
            { screen.searchMovieViewModel with
              totalPage := totalPages
              sectionViewModels :=
                { rowViewModels :=
                    sectionVM.rowViewModels ++ (newRows screen.created movies).map .movie } ::
                  others }
          created := screen.created + movies.length } := by
  unfold buildViewModelAfterLoadMore at isBuilt
  split at isBuilt
  · cases isBuilt
  · next sectionVM others sections =>
    cases isBuilt
    exact ⟨sectionVM, others, sections, rfl⟩

/-- A further page is appended to the first section. -/
theorem showMore_eq_some {total : Int} {movies : List Movie} {screen shown : SearchScreen}
    (isShown : showMore total movies screen = some shown) :
    (∃ first others sectionVM, screen.searchMovieViewModel.sectionViewModels = first :: others ∧
        shown.searchMovieViewModel.sectionViewModels = sectionVM :: others ∧
        sectionVM.rowViewModels.filterMap asMovieRow =
          first.rowViewModels.filterMap asMovieRow ++ newRows screen.created movies) ∧
      shown.searchMovieViewModel.totalPage = total ∧
      shown.searchMovieViewModel.currentPage = screen.searchMovieViewModel.currentPage + 1 ∧
      shown.created = screen.created + movies.length ∧
      shown.searchMovieViewModel.searchText = screen.searchMovieViewModel.searchText ∧
      shown.needLoadMore = needsMore total (screen.searchMovieViewModel.currentPage + 1) ∧
      shown.searchMovieViewModel.isLoadMore = screen.searchMovieViewModel.isLoadMore := by
  obtain ⟨built, isBuilt, rfl⟩ := Option.map_eq_some_iff.mp isShown
  obtain ⟨first, others, sections, rfl⟩ := buildViewModelAfterLoadMore_eq_some isBuilt
  refine ⟨⟨first, others, _, sections, rfl, ?_⟩, rfl, rfl, rfl, rfl, rfl, rfl⟩
  rw [List.filterMap_append, filterMap_asMovieRow]

/-- What a screen shows of the pages it has. -/
def pagesShown (screen : SearchScreen) :
    List SearchMovieSectionViewModel × Int × Nat × Bool × Nat :=
  (screen.searchMovieViewModel.sectionViewModels, screen.searchMovieViewModel.totalPage,
    screen.searchMovieViewModel.currentPage, screen.needLoadMore, screen.created)

@[simp] theorem pagesShown_setFlag (searchFlag : SearchFlag) (value : Bool)
    (screen : SearchScreen) :
    pagesShown (setFlag searchFlag value screen) = pagesShown screen := by
  cases searchFlag <;> rfl

@[simp] theorem searchText_setFlag (searchFlag : SearchFlag) (value : Bool)
    (screen : SearchScreen) :
    (setFlag searchFlag value screen).searchMovieViewModel.searchText =
      screen.searchMovieViewModel.searchText := by
  cases searchFlag <;> rfl

/-- The reply to a check changes neither the pages on display nor the text. -/
theorem pagesShown_checkCompletion (check : SearchCheck) (isFavoriteMovies : Option IsFavorites)
    (error : Option NSError) (screen : SearchScreen) :
    pagesShown (checkCompletion check isFavoriteMovies error screen) = pagesShown screen ∧
      (checkCompletion check isFavoriteMovies error screen).searchMovieViewModel.searchText =
        screen.searchMovieViewModel.searchText := by
  unfold checkCompletion
  cases check.searchFlag with
  | none => exact ⟨rfl, rfl⟩
  | some searchFlag => exact ⟨pagesShown_setFlag searchFlag false _, searchText_setFlag ..⟩

/-- The completion of a check resets its flag only. -/
theorem flag_checkCompletion (check : SearchCheck) (isFavoriteMovies : Option IsFavorites)
    (error : Option NSError) (screen : SearchScreen) (searchFlag : SearchFlag) :
    (checkCompletion check isFavoriteMovies error screen).searchMovieViewModel.flag searchFlag =
      if check.searchFlag = some searchFlag then false
      else screen.searchMovieViewModel.flag searchFlag := by
  unfold checkCompletion
  cases check.searchFlag with
  | none => rfl
  | some own =>
      simp only [Option.some.injEq]
      exact SearchMovieViewModel.flag_setFlag own searchFlag false _

/-- However its request ends, the load-more of the new movies shows no page. -/
theorem loadMoreForNewMovieCompletion_fetchMovie {fm : DateFormatter} {outcome : Outcome}
    {totalPages : Option Int} {movies : Option (List Movie)} {error : Option NSError}
    (fetched : MovieService.fetchMovie fm outcome = (totalPages, movies, error))
    (screen : SearchScreen) :
    loadMoreForNewMovieCompletion totalPages movies error screen =
      some (if error.isSome then malformed .isLoadMore screen else setLoadFail screen, none) := by
  cases error with
  | none => rfl
  | some thrown =>
      obtain ⟨rfl, rfl⟩ := MovieService.fetchMovie_error fetched
      rfl

end SearchMovieController

end MovieFun
