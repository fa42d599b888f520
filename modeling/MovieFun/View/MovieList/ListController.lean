import MovieFun.View.MovieRows

/-!
# ListController

The four movie lists, which differ in the URL of their view models only.
-/

namespace MovieFun

/-- A section of a list. -/
structure ListSectionViewModel where
  listRowViewModels : List ListRowViewModel := []
deriving DecidableEq, Repr

/-- What a list is bound to. -/
structure ListViewModel where
  isPullToRefresh : Bool := false
  isLoadMore : Bool := false
  isFetching : Bool := false
  isLoadFail : Bool := false
  listSectionViewModels : List ListSectionViewModel := []
  totalPage : Int := 1
  currentPage : Nat := 1
  url : String
deriving DecidableEq, Repr

/-- The list of new movies. -/
def NewMovieListViewModel : ListViewModel where
  url := MovieService.NEW_MOVIE_URL

/-- The list of movies that are on now. -/
def NowMovieListViewModel : ListViewModel where
  url := MovieService.NOW_MOVIE_URL

/-- The list of top rated movies. -/
def TopRateListViewModel : ListViewModel where
  url := MovieService.TOP_RATE_MOVIE_URL

/-- The list of trailers. -/
def TrailerMovieListViewModel : ListViewModel where
  url := MovieService.POPULAR_MOVIE_URL

/-- The subclasses of `ListController`. -/
inductive ListSubclass
  | newMovieList
  | nowMovieList
  | topRateList
  | trailerMovieList
deriving DecidableEq, Repr

/-- The view model that `init` of a subclass makes. -/
def ListSubclass.listViewModel : ListSubclass → ListViewModel
  | newMovieList => NewMovieListViewModel
  | nowMovieList => NowMovieListViewModel
  | topRateList => TopRateListViewModel
  | trailerMovieList => TrailerMovieListViewModel

/-- The operations that ask for movies. -/
inductive ListOperation
  | start
  | pullToRefresh
  | loadMore
deriving DecidableEq, Repr

namespace ListViewModel

/-- Set the flag of an operation. -/
def setFlag (operation : ListOperation) (value : Bool) (listViewModel : ListViewModel) :
    ListViewModel :=
  match operation with
  | .start => { listViewModel with isFetching := value }
  | .pullToRefresh => { listViewModel with isPullToRefresh := value }
  | .loadMore => { listViewModel with isLoadMore := value }

/-- The flag of an operation. -/
def flag (operation : ListOperation) (listViewModel : ListViewModel) : Bool :=
  match operation with
  | .start => listViewModel.isFetching
  | .pullToRefresh => listViewModel.isPullToRefresh
  | .loadMore => listViewModel.isLoadMore

theorem flag_setFlag (operation other : ListOperation) (value : Bool)
    (listViewModel : ListViewModel) :
    (listViewModel.setFlag operation value).flag other =
      if operation = other then value else listViewModel.flag other := by
  cases operation <;> cases other <;> rfl

end ListViewModel

/-- The view model of a list, what its view controller notes of the current page,
and the rows by their numbers: those not yet created have the values of `init`. -/
structure ListScreen where
  listViewModel : ListViewModel
  needLoadMore : Bool := true
  created : Nat := 0
  isFavoriteMovie : Nat → Option Bool := fun _ => some false
  isLoading : Nat → Bool := fun _ => false

/-- A check of favourites: the operation whose flag its completion resets, if any,
and the rows that the completion captures. -/
structure ListCheck where
  operation : Option ListOperation
  rowVMs : List ListRowViewModel
deriving DecidableEq, Repr

namespace ListController

open ListRowViewModel

/-- The list before anything was fetched. -/
def initial (subclass : ListSubclass) : ListScreen where
  listViewModel := subclass.listViewModel

/-- The rows of the list. -/
def getRowVMFromListViewModel (screen : ListScreen) : List ListRowViewModel :=
  screen.listViewModel.listSectionViewModels.flatMap ListSectionViewModel.listRowViewModels

/-- The ids of the movies of the list. -/
def getMovieIdsFromListViewModel (screen : ListScreen) : List Int :=
  (getRowVMFromListViewModel screen).filterMap fun rowVM => rowVM.movie.id

/-- The movies of a reply are the rows, each with a row object of its own. -/
def buildViewModel (totalPages : Int) (movies : List Movie) (screen : ListScreen) : ListScreen :=
  { screen with
    listViewModel :=
      { screen.listViewModel with
        totalPage := totalPages
        listSectionViewModels := [{ listRowViewModels := newRows screen.created movies }] }
    created := screen.created + movies.length }

/-- Append the rows to the first section. It traps when there is none. -/
def buildViewModelAfterLoadMore (totalPages : Int) (movies : List Movie) (screen : ListScreen) :
    Option ListScreen :=
  match screen.listViewModel.listSectionViewModels with
  | [] => none
  | sectionVM :: others =>
      some { screen with
        listViewModel :=
          { screen.listViewModel with
            totalPage := totalPages
            listSectionViewModels :=
              { listRowViewModels :=
                  sectionVM.listRowViewModels ++ newRows screen.created movies } :: others }
        created := screen.created + movies.length }

/-- Set the current page, whose listener compares it with the total. -/
def setCurrentPage (currentPage : Nat) (screen : ListScreen) : ListScreen :=
  { screen with
    listViewModel := { screen.listViewModel with currentPage }
    needLoadMore := needsMore screen.listViewModel.totalPage currentPage }

/-- Raise or lower the flag of an operation. -/
def setFlag (operation : ListOperation) (value : Bool) (screen : ListScreen) : ListScreen :=
  { screen with listViewModel := screen.listViewModel.setFlag operation value }

/-- The list could not be loaded. -/
def setLoadFail (screen : ListScreen) : ListScreen :=
  { screen with listViewModel := { screen.listViewModel with isLoadFail := true } }

/-- Show the first page instead of what is shown. -/
def showFirst (totalPages : Int) (movies : List Movie) (screen : ListScreen) :
    Option ListScreen :=
  some (setCurrentPage 2 (buildViewModel totalPages movies screen))

/-- Show one more page. -/
def showMore (totalPages : Int) (movies : List Movie) (screen : ListScreen) :
    Option ListScreen :=
  (buildViewModelAfterLoadMore totalPages movies screen).map fun shown =>
    setCurrentPage (shown.listViewModel.currentPage + 1) shown

/-- The check of the rows on display, for an operation. -/
def checkOf (operation : ListOperation) (screen : ListScreen) : ListCheck where
  operation := some operation
  rowVMs := getRowVMFromListViewModel screen

/-- The reply to the fetch of `start`. -/
def startCompletion : Option Int → Option (List Movie) → Option NSError → ListScreen →
    Option (ListScreen × Option ListCheck) :=
  fetchCompletion setLoadFail showFirst (checkOf .start)
    fun screen => setFlag .start false (setLoadFail screen)

/-- The reply to the fetch of `pullToRefresh`. -/
def pullToRefreshCompletion : Option Int → Option (List Movie) → Option NSError → ListScreen →
    Option (ListScreen × Option ListCheck) :=
  fetchCompletion setLoadFail showFirst (checkOf .pullToRefresh) (setFlag .pullToRefresh false)

/-- The reply to the fetch of `loadMore`. -/
def loadMoreCompletion : Option Int → Option (List Movie) → Option NSError → ListScreen →
    Option (ListScreen × Option ListCheck) :=
  fetchCompletion setLoadFail showMore (checkOf .loadMore) (setFlag .loadMore false)

/-- The completion of a check sets stars, and resets the flag of its operation. -/
def checkCompletion (check : ListCheck) (isFavoriteMovies : Option IsFavorites)
    (error : Option NSError) (screen : ListScreen) : ListScreen :=
  let starred : ListScreen :=
    { screen with
      isFavoriteMovie :=
        setFavorites check.rowVMs isFavoriteMovies error screen.isFavoriteMovie }
  match check.operation with
  | some operation => setFlag operation false starred
  | none => starred

/-- A first page is displayed alone, and counts up to two. -/
theorem showFirst_eq_some {total : Int} {movies : List Movie} {screen shown : ListScreen}
    (isShown : showFirst total movies screen = some shown) :
    shown.listViewModel.listSectionViewModels =
        [{ listRowViewModels := newRows screen.created movies }] ∧
      shown.listViewModel.currentPage = 2 := by
  cases isShown
  exact ⟨rfl, rfl⟩

/-- More pages are appended to the first section. -/
theorem buildViewModelAfterLoadMore_eq_some {totalPages : Int} {movies : List Movie}
    {screen built : ListScreen}
    (isBuilt : buildViewModelAfterLoadMore totalPages movies screen = some built) :
    ∃ sectionVM others, screen.listViewModel.listSectionViewModels = sectionVM :: others ∧
      built =
        { screen with
          listViewModel :=
            { screen.listViewModel with
              totalPage := totalPages
              listSectionViewModels :=
                { listRowViewModels :=
                    sectionVM.listRowViewModels ++ newRows screen.created movies } :: others }
          created := screen.created + movies.length } := by
  unfold buildViewModelAfterLoadMore at isBuilt
  split at isBuilt
  · cases isBuilt
  · next sectionVM others sections =>
    cases isBuilt
    exact ⟨sectionVM, others, sections, rfl⟩

/-- A further page is appended to the first section, and counts one up. -/
theorem showMore_eq_some {total : Int} {movies : List Movie} {screen shown : ListScreen}
    (isShown : showMore total movies screen = some shown) :
    (∃ sectionVM others, screen.listViewModel.listSectionViewModels = sectionVM :: others ∧
        shown.listViewModel.listSectionViewModels =
          { listRowViewModels :=
              sectionVM.listRowViewModels ++ newRows screen.created movies } :: others) ∧
      shown.listViewModel.totalPage = total ∧
      shown.listViewModel.currentPage = screen.listViewModel.currentPage + 1 ∧
      shown.needLoadMore = needsMore total (screen.listViewModel.currentPage + 1) ∧
      shown.listViewModel.isLoadMore = screen.listViewModel.isLoadMore := by
  obtain ⟨built, isBuilt, rfl⟩ := Option.map_eq_some_iff.mp isShown
  obtain ⟨sectionVM, others, sections, rfl⟩ := buildViewModelAfterLoadMore_eq_some isBuilt
  exact ⟨⟨sectionVM, others, sections, rfl⟩, rfl, rfl, rfl, rfl⟩

/-- What a screen shows of the pages it has: its sections, the total and the current
page, and whether more are needed. -/
def pagesShown (screen : ListScreen) : List ListSectionViewModel × Int × Nat × Bool :=
  (screen.listViewModel.listSectionViewModels, screen.listViewModel.totalPage,
    screen.listViewModel.currentPage, screen.needLoadMore)

@[simp] theorem pagesShown_setFlag (operation : ListOperation) (value : Bool)
    (screen : ListScreen) : pagesShown (setFlag operation value screen) = pagesShown screen := by
  cases operation <;> rfl

@[simp] theorem pagesShown_setLoadFail (screen : ListScreen) :
    pagesShown (setLoadFail screen) = pagesShown screen := rfl

@[simp] theorem pagesShown_checkCompletion (check : ListCheck)
    (isFavoriteMovies : Option IsFavorites) (error : Option NSError) (screen : ListScreen) :
    pagesShown (checkCompletion check isFavoriteMovies error screen) = pagesShown screen := by
  unfold checkCompletion
  cases check.operation with
  | none => rfl
  | some operation => exact pagesShown_setFlag operation false _

/-- The completion of a check resets the flag of its operation only. -/
theorem flag_checkCompletion (check : ListCheck) (isFavoriteMovies : Option IsFavorites)
    (error : Option NSError) (screen : ListScreen) (operation : ListOperation) :
    (checkCompletion check isFavoriteMovies error screen).listViewModel.flag operation =
      if check.operation = some operation then false
      else screen.listViewModel.flag operation := by
  unfold checkCompletion
  cases check.operation with
  | none => rfl
  | some own =>
      simp only [Option.some.injEq]
      exact ListViewModel.flag_setFlag own operation false _

end ListController

end MovieFun
