import MovieFun.Helper.Gregorian
import MovieFun.View.MovieList.ListSystem
import MovieFun.View.SearchMovie.SearchSystem

/-!
# The two lists load more

A movie list and the search screen without a text show the same kind of list, and each
has a load-more of its own. The one of the search screen leaves what it shows as it is,
whatever the reply (`display_loadMore` of `SearchSystem`), so the two agree exactly on
the replies that bring no page (`loadsAlike_iff_noPage`).
-/

namespace MovieFun

/-- What a list of movies shows: its movies, the total, and the current page. -/
structure MovieDisplay where
  movies : List Movie
  totalPage : Int
  currentPage : Nat
deriving DecidableEq, Repr

/-- What a request for a page of movies ends with hands on to its completion as a page. -/
def Outcome.page? (fm : DateFormatter) (outcome : Outcome) : Option (Int × List Movie) :=
  match MovieService.fetchMovie fm outcome with
  | (totalPages, movies, error) => broughtPage totalPages movies error

namespace ListSystem

open ListController

/-- What a list displays. -/
def display (system : ListSystem) : MovieDisplay where
  movies := (getRowVMFromListViewModel system.screen).map ListRowViewModel.movie
  totalPage := system.screen.listViewModel.totalPage
  currentPage := system.screen.listViewModel.currentPage

/-- A load-more asks for the current page. -/
def askMore (system : ListSystem) : Option ListSystem :=
  EventRun.runFrom step system [.loadMore, .deadline .loadMore]

/-- A load-more from its call to its reply. -/
def loadMore (fm : DateFormatter) (outcome : Outcome) (system : ListSystem) :
    Option ListSystem := do
  let asked ← askMore system
  let (totalPages, movies, error) := MovieService.fetchMovie fm outcome
  step asked (.reply
    { operation := .loadMore, page := system.screen.listViewModel.currentPage }
    totalPages movies error)

/-- What a load-more leaves before its reply. -/
theorem askMore_eq_some (system : ListSystem) : ∃ asked, askMore system = some asked ∧
    asked.screen = setFlag .loadMore true system.screen ∧
    { operation := .loadMore, page := system.screen.listViewModel.currentPage } ∈
      asked.requests := by
  let called : ListSystem :=
    { system with
      screen := setFlag .loadMore true system.screen
      delayed := system.delayed ++ [.loadMore] }
  have waits : enabled called (.deadline .loadMore) :=
    decide_eq_true (List.mem_append_right _ List.mem_cons_self)
  have asks : step called (.deadline .loadMore) = handle called (.deadline .loadMore) :=
    if_pos waits
  refine ⟨{ called with delayed := called.delayed.erase .loadMore }.send
    { operation := .loadMore, page := system.screen.listViewModel.currentPage }, ?_, rfl,
    List.mem_append_right _ List.mem_cons_self⟩
  change (step called (.deadline .loadMore)).bind some = _
  rw [asks]
  rfl

theorem display_congr {first second : ListSystem}
    (same : pagesShown first.screen = pagesShown second.screen) :
    first.display = second.display := by
  simp only [pagesShown, Prod.mk.injEq] at same
  obtain ⟨sections, total, current, -⟩ := same
  simp only [display, getRowVMFromListViewModel, sections, total, current]

/-- A load-more appends the page that its reply brings, and counts one up. -/
theorem display_loadMore {fm : DateFormatter} {outcome : Outcome} {system : ListSystem}
    {sectionVM : ListSectionViewModel}
    (single : system.screen.listViewModel.listSectionViewModels = [sectionVM]) :
    ∃ next, system.loadMore fm outcome = some next ∧
      next.display = (outcome.page? fm).elim system.display fun (totalPages, movies) =>
        { movies := system.display.movies ++ movies
          totalPage := totalPages
          currentPage := system.display.currentPage + 1 } := by
  obtain ⟨asked, asks, screen, waits⟩ := askMore_eq_some system
  have shown : pagesShown asked.screen = pagesShown system.screen := by
    rw [screen, pagesShown_setFlag]
  have sections : asked.screen.listViewModel.listSectionViewModels = [sectionVM] :=
    (congrArg Prod.fst shown).trans single
  simp only [loadMore, asks, Option.bind_eq_bind, Option.bind_some, Outcome.page?]
  obtain ⟨totalPages, movies, error⟩ := MovieService.fetchMovie fm outcome
  dsimp only
  have completes : (completion .loadMore totalPages movies error asked.screen).isSome := by
    apply fetchCompletion_isSome.mpr
    intro page _
    rw [showMore, Option.isSome_map, buildViewModelAfterLoadMore, sections]
    rfl
  obtain ⟨⟨after, check⟩, completed⟩ := Option.isSome_iff_exists.mp completes
  have taken := step_reply waits completed
  refine ⟨_, taken, ?_⟩
  rw [← display_congr shown]
  rcases fetchCompletion_eq_some completed with
    ⟨silent, -, ⟨-, rfl⟩ | ⟨-, rfl⟩⟩ | ⟨total, movies, brought, isShown, -⟩
  · rw [silent]
    rfl
  · rw [silent]
    rfl
  · rw [brought]
    obtain ⟨⟨_, others, isFirst, built⟩, isTotal, current, -⟩ := showMore_eq_some isShown
    cases sections.symm.trans isFirst
    simp only [display, getRowVMFromListViewModel, built, isTotal, current, sections,
      List.flatMap_cons, List.flatMap_nil, List.append_nil, List.map_append,
      ListRowViewModel.movie_newRows, Option.elim_some]

end ListSystem

namespace SearchSystem

open SearchMovieController

/-- What the search screen displays. -/
def display (system : SearchSystem) : MovieDisplay where
  movies := (movieRows system.screen).map ListRowViewModel.movie
  totalPage := system.screen.searchMovieViewModel.totalPage
  currentPage := system.screen.searchMovieViewModel.currentPage

/-- A load-more asks for the current page of the search text. -/
def askMore (system : SearchSystem) : Option SearchSystem :=
  EventRun.runFrom step system [.loadMore, .deadline]

/-- A load-more without a search text, from its call to its reply. -/
def loadMore (fm : DateFormatter) (outcome : Outcome) (system : SearchSystem) :
    Option SearchSystem := do
  let asked ← askMore system
  let (totalPages, movies, error) := MovieService.fetchMovie fm outcome
  step asked (.reply
    { searchText := none
      more := true
      page := system.screen.searchMovieViewModel.currentPage }
    totalPages movies error)

/-- What a load-more leaves before its reply. -/
theorem askMore_eq_some {system : SearchSystem}
    (browses : system.screen.searchMovieViewModel.searchText = none) :
    ∃ asked, askMore system = some asked ∧
      asked.screen = setFlag .isLoadMore true system.screen ∧
      { searchText := none
        more := true
        page := system.screen.searchMovieViewModel.currentPage } ∈ asked.requests := by
  let called : SearchSystem :=
    { system with
      screen := setFlag .isLoadMore true system.screen
      delayed := system.delayed + 1 }
  have waits : enabled called .deadline := decide_eq_true (Nat.succ_pos system.delayed)
  have asks : step called .deadline = handle called .deadline := if_pos waits
  refine ⟨{ called with delayed := called.delayed - 1 }.send
    { searchText := none
      more := true
      page := system.screen.searchMovieViewModel.currentPage }, ?_, rfl,
    List.mem_append_right _ List.mem_cons_self⟩
  change (step called .deadline).bind some = _
  rw [asks, ← browses]
  rfl

theorem display_congr {first second : SearchSystem}
    (same : pagesShown first.screen = pagesShown second.screen) :
    first.display = second.display := by
  simp only [pagesShown, Prod.mk.injEq] at same
  obtain ⟨sections, total, current, -⟩ := same
  simp only [display, movieRows, sections, total, current]

/-- Without a search text, a load-more changes nothing on display. -/
theorem display_loadMore {fm : DateFormatter} {outcome : Outcome} {system : SearchSystem}
    (browses : system.screen.searchMovieViewModel.searchText = none) :
    ∃ next, system.loadMore fm outcome = some next ∧ next.display = system.display := by
  obtain ⟨asked, asks, screen, waits⟩ := askMore_eq_some browses
  have shown : pagesShown asked.screen = pagesShown system.screen := by
    rw [screen, pagesShown_setFlag]
  simp only [loadMore, asks, Option.bind_eq_bind, Option.bind_some]
  cases fetched : MovieService.fetchMovie fm outcome with
  | mk totalPages reply =>
      obtain ⟨movies, error⟩ := reply
      have completed := loadMoreForNewMovieCompletion_fetchMovie fetched asked.screen
      refine ⟨_, step_reply waits completed, ?_⟩
      rw [← display_congr shown]
      apply display_congr
      split
      · exact pagesShown_setFlag .isLoadMore false _
      · rfl

end SearchSystem

/-- A movie list, and a search screen without a text that shows the same. -/
structure SameList where
  list : ListSystem
  search : SearchSystem
  listSection : ListSectionViewModel
  single : list.screen.listViewModel.listSectionViewModels = [listSection]
  browses : search.screen.searchMovieViewModel.searchText = none
  same : list.display = search.display

/-- After a load-more with one reply both show the same. -/
def SameList.LoadsAlike (fm : DateFormatter) (outcome : Outcome) (same : SameList) : Prop :=
  ∃ list search, same.list.loadMore fm outcome = some list ∧
    same.search.loadMore fm outcome = some search ∧ list.display = search.display

/-- **The lists load more alike exactly when there is no page.** Whatever they show and
whatever the request ends with. -/
theorem loadsAlike_iff_noPage (fm : DateFormatter) (outcome : Outcome) (same : SameList) :
    same.LoadsAlike fm outcome ↔ outcome.page? fm = none := by
  obtain ⟨list, listLoads, listShows⟩ :=
    @ListSystem.display_loadMore fm outcome same.list same.listSection same.single
  obtain ⟨search, searchLoads, searchShows⟩ :=
    @SearchSystem.display_loadMore fm outcome same.search same.browses
  constructor
  · rintro ⟨otherList, otherSearch, isList, isSearch, alike⟩
    rw [listLoads, Option.some.injEq] at isList
    rw [searchLoads, Option.some.injEq] at isSearch
    rw [← isList, ← isSearch, listShows, searchShows, ← same.same] at alike
    cases brought : outcome.page? fm with
    | none => rfl
    | some page =>
        rw [brought] at alike
        exact absurd (congrArg MovieDisplay.currentPage alike) (Nat.succ_ne_self _)
  · intro noPage
    refine ⟨list, search, listLoads, searchLoads, ?_⟩
    rw [listShows, searchShows, noPage, ← same.same]
    rfl

/-- A list and a search screen that show one movie, with a second page to ask for. -/
def onePage : SameList where
  list :=
    { screen :=
        { listViewModel :=
            { NewMovieListViewModel with
              listSectionViewModels := [{ listRowViewModels := [⟨0, { id := some 1 }⟩] }]
              totalPage := 3
              currentPage := 2 }
          created := 1 } }
  search :=
    { screen :=
        { searchMovieViewModel :=
            { sectionViewModels := [{ rowViewModels := [.movie ⟨0, { id := some 1 }⟩] }]
              totalPage := 3
              currentPage := 2 }
          created := 1 } }
  listSection := { listRowViewModels := [⟨0, { id := some 1 }⟩] }
  single := rfl
  browses := rfl
  same := rfl

/-- A body with the total 3 and no movies. -/
def secondPage : Outcome :=
  .success (some (.dictionary [("results", .array []), ("total_pages", .number 3)]))

/-- The list counts up and the search screen does not. -/
theorem not_loadsAlike_secondPage :
    ¬ onePage.LoadsAlike (Gregorian.formatter ⟨0⟩) secondPage := by
  rintro ⟨list, search, isList, isSearch, alike⟩
  cases isList
  cases isSearch
  cases congrArg MovieDisplay.currentPage alike

end MovieFun
