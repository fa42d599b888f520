import MovieFun.Helper.Gregorian
import MovieFun.View.Home.MovieListController

/-!
# Short lists of movies

The home screen reads as many movies as its layout has room for, whatever the lists bring. So
nothing traps exactly when each list that was brought is long enough for its section
(`survives_iff_longEnough`).
-/

namespace MovieFun

/-- Every section that the data source announces has a movie, and the slice of the cell is in
the list. -/
structure MovieListCellViewModel.InRange (cellVM : MovieListCellViewModel) : Prop where
  announced : ∀ dataSource ∈ cellVM.dataSource, ∀ indexPathSection < dataSource.numberOfSections,
    (dataSource.cellForItemAt indexPathSection).isSome ∧
      (dataSource.didSelectItemAt indexPathSection).isSome
  sliced : cellVM.setUp.isSome

/-- Nothing on the screen traps. -/
def MovieListViewModel.Survives (movieListViewModel : MovieListViewModel) : Prop :=
  ∀ sectionVM ∈ movieListViewModel.sectionViewModels, ∀ cellVM ∈ sectionVM.rowViewModels,
    cellVM.InRange

/-- The screen survives what the four requests bring. -/
def HomeSurvives (fm : DateFormatter)
    (newMovies nowMovies topRateMovies popularMovies : Outcome) : Prop :=
  ∃ service,
    MovieService.fetchMovieList fm newMovies nowMovies topRateMovies popularMovies {} =
      some service ∧
    (MovieListController.startCompletion service.newMovies service.nowMovies
      service.topRateMovies service.popularMovies (MovieListController.start {})).Survives

/-- A list that was brought has so many movies. -/
def LongEnough (count : Nat) (movies : Option (List Movie)) : Prop :=
  ∀ brought ∈ movies, count ≤ brought.length

variable {movies : List Movie}

/-- A data source announces movies that there are exactly if there are enough of them. -/
theorem announced_iff (dataSource : MovieDataSource) :
    (∀ indexPathSection < dataSource.numberOfSections,
      (dataSource.cellForItemAt indexPathSection).isSome ∧
        (dataSource.didSelectItemAt indexPathSection).isSome) ↔
      dataSource.numberOfSections ≤ dataSource.movies.length := by
  have inRange : ∀ indexPathSection,
      (dataSource.movies[indexPathSection]?).isSome ↔ indexPathSection < dataSource.movies.length :=
    fun _ => iff_of_eq (isSome_getElem? _ _)
  simp only [MovieDataSource.cellForItemAt, MovieDataSource.didSelectItemAt, Option.isSome_map,
    and_self, inRange]
  constructor
  · intro each
    by_contra short
    exact Nat.lt_irrefl _ (each _ (Nat.lt_of_not_le short))
  · intro enough indexPathSection announced
    exact Nat.lt_of_lt_of_le announced enough

/-- A slice is in the list exactly if the list does not end before it. -/
theorem slice_isSome_iff {lower upper : Nat} (order : lower ≤ upper) :
    (slice movies lower upper).isSome ↔ upper ≤ movies.length := by
  by_cases inRange : upper ≤ movies.length
  · rw [slice_eq order inRange]
    exact iff_of_true rfl inRange
  · rw [slice, if_neg (by omega)]
    exact iff_of_false (by simp) inRange

/-- A cell with a collection needs the movies that its data source announces, besides its
slice. -/
theorem inRange_iff_of_collection {cellVM : MovieListCellViewModel} {dataSource : MovieDataSource}
    (own : cellVM.dataSource = some dataSource) :
    cellVM.InRange ↔
      dataSource.numberOfSections ≤ dataSource.movies.length ∧ cellVM.setUp.isSome := by
  constructor
  · rintro ⟨announced, sliced⟩
    exact ⟨(announced_iff dataSource).mp (announced dataSource own), sliced⟩
  · rintro ⟨enough, sliced⟩
    refine ⟨fun other isOther => ?_, sliced⟩
    rw [own] at isOther
    cases isOther
    exact (announced_iff dataSource).mpr enough

/-- The cell of the new movies needs sixteen of them. -/
theorem inRange_newMovieCell :
    (MovieListCellViewModel.newMovieCell movies).InRange ↔ 16 ≤ movies.length := by
  rw [inRange_iff_of_collection rfl]
  exact and_iff_left rfl

/-- The cell of the movies that are on now needs three of them. -/
theorem inRange_nowMovieCell :
    (MovieListCellViewModel.nowMovieCell movies).InRange ↔ 3 ≤ movies.length := by
  rw [← slice_isSome_iff (Nat.zero_le 3)]
  exact ⟨fun inRange => inRange.sliced, fun sliced => ⟨nofun, sliced⟩⟩

/-- The cell of the top rated movies needs six of them. -/
theorem inRange_topRateCell :
    (MovieListCellViewModel.topRateCell movies).InRange ↔ 6 ≤ movies.length := by
  rw [inRange_iff_of_collection rfl]
  exact and_iff_left rfl

/-- The slice below the collection of trailers goes further than the collection. -/
theorem inRange_trailersMovieCell :
    (MovieListCellViewModel.trailersMovieCell movies).InRange ↔ 10 ≤ movies.length := by
  have order : 6 ≤ 10 := by decide
  rw [inRange_iff_of_collection rfl, ← slice_isSome_iff order]
  apply and_iff_right_of_imp
  intro sliced
  exact Nat.le_trans order ((slice_isSome_iff order).mp sliced)

/-- A section is added for movies that were brought. -/
theorem survives_buildSection (cell : List Movie → MovieListCellViewModel)
    (movies : Option (List Movie)) (movieListViewModel : MovieListViewModel) :
    (MovieListController.buildSection cell movies movieListViewModel).Survives ↔
      movieListViewModel.Survives ∧ ∀ brought ∈ movies, (cell brought).InRange := by
  unfold MovieListController.buildSection MovieListViewModel.Survives
  cases movies with
  | none => exact (and_iff_left nofun).symm
  | some brought =>
      rw [List.forall_mem_append, List.forall_mem_singleton, List.forall_mem_singleton]
      simp only [Option.mem_some_iff, forall_eq']

/-- The screen that is built for lists of movies survives exactly if they are long enough. -/
theorem survives_startCompletion (newMovies nowMovies topRateMovies popularMovies :
      Option (List Movie)) :
    (MovieListController.startCompletion newMovies nowMovies topRateMovies popularMovies
      (MovieListController.start {})).Survives ↔
      LongEnough 16 newMovies ∧ LongEnough 3 nowMovies ∧ LongEnough 6 topRateMovies ∧
        LongEnough 10 popularMovies := by
  let cleared : MovieListViewModel :=
    { MovieListController.start {} with isLoading := false, isHiddenMovieTableView := false }
  have empty : cleared.Survives := fun _ none => absurd none List.not_mem_nil
  unfold MovieListController.startCompletion MovieListController.buildViewModels
  rw [survives_buildSection, survives_buildSection, survives_buildSection, survives_buildSection,
    and_iff_right empty, and_assoc, and_assoc]
  simp only [inRange_newMovieCell, inRange_nowMovieCell, inRange_topRateCell,
    inRange_trailersMovieCell]
  rfl

/-- **The home screen and short lists.** The screen survives what the four requests bring
exactly if each list that they bring is long enough for its section. -/
theorem survives_iff_longEnough (fm : DateFormatter)
    (newMovies nowMovies topRateMovies popularMovies : Outcome) :
    HomeSurvives fm newMovies nowMovies topRateMovies popularMovies ↔
      LongEnough 16 (MovieService.fetchMovie fm newMovies).2.1 ∧
        LongEnough 3 (MovieService.fetchMovie fm nowMovies).2.1 ∧
        LongEnough 6 (MovieService.fetchMovie fm topRateMovies).2.1 ∧
        LongEnough 10 (MovieService.fetchMovie fm popularMovies).2.1 := by
  unfold HomeSurvives
  rw [MovieService.fetchMovieList_eq, ← survives_startCompletion]
  simp only [Option.some.injEq, exists_eq_left']

/-- A reply with so many movies, of which nothing is known. -/
def pageOf (count : Nat) : Outcome :=
  .success (some (.dictionary
    [("results", .array (List.replicate count (.dictionary []))), ("total_pages", .number 1)]))

/-- A fetch can bring any number of movies. -/
theorem length_fetchMovie_pageOf (fm : DateFormatter) (count : Nat) :
    (MovieService.fetchMovie fm (pageOf count)).2.1.map List.length = some count := by
  have brought : MovieService.fetchMovie fm (pageOf count) =
      (some 1, some ((List.replicate count (.dictionary [])).map
        (MovieService.parseMovieJson fm)), none) := rfl
  rw [brought, Option.map_some, List.length_map, List.length_replicate]

/-- Fifteen new movies are one too few. -/
theorem not_survives_fifteenNewMovies :
    ¬ HomeSurvives (Gregorian.formatter ⟨0⟩) (pageOf 15) (pageOf 20) (pageOf 20) (pageOf 20) := by
  rintro ⟨service, fetched, survives⟩
  rw [MovieService.fetchMovieList_eq] at fetched
  cases fetched
  obtain ⟨brought, isBrought, fifteen⟩ :=
    Option.map_eq_some_iff.mp (length_fetchMovie_pageOf (Gregorian.formatter ⟨0⟩) 15)
  have enough : 16 ≤ brought.length :=
    ((survives_startCompletion _ _ _ _).mp survives).1 brought isBrought
  rw [fifteen] at enough
  exact absurd enough (by decide)

end MovieFun
