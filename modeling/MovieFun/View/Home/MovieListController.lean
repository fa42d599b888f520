import MovieFun.Helper.ArraySlice
import MovieFun.Network.MovieService

/-!
# The home screen

Four sections of movies, each made when its fetch brings a list of any length. A section is one
cell of a table. Three of the cells hold a collection, with a data source that announces a
fixed number of sections, and two show a fixed slice of the list besides. `none` is a trap.
-/

namespace MovieFun

/-- The data source of a collection of movies, with one item in each section. -/
structure MovieDataSource where
  numberOfSections : Nat
  movies : List Movie

namespace MovieDataSource

/-- The movie that the cell of a section shows. -/
def cellForItemAt (indexPathSection : Nat) (dataSource : MovieDataSource) : Option Movie :=
  dataSource.movies[indexPathSection]?

/-- The id of the movie whose screen a tap on a section opens, if it has one. -/
def didSelectItemAt (indexPathSection : Nat) (dataSource : MovieDataSource) :
    Option (Option Int) :=
  dataSource.movies[indexPathSection]?.map Movie.id

end MovieDataSource

/-- The view models of the cells. -/
inductive MovieListCellViewModel
  | newMovieCell (newMovies : List Movie)
  | nowMovieCell (nowMovies : List Movie)
  | topRateCell (topRateMovies : List Movie)
  | trailersMovieCell (trailerMovies : List Movie)

namespace NewMovieCellViewModel

/-- The first sixteen new movies. -/
def dataSource (newMovies : List Movie) : MovieDataSource := ⟨16, newMovies⟩

end NewMovieCellViewModel

namespace TopRateCellViewModel

/-- The first six top rated movies. -/
def dataSource (topRateMovies : List Movie) : MovieDataSource := ⟨6, topRateMovies⟩

end TopRateCellViewModel

namespace TrailersMovieCellViewModel

/-- The first six trailers. -/
def dataSource (trailerMovies : List Movie) : MovieDataSource := ⟨6, trailerMovies⟩

end TrailersMovieCellViewModel

namespace NowMovieTableViewCell

/-- The movies of the stack that the cell is set up with. -/
def setUp (nowMovies : List Movie) : Option (List Movie) := slice nowMovies 0 3

end NowMovieTableViewCell

namespace TrailersMovieTableViewCell

/-- The movies of the stack below the collection. -/
def setUp (trailerMovies : List Movie) : Option (List Movie) := slice trailerMovies 6 10

end TrailersMovieTableViewCell

namespace MovieListCellViewModel

/-- The data source of the collection in the cell. -/
def dataSource : MovieListCellViewModel → Option MovieDataSource
  | newMovieCell newMovies => some (NewMovieCellViewModel.dataSource newMovies)
  | nowMovieCell _ => none
  | topRateCell topRateMovies => some (TopRateCellViewModel.dataSource topRateMovies)
  | trailersMovieCell trailerMovies => some (TrailersMovieCellViewModel.dataSource trailerMovies)

/-- The movies of the stack in the cell, which is set up with the view model. -/
def setUp : MovieListCellViewModel → Option (List Movie)
  | newMovieCell _ => some []
  | nowMovieCell nowMovies => NowMovieTableViewCell.setUp nowMovies
  | topRateCell _ => some []
  | trailersMovieCell trailerMovies => TrailersMovieTableViewCell.setUp trailerMovies

end MovieListCellViewModel

/-- A section of the home screen. -/
structure MovieListSectionViewModel where
  rowViewModels : List MovieListCellViewModel := []

/-- What the home screen is bound to. -/
structure MovieListViewModel where
  isLoading : Bool := false
  isHiddenMovieTableView : Bool := false
  sectionViewModels : List MovieListSectionViewModel := []

namespace MovieListController

/-- The four lists are fetched. -/
def start (movieListViewModel : MovieListViewModel) : MovieListViewModel :=
  { movieListViewModel with isLoading := true, isHiddenMovieTableView := true }

/-- A section with one cell, for movies that were brought. -/
def buildSection (cell : List Movie → MovieListCellViewModel) (movies : Option (List Movie))
    (movieListViewModel : MovieListViewModel) : MovieListViewModel :=
  match movies with
  | none => movieListViewModel
  | some movies =>
      { movieListViewModel with
        sectionViewModels := movieListViewModel.sectionViewModels ++ [⟨[cell movies]⟩] }

/-- A section for each list that came. -/
def buildViewModels (newMovies nowMovies topRateMovies popularMovies : Option (List Movie))
    (movieListViewModel : MovieListViewModel) : MovieListViewModel :=
  buildSection .trailersMovieCell popularMovies <|
    buildSection .topRateCell topRateMovies <|
      buildSection .nowMovieCell nowMovies <|
        buildSection .newMovieCell newMovies movieListViewModel

/-- The completion of the fetch that `start` makes. -/
def startCompletion (newMovies nowMovies topRateMovies popularMovies : Option (List Movie))
    (movieListViewModel : MovieListViewModel) : MovieListViewModel :=
  buildViewModels newMovies nowMovies topRateMovies popularMovies
    { movieListViewModel with isLoading := false, isHiddenMovieTableView := false }

end MovieListController

namespace MovieService

variable (fm : DateFormatter)

/-- The fields of the service once the four requests of `fetchMovieList` have ended. Each of
them parks in a field of its own, so their order makes no difference. -/
def fetchMovieList (newMovies nowMovies topRateMovies popularMovies : Outcome)
    (service : MovieService) : Option MovieService := do
  let service ← service.park fm .newMovies newMovies
  let service ← service.park fm .nowMovies nowMovies
  let service ← service.park fm .topRateMovies topRateMovies
  service.park fm .popularMovies popularMovies

variable {fm}

/-- What is parked where nothing was is what the fetch brings. -/
theorem parkedMovies_none (outcome : Outcome) :
    parkedMovies fm outcome none = (fetchMovie fm outcome).2.1 := by
  unfold parkedMovies
  split
  · next fetched => rw [fetched]
  · next fetched =>
    rw [fetched]
    exact (fetchMovie_error fetched).2.symm

/-- The four lists are those that their own requests brought. -/
theorem fetchMovieList_eq (newMovies nowMovies topRateMovies popularMovies : Outcome) :
    fetchMovieList fm newMovies nowMovies topRateMovies popularMovies {} = some
      { newMovies := (fetchMovie fm newMovies).2.1
        nowMovies := (fetchMovie fm nowMovies).2.1
        topRateMovies := (fetchMovie fm topRateMovies).2.1
        popularMovies := (fetchMovie fm popularMovies).2.1 } := by
  simp only [← parkedMovies_none]
  rfl

end MovieService

end MovieFun
