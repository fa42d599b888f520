import MovieFun.Foundation.Run
import MovieFun.Network.MovieService

/-!
# MovieDetailController

The screen of one movie. `start` asks for the movie and its cast, and then whether the
movie is a favourite.
-/

namespace MovieFun

/-- The rows of the screen, each with what it shows. -/
inductive MovieDetailRowViewModel
  | player (movie : Movie)
  | content (movie : Movie)
  | cast (movie : Movie) (casts : List Cast)
  | comment (movie : Movie)
deriving DecidableEq, Repr

/-- What the detail screen is bound to. -/
structure MovieDetailViewModel where
  isLoadFail : Bool := false
  isFavoriteMovie : Bool := false
  isFetching : Bool := false
  movieId : String := ""
  movieDetailSectionViewModels : List (List MovieDetailRowViewModel) := []
deriving DecidableEq, Repr

/-- What the controller of the detail screen holds. -/
structure MovieDetailController where
  movieDetailViewModel : MovieDetailViewModel
  movie : Option Movie := none
deriving DecidableEq, Repr

namespace MovieDetailController

/-- The rows of a movie and its cast, if they came. -/
def buildViewModel (movie : Option Movie) (casts : Option (List Cast))
    (movieDetailViewModel : MovieDetailViewModel) : MovieDetailViewModel :=
  match movie with
  | none => movieDetailViewModel
  | some movie =>
      let castVM := match casts with
        | none => []
        | some casts => [.cast movie casts]
      { movieDetailViewModel with
        movieDetailSectionViewModels := movieDetailViewModel.movieDetailSectionViewModels ++
          [.player movie :: .content movie :: castVM ++ [.comment movie]] }

/-- Ask for a movie whose id is a number. The result tells whether it asks. -/
def start (controller : MovieDetailController) : MovieDetailController × Bool :=
  let movieDetailViewModel := controller.movieDetailViewModel
  if Utils.validateNumber (some movieDetailViewModel.movieId) then
    ({ controller with
      movieDetailViewModel :=
        { movieDetailViewModel with isFavoriteMovie := false, isFetching := true } }, true)
  else
    ({ controller with
      movieDetailViewModel := { movieDetailViewModel with isLoadFail := true } }, false)

/-- The completion of the fetch, and the id whose check it starts. -/
def fetchCompletion (movie : Option Movie) (casts : Option (List Cast))
    (controller : MovieDetailController) : MovieDetailController × Option Int :=
  let movieDetailViewModel := buildViewModel movie casts controller.movieDetailViewModel
  match movie, movie.bind Movie.id with
  | some movie, some id =>
      ({ movieDetailViewModel := { movieDetailViewModel with isLoadFail := false }
         movie := some movie }, some id)
  | _, _ =>
      ({ controller with
        movieDetailViewModel :=
          { movieDetailViewModel with isFetching := true, isLoadFail := true } }, none)

/-- The completion of the check. -/
def checkCompletion (isFavorite : Option Bool) (error : Option NSError)
    (controller : MovieDetailController) : MovieDetailController :=
  let movieDetailViewModel := controller.movieDetailViewModel
  let isFavoriteMovie := match error with
    | none => isFavorite.getD false
    | some _ => movieDetailViewModel.isFavoriteMovie
  { controller with
    movieDetailViewModel := { movieDetailViewModel with isFavoriteMovie, isFetching := false } }

end MovieDetailController

/-- The screen with the number of fetches and checks without a reply. -/
structure MovieDetailSystem where
  controller : MovieDetailController
  fetches : Nat := 0
  checks : Nat := 0
deriving DecidableEq, Repr

/-- What can reach the screen. A fetch whose credits have no cast ends without a call
of its completion. -/
inductive MovieDetailEvent
  | start
  | fetchReply (movie : Option Movie) (casts : Option (List Cast))
  | unanswered
  | checkReply (isFavorite : Option Bool) (error : Option NSError)

namespace MovieDetailSystem

/-- The detail screen opened with an id. -/
def initial (movieId : String) : MovieDetailSystem where
  controller := { movieDetailViewModel := { movieId } }

/-- A reply comes to what is awaited. -/
def enabled (system : MovieDetailSystem) : MovieDetailEvent → Bool
  | .start => true
  | .fetchReply .. => 0 < system.fetches
  | .unanswered => 0 < system.fetches
  | .checkReply .. => 0 < system.checks

/-- What an event does to the screen. -/
def handle (system : MovieDetailSystem) : MovieDetailEvent → MovieDetailSystem
  | .start =>
      let (controller, asks) := system.controller.start
      { system with controller, fetches := system.fetches + asks.toNat }
  | .fetchReply movie casts =>
      let (controller, checked) := system.controller.fetchCompletion movie casts
      { controller
        fetches := system.fetches - 1
        checks := system.checks + checked.toList.length }
  | .unanswered => { system with fetches := system.fetches - 1 }
  | .checkReply isFavorite error =>
      { system with
        controller := system.controller.checkCompletion isFavorite error
        checks := system.checks - 1 }

/-- The screen after an event that can happen. -/
def step (system : MovieDetailSystem) (event : MovieDetailEvent) : Option MovieDetailSystem :=
  if system.enabled event then some (handle system event) else none

/-- Nothing is outstanding. -/
structure Idle (system : MovieDetailSystem) : Prop where
  fetches : system.fetches = 0
  checks : system.checks = 0

end MovieDetailSystem

end MovieFun
