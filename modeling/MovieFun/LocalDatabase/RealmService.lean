import Mathlib.Data.List.Induction
import MovieFun.Model.Movie

/-!
# The local favourites

`RealmService` keeps favourites in the database of the device. The class of its
objects has no primary key, so adding a movie twice makes two objects, and a
removal deletes the first object with the id. `realm` is `none` when the database
could not be opened; `failure` is what a write throws.
-/

namespace MovieFun

/-- An object of the local database, with the defaults of the source. -/
structure MovieModel where
  vouteCount : Int := 0
  id : Int := 0
  video : Bool := false
  voteAverage : Double := 0
  title : String := ""
  popularity : Double := 0
  posterPath : String := ""
  originalLanguage : String := ""
  originalTitle : String := ""
  genreIds : List Int := []
  backdropPath : String := ""
  adult : Bool := false
  overview : String := ""
  releaseDate : Date
deriving DecidableEq, Repr

/-- The objects of the class `MovieModel`. -/
abbrev Realm := List MovieModel

namespace RealmService

/-- The model of a movie, `now` being the date at the call. It traps when the movie
has no id. -/
def getMovieModel (now : Date) (movie : Movie) : Option MovieModel :=
  movie.id.map fun id => {
    id
    vouteCount := movie.vouteCount.getD 0
    video := movie.video.getD false
    voteAverage := movie.voteAverage.getD 0
    title := movie.title.getD ""
    popularity := movie.popularity.getD 0
    posterPath := movie.posterPath.getD ""
    originalLanguage := movie.originalLanguage.getD ""
    originalTitle := movie.originalTitle.getD ""
    genreIds := movie.genreIds.getD []
    backdropPath := movie.backdropPath.getD ""
    adult := movie.adult.getD false
    overview := movie.overview.getD ""
    releaseDate := movie.releaseDate.getD now }

/-- The movie of an object. -/
def getMovie (movieModel : MovieModel) : Movie where
  id := some movieModel.id
  vouteCount := some movieModel.vouteCount
  video := some movieModel.video
  voteAverage := some movieModel.voteAverage
  title := some movieModel.title
  popularity := some movieModel.popularity
  posterPath := some movieModel.posterPath
  originalLanguage := some movieModel.originalLanguage
  originalTitle := some movieModel.originalTitle
  genreIds := some movieModel.genreIds
  backdropPath := some movieModel.backdropPath
  adult := some movieModel.adult
  overview := some movieModel.overview
  releaseDate := some movieModel.releaseDate

/-- The objects that the filter `id == movieId` lets through. -/
def HasId (movieId : Int) (movieModel : MovieModel) : Bool := movieModel.id = movieId

/-- What an addition passes to its completion. A movie without an id traps before that, and
without a database nothing throws. -/
def addFavoriteMovieCompletions (now : Date) (movie : Movie) (failure : Option NSError)
    (realm : Option Realm) : List (Option NSError) :=
  match getMovieModel now movie with
  | none => []
  | some _ =>
      match realm, failure with
      | some _, some error => [some error]
      | _, _ => [none]

/-- Add an object, and what the completion receives. -/
def addFavoriteMovie (now : Date) (movie : Movie) (failure : Option NSError)
    (realm : Option Realm) : Option (Option Realm × Option NSError) := do
  let movieModel ← getMovieModel now movie
  let reply ← (addFavoriteMovieCompletions now movie failure realm).head?
  return (if failure.isSome then realm else realm.map fun objects => objects ++ [movieModel], reply)

/-- What a removal passes to its completion, which it forgets when there is no object with the
id. -/
def removeFavoriteMovieCompletions (movieId : Int) (failure : Option NSError)
    (realm : Option Realm) : List (Option Bool × Option NSError) :=
  match realm.bind fun objects => objects.find? (HasId movieId) with
  | none => []
  | some _ =>
      match failure with
      | none => [(some true, none)]
      | some error => [(none, some error)]

/-- Delete the first object of an id, and what the completion receives, if it is called. The
order of the others is not modelled: here they keep it, while the database moves its last object
into the gap. -/
def removeFavoriteMovie (movieId : Int) (failure : Option NSError) (realm : Option Realm) :
    Option Realm × Option (Option Bool × Option NSError) :=
  (if failure.isSome then realm else realm.map fun objects => objects.eraseP (HasId movieId),
    (removeFavoriteMovieCompletions movieId failure realm).head?)

/-- Whether there is an object with the id. -/
def checkFavoriteMovie (movieId : Int) (realm : Option Realm) : Bool :=
  (realm.bind fun objects => objects.find? (HasId movieId)).isSome

/-- What the check of a list of ids passes to its completion: a dictionary of its own. -/
def checkFavoriteMovieCompletions (movieIds : Option (List Int)) (realm : Option Realm) :
    List (Option IsFavorites × Option NSError) :=
  match movieIds with
  | none => [(none, none)]
  | some movieIds =>
      [(some (movieIds.foldl (fun isFavoriteMovies movieId =>
        isFavoriteMovies.insert movieId (some (checkFavoriteMovie movieId realm))) ∅), none)]

/-- What its completion receives. -/
def checkFavoriteMovies (movieIds : Option (List Int)) (realm : Option Realm) :
    Option IsFavorites × Option NSError :=
  (checkFavoriteMovieCompletions movieIds realm).headD (none, none)

/-- What a search passes to its completion: the objects whose title is like the text, by the
platform's `LIKE[c]`. -/
def searchFavoriteMovieCompletions (like : String → String → Bool) (searchText : String)
    (realm : Option Realm) : List (Option (List Movie)) :=
  let searchStr := "*" ++ searchText ++ "*"
  match realm with
  | none => [none]
  | some objects =>
      [some ((objects.filter fun movieModel => like movieModel.title searchStr).map getMovie)]

/-- What its completion receives. -/
def searchFavoriteMovie (like : String → String → Bool) (searchText : String)
    (realm : Option Realm) : Option (List Movie) :=
  (searchFavoriteMovieCompletions like searchText realm).headD none

/-- What a fetch of all favourites passes to its completion. -/
def fetchFavoriteMovieCompletions (realm : Option Realm) : List (Option (List Movie)) :=
  match realm with
  | none => [none]
  | some objects => [some (objects.map getMovie)]

/-- What its completion receives. -/
def fetchFavoriteMovie (realm : Option Realm) : Option (List Movie) :=
  (fetchFavoriteMovieCompletions realm).headD none

/-- The ids of the objects, with repetitions. -/
def movieIds (objects : Realm) : List Int := objects.map MovieModel.id

variable {movieId : Int} {objects : Realm}

/-- Having an id is a matter of the id of the object. -/
theorem hasId_eq (movieId : Int) : HasId movieId = (movieId == ·) ∘ MovieModel.id := by
  funext movieModel
  rw [HasId, Function.comp_apply, beq_eq_decide]
  exact decide_eq_decide.mpr eq_comm

/-- The filter finds an object exactly of the ids there are. -/
theorem checkFavoriteMovie_some :
    checkFavoriteMovie movieId (some objects) = decide (movieId ∈ movieIds objects) := by
  rw [Bool.eq_iff_iff, decide_eq_true_iff, checkFavoriteMovie, Option.bind_some,
    List.find?_isSome]
  constructor
  · rintro ⟨movieModel, inside, same⟩
    rw [← of_decide_eq_true same]
    exact List.mem_map_of_mem inside
  · intro member
    obtain ⟨movieModel, inside, same⟩ := List.mem_map.mp member
    exact ⟨movieModel, inside, decide_eq_true same⟩

/-- A search completes once. -/
theorem searchFavoriteMovieCompletions_eq (realm : Option Realm) (like : String → String → Bool)
    (searchText : String) : searchFavoriteMovieCompletions like searchText realm =
      [searchFavoriteMovie like searchText realm] := by
  cases realm <;> rfl

/-- So does a fetch. -/
theorem fetchFavoriteMovieCompletions_eq (realm : Option Realm) :
    fetchFavoriteMovieCompletions realm = [fetchFavoriteMovie realm] := by
  cases realm <;> rfl

/-- What an addition does and answers. -/
theorem addFavoriteMovie_def (now : Date) (movie : Movie) (failure : Option NSError)
    (realm : Option Realm) : addFavoriteMovie now movie failure realm =
      (getMovieModel now movie).map fun movieModel =>
        match realm, failure with
        | none, _ => (none, none)
        | some objects, none => (some (objects ++ [movieModel]), none)
        | some objects, some error => (some objects, some error) := by
  unfold addFavoriteMovie addFavoriteMovieCompletions
  cases getMovieModel now movie with
  | none => rfl
  | some movieModel => cases realm <;> cases failure <;> rfl

/-- What a removal that finds an object does and answers. -/
theorem removeFavoriteMovie_of_found {movieModel : MovieModel} (failure : Option NSError)
    (found : objects.find? (HasId movieId) = some movieModel) :
    removeFavoriteMovie movieId failure (some objects) =
      match failure with
      | none => (some (objects.eraseP (HasId movieId)), some (some true, none))
      | some error => (some objects, some (none, some error)) := by
  unfold removeFavoriteMovie removeFavoriteMovieCompletions
  rw [Option.bind_some, found]
  cases failure <;> rfl

/-- An addition appends the id of its movie. -/
theorem addFavoriteMovie_eq_some {now : Date} {movie : Movie} {realm : Option Realm}
    {reply : Option NSError}
    (added : addFavoriteMovie now movie none (some objects) = some (realm, reply)) :
    ∃ movieId next, movie.id = some movieId ∧ realm = some next ∧
      movieIds next = movieIds objects ++ [movieId] := by
  simp only [addFavoriteMovie_def, getMovieModel, Option.map_eq_some_iff] at added
  obtain ⟨_, ⟨movieId, named, rfl⟩, added⟩ := added
  cases added
  exact ⟨movieId, _, named, rfl, by rw [movieIds, List.map_append, List.map_singleton, movieIds]⟩

/-- A removal takes away one occurrence of the id. -/
theorem removeFavoriteMovie_some (movieId : Int) (objects : Realm) :
    ∃ next, (removeFavoriteMovie movieId none (some objects)).1 = some next ∧
      movieIds next = (movieIds objects).erase movieId := by
  refine ⟨objects.eraseP (HasId movieId), rfl, ?_⟩
  rw [movieIds, movieIds, List.erase_eq_eraseP, List.eraseP_map, hasId_eq]

/-- A fetch lists the ids of the objects. -/
theorem fetchFavoriteMovie_some (objects : Realm) : ∃ movies,
    fetchFavoriteMovie (some objects) = some movies ∧
      movies.map Movie.id = (movieIds objects).map some := by
  refine ⟨_, rfl, ?_⟩
  rw [movieIds, List.map_map, List.map_map]
  rfl

/-- The dictionary of a check has the membership of every id it was asked for. -/
theorem lookup_checkFavoriteMovies {realm : Option Realm} {ids : List Int} (asked : movieId ∈ ids) :
    ∃ isFavorites, checkFavoriteMovies (some ids) realm = (some isFavorites, none) ∧
      isFavorites.lookup movieId = some (some (checkFavoriteMovie movieId realm)) := by
  refine ⟨_, rfl, ?_⟩
  induction ids using List.reverseRecOn with
  | nil => exact absurd asked List.not_mem_nil
  | append_singleton ids last ih =>
      rw [List.foldl_append, List.foldl_cons, List.foldl_nil]
      by_cases same : movieId = last
      · rw [same, AList.lookup_insert]
      · rw [AList.lookup_insert_ne same]
        rcases List.mem_append.mp asked with inside | isLast
        · exact ih inside
        · exact absurd (List.mem_singleton.mp isLast) same

end RealmService

end MovieFun
