import MovieFun.Foundation.DispatchGroup
import MovieFun.Helper.Utils

/-!
# MovieService

Each request of the service ends in one of three ways: its text is no URL, the
transport fails, or a body arrives. A ladder of callbacks is the list of what it
passes to its completion, call by call: a branch that forgets the completion passes
nothing, and one that called it twice would pass two values. What the completion
receives is the first of them.
-/

namespace MovieFun

/-- A JSON value. A number is a double, as the rational it denotes. -/
inductive JSON
  | null
  | bool (value : Bool)
  | number (value : Double)
  | string (value : String)
  | array (values : List JSON)
  | dictionary (fields : List (String × JSON))

namespace JSON

/-- The subscript by a key, which is `null` where there is nothing. -/
def get (key : String) : JSON → JSON
  | dictionary fields => (fields.lookup key).getD null
  | _ => null

/-- The values of an array. -/
def array? : JSON → Option (List JSON)
  | array values => some values
  | _ => none

/-- The fields of an object, none for anything else. -/
def dictionaryValue : JSON → List (String × JSON)
  | dictionary fields => fields
  | _ => []

/-- The text of a string. -/
def string? : JSON → Option String
  | string value => some value
  | _ => none

/-- The value of a boolean. -/
def bool? : JSON → Option Bool
  | bool value => some value
  | _ => none

/-- The accessor `double`, which also takes booleans. -/
def double? : JSON → Option Double
  | number value => some value
  | bool value => some (if value then 1 else 0)
  | _ => none

/-- The accessor `int`, which cuts a number off at the point. -/
def int? (json : JSON) : Option Int :=
  json.double?.map fun value => value.num.tdiv value.den

/-- The cast `as? Int` of a value, which takes whole numbers only. -/
def asInt (json : JSON) : Option Int :=
  json.double?.bind fun value => if value.den = 1 then some value.num else none

end JSON

/-- How a request ends. -/
inductive Outcome
  | invalidURL (error : NSError)
  | failure (error : NSError)
  | success (value : Option JSON)

/-- What the calls that collect several replies share: a field for each reply, and one
dispatch group with the calls that registered a block. -/
structure MovieService where
  newMovies : Option (List Movie) := none
  nowMovies : Option (List Movie) := none
  topRateMovies : Option (List Movie) := none
  popularMovies : Option (List Movie) := none
  movieDetail : Option Movie := none
  movieDetailCast : Option (List Cast) := none
  dispatchGroup : DispatchGroup Nat := {}

/-- The replies that are collected, named by the fields they are parked in. -/
inductive MoviePart
  | newMovies
  | nowMovies
  | topRateMovies
  | popularMovies
  | movieDetail
  | movieDetailCast
deriving DecidableEq, Repr

namespace MovieService

/-- The URL of the list of new movies. -/
def NEW_MOVIE_URL : String :=
  "https://api.themoviedb.org/3/movie/upcoming?api_key=%@&language=%@&page=%d"

/-- The URL of the list of movies that are on now. -/
def NOW_MOVIE_URL : String :=
  "https://api.themoviedb.org/3/movie/now_playing?api_key=%@&language=%@&page=%d"

/-- The URL of the list of top rated movies. -/
def TOP_RATE_MOVIE_URL : String :=
  "https://api.themoviedb.org/3/movie/top_rated?api_key=%@&language=%@&page=%d"

/-- The URL of the list of popular movies. -/
def POPULAR_MOVIE_URL : String :=
  "https://api.themoviedb.org/3/movie/popular?api_key=%@&language=%@&page=%d"

variable (fm : DateFormatter)

/-- The video of a JSON object. What has another type is left out. -/
def parseVideo (json : JSON) : Video :=
  let videoJson := json.dictionaryValue
  { id := (videoJson.lookup "id").bind JSON.string?
    iso6391 := (videoJson.lookup "iso_639_1").bind JSON.string?
    iso31661 := (videoJson.lookup "iso_3166_1").bind JSON.string?
    key := (videoJson.lookup "key").bind JSON.string?
    name := (videoJson.lookup "name").bind JSON.string?
    site := (videoJson.lookup "site").bind JSON.string?
    size := (videoJson.lookup "size").bind JSON.int?
    type := Utils.videoTypeFromString ((videoJson.lookup "type").bind JSON.string?) }

/-- The member of a cast of a JSON object. -/
def parseCast (json : JSON) : Cast :=
  let castJson := json.dictionaryValue
  { castId := (castJson.lookup "cast_id").bind JSON.int?
    character := (castJson.lookup "character").bind JSON.string?
    creditId := (castJson.lookup "credit_id").bind JSON.string?
    gender := (castJson.lookup "gender").bind JSON.int?
    name := (castJson.lookup "name").bind JSON.string?
    id := (castJson.lookup "id").bind JSON.int?
    order := (castJson.lookup "order").bind JSON.int?
    profilePath := (castJson.lookup "profile_path").bind JSON.string? }

/-- The movie of a JSON object. -/
def parseMovieJson (json : JSON) : Movie :=
  let movieJson := json.dictionaryValue
  { vouteCount := (movieJson.lookup "vote_count").bind JSON.int?
    id := (movieJson.lookup "id").bind JSON.int?
    video := (movieJson.lookup "video").bind JSON.bool?
    voteAverage := (movieJson.lookup "vote_average").bind JSON.double?
    title := (movieJson.lookup "title").bind JSON.string?
    popularity := (movieJson.lookup "popularity").bind JSON.double?
    posterPath := (movieJson.lookup "poster_path").bind JSON.string?
    originalLanguage := (movieJson.lookup "original_language").bind JSON.string?
    originalTitle := (movieJson.lookup "original_title").bind JSON.string?
    genreIds := ((movieJson.lookup "genre_ids").bind JSON.array?).bind (·.mapM JSON.asInt)
    backdropPath := (movieJson.lookup "backdrop_path").bind JSON.string?
    adult := (movieJson.lookup "adult").bind JSON.bool?
    overview := (movieJson.lookup "overview").bind JSON.string?
    releaseDate := Utils.dateFromString fm Utils.YYYY_MM_DD
      ((movieJson.lookup "release_date").bind JSON.string?) }

/-- What a fetch of a list passes to its completion, call by call. -/
def fetchMovieCompletions (outcome : Outcome) :
    List (Option Int × Option (List Movie) × Option NSError) :=
  match outcome with
  | .invalidURL error => [(none, none, some error)]
  | .failure error => [(none, none, some error)]
  | .success none => [(none, none, none)]
  | .success (some json) =>
      match (json.get "results").array?, (json.get "total_pages").int? with
      | some results, some totalPages =>
          [(some totalPages, some (results.map (parseMovieJson fm)), none)]
      | _, _ => [(none, none, none)]

/-- What the completion of a fetch receives. -/
def fetchMovie (outcome : Outcome) : Option Int × Option (List Movie) × Option NSError :=
  (fetchMovieCompletions fm outcome).headD (none, none, none)

/-- The search forgets its completion on a body without a page. -/
def searchMovieCompletions (outcome : Outcome) :
    List (Option Int × Option (List Movie) × Option NSError) :=
  match outcome with
  | .invalidURL error => [(none, none, some error)]
  | .failure _ => [(none, none, none)]
  | .success none => [(none, none, none)]
  | .success (some json) =>
      match (json.get "results").array?, (json.get "total_pages").int? with
      | some results, some totalPage =>
          [(some totalPage, some (results.map (parseMovieJson fm)), none)]
      | _, _ => []

/-- The half of `fetchMovieDetail` that asks for the movie. -/
def fetchMovieOfIdCompletions (outcome : Outcome) : List (Option Movie × Option NSError) :=
  match outcome with
  | .invalidURL error => [(none, some error)]
  | .failure _ => [(none, none)]
  | .success none => [(none, none)]
  | .success (some json) => [(some (parseMovieJson fm json), none)]

/-- What its completion receives. -/
def fetchMovieOfId (outcome : Outcome) : Option Movie × Option NSError :=
  (fetchMovieOfIdCompletions fm outcome).headD (none, none)

/-- The half of `fetchMovieDetail` that asks for the cast. The credits forget their completion
on a body without one. -/
def fetchMovieCastCompletions (outcome : Outcome) :
    List (Option (List Cast) × Option NSError) :=
  match outcome with
  | .invalidURL error => [(none, some error)]
  | .failure _ => [(none, none)]
  | .success none => [(none, none)]
  | .success (some json) =>
      match (json.get "cast").array? with
      | some results => [(some (results.map parseCast), none)]
      | none => []

/-- What its completion receives, if it is called. -/
def fetchMovieCast (outcome : Outcome) : Option (Option (List Cast) × Option NSError) :=
  (fetchMovieCastCompletions outcome).head?

/-- What a fetch of the videos of a movie passes to its completion. -/
def fetchMovieVideoCompletions (outcome : Outcome) :
    List (Option (List Video) × Option NSError) :=
  match outcome with
  | .invalidURL error => [(none, some error)]
  | .failure _ => [(none, none)]
  | .success none => [(none, none)]
  | .success (some json) =>
      match (json.get "results").array? with
      | some results => [(some (results.map parseVideo), none)]
      | none => [(none, none)]

/-- Each completion of the videos completes the trailer, the first one of YouTube. -/
def fetchVideoCompletions (outcome : Outcome) : List (Option Video) :=
  (fetchMovieVideoCompletions outcome).flatMap fun
    | (some videos, none) =>
        [videos.find? fun video => video.site = some "YouTube" ∧ video.type = some .TRAILER]
    | _ => [none]

/-- The movies that `fetchMovieList` parks, unless the fetch hands on an error. -/
def parkedMovies (outcome : Outcome) (parked : Option (List Movie)) : Option (List Movie) :=
  match fetchMovie fm outcome with
  | (_, movies, none) => movies
  | (_, _, some _) => parked

/-- The completion of a request that is collected, up to the leave, if it is called. -/
def park (part : MoviePart) (outcome : Outcome) (service : MovieService) : Option MovieService :=
  match part with
  | .newMovies => some { service with newMovies := parkedMovies fm outcome service.newMovies }
  | .nowMovies => some { service with nowMovies := parkedMovies fm outcome service.nowMovies }
  | .topRateMovies =>
      some { service with topRateMovies := parkedMovies fm outcome service.topRateMovies }
  | .popularMovies =>
      some { service with popularMovies := parkedMovies fm outcome service.popularMovies }
  | .movieDetail =>
      match fetchMovieOfId fm outcome with
      | (movie, none) => some { service with movieDetail := movie }
      | (_, some _) => some service
  | .movieDetailCast =>
      match fetchMovieCast outcome with
      | none => none
      | some (casts, none) => some { service with movieDetailCast := casts }
      | some (_, some _) => some service

/-- The completions of a request that is collected, each of which leaves the group. -/
def partCompletions (part : MoviePart) (outcome : Outcome) : Nat :=
  match part with
  | .movieDetail => (fetchMovieOfIdCompletions fm outcome).length
  | .movieDetailCast => (fetchMovieCastCompletions outcome).length
  | _ => (fetchMovieCompletions fm outcome).length

variable {fm}

/-- A fetch that hands on an error hands on no page. -/
theorem fetchMovie_error {outcome : Outcome} {totalPages : Option Int}
    {movies : Option (List Movie)} {error : NSError}
    (fetched : fetchMovie fm outcome = (totalPages, movies, some error)) :
    totalPages = none ∧ movies = none := by
  cases outcome with
  | invalidURL thrown =>
      cases fetched
      exact ⟨rfl, rfl⟩
  | failure thrown =>
      cases fetched
      exact ⟨rfl, rfl⟩
  | success value =>
      cases value with
      | none => cases fetched
      | some json =>
          simp only [fetchMovie, fetchMovieCompletions] at fetched
          split at fetched <;> cases fetched

/-- A fetch of a list completes once. -/
theorem fetchMovieCompletions_eq (outcome : Outcome) :
    fetchMovieCompletions fm outcome = [fetchMovie fm outcome] := by
  cases outcome with
  | invalidURL error => rfl
  | failure error => rfl
  | success value =>
      cases value with
      | none => rfl
      | some json =>
          simp only [fetchMovie, fetchMovieCompletions]
          split <;> rfl

/-- So does a fetch of a movie. -/
theorem fetchMovieOfIdCompletions_eq (outcome : Outcome) :
    fetchMovieOfIdCompletions fm outcome = [fetchMovieOfId fm outcome] := by
  cases outcome with
  | invalidURL error => rfl
  | failure error => rfl
  | success value => cases value <;> rfl

/-- The credits complete at most once. -/
theorem fetchMovieCastCompletions_eq (outcome : Outcome) :
    fetchMovieCastCompletions outcome = (fetchMovieCast outcome).toList := by
  cases outcome with
  | invalidURL error => rfl
  | failure error => rfl
  | success value =>
      cases value with
      | none => rfl
      | some json =>
          simp only [fetchMovieCast, fetchMovieCastCompletions]
          split <;> rfl

/-- The trailer is completed once. -/
theorem length_fetchVideoCompletions (outcome : Outcome) :
    (fetchVideoCompletions outcome).length = 1 := by
  have once : ∃ reply, fetchMovieVideoCompletions outcome = [reply] := by
    cases outcome with
    | invalidURL error => exact ⟨_, rfl⟩
    | failure error => exact ⟨_, rfl⟩
    | success value =>
        cases value with
        | none => exact ⟨_, rfl⟩
        | some json =>
            simp only [fetchMovieVideoCompletions]
            split <;> exact ⟨_, rfl⟩
  obtain ⟨⟨videos, error⟩, isReply⟩ := once
  rw [fetchVideoCompletions, isReply, List.flatMap_singleton]
  cases videos <;> cases error <;> rfl

/-- A request of a call that collects is parked exactly when its ladder completes. -/
theorem length_park_eq (outcome : Outcome) (service : MovieService) (part : MoviePart) :
    (service.park fm part outcome).toList.length = partCompletions fm part outcome := by
  cases part with
  | movieDetail =>
      rw [partCompletions, fetchMovieOfIdCompletions_eq]
      simp only [park]
      split <;> rfl
  | movieDetailCast =>
      rw [partCompletions, fetchMovieCastCompletions_eq]
      simp only [park]
      split <;> next fetched => rw [fetched]; rfl
  | _ => exact (congrArg List.length (fetchMovieCompletions_eq outcome)).symm

end MovieService

end MovieFun
