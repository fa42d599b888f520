import Mathlib.Data.List.AList
import MovieFun.Network.Firestore

/-! # Movies, casts and videos -/

namespace MovieFun

/-- A movie as the app passes it around. Every field is optional. -/
structure Movie where
  vouteCount : Option Int := none
  id : Option Int := none
  video : Option Bool := none
  voteAverage : Option Double := none
  title : Option String := none
  popularity : Option Double := none
  posterPath : Option String := none
  originalLanguage : Option String := none
  originalTitle : Option String := none
  genreIds : Option (List Int) := none
  backdropPath : Option String := none
  adult : Option Bool := none
  overview : Option String := none
  releaseDate : Option Date := none
deriving DecidableEq, Repr

namespace Movie

/-- The dictionary of a movie inside a group comment, `now` being the date at the call.
It traps when the movie has no id. -/
def getDictionary (now : Date) (movie : Movie) : Option Dictionary :=
  movie.id.map fun id => [
    ("id", .int id),
    ("vouteCount", .int (movie.vouteCount.getD 0)),
    ("video", .bool (movie.video.getD false)),
    ("voteAverage", .double (movie.voteAverage.getD 0)),
    ("title", .string (movie.title.getD "")),
    ("popularity", .double (movie.popularity.getD 0)),
    ("posterPath", .string (movie.posterPath.getD "")),
    ("originalLanguage", .string (movie.originalLanguage.getD "")),
    ("originalTitle", .string (movie.originalTitle.getD "")),
    ("genreIds", .array ((movie.genreIds.getD []).map .int)),
    ("backdropPath", .string (movie.backdropPath.getD "")),
    ("adult", .bool (movie.adult.getD false)),
    ("overview", .string (movie.overview.getD "")),
    ("releaseDate", .date (movie.releaseDate.getD now))]

/-- The movie of a dictionary inside a group comment, whose date is read as a date. -/
def getMovie (dictionary : Option Dictionary) : Option Movie :=
  dictionary.map fun dictionary => {
    vouteCount := (dictionary.get "vouteCount").bind Value.asInt
    id := (dictionary.get "id").bind Value.asInt
    video := (dictionary.get "video").bind Value.asBool
    voteAverage := (dictionary.get "voteAverage").bind Value.asDouble
    title := (dictionary.get "title").bind Value.asString
    popularity := (dictionary.get "popularity").bind Value.asDouble
    posterPath := (dictionary.get "posterPath").bind Value.asString
    originalLanguage := (dictionary.get "originalLanguage").bind Value.asString
    originalTitle := (dictionary.get "originalTitle").bind Value.asString
    genreIds := (dictionary.get "genreIds").bind Value.asIntArray
    backdropPath := (dictionary.get "backdropPath").bind Value.asString
    adult := (dictionary.get "adult").bind Value.asBool
    overview := (dictionary.get "overview").bind Value.asString
    releaseDate := (dictionary.get "releaseDate").bind Value.asDate }

end Movie

/-- A member of the cast of a movie. -/
structure Cast where
  castId : Option Int := none
  character : Option String := none
  creditId : Option String := none
  gender : Option Int := none
  id : Option Int := none
  name : Option String := none
  order : Option Int := none
  profilePath : Option String := none
deriving DecidableEq, Repr

/-- The two types of video that the app tells apart. -/
inductive VideoType
  | TEASER
  | TRAILER
deriving DecidableEq, Repr

/-- A video of a movie. -/
structure Video where
  id : Option String := none
  iso6391 : Option String := none
  iso31661 : Option String := none
  key : Option String := none
  name : Option String := none
  site : Option String := none
  size : Option Int := none
  type : Option VideoType := none
deriving DecidableEq, Repr

/-- A dictionary of the type that favourite checks hand on: an entry without a
value is an id whose check failed. -/
abbrev IsFavorites := AList fun _ : Int => Option Bool

end MovieFun
