import MovieFun.Network.CommentListService
import MovieFun.Network.FavoriteMovieService

/-!
# Three codecs of one movie

A movie is kept as an object of the local database, as a favourite document, and inside
a group comment. Each encoder fills in what is missing. The local object keeps all
fields; the favourite document has no `video`; the date inside a group comment is not
read back, because the store hands it back as a timestamp (`not_kept_of_id`).
-/

namespace MovieFun

namespace Movie

/-- The movie with what is missing replaced by the defaults of the encoders, `now` being
the date of the encoding. -/
def withDefaults (now : Date) (movie : Movie) : Movie where
  vouteCount := some (movie.vouteCount.getD 0)
  id := movie.id
  video := some (movie.video.getD false)
  voteAverage := some (movie.voteAverage.getD 0)
  title := some (movie.title.getD "")
  popularity := some (movie.popularity.getD 0)
  posterPath := some (movie.posterPath.getD "")
  originalLanguage := some (movie.originalLanguage.getD "")
  originalTitle := some (movie.originalTitle.getD "")
  genreIds := some (movie.genreIds.getD [])
  backdropPath := some (movie.backdropPath.getD "")
  adult := some (movie.adult.getD false)
  overview := some (movie.overview.getD "")
  releaseDate := some (movie.releaseDate.getD now)

variable (now : Date) (movie : Movie)

/-- The movie as the local database keeps it. -/
def realmCopy : Option Movie :=
  (RealmService.getMovieModel now movie).map RealmService.getMovie

/-- The movie as its favourite document keeps it. -/
def favoriteCopy : Option Movie :=
  (FavoriteMovieService.movieDictionary now movie).map fun dictionary =>
    FavoriteMovieService.getMovie dictionary.stored

/-- The movie as a group comment keeps it. -/
def groupCommentCopy : Option Movie :=
  (getDictionary now movie).bind fun dictionary =>
    getMovie (Value.map dictionary).stored.asDictionary

/-- All three copies are the movie with its defaults. -/
structure Kept : Prop where
  realm : movie.realmCopy now = some (movie.withDefaults now)
  favorite : movie.favoriteCopy now = some (movie.withDefaults now)
  groupComment : movie.groupCommentCopy now = some (movie.withDefaults now)

variable {now movie}

/-- The local database gives back a movie with an id, what is missing being the default. -/
theorem realmCopy_eq (named : movie.id.isSome) :
    movie.realmCopy now = some (movie.withDefaults now) := by
  obtain ⟨movieId, named⟩ := Option.isSome_iff_exists.mp named
  rw [realmCopy, RealmService.getMovieModel, named, withDefaults, named]
  rfl

/-- A favourite document does not keep `video`. -/
theorem favoriteCopy_eq (named : movie.id.isSome) :
    movie.favoriteCopy now = some { movie.withDefaults now with video := none } := by
  obtain ⟨movieId, named⟩ := Option.isSome_iff_exists.mp named
  have genreIds := Value.asIntArray_stored (movie.genreIds.getD [])
  rw [favoriteCopy, FavoriteMovieService.movieDictionary, named, withDefaults, named, ← genreIds]
  rfl

/-- A group comment does not keep `releaseDate`. -/
theorem groupCommentCopy_eq (named : movie.id.isSome) :
    movie.groupCommentCopy now = some { movie.withDefaults now with releaseDate := none } := by
  obtain ⟨movieId, named⟩ := Option.isSome_iff_exists.mp named
  have genreIds := Value.asIntArray_stored (movie.genreIds.getD [])
  rw [groupCommentCopy, getDictionary, named, withDefaults, named, ← genreIds]
  rfl

/-- **The three stores never keep the same movie.** Of every movie with an id the local
database keeps all fields, a favourite document all but `video`, and a group comment all
but `releaseDate`. -/
theorem not_kept_of_id (now : Date) (movie : Movie) (named : movie.id.isSome) :
    ¬ movie.Kept now ∧ movie.realmCopy now = some (movie.withDefaults now) ∧
      movie.favoriteCopy now = some { movie.withDefaults now with video := none } ∧
      movie.groupCommentCopy now = some { movie.withDefaults now with releaseDate := none } := by
  refine ⟨fun kept => ?_, realmCopy_eq named, favoriteCopy_eq named, groupCommentCopy_eq named⟩
  have same := kept.favorite
  rw [favoriteCopy_eq named, Option.some.injEq] at same
  cases congrArg Movie.video same

/-- The movie 1, of which nothing else is known. -/
def onlyNamed : Movie where
  id := some 1

/-- A movie that has an id and nothing else is kept by neither. -/
theorem not_kept_of_id_onlyNamed :
    ¬ onlyNamed.Kept ⟨0⟩ ∧ onlyNamed.realmCopy ⟨0⟩ = some (onlyNamed.withDefaults ⟨0⟩) ∧
      onlyNamed.favoriteCopy ⟨0⟩ = some { onlyNamed.withDefaults ⟨0⟩ with video := none } ∧
      onlyNamed.groupCommentCopy ⟨0⟩ =
        some { onlyNamed.withDefaults ⟨0⟩ with releaseDate := none } :=
  not_kept_of_id ⟨0⟩ onlyNamed rfl

/-- The date that its group comment has is not read back. -/
theorem not_kept_onlyNamed : ¬ ∀ movie : Movie, movie.id.isSome → movie.Kept ⟨0⟩ := by
  intro always
  have kept := (always onlyNamed rfl).groupComment
  rw [groupCommentCopy_eq rfl, Option.some.injEq] at kept
  cases congrArg Movie.releaseDate kept

end Movie

end MovieFun
