import Mathlib
import MovieFun.Foundation.DispatchGroup
import MovieFun.LocalDatabase.RealmService
import MovieFun.Network.AccountService

/-!
# The favourites of a session

`FavoriteMovieService` keeps the favourites of a signed-in account in the
collection `movie/<accountId>/favMovie`, one document for each movie id, and
leaves the others to `RealmService`. `failure` is the error a backend call
answers with; the result of a call has what its completion receives, if it is
called.
-/

namespace MovieFun

/-- The collections `favMovie` of the accounts, as documents by their ids. -/
abbrev FavMovies := String → AList fun _ : String => Dictionary

/-- The local database, which may not open, and the remote favourites. -/
structure FavoriteStores where
  realm : Option Realm
  favMovies : FavMovies

/-- What the completions receive is compared part by part. -/
instance : LawfulBEq (Option Bool × Option NSError) := inferInstance

/-- What checks of lists of ids share: the dictionary, and the dispatch group with
the calls that registered a block. -/
structure FavoriteMovieService where
  isFavorites : IsFavorites := ∅
  dispatchGroup : DispatchGroup Nat := {}

/-- What the check of a list of ids does at once: complete, or ask for each id. -/
inductive CheckStart
  | answered (reply : Option IsFavorites × Option NSError)
  | requested (service : FavoriteMovieService) (submitted : List Nat) (movieIds : List Int)

namespace FavoriteStores

/-- Write a document of an account. -/
def setData (accountId movieId : String) (dictionary : Dictionary) (stores : FavoriteStores) :
    FavoriteStores :=
  { stores with
    favMovies := Function.update stores.favMovies accountId
      ((stores.favMovies accountId).insert movieId dictionary.stored) }

/-- Delete a document of an account. -/
def delete (accountId movieId : String) (stores : FavoriteStores) : FavoriteStores :=
  { stores with
    favMovies := Function.update stores.favMovies accountId
      ((stores.favMovies accountId).erase movieId) }

/-- The data of a document of an account, if the document exists. -/
def data (accountId movieId : String) (stores : FavoriteStores) : Option Dictionary :=
  (stores.favMovies accountId).lookup movieId

/-- The data of all documents of an account. -/
def documents (accountId : String) (stores : FavoriteStores) : List Dictionary :=
  (stores.favMovies accountId).entries.map Sigma.snd

section Documents

variable {stores : FavoriteStores} {accountId movieId : String} {dictionary : Dictionary}

/-- What is read after a document was written. -/
theorem data_setData (other : String) :
    (stores.setData accountId movieId dictionary).data accountId other =
      if other = movieId then some dictionary.stored else stores.data accountId other := by
  simp only [data, setData, Function.update_self]
  by_cases same : other = movieId
  · rw [if_pos same, same, AList.lookup_insert]
  · rw [if_neg same, AList.lookup_insert_ne same]

/-- What is read after a document was deleted. -/
theorem data_delete (other : String) :
    (stores.delete accountId movieId).data accountId other =
      if other = movieId then none else stores.data accountId other := by
  simp only [data, delete, Function.update_self]
  by_cases same : other = movieId
  · rw [if_pos same, same, AList.lookup_erase]
  · rw [if_neg same, AList.lookup_erase_ne same]

/-- The documents of an account are those that are read by an id. -/
theorem mem_documents : dictionary ∈ stores.documents accountId ↔
    ∃ movieId, stores.data accountId movieId = some dictionary := by
  simp only [documents, List.mem_map, Sigma.exists, exists_eq_right, data]
  exact exists_congr fun movieId => AList.mem_lookup_iff.symm

end Documents

end FavoriteStores

namespace FavoriteMovieService

/-- The id of the document of a movie. -/
def documentID (movieId : Int) : String := toString movieId

/-- The dictionary written for a movie, `now` being the date at the call. It traps
when the movie has no id. -/
def movieDictionary (now : Date) (movie : Movie) : Option Dictionary :=
  movie.id.map fun id => [
    ("id", .int id),
    ("vouteCount", .int (movie.vouteCount.getD 0)),
    ("voteAverage", .double (movie.voteAverage.getD 0)),
    ("title", .string (movie.title.getD "")),
    ("popularity", .double (movie.popularity.getD 0)),
    ("posterPath", .string (movie.posterPath.getD "")),
    ("originalLanguage", .string (movie.originalLanguage.getD "")),
    ("originalTitle", .string (movie.originalTitle.getD "")),
    ("genreIds", .array ((movie.genreIds.getD []).map .int)),
    ("backdropPath", .string (movie.backdropPath.getD "")),
    ("adult", .bool (movie.adult.getD false)),
    ("overview", .string (movie.overview.getD "")),
    ("releaseDate", .date (movie.releaseDate.getD now))]

/-- The movie of a document. What has another type is left out. -/
def getMovie (dictionary : Dictionary) : Movie where
  id := (dictionary.get "id").bind Value.asInt
  vouteCount := (dictionary.get "vouteCount").bind Value.asInt
  voteAverage := (dictionary.get "voteAverage").bind Value.asDouble
  title := (dictionary.get "title").bind Value.asString
  popularity := (dictionary.get "popularity").bind Value.asDouble
  posterPath := (dictionary.get "posterPath").bind Value.asString
  originalLanguage := (dictionary.get "originalLanguage").bind Value.asString
  originalTitle := (dictionary.get "originalTitle").bind Value.asString
  genreIds := (dictionary.get "genreIds").bind Value.asIntArray
  backdropPath := (dictionary.get "backdropPath").bind Value.asString
  adult := (dictionary.get "adult").bind Value.asBool
  overview := (dictionary.get "overview").bind Value.asString
  releaseDate := (dictionary.get "releaseDate").bind Value.asTimestamp

/-- What an addition passes to its completion, which a session whose account has no id does
not call. A movie without an id traps before that. -/
def addFavoriteMovieCompletions (share : AccountService) (now : Date) (movie : Movie)
    (failure : Option NSError) (realm : Option Realm) : List (Option NSError) :=
  if share.isLogin then
    match share.getAccountId, movieDictionary now movie with
    | some _, some _ => [failure]
    | _, _ => []
  else RealmService.addFavoriteMovieCompletions now movie failure realm

/-- Add a favourite, and what the completion receives, if it is called. -/
def addFavoriteMovie (share : AccountService) (now : Date) (movie : Movie)
    (failure : Option NSError) (stores : FavoriteStores) :
    Option (FavoriteStores × Option (Option NSError)) :=
  let reply := (addFavoriteMovieCompletions share now movie failure stores.realm).head?
  if share.isLogin then
    match share.getAccountId with
    | none => some (stores, reply)
    | some accountId => do
        let movieId ← movie.id
        let dictionary ← movieDictionary now movie
        return (if failure.isSome then stores
          else stores.setData accountId (documentID movieId) dictionary, reply)
  else do
    let (realm, _) ← RealmService.addFavoriteMovie now movie failure stores.realm
    return ({ stores with realm }, reply)

/-- What a removal passes to its completion. -/
def removeFavoriteMovieCompletions (share : AccountService) (movieId : Int)
    (failure : Option NSError) (realm : Option Realm) : List (Option Bool × Option NSError) :=
  if share.isLogin then
    match share.getAccountId with
    | none => [(none, none)]
    | some _ =>
        match failure with
        | none => [(some true, none)]
        | some _ => [(some false, none)]
  else RealmService.removeFavoriteMovieCompletions movieId failure realm

/-- Remove a favourite, and what the completion receives, if it is called. -/
def removeFavoriteMovie (share : AccountService) (movieId : Int) (failure : Option NSError)
    (stores : FavoriteStores) : FavoriteStores × Option (Option Bool × Option NSError) :=
  let reply := (removeFavoriteMovieCompletions share movieId failure stores.realm).head?
  if share.isLogin then
    match share.getAccountId, failure with
    | some accountId, none => (stores.delete accountId (documentID movieId), reply)
    | _, _ => (stores, reply)
  else
    let (realm, _) := RealmService.removeFavoriteMovie movieId failure stores.realm
    ({ stores with realm }, reply)

/-- What the check of one id makes of the reply to its request. -/
def isFavorite (data : Option Dictionary) (error : Option NSError) :
    Option Bool × Option NSError :=
  match error with
  | none => (some data.isSome, none)
  | some error => (none, some error)

/-- What the check of one id passes to its completion. It asks for the id of the session only,
and its request is answered with the data of a document. -/
def checkFavoriteMovieCompletions (share : AccountService) (data : Option Dictionary)
    (error : Option NSError) : List (Option Bool × Option NSError) :=
  match share.getAccountId with
  | none => [(none, none)]
  | some _ =>
      match error with
      | none => if data.isSome then [(some true, none)] else [(some false, none)]
      | some error => [(none, some error)]

/-- What its completion receives. -/
def checkFavoriteMovie (share : AccountService) (movieId : Int) (failure : Option NSError)
    (stores : FavoriteStores) : Option Bool × Option NSError :=
  let data := share.getAccountId.bind fun accountId => stores.data accountId (documentID movieId)
  (checkFavoriteMovieCompletions share data failure).headD (none, none)

/-- The start of the check of a list of ids, as the call of that number. All calls
share the dictionary, which each of them clears, and the dispatch group. -/
def checkFavoriteMovies (share : AccountService) (realm : Option Realm)
    (movieIds : Option (List Int)) (call : Nat) (service : FavoriteMovieService) : CheckStart :=
  if share.isLogin then
    match movieIds, share.getAccountId with
    | some movieIds, some _ =>
        let (dispatchGroup, submitted) :=
          (service.dispatchGroup.enter movieIds.length).notify call
        .requested { isFavorites := ∅, dispatchGroup } submitted movieIds
    | _, _ => .answered (none, none)
  else .answered (RealmService.checkFavoriteMovies movieIds realm)

/-- The completion of the check of one id of a list, and the blocks it submits. -/
def setFavorite (movieId : Int) (isFavorite : Option Bool) (service : FavoriteMovieService) :
    Option (FavoriteMovieService × List Nat) := do
  let (dispatchGroup, submitted) ← service.dispatchGroup.leave
  return ({ isFavorites := service.isFavorites.insert movieId isFavorite, dispatchGroup },
    submitted)

/-- What a fetch of all favourites passes to its completion. Its request is answered with
documents or a nil snapshot. -/
def fetchFavoriteMovieCompletions (share : AccountService)
    (documents : Option (List Dictionary)) (error : Option NSError) (realm : Option Realm) :
    List (Option (List Movie)) :=
  if share.isLogin then
    match share.getAccountId with
    | none => [none]
    | some _ =>
        match error, documents with
        | none, some documents => [some (documents.map getMovie)]
        | none, none => [none]
        | some _, _ => [none]
  else RealmService.fetchFavoriteMovieCompletions realm

/-- What its completion receives. -/
def fetchFavoriteMovie (share : AccountService) (failure : Option NSError)
    (stores : FavoriteStores) : Option (List Movie) :=
  (fetchFavoriteMovieCompletions share (share.getAccountId.map stores.documents) failure
    stores.realm).headD none

/-- The movies of documents whose title is like the text, by the platform's `LIKE[c]`.
A movie without a title is not found. -/
def searchedMovies (like : String → String → Bool) (searchText : String)
    (documents : List Dictionary) : List Movie :=
  let searchText := "*" ++ searchText ++ "*"
  (documents.map getMovie).filter fun movie => movie.title.any fun title => like title searchText

/-- The search forgets its completion on a nil snapshot. -/
def searchFavoriteMovieCompletions (share : AccountService) (like : String → String → Bool)
    (searchText : String) (documents : Option (List Dictionary)) (error : Option NSError)
    (realm : Option Realm) : List (Option (List Movie)) :=
  if share.isLogin then
    match share.getAccountId with
    | none => [none]
    | some _ =>
        match error, documents with
        | none, some documents => [some (searchedMovies like searchText documents)]
        | none, none => []
        | some _, _ => [none]
  else RealmService.searchFavoriteMovieCompletions like searchText realm

section Sessions

variable {share : AccountService} {accountId : String} {stores : FavoriteStores}

/-- The check of one id without an account id. -/
theorem checkFavoriteMovie_of_none (unknown : share.getAccountId = none) (movieId : Int)
    (failure : Option NSError) :
    checkFavoriteMovie share movieId failure stores = (none, none) := by
  unfold checkFavoriteMovie checkFavoriteMovieCompletions
  rw [unknown]
  rfl

/-- The check of one id with an account id is that of its document. -/
theorem checkFavoriteMovie_of_some (session : share.getAccountId = some accountId) (movieId : Int)
    (failure : Option NSError) : checkFavoriteMovie share movieId failure stores =
      isFavorite (stores.data accountId (documentID movieId)) failure := by
  unfold checkFavoriteMovie checkFavoriteMovieCompletions
  rw [session]
  cases failure with
  | some error => rfl
  | none =>
      simp only [Option.bind_some, isFavorite]
      by_cases found : (stores.data accountId (documentID movieId)).isSome = true
      · rw [if_pos found, found]
        rfl
      · rw [if_neg found, Bool.eq_false_of_not_eq_true found]
        rfl

/-- A fetch of a session with an account brings its documents. -/
theorem fetchFavoriteMovie_of_login (login : share.isLogin = true)
    (session : share.getAccountId = some accountId) :
    fetchFavoriteMovie share none stores = some ((stores.documents accountId).map getMovie) := by
  unfold fetchFavoriteMovie fetchFavoriteMovieCompletions
  rw [if_pos login, session]
  rfl

/-- Another one brings what the local database has. -/
theorem fetchFavoriteMovie_of_signedOut (signedOut : ¬ share.isLogin = true)
    (failure : Option NSError) :
    fetchFavoriteMovie share failure stores = RealmService.fetchFavoriteMovie stores.realm := by
  unfold fetchFavoriteMovie fetchFavoriteMovieCompletions
  rw [if_neg signedOut]
  rfl

/-- An addition of a session with an account sets the document of the movie. -/
theorem addFavoriteMovie_of_login (login : share.isLogin = true)
    (session : share.getAccountId = some accountId) {movieId : Int} {movie : Movie} {now : Date}
    {dictionary : Dictionary} (named : movie.id = some movieId)
    (written : movieDictionary now movie = some dictionary) (failure : Option NSError) :
    addFavoriteMovie share now movie failure stores =
      match failure with
      | none => some (stores.setData accountId (documentID movieId) dictionary, some none)
      | some error => some (stores, some (some error)) := by
  simp only [addFavoriteMovie, addFavoriteMovieCompletions, login, if_true, session, named,
    written]
  cases failure <;> rfl

/-- A removal of such a session deletes it. -/
theorem removeFavoriteMovie_of_login (login : share.isLogin = true)
    (session : share.getAccountId = some accountId) (movieId : Int) (failure : Option NSError) :
    removeFavoriteMovie share movieId failure stores =
      match failure with
      | none => (stores.delete accountId (documentID movieId), some (some true, none))
      | some _ => (stores, some (some false, none)) := by
  unfold removeFavoriteMovie removeFavoriteMovieCompletions
  simp only [login, if_true, session]
  cases failure <;> rfl

/-- An addition of a session without an account is that of the local database. -/
theorem addFavoriteMovie_of_signedOut (signedOut : ¬ share.isLogin = true) (now : Date)
    (movie : Movie) (failure : Option NSError) :
    addFavoriteMovie share now movie failure stores =
      (RealmService.addFavoriteMovie now movie failure stores.realm).map fun (realm, reply) =>
        ({ stores with realm }, some reply) := by
  simp only [addFavoriteMovie, addFavoriteMovieCompletions]
  rw [if_neg signedOut, if_neg signedOut]
  unfold RealmService.addFavoriteMovie RealmService.addFavoriteMovieCompletions
  cases RealmService.getMovieModel now movie with
  | none => rfl
  | some movieModel => cases stores.realm <;> cases failure <;> rfl

/-- So is a removal. -/
theorem removeFavoriteMovie_of_signedOut (signedOut : ¬ share.isLogin = true) (movieId : Int)
    (failure : Option NSError) :
    removeFavoriteMovie share movieId failure stores =
      ({ stores with realm := (RealmService.removeFavoriteMovie movieId failure stores.realm).1 },
        (RealmService.removeFavoriteMovie movieId failure stores.realm).2) := by
  simp only [removeFavoriteMovie, removeFavoriteMovieCompletions]
  rw [if_neg signedOut, if_neg signedOut]
  rfl

end Sessions

/-- Different movies have different documents. -/
theorem documentID_injective : Function.Injective documentID := fun _ _ same =>
  Int.repr_injective same

/-- A movie that was written is read with its id. -/
theorem getMovie_id_of_movieDictionary {now : Date} {movie : Movie} {dictionary : Dictionary}
    (written : movieDictionary now movie = some dictionary) :
    (getMovie dictionary.stored).id = movie.id := by
  obtain ⟨movieId, named, rfl⟩ := Option.map_eq_some_iff.mp written
  rw [named]
  rfl

/-- The ids that a check of a list of ids asks the remote store for. -/
def asks (share : AccountService) (movieIds : Option (List Int)) : Option (List Int) :=
  if share.isLogin then movieIds else none

section CheckFavoriteMovies

variable {share : AccountService} {realm : Option Realm} {movieIds : Option (List Int)}
  {call : Nat} {service : FavoriteMovieService}

/-- A check of a session without an account, or of no list, is answered at once. -/
theorem checkFavoriteMovies_of_quiet (quiet : asks share movieIds = none) :
    ∃ reply, service.checkFavoriteMovies share realm movieIds call = .answered reply := by
  unfold asks at quiet
  unfold checkFavoriteMovies
  split at quiet
  · next login =>
    rw [if_pos login, quiet]
    exact ⟨_, rfl⟩
  · next signedOut =>
    rw [if_neg signedOut]
    exact ⟨_, rfl⟩

/-- Another check clears the dictionary, enters once for each id and registers its
block. -/
theorem checkFavoriteMovies_of_asks {asked : List Int}
    (isAsked : asks share movieIds = some asked) :
    service.checkFavoriteMovies share realm movieIds call =
      .requested
        { isFavorites := ∅
          dispatchGroup := ((service.dispatchGroup.enter asked.length).notify call).1 }
        ((service.dispatchGroup.enter asked.length).notify call).2 asked := by
  unfold asks at isAsked
  unfold checkFavoriteMovies
  split at isAsked
  · next login =>
    obtain ⟨accountId, session⟩ := AccountService.getAccountId_of_isLogin login
    rw [if_pos login, isAsked, session]
  · cases isAsked

end CheckFavoriteMovies

end FavoriteMovieService

end MovieFun
