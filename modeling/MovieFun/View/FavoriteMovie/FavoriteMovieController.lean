import MovieFun.Network.FavoriteMovieService

/-!
# The favourites screen

`FavoriteMovieController` asks for all favourites or for those of a text, and puts the
rows of each answer in place of the rows before. Each list of rows is one section. An
empty answer is a row of its own, another one for a search; only an answer with all
favourites hides or shows the search bar.
-/

namespace MovieFun

/-- A row of the table: a favourite, or what stands in place of favourites. -/
inductive FavoriteBaseRowViewModel
  | favorite (movie : Movie)
  | header
  | headerSearch
deriving DecidableEq, Repr

/-- A section of the favourites screen. -/
structure FavoriteSectionViewModel where
  rowViewModels : List FavoriteBaseRowViewModel
deriving DecidableEq, Repr

/-- What the favourites screen is bound to. -/
structure FavoriteMovieViewModel where
  sectionViewModels : List FavoriteSectionViewModel := []
  isFetching : Bool := false
  isLoadFail : Bool := false
  isHiddenSearchBar : Bool := false
deriving DecidableEq, Repr

/-- What is asked for: `start` and `search`. -/
inductive FavoriteQuery
  | all
  | search (searchText : String)
deriving DecidableEq, Repr

namespace FavoriteMovieController

/-- The rows of all favourites. -/
def rows (favoriteMovies : List Movie) : List FavoriteBaseRowViewModel :=
  favoriteMovies.map .favorite ++ if favoriteMovies.length = 0 then [.header] else []

/-- The rows of the favourites that are found. -/
def rowsForSearch (favoriteMovies : List Movie) : List FavoriteBaseRowViewModel :=
  favoriteMovies.map .favorite ++ if favoriteMovies.length = 0 then [.headerSearch] else []

/-- All favourites are shown, and the search bar if there are any. -/
def buildViewModels (favoriteMovies : List Movie)
    (favoriteMovieViewModel : FavoriteMovieViewModel) : FavoriteMovieViewModel :=
  { favoriteMovieViewModel with
    isHiddenSearchBar := decide (favoriteMovies.length = 0)
    sectionViewModels := [{ rowViewModels := rows favoriteMovies }] }

/-- The favourites that a search has found are shown. -/
def buildViewModelsForSearch (favoriteMovies : List Movie)
    (favoriteMovieViewModel : FavoriteMovieViewModel) : FavoriteMovieViewModel :=
  { favoriteMovieViewModel with
    sectionViewModels := [{ rowViewModels := rowsForSearch favoriteMovies }] }

/-- What is built of the movies of an answer. -/
def build : FavoriteQuery → List Movie → FavoriteMovieViewModel → FavoriteMovieViewModel
  | .all => buildViewModels
  | .search _ => buildViewModelsForSearch

/-- The completions of `start` and of `search`. -/
def completion (query : FavoriteQuery) (movies : Option (List Movie))
    (favoriteMovieViewModel : FavoriteMovieViewModel) : FavoriteMovieViewModel :=
  match movies with
  | some favoriteMovies =>
      { build query favoriteMovies favoriteMovieViewModel with isFetching := false }
  | none => { favoriteMovieViewModel with isLoadFail := true, isFetching := false }

/-- What the service passes to the completion: with documents and an error for a session
whose account is loaded, from the local database for another. -/
def answers (like : String → String → Bool) (share : AccountService) (query : FavoriteQuery)
    (documents : Option (List Dictionary)) (error : Option NSError) (realm : Option Realm) :
    List (Option (List Movie)) :=
  match query with
  | .all => FavoriteMovieService.fetchFavoriteMovieCompletions share documents error realm
  | .search searchText =>
      FavoriteMovieService.searchFavoriteMovieCompletions share like searchText documents error
        realm

/-- The favourites of a session that a query asks for. -/
def favorites (like : String → String → Bool) (share : AccountService) (query : FavoriteQuery)
    (stores : FavoriteStores) : Option (List Movie) :=
  match query with
  | .all => FavoriteMovieService.fetchFavoriteMovie share none stores
  | .search searchText =>
      if share.isLogin then
        share.getAccountId.map fun accountId =>
          FavoriteMovieService.searchedMovies like searchText (stores.documents accountId)
      else RealmService.searchFavoriteMovie like searchText stores.realm

/-- What a view model shows of an answer: its rows, and of all favourites also whether
there are any to search. -/
structure Displays (query : FavoriteQuery) (movies : List Movie)
    (favoriteMovieViewModel : FavoriteMovieViewModel) : Prop where
  rows : favoriteMovieViewModel.sectionViewModels = [{
    rowViewModels :=
      match query with
      | .all => FavoriteMovieController.rows movies
      | .search _ => rowsForSearch movies }]
  searchBar : query = .all →
    favoriteMovieViewModel.isHiddenSearchBar = decide (movies.length = 0)

variable {like : String → String → Bool} {share : AccountService} {query : FavoriteQuery}
  {documents : Option (List Dictionary)} {error : Option NSError} {stores : FavoriteStores}
  {movies : List Movie} {favoriteMovieViewModel : FavoriteMovieViewModel}

/-- What a call brings is displayed. -/
theorem displays_completion :
    Displays query movies (completion query (some movies) favoriteMovieViewModel) := by
  cases query with
  | all => exact ⟨rfl, fun _ => rfl⟩
  | search searchText => exact ⟨rfl, fun isAll => by cases isAll⟩

/-- What a view model shows are its rows and its search bar. -/
theorem Displays.of_same {other : FavoriteMovieViewModel}
    (displays : Displays query movies favoriteMovieViewModel)
    (sections : other.sectionViewModels = favoriteMovieViewModel.sectionViewModels)
    (searchBar : other.isHiddenSearchBar = favoriteMovieViewModel.isHiddenSearchBar) :
    Displays query movies other :=
  ⟨sections.trans displays.rows, fun isAll => searchBar.trans (displays.searchBar isAll)⟩

/-- Only documents make an answer with movies. -/
theorem documents_of_answer {found : List Dictionary → List Movie}
    {silent : List (Option (List Movie))} (quiet : some movies ∉ silent)
    (answered : some movies ∈
      match error, documents with
      | none, some documents => [some (found documents)]
      | none, none => silent
      | some _, _ => [none]) :
    ∃ replied, documents = some replied ∧ found replied = movies := by
  cases error with
  | some failure => cases List.mem_singleton.mp answered
  | none =>
      cases documents with
      | none => exact absurd answered quiet
      | some replied =>
          exact ⟨replied, rfl, (Option.some.inj (List.mem_singleton.mp answered)).symm⟩

/-- Without a loaded account the local database answers. -/
theorem answers_of_signedOut (signedOut : ¬ share.isLogin = true) :
    answers like share query documents error stores.realm =
      [favorites like share query stores] := by
  cases query with
  | all =>
      simp only [answers, favorites, FavoriteMovieService.fetchFavoriteMovieCompletions]
      rw [if_neg signedOut, FavoriteMovieService.fetchFavoriteMovie_of_signedOut signedOut]
      exact RealmService.fetchFavoriteMovieCompletions_eq stores.realm
  | search searchText =>
      simp only [answers, favorites, FavoriteMovieService.searchFavoriteMovieCompletions]
      rw [if_neg signedOut, if_neg signedOut]
      exact RealmService.searchFavoriteMovieCompletions_eq stores.realm like searchText

/-- What an answer brings are the favourites that were asked for, when the documents are
those of the account. -/
theorem favorites_of_answer (read : ∀ replied, documents = some replied →
      share.getAccountId.map stores.documents = some replied)
    (answered : some movies ∈ answers like share query documents error stores.realm) :
    favorites like share query stores = some movies := by
  by_cases login : share.isLogin = true
  · obtain ⟨accountId, session⟩ := AccountService.getAccountId_of_isLogin login
    rw [session] at read
    cases query with
    | all =>
        simp only [answers, FavoriteMovieService.fetchFavoriteMovieCompletions] at answered
        rw [if_pos login, session] at answered
        obtain ⟨replied, isReplied, rfl⟩ := documents_of_answer (by simp) answered
        cases read replied isReplied
        exact FavoriteMovieService.fetchFavoriteMovie_of_login login session
    | search searchText =>
        simp only [answers, FavoriteMovieService.searchFavoriteMovieCompletions] at answered
        rw [if_pos login, session] at answered
        obtain ⟨replied, isReplied, rfl⟩ := documents_of_answer List.not_mem_nil answered
        cases read replied isReplied
        rw [favorites, if_pos login, session, Option.map_some]
  · rw [answers_of_signedOut login] at answered
    exact (List.mem_singleton.mp answered).symm

end FavoriteMovieController

end MovieFun
