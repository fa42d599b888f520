import Mathlib.Logic.Function.Basic
import MovieFun.Network.MovieService

/-!
# Rows of movies

What the screens with lists of movies share. A row is an object that the completions
of favourite checks capture: `number` is its number in the order of creation, and its
star is kept by that number. The completions of the fetches have one shape: an error,
a page that is shown and whose rows are then checked, or neither.
-/

namespace MovieFun

/-- A row object of a list, told from others by its number. -/
structure ListRowViewModel where
  number : Nat
  movie : Movie
deriving DecidableEq, Repr

namespace ListRowViewModel

/-- The rows of a list of movies, as the next objects. -/
def newRows (created : Nat) (movies : List Movie) : List ListRowViewModel :=
  (movies.zipIdx created).map fun (movie, number) => { number, movie }

/-- The star of a row by the dictionary of a check. -/
def isFavorite (isFavoriteMovies : IsFavorites) (rowVM : ListRowViewModel) : Option Bool :=
  match rowVM.movie.id with
  | some movieId => (isFavoriteMovies.lookup movieId).getD (some false)
  | none => some false

/-- The completion of a check sets the stars of the rows it captured. -/
def setFavorites (rowVMs : List ListRowViewModel) (isFavoriteMovies : Option IsFavorites)
    (error : Option NSError) (stars : Nat → Option Bool) : Nat → Option Bool :=
  match error, isFavoriteMovies with
  | none, some isFavoriteMovies =>
      rowVMs.foldl (fun stars rowVM =>
        Function.update stars rowVM.number (rowVM.isFavorite isFavoriteMovies)) stars
  | _, _ => stars

/-- The rows of a list of movies show these movies. -/
theorem movie_newRows (created : Nat) (movies : List Movie) :
    (newRows created movies).map movie = movies := by
  rw [newRows, List.map_map]
  exact List.zipIdx_map_fst created movies

end ListRowViewModel

variable {Screen Check : Type*}

/-- A completion of a fetch: what the screen becomes, and the check of favourites it
starts. `fails` is what an error does, `shows` what a page does, and `malformed` what
a reply without either does. -/
def fetchCompletion (fails : Screen → Screen) (shows : Int → List Movie → Screen → Option Screen)
    (check : Screen → Check) (malformed : Screen → Screen) (totalPages : Option Int)
    (movies : Option (List Movie)) (error : Option NSError) (screen : Screen) :
    Option (Screen × Option Check) :=
  match error, totalPages, movies with
  | some _, _, _ => some (fails screen, none)
  | none, some totalPages, some movies =>
      (shows totalPages movies screen).map fun shown => (shown, some (check shown))
  | none, _, _ => some (malformed screen, none)

/-- The page that a reply brings. -/
def broughtPage : Option Int → Option (List Movie) → Option NSError → Option (Int × List Movie)
  | some totalPages, some movies, none => some (totalPages, movies)
  | _, _, _ => none

/-- A reply brings a page if it has movies, a total and no error. -/
theorem broughtPage_eq_some {totalPages : Option Int} {movies : Option (List Movie)}
    {error : Option NSError} {total : Int} {shown : List Movie} :
    broughtPage totalPages movies error = some (total, shown) ↔
      totalPages = some total ∧ movies = some shown ∧ error = none := by
  constructor
  · intro brought
    unfold broughtPage at brought
    split at brought
    · cases brought
      exact ⟨rfl, rfl, rfl⟩
    · cases brought
  · rintro ⟨rfl, rfl, rfl⟩
    rfl

/-- The three ways a completion of a fetch ends. -/
theorem fetchCompletion_eq_some {fails malformed : Screen → Screen}
    {shows : Int → List Movie → Screen → Option Screen} {check : Screen → Check}
    {totalPages : Option Int} {movies : Option (List Movie)} {error : Option NSError}
    {screen next : Screen} {started : Option Check}
    (completed : fetchCompletion fails shows check malformed totalPages movies error screen =
      some (next, started)) :
    (broughtPage totalPages movies error = none ∧ started = none ∧
        ((error.isSome ∧ next = fails screen) ∨ (error = none ∧ next = malformed screen))) ∨
      (∃ total shown, broughtPage totalPages movies error = some (total, shown) ∧
        shows total shown screen = some next ∧ started = some (check next)) := by
  cases error with
  | some thrown =>
      cases completed
      refine .inl ⟨?_, rfl, .inl ⟨rfl, rfl⟩⟩
      cases totalPages <;> cases movies <;> rfl
  | none =>
      cases totalPages with
      | none =>
          cases completed
          exact .inl ⟨rfl, rfl, .inr ⟨rfl, rfl⟩⟩
      | some total =>
          cases movies with
          | none =>
              cases completed
              exact .inl ⟨rfl, rfl, .inr ⟨rfl, rfl⟩⟩
          | some shown =>
              obtain ⟨_, isShown, made⟩ := Option.map_eq_some_iff.mp completed
              cases made
              exact .inr ⟨total, shown, rfl, isShown, rfl⟩

/-- A completion of a fetch traps when it cannot show what it is brought. -/
theorem fetchCompletion_isSome {fails malformed : Screen → Screen}
    {shows : Int → List Movie → Screen → Option Screen} {check : Screen → Check}
    {totalPages : Option Int} {movies : Option (List Movie)} {error : Option NSError}
    {screen : Screen} :
    (fetchCompletion fails shows check malformed totalPages movies error screen).isSome ↔
      ∀ page ∈ broughtPage totalPages movies error, (shows page.1 page.2 screen).isSome := by
  have silent : ∀ page : Int × List Movie, page ∉ (none : Option (Int × List Movie)) :=
    fun page member => Option.not_mem_none page member
  cases error with
  | some thrown =>
      refine iff_of_true rfl fun page member => absurd member ?_
      cases totalPages <;> cases movies <;> exact silent page
  | none =>
      cases totalPages with
      | none => exact iff_of_true rfl fun page member => absurd member (silent page)
      | some total =>
          cases movies with
          | none => exact iff_of_true rfl fun page member => absurd member (silent page)
          | some shown =>
              rw [fetchCompletion, Option.isSome_map]
              refine ⟨fun isShown page member => ?_, fun always => always _ rfl⟩
              cases member
              exact isShown

/-- The number of the current page is the next one to ask for, and its listener
compares it with the total. -/
def needsMore (totalPage : Int) (currentPage : Nat) : Bool :=
  !decide ((currentPage : Int) ≥ totalPage)

end MovieFun
