import MovieFun.Foundation.Run
import MovieFun.View.SearchMovie.SearchMovieController

/-!
# The search screen as an event system

One search screen with what it waits for. Nothing cancels a request, so replies to
any of them come in any order; a search whose body has no page ends without a call of
its completion. `step` lets a load-more be called at any time, `scrollStep` only
where the view controller calls it.
-/

namespace MovieFun

/-- A request: for a page of a search or, without a text, of the new movies, and
whether a load-more made it. -/
structure SearchRequest where
  searchText : Option String
  more : Bool
  page : Nat
deriving DecidableEq, Repr

/-- A screen, the number of delays that run, the requests and checks without a reply,
and every request so far. -/
structure SearchSystem where
  screen : SearchScreen := {}
  delayed : Nat := 0
  requests : List SearchRequest := []
  checks : List SearchCheck := []
  sent : List SearchRequest := []

/-- What can reach the screen. -/
inductive SearchEvent
  | start
  | search (searchText : String)
  | loadMore
  | loadFavoriteMovies
  | deadline
  | reply (request : SearchRequest) (totalPages : Option Int) (movies : Option (List Movie))
      (error : Option NSError)
  | unanswered (request : SearchRequest)
  | checkReply (check : SearchCheck) (isFavoriteMovies : Option IsFavorites)
      (error : Option NSError)

/-- What the completion of a request takes for an error: the load-more of the new
movies takes success for one, and goes on after an error. -/
def SearchRequest.tested (request : SearchRequest) (error : Option NSError) : Option NSError :=
  match request.more, request.searchText, error with
  | true, none, none => some { localizedDescription := "" }
  | true, none, some _ => none
  | _, _, error => error

/-- The page that an event makes the screen show: the request it answers, the total
and the movies. -/
def SearchEvent.brings : SearchEvent → Option (SearchRequest × Int × List Movie)
  | .reply request totalPages movies error =>
      (broughtPage totalPages movies (request.tested error)).map fun page => (request, page)
  | _ => none

namespace SearchMovieController

/-- The completion of a request. -/
def completion (request : SearchRequest) : Option Int → Option (List Movie) → Option NSError →
    SearchScreen → Option (SearchScreen × Option SearchCheck) :=
  match request.more, request.searchText with
  | false, none => startCompletion
  | false, some _ => searchCompletion
  | true, some _ => loadMoreForMovieWhenSearchCompletion
  | true, none => loadMoreForNewMovieCompletion

/-- What the completion of a request does with a page. -/
def shows (request : SearchRequest) : Int → List Movie → SearchScreen → Option SearchScreen :=
  if request.more then showMore else showFirst

/-- The flag of a request. -/
def flagOf (request : SearchRequest) : SearchFlag :=
  if request.more then .isLoadMore else .isFetching

/-- The completions are one, with the parts of their requests. -/
theorem completion_eq (request : SearchRequest) (totalPages : Option Int)
    (movies : Option (List Movie)) (error : Option NSError) (screen : SearchScreen) :
    completion request totalPages movies error screen =
      fetchCompletion setLoadFail (shows request) (checkOf (flagOf request))
        (malformed (flagOf request)) totalPages movies (request.tested error) screen := by
  obtain ⟨searchText, more, page⟩ := request
  cases more with
  | false => cases searchText <;> rfl
  | true =>
      cases searchText with
      | some searchText => rfl
      | none => cases error <;> cases totalPages <;> cases movies <;> rfl

end SearchMovieController

namespace SearchSystem

open SearchMovieController

/-- A deadline passes and a reply comes only where one is awaited. -/
def enabled (system : SearchSystem) : SearchEvent → Bool
  | .deadline => 0 < system.delayed
  | .reply request .. => request ∈ system.requests
  | .unanswered request => request ∈ system.requests ∧ request.searchText.isSome
  | .checkReply check .. => check ∈ system.checks
  | _ => true

/-- A request is sent. -/
def send (request : SearchRequest) (system : SearchSystem) : SearchSystem :=
  { system with requests := system.requests ++ [request], sent := system.sent ++ [request] }

/-- What an event does to the search screen, unless it crashes. -/
def handle (system : SearchSystem) : SearchEvent → Option SearchSystem
  | .start =>
      let screen := setSearchText none system.screen
      some ({ system with screen }.send { searchText := none, more := false, page := 1 })
  | .search searchText =>
      let screen := setSearchText (some searchText) system.screen
      some ({ system with screen }.send { searchText := some searchText, more := false, page := 1 })
  | .loadMore =>
      some { system with
        screen := setFlag .isLoadMore true system.screen
        delayed := system.delayed + 1 }
  | .loadFavoriteMovies =>
      let rowVMs := getRowVMFromListViewModel system.screen
      some { system with checks := system.checks ++ [{ searchFlag := none, rowVMs }] }
  | .deadline =>
      let searchMovieViewModel := system.screen.searchMovieViewModel
      some ({ system with delayed := system.delayed - 1 }.send
        { searchText := searchMovieViewModel.searchText
          more := true
          page := searchMovieViewModel.currentPage })
  | .reply request totalPages movies error => do
      let (screen, check) ← completion request totalPages movies error system.screen
      return { system with
        screen
        requests := system.requests.erase request
        checks := system.checks ++ check.toList }
  | .unanswered request => some { system with requests := system.requests.erase request }
  | .checkReply check isFavoriteMovies error =>
      some { system with
        screen := checkCompletion check isFavoriteMovies error system.screen
        checks := system.checks.erase check }

/-- The search screen after an event that can happen. -/
def step (system : SearchSystem) (event : SearchEvent) : Option SearchSystem :=
  if system.enabled event then handle system event else none

/-- The guard of `scrollViewDidScroll`. -/
def scrolls (system : SearchSystem) : Bool :=
  system.screen.needLoadMore && !system.screen.searchMovieViewModel.isLoadMore

/-- Where the screen permits an event. -/
def permits (system : SearchSystem) : SearchEvent → Bool
  | .loadMore => system.scrolls
  | _ => true

/-- A step of a search whose load-mores come from its view controller. -/
def scrollStep (system : SearchSystem) (event : SearchEvent) : Option SearchSystem :=
  if system.permits event then step system event else none

/-- Nothing is outstanding. -/
structure Idle (system : SearchSystem) : Prop where
  delayed : system.delayed = 0
  requests : system.requests = []
  checks : system.checks = []

variable {system next : SearchSystem} {event : SearchEvent}

theorem step_eq_some (taken : step system event = some next) :
    system.enabled event ∧ handle system event = some next := by
  unfold step at taken
  split at taken
  · next possible => exact ⟨possible, taken⟩
  · cases taken

theorem scrollStep_eq_some (taken : scrollStep system event = some next) :
    system.permits event ∧ step system event = some next := by
  unfold scrollStep at taken
  split at taken
  · next permitted => exact ⟨permitted, taken⟩
  · cases taken

/-- A reply answers its request, and changes the screen as its completion does. -/
theorem step_reply_eq_some {request : SearchRequest} {totalPages : Option Int}
    {movies : Option (List Movie)} {error : Option NSError}
    (taken : step system (.reply request totalPages movies error) = some next) :
    request ∈ system.requests ∧ ∃ screen check,
      completion request totalPages movies error system.screen = some (screen, check) ∧
      next = { system with
        screen
        requests := system.requests.erase request
        checks := system.checks ++ check.toList } := by
  obtain ⟨possible, taken⟩ := step_eq_some taken
  simp only [handle, Option.bind_eq_bind, Option.bind_eq_some_iff] at taken
  obtain ⟨⟨screen, check⟩, completed, made⟩ := taken
  cases made
  exact ⟨of_decide_eq_true possible, screen, check, completed, rfl⟩

/-- A reply to a request is taken when its completion does not trap. -/
theorem step_reply {request : SearchRequest} {totalPages : Option Int}
    {movies : Option (List Movie)} {error : Option NSError} {screen : SearchScreen}
    {check : Option SearchCheck} (asked : request ∈ system.requests)
    (completed : completion request totalPages movies error system.screen =
      some (screen, check)) :
    step system (.reply request totalPages movies error) = some { system with
      screen
      requests := system.requests.erase request
      checks := system.checks ++ check.toList } := by
  have possible : system.enabled (.reply request totalPages movies error) := decide_eq_true asked
  rw [step, if_pos possible]
  simp only [handle, completed, Option.bind_eq_bind, Option.bind_some]
  rfl

end SearchSystem

end MovieFun
