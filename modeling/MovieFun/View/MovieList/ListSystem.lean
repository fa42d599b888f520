import MovieFun.Foundation.Run
import MovieFun.View.MovieList.ListController

/-!
# A movie list as an event system

One list screen with what it waits for: delays of a refresh or of a load-more,
requests for pages, and checks of favourites. Replies come in any order. `step` lets
a load-more be called at any time, `scrollStep` only where the view controller calls
it.
-/

namespace MovieFun

/-- A request for a page, with the operation that made it. -/
structure ListRequest where
  operation : ListOperation
  page : Nat
deriving DecidableEq, Repr

/-- A screen, the delays that run, the requests and checks without a reply, and every
request so far. -/
structure ListSystem where
  screen : ListScreen
  delayed : List ListOperation := []
  requests : List ListRequest := []
  checks : List ListCheck := []
  sent : List ListRequest := []

/-- What can reach the screen. -/
inductive ListEvent
  | start
  | pullToRefresh
  | loadMore
  | loadFavoriteMovies
  | deadline (operation : ListOperation)
  | reply (request : ListRequest) (totalPages : Option Int) (movies : Option (List Movie))
      (error : Option NSError)
  | checkReply (check : ListCheck) (isFavoriteMovies : Option IsFavorites)
      (error : Option NSError)

/-- The page that an event brings: the request it answers, the total and the movies. -/
def ListEvent.brings : ListEvent → Option (ListRequest × Int × List Movie)
  | .reply request totalPages movies error =>
      (broughtPage totalPages movies error).map fun page => (request, page)
  | _ => none

/-- What brings a page is a reply with movies and without an error. -/
theorem ListEvent.brings_eq_some {event : ListEvent} {request : ListRequest} {total : Int}
    {movies : List Movie} : event.brings = some (request, total, movies) ↔
      event = .reply request (some total) (some movies) none := by
  constructor
  · intro brings
    cases event with
    | reply asked totalPages shown error =>
        obtain ⟨page, brought, made⟩ := Option.map_eq_some_iff.mp brings
        cases made
        obtain ⟨rfl, rfl, rfl⟩ := broughtPage_eq_some.mp brought
        rfl
    | _ => cases brings
  · rintro rfl
    rfl

namespace ListController

/-- The page that an operation asks for. -/
def requestedPage (screen : ListScreen) : ListOperation → Nat
  | .loadMore => screen.listViewModel.currentPage
  | _ => 1

/-- The completion of the fetch of an operation. -/
def completion : ListOperation → Option Int → Option (List Movie) → Option NSError →
    ListScreen → Option (ListScreen × Option ListCheck)
  | .start => startCompletion
  | .pullToRefresh => pullToRefreshCompletion
  | .loadMore => loadMoreCompletion

/-- What an operation does with a page of movies. -/
def shows : ListOperation → Int → List Movie → ListScreen → Option ListScreen
  | .loadMore => showMore
  | _ => showFirst

/-- What an operation does with a reply that has no page. -/
def malformed : ListOperation → ListScreen → ListScreen
  | .start => fun screen => setFlag .start false (setLoadFail screen)
  | operation => setFlag operation false

/-- A reply that cannot be shown does not change the pages on display. -/
theorem pagesShown_malformed (operation : ListOperation) (screen : ListScreen) :
    pagesShown (malformed operation screen) = pagesShown screen := by
  cases operation <;> rfl

/-- The three completions are one, with the parts of their operations. -/
theorem completion_eq (operation : ListOperation) :
    completion operation = fetchCompletion setLoadFail (shows operation) (checkOf operation)
      (malformed operation) := by
  cases operation <;> rfl

end ListController

namespace ListSystem

open ListController

/-- The list before any event. -/
def initial (subclass : ListSubclass) : ListSystem where
  screen := ListController.initial subclass

/-- A deadline passes and a reply comes only where one is awaited. -/
def enabled (system : ListSystem) : ListEvent → Bool
  | .deadline operation => operation ∈ system.delayed
  | .reply request .. => request ∈ system.requests
  | .checkReply check .. => check ∈ system.checks
  | _ => true

/-- A request is sent. -/
def send (request : ListRequest) (system : ListSystem) : ListSystem :=
  { system with requests := system.requests ++ [request], sent := system.sent ++ [request] }

/-- What an event does to the list, unless it crashes. -/
def handle (system : ListSystem) : ListEvent → Option ListSystem
  | .start =>
      let screen := setFlag .start true system.screen
      some ({ system with screen }.send { operation := .start, page := 1 })
  | .pullToRefresh =>
      some { system with
        screen := setFlag .pullToRefresh true system.screen
        delayed := system.delayed ++ [.pullToRefresh] }
  | .loadMore =>
      some { system with
        screen := setFlag .loadMore true system.screen
        delayed := system.delayed ++ [.loadMore] }
  | .loadFavoriteMovies =>
      let rowVMs := getRowVMFromListViewModel system.screen
      some { system with checks := system.checks ++ [{ operation := none, rowVMs }] }
  | .deadline operation =>
      some ({ system with delayed := system.delayed.erase operation }.send
        { operation, page := requestedPage system.screen operation })
  | .reply request totalPages movies error => do
      let (screen, check) ← completion request.operation totalPages movies error system.screen
      return { system with
        screen
        requests := system.requests.erase request
        checks := system.checks ++ check.toList }
  | .checkReply check isFavoriteMovies error =>
      some { system with
        screen := checkCompletion check isFavoriteMovies error system.screen
        checks := system.checks.erase check }

/-- The list after an event that can happen. -/
def step (system : ListSystem) (event : ListEvent) : Option ListSystem :=
  if system.enabled event then handle system event else none

/-- The guard of `scrollViewDidScroll`. -/
def scrolls (system : ListSystem) : Bool :=
  system.screen.needLoadMore && !system.screen.listViewModel.isLoadMore

/-- Where the screen permits an event. -/
def permits (system : ListSystem) : ListEvent → Bool
  | .loadMore => system.scrolls
  | _ => true

/-- A step of a list whose load-mores come from its view controller. -/
def scrollStep (system : ListSystem) (event : ListEvent) : Option ListSystem :=
  if system.permits event then step system event else none

/-- Nothing is outstanding. -/
structure Idle (system : ListSystem) : Prop where
  delayed : system.delayed = []
  requests : system.requests = []
  checks : system.checks = []

variable {system next : ListSystem} {event : ListEvent}

theorem step_eq_some (taken : step system event = some next) :
    system.enabled event ∧ handle system event = some next := by
  unfold step at taken
  split at taken
  · next possible => exact ⟨possible, taken⟩
  · cases taken

theorem scrollStep_eq_some (taken : scrollStep system event = some next) :
    system.permits event ∧ step system event = some next := by
  unfold scrollStep at taken
  split at taken
  · next permitted => exact ⟨permitted, taken⟩
  · cases taken

/-- A reply answers its request, and changes the screen as its completion does. -/
theorem step_reply_eq_some {request : ListRequest} {totalPages : Option Int}
    {movies : Option (List Movie)} {error : Option NSError}
    (taken : step system (.reply request totalPages movies error) = some next) :
    request ∈ system.requests ∧ ∃ screen check,
      completion request.operation totalPages movies error system.screen = some (screen, check) ∧
      next = { system with
        screen
        requests := system.requests.erase request
        checks := system.checks ++ check.toList } := by
  obtain ⟨possible, taken⟩ := step_eq_some taken
  simp only [handle, Option.bind_eq_bind, Option.bind_eq_some_iff] at taken
  obtain ⟨⟨screen, check⟩, completed, made⟩ := taken
  cases made
  exact ⟨of_decide_eq_true possible, screen, check, completed, rfl⟩

/-- A reply to a request is taken when its completion does not trap. -/
theorem step_reply {request : ListRequest} {totalPages : Option Int}
    {movies : Option (List Movie)} {error : Option NSError} {screen : ListScreen}
    {check : Option ListCheck} (asked : request ∈ system.requests)
    (completed : completion request.operation totalPages movies error system.screen =
      some (screen, check)) :
    step system (.reply request totalPages movies error) = some { system with
      screen
      requests := system.requests.erase request
      checks := system.checks ++ check.toList } := by
  have possible : system.enabled (.reply request totalPages movies error) := decide_eq_true asked
  rw [step, if_pos possible]
  simp only [handle, completed, Option.bind_eq_bind, Option.bind_some]
  rfl

/-- Only a page changes which pages are shown. -/
theorem pagesShown_of_step (taken : step system event = some next) :
    (event.brings = none ∧ pagesShown next.screen = pagesShown system.screen) ∨
      ∃ request total movies, event.brings = some (request, total, movies) ∧
        request ∈ system.requests ∧
        shows request.operation total movies system.screen = some next.screen := by
  cases event with
  | reply request totalPages movies error =>
      obtain ⟨asked, screen, check, completed, rfl⟩ := step_reply_eq_some taken
      rw [completion_eq] at completed
      rcases fetchCompletion_eq_some completed with
        ⟨silent, -, ⟨-, rfl⟩ | ⟨-, rfl⟩⟩ | ⟨total, shown, brought, isShown, -⟩
      · exact .inl ⟨by rw [ListEvent.brings, silent]; rfl, rfl⟩
      · exact .inl ⟨by rw [ListEvent.brings, silent]; rfl,
          pagesShown_malformed request.operation system.screen⟩
      · exact .inr ⟨request, total, shown, by rw [ListEvent.brings, brought]; rfl, asked, isShown⟩
  | checkReply check isFavoriteMovies error =>
      cases (step_eq_some taken).2
      exact .inl ⟨rfl, pagesShown_checkCompletion check isFavoriteMovies error system.screen⟩
  | start =>
      cases (step_eq_some taken).2
      exact .inl ⟨rfl, pagesShown_setFlag .start true system.screen⟩
  | pullToRefresh =>
      cases (step_eq_some taken).2
      exact .inl ⟨rfl, pagesShown_setFlag .pullToRefresh true system.screen⟩
  | loadMore =>
      cases (step_eq_some taken).2
      exact .inl ⟨rfl, pagesShown_setFlag .loadMore true system.screen⟩
  | loadFavoriteMovies =>
      cases (step_eq_some taken).2
      exact .inl ⟨rfl, rfl⟩
  | deadline operation =>
      cases (step_eq_some taken).2
      exact .inl ⟨rfl, rfl⟩

end ListSystem

end MovieFun
