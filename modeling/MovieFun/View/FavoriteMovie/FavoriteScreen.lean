import MovieFun.Foundation.Once
import MovieFun.Network.FavoriteSearch
import MovieFun.View.FavoriteMovie.FavoriteMovieController

/-!
# The favourites of the store on the screen

The favourites screen with the stores behind it. A session whose account is loaded asks
the remote store, which reads the documents and carries out removals at an instant of its
own, and whose replies come in any order; another session is answered before the call
returns. Whatever the order, each list on display is what the store had at one instant
after its call (`snapshot_of_run`), and when it answers the call made last and nothing was
changed since, it is what the store has (`onDisplay_of_lastCall`).
-/

namespace MovieFun

/-- A call of `start` or of `search`: its number, what it asks for, and the session it was
made in. -/
structure FavoriteRequest where
  number : Nat
  query : FavoriteQuery
  share : AccountService
deriving DecidableEq, Repr

/-- A removal that the remote store is still to carry out. -/
structure FavoriteRemoval where
  share : AccountService
  movieId : Int
deriving DecidableEq, Repr

/-- The screen with its search bar, the session and the stores, every call so far, what is
on its way, and the call whose answer is on display. -/
structure FavoriteScreen where
  share : AccountService
  stores : FavoriteStores
  searchBarText : Option String := none
  favoriteMovieViewModel : FavoriteMovieViewModel := {}
  asked : List FavoriteQuery := []
  requests : List FavoriteRequest := []
  replies : List (FavoriteRequest × Option (List Movie)) := []
  removals : List FavoriteRemoval := []
  removed : List (Option Bool × Option NSError) := []
  shown : Option FavoriteRequest := none

/-- What can reach the screen. The remote store may fail to read, or read a nil snapshot;
the completion of a removal goes to a row that may be gone. -/
inductive FavoriteScreenEvent
  | viewWillAppear
  | textDidChange (searchText : String)
  | searchBarCancelButtonClicked
  | searchBarSearchButtonClicked
  | removeFavoriteMovie (movie : Movie) (failure : Option NSError)
  | delete (removal : FavoriteRemoval) (failure : Option NSError)
  | removeReply (reply : Option Bool × Option NSError) (alive : Bool)
  | read (request : FavoriteRequest) (lost : Bool) (failure : Option NSError)
  | reply (request : FavoriteRequest) (movies : Option (List Movie))
  | elsewhere (share : AccountService) (stores : FavoriteStores)

/-- What the text of the search bar asks for. -/
def FavoriteQuery.ofText (searchText : String) : FavoriteQuery :=
  if searchText = "" then .all else .search searchText

namespace FavoriteScreen

open FavoriteMovieController

variable (like : String → String → Bool)

/-- The screen before anything happened. -/
def initial (share : AccountService) (stores : FavoriteStores) : FavoriteScreen where
  share
  stores

/-- The completion of a call. -/
def complete (request : FavoriteRequest) (movies : Option (List Movie))
    (system : FavoriteScreen) : FavoriteScreen :=
  { system with
    favoriteMovieViewModel := completion request.query movies system.favoriteMovieViewModel
    shown := if movies.isSome then some request else system.shown }

/-- The next call, in the session as it is. -/
def request (query : FavoriteQuery) (system : FavoriteScreen) : FavoriteRequest where
  number := system.asked.length
  query
  share := system.share

/-- `start` and `search`. Without a loaded account the local database answers at once. -/
def call (query : FavoriteQuery) (system : FavoriteScreen) : FavoriteScreen :=
  let request := system.request query
  let system :=
    { system with
      favoriteMovieViewModel := { system.favoriteMovieViewModel with isFetching := true }
      asked := system.asked ++ [query] }
  if system.share.isLogin then { system with requests := system.requests ++ [request] }
  else
    (answers like system.share query none none system.stores.realm).foldl
      (fun system movies => system.complete request movies) system

/-- The row tells the screen of a removal, whatever became of it. -/
def isTold (reply : Option Bool × Option NSError) : Bool :=
  reply.2 = none ∧ reply.1 ≠ none

/-- The completion of a removal: the screen starts again. -/
def removeCompletion (reply : Option Bool × Option NSError) (system : FavoriteScreen) :
    FavoriteScreen :=
  if isTold reply then system.call like .all else system

/-- The documents that the remote store reads for a call. -/
def documents (request : FavoriteRequest) (lost : Bool) (stores : FavoriteStores) :
    Option (List Dictionary) :=
  if lost then none else request.share.getAccountId.map stores.documents

/-- The store and the replies come to what is on its way. -/
def enabled (system : FavoriteScreen) : FavoriteScreenEvent → Bool
  | .delete removal _ => removal ∈ system.removals
  | .removeReply reply _ => reply ∈ system.removed
  | .read request .. => request ∈ system.requests
  | .reply request movies => (request, movies) ∈ system.replies
  | _ => true

/-- What an event does to the screen, the session and the stores. -/
def handle (system : FavoriteScreen) : FavoriteScreenEvent → FavoriteScreen
  | .viewWillAppear => system.call like .all
  | .textDidChange searchText =>
      { system with searchBarText := some searchText }.call like (.ofText searchText)
  | .searchBarCancelButtonClicked => { system.call like .all with searchBarText := some "" }
  | .searchBarSearchButtonClicked =>
      match system.searchBarText with
      | none => system
      | some searchText => system.call like (.ofText searchText)
  | .removeFavoriteMovie movie failure =>
      match movie.id with
      | none => system
      | some movieId =>
          if system.share.isLogin then
            { system with
              removals := system.removals ++ [{ share := system.share, movieId }] }
          else
            let (stores, reply) :=
              FavoriteMovieService.removeFavoriteMovie system.share movieId failure system.stores
            reply.elim { system with stores } fun reply =>
              { system with stores }.removeCompletion like reply
  | .delete removal failure =>
      let (stores, reply) :=
        FavoriteMovieService.removeFavoriteMovie removal.share removal.movieId failure
          system.stores
      { system with
        stores
        removals := system.removals.erase removal
        removed := system.removed ++ reply.toList }
  | .removeReply reply alive =>
      let system := { system with removed := system.removed.erase reply }
      if alive then system.removeCompletion like reply else system
  | .read request lost failure =>
      { system with
        requests := system.requests.erase request
        replies := system.replies ++
          (answers like request.share request.query (documents request lost system.stores) failure
            system.stores.realm).map fun movies => (request, movies) }
  | .reply request movies =>
      { system with replies := system.replies.erase (request, movies) }.complete request movies
  | .elsewhere share stores => { system with share, stores }

/-- The screen after an event that can happen. -/
def step (system : FavoriteScreen) (event : FavoriteScreenEvent) : Option FavoriteScreen :=
  if system.enabled event then some (system.handle like event) else none

/-- The step starts again whatever the search bar says: the screen appears, or a removal
is told. -/
def Restarts (system : FavoriteScreen) : FavoriteScreenEvent → Prop
  | .viewWillAppear => True
  | .removeFavoriteMovie movie failure =>
      ¬ system.share.isLogin = true ∧ ∃ movieId ∈ movie.id, ∃ reply ∈
        (FavoriteMovieService.removeFavoriteMovie system.share movieId failure system.stores).2,
        isTold reply
  | .removeReply reply alive => alive = true ∧ isTold reply
  | _ => False

/-- The calls, and what became of them. -/
structure SameCalls (system other : FavoriteScreen) : Prop where
  asked : system.asked = other.asked
  requests : system.requests = other.requests
  replies : system.replies = other.replies
  shown : system.shown = other.shown
  viewModel : system.favoriteMovieViewModel = other.favoriteMovieViewModel

section Steps

variable {like} {system next : FavoriteScreen} {event : FavoriteScreenEvent}
  {query : FavoriteQuery}

theorem step_eq_some (taken : step like system event = some next) :
    system.enabled event = true ∧ system.handle like event = next := by
  unfold step at taken
  split at taken
  · next enabled => exact ⟨enabled, Option.some.inj taken⟩
  · cases taken

/-- A call of a session whose account is loaded waits for its reply. -/
theorem call_of_login (login : system.share.isLogin = true) :
    system.call like query =
      { system with
        favoriteMovieViewModel := { system.favoriteMovieViewModel with isFetching := true }
        asked := system.asked ++ [query]
        requests := system.requests ++ [system.request query] } :=
  if_pos login

/-- A call of another session is completed with what the local database has. -/
theorem call_of_signedOut (signedOut : ¬ system.share.isLogin = true) :
    system.call like query =
      { system with
        favoriteMovieViewModel := { system.favoriteMovieViewModel with isFetching := true }
        asked := system.asked ++ [query] }.complete (system.request query)
          (favorites like system.share query system.stores) := by
  refine (if_neg signedOut).trans ?_
  rw [answers_of_signedOut signedOut, List.foldl_cons, List.foldl_nil]

/-- What a call leaves as it is, and what it asks. -/
theorem call_keeps (like : String → String → Bool) (query : FavoriteQuery)
    (system : FavoriteScreen) :
    (system.call like query).asked = system.asked ++ [query] ∧
      (system.call like query).share = system.share ∧
      (system.call like query).stores = system.stores ∧
      (system.call like query).replies = system.replies ∧
      (system.call like query).searchBarText = system.searchBarText := by
  by_cases login : system.share.isLogin = true
  · rw [call_of_login login]
    exact ⟨rfl, rfl, rfl, rfl, rfl⟩
  · rw [call_of_signedOut login]
    exact ⟨rfl, rfl, rfl, rfl, rfl⟩

/-- A call does not change the search bar. -/
theorem call_text (like : String → String → Bool) (query : FavoriteQuery)
    (system : FavoriteScreen) :
    system.call like query =
      { system.call like query with searchBarText := system.searchBarText } := by
  rw [← (call_keeps like query system).2.2.2.2]

/-- The completion of a removal that is told starts again. -/
theorem removeCompletion_of_told {reply : Option Bool × Option NSError}
    (told : isTold reply = true) :
    system.removeCompletion like reply = system.call like .all :=
  if_pos told

/-- A removal that nobody is told of leaves the screen. -/
theorem removeCompletion_of_not_told {reply : Option Bool × Option NSError}
    (silent : ¬ isTold reply = true) : system.removeCompletion like reply = system :=
  if_neg silent

/-- What a step does: it calls for what the bar says or starts again, leaves the calls as
they are, reads the store for a call, or completes one. -/
theorem step_cases (taken : step like system event = some next) :
    (∃ middle query searchBarText, SameCalls middle system ∧
        next = { middle.call like query with searchBarText } ∧
        ((Restarts system event ∧ query = .all ∧ searchBarText = system.searchBarText) ∨
          (¬ Restarts system event ∧ query = .ofText (searchBarText.getD "")))) ∨
      (¬ Restarts system event ∧ next.searchBarText = system.searchBarText ∧
        (SameCalls next system ∨
          (∃ request ∈ system.requests, ∃ lost failure, event = .read request lost failure) ∨
          ∃ request movies, (request, movies) ∈ system.replies ∧
            event = .reply request movies)) := by
  obtain ⟨enabled, rfl⟩ := step_eq_some taken
  have same : SameCalls system system := ⟨rfl, rfl, rfl, rfl, rfl⟩
  cases event with
  | viewWillAppear =>
      exact .inl ⟨system, .all, _, same, call_text like .all system, .inl ⟨trivial, rfl, rfl⟩⟩
  | textDidChange searchText =>
      exact .inl ⟨{ system with searchBarText := some searchText }, .ofText searchText, _,
        ⟨rfl, rfl, rfl, rfl, rfl⟩, call_text like _ _, .inr ⟨id, rfl⟩⟩
  | searchBarCancelButtonClicked =>
      exact .inl ⟨system, .all, some "", same, rfl, .inr ⟨id, rfl⟩⟩
  | searchBarSearchButtonClicked =>
      simp only [handle]
      cases text : system.searchBarText with
      | none => exact .inr ⟨id, text, .inl same⟩
      | some searchText =>
          refine .inl ⟨system, .ofText searchText, _, same, call_text like _ system, .inr ⟨id, ?_⟩⟩
          rw [text, Option.getD_some]
  | removeFavoriteMovie movie failure =>
      simp only [handle, Restarts]
      cases named : movie.id with
      | none =>
          refine .inr ⟨?_, rfl, .inl same⟩
          rintro ⟨-, movieId, isId, -⟩
          cases isId
      | some movieId =>
          simp only [Option.mem_def, Option.some.injEq, exists_eq_left']
          by_cases login : system.share.isLogin = true
          · rw [if_pos login]
            exact .inr ⟨fun restarts => restarts.1 login, rfl, .inl ⟨rfl, rfl, rfl, rfl, rfl⟩⟩
          · rw [if_neg login]
            obtain ⟨stores, reply, removed⟩ : ∃ stores reply,
                FavoriteMovieService.removeFavoriteMovie system.share movieId failure
                  system.stores = (stores, reply) := ⟨_, _, rfl⟩
            simp only [removed]
            cases reply with
            | none =>
                refine .inr ⟨?_, rfl, .inl ⟨rfl, rfl, rfl, rfl, rfl⟩⟩
                rintro ⟨-, reply, isReply, -⟩
                cases isReply
            | some reply =>
                rw [Option.elim_some]
                by_cases told : isTold reply = true
                · rw [removeCompletion_of_told told]
                  exact .inl ⟨{ system with stores }, .all, _, ⟨rfl, rfl, rfl, rfl, rfl⟩,
                    call_text like .all _, .inl ⟨⟨login, reply, rfl, told⟩, rfl, rfl⟩⟩
                · rw [removeCompletion_of_not_told told]
                  refine .inr ⟨?_, rfl, .inl ⟨rfl, rfl, rfl, rfl, rfl⟩⟩
                  rintro ⟨-, other, isReply, isTold⟩
                  cases isReply
                  exact told isTold
  | delete removal failure => exact .inr ⟨id, rfl, .inl ⟨rfl, rfl, rfl, rfl, rfl⟩⟩
  | removeReply reply alive =>
      by_cases restarts : alive = true ∧ isTold reply = true
      · obtain ⟨rfl, told⟩ := restarts
        refine .inl ⟨{ system with removed := system.removed.erase reply }, .all, _,
          ⟨rfl, rfl, rfl, rfl, rfl⟩, ?_, .inl ⟨⟨rfl, told⟩, rfl, rfl⟩⟩
        rw [← call_text like .all, ← removeCompletion_of_told told]
        rfl
      · refine .inr ⟨restarts, ?_⟩
        cases alive with
        | false => exact ⟨rfl, .inl ⟨rfl, rfl, rfl, rfl, rfl⟩⟩
        | true =>
            have silent : ¬ isTold reply = true := fun told => restarts ⟨rfl, told⟩
            simp only [handle, if_true]
            rw [removeCompletion_of_not_told silent]
            exact ⟨rfl, .inl ⟨rfl, rfl, rfl, rfl, rfl⟩⟩
  | read request lost failure =>
      exact .inr ⟨id, rfl, .inr (.inl ⟨request, of_decide_eq_true enabled, lost, failure, rfl⟩)⟩
  | reply request movies =>
      exact .inr ⟨id, rfl, .inr (.inr ⟨request, movies, of_decide_eq_true enabled, rfl⟩)⟩
  | elsewhere share stores => exact .inr ⟨id, rfl, .inl ⟨rfl, rfl, rfl, rfl, rfl⟩⟩

end Steps

/-- The state after the call of a request. -/
def Makes (request : FavoriteRequest) (system : FavoriteScreen) : Prop :=
  system.asked.getLast? = some request.query ∧ system.asked.length = request.number + 1 ∧
    system.share = request.share

/-- The stores have these favourites for a call that was made. -/
def Holds (request : FavoriteRequest) (movies : List Movie) (system : FavoriteScreen) : Prop :=
  request.number < system.asked.length ∧
    favorites like request.share request.query system.stores = some movies

variable (start : FavoriteScreen) (events : List FavoriteScreenEvent)

/-- The call was made, and then the stores had these favourites at one instant. -/
structure Answered (request : FavoriteRequest) (movies : List Movie) : Prop where
  made : EventRun.Once (step like) (Makes request) start events
  held : EventRun.Once (step like) (Holds like request movies) start events

/-- What is on display is what the stores had at one instant after a call. -/
structure Shows (system : FavoriteScreen) : Prop where
  untouched : system.shown = none → system.favoriteMovieViewModel.sectionViewModels = []
  answered : ∀ request ∈ system.shown, ∃ movies,
    Displays request.query movies system.favoriteMovieViewModel ∧
      Answered like start events request movies

/-- Each request that waits was made, and each reply brings what the stores had. -/
structure Waits (system : FavoriteScreen) : Prop where
  requests : ∀ request ∈ system.requests, request.number < system.asked.length ∧
    EventRun.Once (step like) (Makes request) start events
  replies : ∀ request movies, (request, some movies) ∈ system.replies →
    Answered like start events request movies

section Runs

variable {like} {start events} {system next : FavoriteScreen} {event : FavoriteScreenEvent}
  {request : FavoriteRequest} {query : FavoriteQuery} {movies : List Movie}

theorem Answered.concat (answered : Answered like start events request movies)
    (event : FavoriteScreenEvent) : Answered like start (events ++ [event]) request movies :=
  ⟨answered.made.concat event, answered.held.concat event⟩

theorem Shows.concat (shows : Shows like start events system) (event : FavoriteScreenEvent) :
    Shows like start (events ++ [event]) system where
  untouched := shows.untouched
  answered request isShown := by
    obtain ⟨movies, displays, answered⟩ := shows.answered request isShown
    exact ⟨movies, displays, answered.concat event⟩

theorem Waits.concat (waits : Waits like start events system) (event : FavoriteScreenEvent) :
    Waits like start (events ++ [event]) system where
  requests request member :=
    ⟨(waits.requests request member).1, (waits.requests request member).2.concat event⟩
  replies request movies member := (waits.replies request movies member).concat event

/-- What is on display is kept with its rows and its search bar. -/
theorem Shows.of_same (shows : Shows like start events system) (shown : next.shown = system.shown)
    (sections : next.favoriteMovieViewModel.sectionViewModels =
      system.favoriteMovieViewModel.sectionViewModels)
    (searchBar : next.favoriteMovieViewModel.isHiddenSearchBar =
      system.favoriteMovieViewModel.isHiddenSearchBar) :
    Shows like start events next := by
  constructor
  · rw [shown, sections]
    exact shows.untouched
  · intro request isShown
    rw [shown] at isShown
    obtain ⟨movies, displays, answered⟩ := shows.answered request isShown
    exact ⟨movies, displays.of_same sections searchBar, answered⟩

/-- What is on its way is a matter of the calls and replies. -/
theorem Waits.of_same (waits : Waits like start events system) (asked : next.asked = system.asked)
    (requests : next.requests = system.requests) (replies : next.replies = system.replies) :
    Waits like start events next := by
  constructor
  · rw [asked, requests]
    exact waits.requests
  · rw [replies]
    exact waits.replies

/-- A completion shows what its answer brought. -/
theorem Shows.complete {answer : Option (List Movie)} (shows : Shows like start events system)
    (answered : ∀ movies ∈ answer, Answered like start events request movies) :
    Shows like start events (system.complete request answer) := by
  cases answer with
  | none => exact shows.of_same rfl rfl rfl
  | some movies =>
      refine ⟨(fun untouched => by cases untouched), fun last isShown => ?_⟩
      cases isShown
      exact ⟨movies, displays_completion, answered movies rfl⟩

/-- A call is made in the session and the stores as they are. -/
theorem makes_call (like : String → String → Bool) (query : FavoriteQuery)
    (system : FavoriteScreen) : Makes (system.request query) (system.call like query) := by
  obtain ⟨asked, share, -⟩ := call_keeps like query system
  rw [Makes, asked, share]
  exact ⟨List.getLast?_concat, List.length_append, rfl⟩

/-- What a call finds is held at once. -/
theorem holds_call (found : favorites like system.share query system.stores = some movies) :
    Holds like (system.request query) movies (system.call like query) := by
  obtain ⟨asked, -, stores, -⟩ := call_keeps like query system
  rw [Holds, asked, stores]
  exact ⟨List.length_append ▸ Nat.lt_succ_self _, found⟩

/-- A call waits, or shows what the stores have. -/
theorem shows_call (shows : Shows like start events system) (waits : Waits like start events system)
    (made : EventRun.Once (step like) (Makes (system.request query)) start events)
    (held : ∀ movies, favorites like system.share query system.stores = some movies →
      EventRun.Once (step like) (Holds like (system.request query) movies) start events) :
    Shows like start events (system.call like query) ∧
      Waits like start events (system.call like query) := by
  have longer : ∀ request ∈ system.requests, request.number < (system.asked ++ [query]).length ∧
      EventRun.Once (step like) (Makes request) start events := by
    intro request member
    obtain ⟨before, isMade⟩ := waits.requests request member
    refine ⟨?_, isMade⟩
    rw [List.length_append]
    exact Nat.lt_add_right _ before
  by_cases login : system.share.isLogin = true
  · rw [call_of_login login]
    refine ⟨shows.of_same rfl rfl rfl, ⟨fun request member => ?_, waits.replies⟩⟩
    rcases List.mem_append.mp member with before | isLast
    · exact longer request before
    · cases List.mem_singleton.mp isLast
      refine ⟨?_, made⟩
      rw [List.length_append]
      exact Nat.lt_succ_self _
  · rw [call_of_signedOut login]
    refine ⟨Shows.complete (shows.of_same rfl rfl rfl) ?_, ⟨longer, waits.replies⟩⟩
    exact fun movies found => ⟨made, held movies found⟩

/-- Each step shows what the stores had, and brings no other replies. -/
theorem shows_of_step (shows : Shows like start events system)
    (waits : Waits like start events system) (taken : step like system event = some next)
    (reached : EventRun.runFrom (step like) start (events ++ [event]) = some next) :
    Shows like start (events ++ [event]) next ∧ Waits like start (events ++ [event]) next := by
  have shows := shows.concat event
  have waits := waits.concat event
  rcases step_cases taken with ⟨middle, query, searchBarText, same, isCall, -⟩ |
    ⟨-, -, same | ⟨request, waiting, lost, failure, rfl⟩ | ⟨request, movies, replied, rfl⟩⟩
  · have made : EventRun.Once (step like) (Makes (middle.request query)) start
        (events ++ [event]) := by
      refine EventRun.once_of_run reached ?_
      rw [isCall]
      exact makes_call like query middle
    have held : ∀ movies, favorites like middle.share query middle.stores = some movies →
        EventRun.Once (step like) (Holds like (middle.request query) movies) start
          (events ++ [event]) := by
      intro movies found
      refine EventRun.once_of_run reached ?_
      rw [isCall]
      exact holds_call found
    have called := shows_call
      (shows.of_same same.shown (same.viewModel ▸ rfl) (same.viewModel ▸ rfl))
      (waits.of_same same.asked same.requests same.replies) made held
    rw [isCall]
    exact ⟨called.1.of_same rfl rfl rfl, called.2.of_same rfl rfl rfl⟩
  · exact ⟨shows.of_same same.shown (same.viewModel ▸ rfl) (same.viewModel ▸ rfl),
      waits.of_same same.asked same.requests same.replies⟩
  · cases (step_eq_some taken).2
    obtain ⟨before, made⟩ := waits.requests request waiting
    refine ⟨shows.of_same rfl rfl rfl, ⟨?_, ?_⟩⟩
    · exact fun other member => waits.requests other (List.mem_of_mem_erase member)
    · intro other movies member
      rcases List.mem_append.mp member with earlier | isRead
      · exact waits.replies other movies earlier
      · obtain ⟨answer, isAnswer, isIt⟩ := List.mem_map.mp isRead
        cases isIt
        refine ⟨made, EventRun.once_of_run reached ⟨before, favorites_of_answer ?_ isAnswer⟩⟩
        intro replied isReplied
        rw [documents] at isReplied
        split at isReplied
        · cases isReplied
        · exact isReplied
  · cases (step_eq_some taken).2
    refine ⟨Shows.complete (shows.of_same rfl rfl rfl) ?_, ⟨waits.requests, ?_⟩⟩
    · rintro found rfl
      exact waits.replies request found replied
    · exact fun other found member =>
        waits.replies other found (List.mem_of_mem_erase member)

/-- In every run, what is shown and what is on its way is of its call. -/
theorem tells_of_run {share : AccountService} {stores : FavoriteStores}
    (reached : EventRun.runFrom (step like) (initial share stores) events = some system) :
    Shows like (initial share stores) events system ∧
      Waits like (initial share stores) events system := by
  refine (EventRun.invariant (fun before state =>
    EventRun.runFrom (step like) (initial share stores) before = some state ∧
      Shows like (initial share stores) before state ∧
        Waits like (initial share stores) before state) ⟨rfl, ⟨?_, ?_⟩, ⟨?_, ?_⟩⟩ ?_ reached).2
  · exact fun _ => rfl
  · exact fun _ isShown => by cases isShown
  · exact fun _ waiting => by cases waiting
  · exact fun _ _ replied => by cases replied
  · rintro before event state next - ⟨run, shows, waits⟩ taken
    have further : EventRun.runFrom (step like) (initial share stores) (before ++ [event]) =
        some next := by
      rw [EventRun.runFrom_concat, run]
      exact taken
    exact ⟨further, shows_of_step shows waits taken further⟩

/-- **Each list on display is a snapshot.** In every run, whatever was changed and in
whatever order replies came, the rows are those of favourites that the stores had at one
instant after the call that they answer, in the session of that call. -/
theorem snapshot_of_run {share : AccountService} {stores : FavoriteStores}
    (reached : EventRun.runFrom (step like) (initial share stores) events = some system) :
    Shows like (initial share stores) events system :=
  (tells_of_run reached).1

/-- An account has one favourite in the remote store. -/
def oneFavorite : FavoriteStores where
  realm := some []
  favMovies _ := (∅ : AList fun _ : String => Dictionary).insert "1"
    [("id", .int 1), ("title", .string "Up")]

/-- The favourite is removed after it was read for the screen and before the reply. -/
def removedMeanwhile (share : AccountService) : List FavoriteScreenEvent :=
  [.viewWillAppear, .read { number := 0, query := .all, share } false none,
    .removeFavoriteMovie { id := some 1 } none, .delete { share, movieId := 1 } none,
    .reply { number := 0, query := .all, share } (some [{ id := some 1, title := some "Up" }])]

/-- The removal in between does not show. -/
theorem snapshot_removedMeanwhile : ∃ system,
    EventRun.runFrom (step CaseFolding.ascii.like)
        (initial ⟨some (.initial ⟨0⟩), none⟩ oneFavorite)
        (removedMeanwhile ⟨some (.initial ⟨0⟩), none⟩) = some system ∧
      Shows CaseFolding.ascii.like (initial ⟨some (.initial ⟨0⟩), none⟩ oneFavorite)
        (removedMeanwhile ⟨some (.initial ⟨0⟩), none⟩) system := by
  have taken : (EventRun.runFrom (step CaseFolding.ascii.like)
      (initial ⟨some (.initial ⟨0⟩), none⟩ oneFavorite)
      (removedMeanwhile ⟨some (.initial ⟨0⟩), none⟩)).isSome = true := by decide +kernel
  obtain ⟨system, reached⟩ := Option.isSome_iff_exists.mp taken
  exact ⟨system, reached, snapshot_of_run reached⟩

/-- Calls are only added. -/
theorem asked_prefix_of_step (taken : step like system event = some next) :
    system.asked <+: next.asked := by
  rcases step_cases taken with ⟨middle, query, searchBarText, same, isCall, -⟩ |
    ⟨-, -, same | ⟨request, -, lost, failure, rfl⟩ | ⟨request, movies, -, rfl⟩⟩
  · rw [isCall, ← same.asked]
    exact (call_keeps like query middle).1 ▸ List.prefix_append _ _
  · rw [same.asked]
  · cases (step_eq_some taken).2
    exact List.prefix_rfl
  · cases (step_eq_some taken).2
    exact List.prefix_rfl

/-- A text asks for everything exactly if it is empty. -/
theorem ofText_eq_all_iff {searchText : String} : FavoriteQuery.ofText searchText = .all ↔
    searchText = "" := by
  rw [FavoriteQuery.ofText]
  split
  · next isEmpty => exact iff_of_true rfl isEmpty
  · next isText => exact iff_of_false (fun same => by cases same) isText

/-- The last call asked for what the search bar says. -/
def OfBar (system : FavoriteScreen) : Prop :=
  ∀ query ∈ system.asked.getLast?, query = .ofText (system.searchBarText.getD "")

/-- Where the screen starts again, nothing is in the search bar. -/
def RestartsUnfiltered (like : String → String → Bool) (start : FavoriteScreen)
    (events : List FavoriteScreenEvent) : Prop :=
  EventRun.EachStep (step like)
    (fun system event => Restarts system event → system.searchBarText.getD "" = "") start events

/-- A step keeps the last call to the search bar exactly if it does not start again over a text.
-/
theorem ofBar_step_iff (ofBar : OfBar system) (taken : step like system event = some next) :
    OfBar next ↔ (Restarts system event → system.searchBarText.getD "" = "") := by
  have unasked (quiet : ¬ Restarts system event) (text : next.searchBarText = system.searchBarText)
      (asked : next.asked = system.asked) :
      OfBar next ↔ (Restarts system event → system.searchBarText.getD "" = "") := by
    refine iff_of_true ?_ fun restarts => absurd restarts quiet
    rw [OfBar, text, asked]
    exact ofBar
  rcases step_cases taken with ⟨middle, query, searchBarText, same, rfl, how⟩ |
    ⟨quiet, text, same | ⟨request, -, lost, failure, rfl⟩ | ⟨request, movies, -, rfl⟩⟩
  · have isOfBar : OfBar { middle.call like query with searchBarText } ↔
        query = .ofText (searchBarText.getD "") := by
      rw [OfBar]
      simp only
      rw [(call_keeps like query middle).1, List.getLast?_concat]
      exact ⟨fun last => last query rfl, fun same _ isLast => Option.some.inj isLast ▸ same⟩
    rw [isOfBar]
    rcases how with ⟨restarts, rfl, rfl⟩ | ⟨quiet, rfl⟩
    · rw [eq_comm, ofText_eq_all_iff]
      exact ⟨fun isEmpty _ => isEmpty, fun isEmpty => isEmpty restarts⟩
    · exact iff_of_true rfl fun restarts => absurd restarts quiet
  · exact unasked quiet text same.asked
  · cases (step_eq_some taken).2
    exact unasked quiet rfl rfl
  · cases (step_eq_some taken).2
    exact unasked quiet rfl rfl

/-- **The last call is of the bar** throughout a run exactly when the screen never starts
again over a text. -/
theorem eachState_ofBar_iff (share : AccountService) (stores : FavoriteStores)
    (events : List FavoriteScreenEvent) :
    EventRun.EachState (step like) OfBar (initial share stores) events ↔
      RestartsUnfiltered like (initial share stores) events := by
  refine EventRun.eachState_iff_eachStep (fun _ _ => True) (fun _ isLast => by cases isLast)
    trivial (fun _ _ _ _ _ _ _ => trivial) ?_
  exact fun before event state next _ _ ofBar taken => ofBar_step_iff ofBar taken

/-- Nothing was changed since the last call, in the stores or in the session. -/
def Unchanged (like : String → String → Bool) (start : FavoriteScreen)
    (events : List FavoriteScreenEvent) (system : FavoriteScreen) : Prop :=
  EventRun.EachState (step like) (fun earlier => earlier.asked.length = system.asked.length →
    earlier.share = system.share ∧ earlier.stores = system.stores) start events

/-- **The favourites on display are those of the store.** In every run in which the screen
never starts again over a text, when the answer on display is that of the call made last and
nothing was changed since that call, the rows are those of the favourites that the store has
and the search bar asks for. -/
theorem onDisplay_of_lastCall {share : AccountService} {stores : FavoriteStores}
    (reached : EventRun.runFrom (step like) (initial share stores) events = some system)
    (unfiltered : RestartsUnfiltered like (initial share stores) events)
    (shown : request ∈ system.shown) (isLast : request.number + 1 = system.asked.length)
    (unchanged : Unchanged like (initial share stores) events system) :
    ∃ movies, favorites like system.share (.ofText (system.searchBarText.getD ""))
        system.stores = some movies ∧
      Displays (.ofText (system.searchBarText.getD "")) movies
        system.favoriteMovieViewModel := by
  have grown : EventRun.EachState (step like) (fun earlier => earlier.asked <+: system.asked)
      (initial share stores) events := by
    refine EventRun.eachState_related_of_run (fun earlier later => earlier.asked <+: later.asked)
      (fun _ => List.prefix_rfl) ?_ reached
    exact fun earlier state event next before taken => before.trans (asked_prefix_of_step taken)
  obtain ⟨movies, displays, made, held⟩ := (tells_of_run reached).1.answered request shown
  obtain ⟨called, ⟨isAsked, length, session⟩, unchangedSince, askedBefore⟩ :=
    made.meets (unchanged.and grown)
  obtain ⟨read, ⟨later, found⟩, unchangedThen, readBefore⟩ := held.meets (unchanged.and grown)
  have sameCalls : called.asked = system.asked :=
    askedBefore.eq_of_length (length.trans isLast)
  have sameSession : request.share = system.share :=
    session.symm.trans (unchangedSince (length.trans isLast)).1
  have sameStores : read.stores = system.stores := by
    have notMore := readBefore.length_le
    exact (unchangedThen (by omega)).2
  have ofBar := (eachState_ofBar_iff share stores events).mpr unfiltered events List.prefix_rfl
    system reached
  have isQuery : request.query = .ofText (system.searchBarText.getD "") :=
    ofBar request.query (sameCalls ▸ isAsked)
  rw [← isQuery]
  refine ⟨movies, ?_, displays⟩
  rw [← sameSession, ← sameStores]
  exact found

end Runs

/-- The local database has two favourites. -/
def twoFavorites : FavoriteStores where
  realm := some [{ id := 1, title := "Up", releaseDate := ⟨0⟩ },
    { id := 2, title := "Heat", releaseDate := ⟨0⟩ }]
  favMovies _ := ∅

/-- The screen appears, and a text is typed. -/
def typedUp : List FavoriteScreenEvent := [.viewWillAppear, .textDidChange "up"]

/-- What was typed on is what is displayed. -/
theorem onDisplay_typedUp : ∃ system,
    EventRun.runFrom (step CaseFolding.ascii.like) (initial ⟨none, none⟩ twoFavorites) typedUp =
        some system ∧
      ∃ movies, favorites CaseFolding.ascii.like system.share
          (.ofText (system.searchBarText.getD "")) system.stores = some movies ∧
        Displays (.ofText (system.searchBarText.getD "")) movies
          system.favoriteMovieViewModel := by
  have reached : EventRun.runFrom (step CaseFolding.ascii.like)
      (initial ⟨none, none⟩ twoFavorites) typedUp = some _ := rfl
  refine ⟨_, reached, onDisplay_of_lastCall reached ?_ rfl rfl ?_⟩
  · refine EventRun.forall_prefix_cons ?_ (EventRun.forall_prefix_cons ?_ ?_)
    · rintro state next ⟨⟩ - -
      rfl
    · rintro state next - - ⟨⟩
    · intro before event inside
      simp at inside
  · intro before inside earlier run _
    rw [typedUp] at inside
    rcases List.prefix_cons_iff.mp inside with rfl | ⟨rest, rfl, further⟩
    · cases run
      exact ⟨rfl, rfl⟩
    · rcases List.prefix_cons_iff.mp further with rfl | ⟨last, rfl, nothing⟩
      · cases run
        exact ⟨rfl, rfl⟩
      · cases List.prefix_nil.mp nothing
        cases run
        exact ⟨rfl, rfl⟩

end FavoriteScreen

end MovieFun
