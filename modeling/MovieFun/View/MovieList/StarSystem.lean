import MovieFun.Network.ReadBack
import MovieFun.View.MovieList.ListSystem

/-!
# The stars of a movie list

A list of a logged-in session with the favourites service and the store behind it:
taps on the stars of its rows, one check of favourites at a time, and the instants at
which the store reads a document or lets a write take effect. All calls succeed.
-/

namespace MovieFun

/-- A tap on a star whose write is under way: the row, the id of its movie, and the
value that the completion captures, `now` being the date at the tap. -/
structure Selection where
  rowVM : ListRowViewModel
  movieId : Int
  isFavoriteMovie : Bool
  now : Date
deriving DecidableEq, Repr

/-- The call of the favourites service that a tap makes. -/
def Selection.call (selection : Selection) : FavoriteCall :=
  if selection.isFavoriteMovie then .removeFavoriteMovie selection.movieId
  else .addFavoriteMovie selection.now selection.rowVM.movie

namespace ListRowViewModel

/-- The row shows that its star is being written, or does so no more. -/
def setLoading (isLoading : Bool) (rowVM : ListRowViewModel) (screen : ListScreen) : ListScreen :=
  { screen with isLoading := Function.update screen.isLoading rowVM.number isLoading }

/-- The row has the star that it is told. -/
def setFavorite (isFavoriteMovie : Bool) (rowVM : ListRowViewModel) (screen : ListScreen) :
    ListScreen :=
  { screen with
    isFavoriteMovie :=
      Function.update screen.isFavoriteMovie rowVM.number (some isFavoriteMovie) }

/-- A tap on the star of a row, and the call it makes. It traps when the movie has no
id. -/
def selectFavoriteMovie (now : Date) (rowVM : ListRowViewModel) (screen : ListScreen) :
    Option (ListScreen × Option Selection) :=
  let screen := setLoading true rowVM screen
  match screen.isFavoriteMovie rowVM.number with
  | none => some (screen, none)
  | some isFavoriteMovie =>
      rowVM.movie.id.map fun movieId =>
        (screen, some { rowVM, movieId, isFavoriteMovie, now })

/-- The completion of the removal, with the value that the tap captured. -/
def removeCompletion (rowVM : ListRowViewModel) (isFavoriteMovie : Bool)
    (deleteSuccess : Option Bool) (error : Option NSError) (screen : ListScreen) : ListScreen :=
  setLoading false rowVM <|
    if error = none ∧ deleteSuccess = some true then setFavorite (!isFavoriteMovie) rowVM screen
    else screen

/-- The completion of the addition, with the value that the tap captured. -/
def addCompletion (rowVM : ListRowViewModel) (isFavoriteMovie : Bool) (error : Option NSError)
    (screen : ListScreen) : ListScreen :=
  setLoading false rowVM <|
    if error = none then setFavorite (!isFavoriteMovie) rowVM screen else screen

end ListRowViewModel

/-- The completion of a write that succeeds. -/
def Selection.completion (selection : Selection) : ListScreen → ListScreen :=
  if selection.isFavoriteMovie then
    selection.rowVM.removeCompletion selection.isFavoriteMovie (some true) none
  else selection.rowVM.addCompletion selection.isFavoriteMovie none

/-- The list, the service, the store, what it read for the ids of the check without a
reply yet, the writes that have not taken effect, and those not yet acknowledged. -/
structure StarSystem where
  list : ListSystem
  favorites : FavoriteSystem := {}
  stores : FavoriteStores
  reads : Int → Option (Option Dictionary) := fun _ => none
  writes : List Selection := []
  effects : List Selection := []

/-- What happens: events of the list, a read of the store and the reply with what was
read, the block of a check, a tap on a star, and the effect of its write and the
acknowledgement of that. -/
inductive StarEvent
  | list (event : ListEvent)
  | getDocument (movieId : Int)
  | getDocumentReply (call : Nat) (movieId : Int)
  | notify (call : Nat) (check : ListCheck)
  | selectFavoriteMovie (now : Date) (rowVM : ListRowViewModel)
  | takeEffect (selection : Selection)
  | acknowledge (selection : Selection)

namespace ListEvent

/-- Whether the event starts a check of favourites. -/
def startsCheck : ListEvent → Bool
  | loadFavoriteMovies => true
  | reply _ totalPages movies error => (broughtPage totalPages movies error).isSome
  | _ => false

/-- Whether the event is the completion of a check. -/
def isCheckReply : ListEvent → Bool
  | checkReply .. => true
  | _ => false

/-- The movies for which the event makes rows. -/
def movies : ListEvent → List Movie
  | reply _ totalPages movies error =>
      ((broughtPage totalPages movies error).map Prod.snd).getD []
  | _ => []

end ListEvent

namespace ListController

/-- All rows have movies with ids, and different ones. -/
def distinct (screen : ListScreen) : Bool :=
  ((getRowVMFromListViewModel screen).all fun rowVM => rowVM.movie.id.isSome) &&
    decide (getMovieIdsFromListViewModel screen).Nodup

end ListController

namespace StarSystem

open ListController

variable (account : Account) (userLogin : Option String)

/-- The session of an account. -/
def share : AccountService where
  account := some account
  userLogin

/-- A list without rows, over what the store holds. -/
def initial (subclass : ListSubclass) (stores : FavoriteStores) : StarSystem where
  list := ListSystem.initial subclass
  stores

/-- The rows on display. -/
def rowVMs (system : StarSystem) : List ListRowViewModel :=
  getRowVMFromListViewModel system.list.screen

/-- A step of the list, which makes a call of the service when it starts a check. No
other one may be under way then, and the rows are to have different movies. -/
def listStep (event : ListEvent) (system : StarSystem) : Option StarSystem :=
  if event.isCheckReply then none
  else if event.startsCheck then do
    let list ← ListSystem.step system.list event
    if system.list.checks = [] ∧ distinct list.screen then
      let favorites ← FavoriteSystem.step system.favorites
        (.checkFavoriteMovies (share account userLogin) system.stores.realm
          (some (getMovieIdsFromListViewModel list.screen)))
      return { system with list, favorites }
    else none
  else (ListSystem.step system.list event).map fun list => { system with list }

/-- The list and the stores after an event that can happen. -/
def step (system : StarSystem) : StarEvent → Option StarSystem
  | .list event => system.listStep account userLogin event
  | .getDocument movieId =>
      if movieId ∈ system.favorites.requests.map Prod.snd ∧ system.reads movieId = none then
        some { system with
          reads := Function.update system.reads movieId
            (some (system.stores.data account.accountId
              (FavoriteMovieService.documentID movieId))) }
      else none
  | .getDocumentReply call movieId => do
      let data ← system.reads movieId
      let favorites ← FavoriteSystem.step system.favorites
        (.getDocumentReply call movieId data none)
      return { system with favorites, reads := Function.update system.reads movieId none }
  | .notify call check => do
      let favorites ← FavoriteSystem.step system.favorites (.notify call)
      let (isFavoriteMovies, error) := system.favorites.handed
      let list ← ListSystem.step system.list (.checkReply check isFavoriteMovies error)
      return { system with list, favorites }
  | .selectFavoriteMovie now rowVM =>
      if rowVM ∈ system.rowVMs then do
        let (screen, selection) ← rowVM.selectFavoriteMovie now system.list.screen
        return { system with
          list := { system.list with screen }
          writes := system.writes ++ selection.toList }
      else none
  | .takeEffect selection =>
      if selection ∈ system.writes then do
        let stores ← system.stores.step (share account userLogin) selection.call
        return { system with
          stores
          writes := system.writes.erase selection
          effects := system.effects ++ [selection] }
      else none
  | .acknowledge selection =>
      if selection ∈ system.effects then
        some { system with
          list := { system.list with screen := selection.completion system.list.screen }
          effects := system.effects.erase selection }
      else none

/-- No call of the favourites service is outstanding. -/
structure Idle (system : StarSystem) : Prop where
  checks : system.list.checks = []
  writes : system.writes = []
  effects : system.effects = []

/-- The membership of a movie in the store. -/
def isMember (stores : FavoriteStores) (movieId : Int) : Bool :=
  (stores.data account.accountId (FavoriteMovieService.documentID movieId)).isSome

/-- The star of each row on display is the membership of its movie. -/
def Truthful (system : StarSystem) : Prop :=
  ∀ rowVM ∈ system.rowVMs, ∀ movieId ∈ rowVM.movie.id,
    system.list.screen.isFavoriteMovie rowVM.number = some (isMember account system.stores movieId)

end StarSystem

namespace StarEvent

/-- A read of the document of a movie. -/
def isRead (movieId : Int) : StarEvent → Bool
  | getDocument other => other = movieId
  | _ => false

/-- The effect of a write. -/
def isEffect (selection : Selection) : StarEvent → Bool
  | takeEffect other => other = selection
  | _ => false

/-- The membership of a movie that the event brings about. -/
def changes (movieId : Int) : StarEvent → Option Bool
  | takeEffect selection =>
      if selection.movieId = movieId then some (!selection.isFavoriteMovie) else none
  | _ => none

/-- The movies for which the event makes rows. -/
def movies : StarEvent → List Movie
  | list event => event.movies
  | _ => []

/-- What the star of a row is taken from, if the event sets it: the events up to the
read of the check that completes, or up to the effect of the write that is
acknowledged. -/
def source (rowVM : ListRowViewModel) (movieId : Int) (before : List StarEvent) :
    StarEvent → Option (List StarEvent)
  | notify _ check =>
      if rowVM ∈ check.rowVMs then some (EventRun.upTo (isRead movieId) before) else none
  | acknowledge selection =>
      if selection.rowVM = rowVM then some (EventRun.upTo (isEffect selection) before) else none
  | _ => none

end StarEvent

/-! ## What a step of the list does -/

namespace ListController

open ListRowViewModel

/-- A page makes its rows, and leaves the stars. -/
theorem shows_eq_some {operation : ListOperation} {total : Int} {movies : List Movie}
    {screen shown : ListScreen} (isShown : shows operation total movies screen = some shown) :
    shown.isFavoriteMovie = screen.isFavoriteMovie ∧
      shown.created = screen.created + movies.length ∧
      ∀ rowVM ∈ getRowVMFromListViewModel shown,
        rowVM ∈ getRowVMFromListViewModel screen ∨ rowVM ∈ newRows screen.created movies := by
  have first : showFirst total movies screen = some shown →
      shown.isFavoriteMovie = screen.isFavoriteMovie ∧
        shown.created = screen.created + movies.length ∧
        ∀ rowVM ∈ getRowVMFromListViewModel shown, rowVM ∈ newRows screen.created movies := by
    intro isFirst
    cases isFirst
    refine ⟨rfl, rfl, fun rowVM member => ?_⟩
    have inside : rowVM ∈ newRows screen.created movies ++ [] := member
    rwa [List.append_nil] at inside
  cases operation with
  | start =>
      obtain ⟨stars, created, rows⟩ := first isShown
      exact ⟨stars, created, fun rowVM member => .inr (rows rowVM member)⟩
  | pullToRefresh =>
      obtain ⟨stars, created, rows⟩ := first isShown
      exact ⟨stars, created, fun rowVM member => .inr (rows rowVM member)⟩
  | loadMore =>
      obtain ⟨built, isBuilt, rfl⟩ := Option.map_eq_some_iff.mp isShown
      obtain ⟨sectionVM, others, sections, rfl⟩ := buildViewModelAfterLoadMore_eq_some isBuilt
      refine ⟨rfl, rfl, fun rowVM member => ?_⟩
      rw [getRowVMFromListViewModel] at member ⊢
      rw [sections]
      simp only [setCurrentPage, List.flatMap_cons, List.mem_append] at member ⊢
      tauto

end ListController

namespace ListSystem

open ListController ListRowViewModel

variable {list next : ListSystem} {event : ListEvent}

/-- What a step of the list does to the stars and the rows, but for the completion of a
check. -/
theorem rows_of_step (taken : step list event = some next) (own : event.isCheckReply = false) :
    next.screen.isFavoriteMovie = list.screen.isFavoriteMovie ∧
      next.screen.created = list.screen.created + event.movies.length ∧
      (∀ rowVM ∈ getRowVMFromListViewModel next.screen,
        rowVM ∈ getRowVMFromListViewModel list.screen ∨
          rowVM ∈ newRows list.screen.created event.movies) ∧
      ((event.startsCheck = false ∧ next.checks = list.checks ∧
          getRowVMFromListViewModel next.screen = getRowVMFromListViewModel list.screen) ∨
        (event.startsCheck = true ∧ ∃ operation, next.checks =
          list.checks ++ [{ operation, rowVMs := getRowVMFromListViewModel next.screen }])) := by
  cases event with
  | reply request totalPages movies error =>
      obtain ⟨-, screen, check, completed, rfl⟩ := step_reply_eq_some taken
      rw [completion_eq] at completed
      rcases fetchCompletion_eq_some completed with
        ⟨silent, rfl, ⟨-, rfl⟩ | ⟨-, rfl⟩⟩ | ⟨total, shown, brought, isShown, rfl⟩
      · simp only [ListEvent.movies, ListEvent.startsCheck, silent]
        exact ⟨rfl, rfl, fun _ member => .inl member, .inl ⟨rfl, List.append_nil _, rfl⟩⟩
      · simp only [ListEvent.movies, ListEvent.startsCheck, silent]
        cases request.operation <;>
          exact ⟨rfl, rfl, fun _ member => .inl member, .inl ⟨rfl, List.append_nil _, rfl⟩⟩
      · obtain ⟨stars, created, rows⟩ := shows_eq_some isShown
        simp only [ListEvent.movies, ListEvent.startsCheck, brought]
        exact ⟨stars, created, rows, .inr ⟨rfl, some request.operation, rfl⟩⟩
  | loadFavoriteMovies =>
      cases (step_eq_some taken).2
      exact ⟨rfl, rfl, fun _ member => .inl member, .inr ⟨rfl, none, rfl⟩⟩
  | checkReply check isFavoriteMovies error => cases own
  | _ =>
      cases (step_eq_some taken).2
      exact ⟨rfl, rfl, fun _ member => .inl member, .inl ⟨rfl, rfl, rfl⟩⟩

end ListSystem

/-! ## What a step of the system does -/

namespace StarSystem

open ListController ListRowViewModel

variable {account : Account} {userLogin : Option String} {system next : StarSystem}

/-- The session asks the store for all ids of a check. -/
theorem step_check (favorites : FavoriteSystem) (realm : Option Realm) (movieIds : List Int) :
    FavoriteSystem.step favorites
        (.checkFavoriteMovies (share account userLogin) realm (some movieIds)) =
      some (favorites.asked movieIds) :=
  FavoriteSystem.step_of_asks rfl

/-- A step of the list is one of its own, and asks for the favourites where it starts a check. -/
theorem step_list_eq_some {event : ListEvent}
    (taken : step account userLogin system (.list event) = some next) :
    event.isCheckReply = false ∧ ∃ list, ListSystem.step system.list event = some list ∧
      ((event.startsCheck = false ∧ next = { system with list }) ∨
        (event.startsCheck = true ∧ system.list.checks = [] ∧
          next = { system with
            list
            favorites := system.favorites.asked (getMovieIdsFromListViewModel list.screen) })) := by
  simp only [step, listStep] at taken
  split at taken
  · cases taken
  · next own =>
    refine ⟨Bool.eq_false_of_not_eq_true own, ?_⟩
    split at taken
    · next starts =>
      simp only [Option.bind_eq_bind, Option.bind_eq_some_iff] at taken
      obtain ⟨list, isList, taken⟩ := taken
      split at taken
      · next alone =>
        rw [step_check] at taken
        cases taken
        exact ⟨list, isList, .inr ⟨starts, alone.1, rfl⟩⟩
      · cases taken
    · next silent =>
      obtain ⟨list, isList, rfl⟩ := Option.map_eq_some_iff.mp taken
      exact ⟨list, isList, .inl ⟨Bool.eq_false_of_not_eq_true silent, rfl⟩⟩

/-- A read gives what the store has then. -/
theorem step_getDocument_eq_some {movieId : Int}
    (taken : step account userLogin system (.getDocument movieId) = some next) :
    (∃ call, (call, movieId) ∈ system.favorites.requests) ∧
      next = { system with
        reads := Function.update system.reads movieId
          (some (system.stores.data account.accountId
            (FavoriteMovieService.documentID movieId))) } := by
  simp only [step, Option.ite_none_right_eq_some] at taken
  obtain ⟨⟨asked, -⟩, made⟩ := taken
  cases made
  obtain ⟨⟨call, other⟩, member, rfl⟩ := List.mem_map.mp asked
  exact ⟨⟨call, member⟩, rfl⟩

/-- A reply brings what was read. -/
theorem step_reply_eq_some {call : Nat} {movieId : Int}
    (taken : step account userLogin system (.getDocumentReply call movieId) = some next) :
    ∃ data favorites, system.reads movieId = some data ∧
      FavoriteSystem.step system.favorites (.getDocumentReply call movieId data none) =
        some favorites ∧
      next = { system with favorites, reads := Function.update system.reads movieId none } := by
  simp only [step, Option.bind_eq_bind, Option.bind_eq_some_iff] at taken
  obtain ⟨data, isRead, favorites, replied, made⟩ := taken
  cases made
  exact ⟨data, favorites, isRead, replied, rfl⟩

/-- The block of a check sets the stars of its rows. -/
theorem step_notify_eq_some {call : Nat} {check : ListCheck}
    (taken : step account userLogin system (.notify call check) = some next) :
    check ∈ system.list.checks ∧ ∃ favorites,
      FavoriteSystem.step system.favorites (.notify call) = some favorites ∧
      next = { system with
        list := { system.list with
          screen := checkCompletion check (some system.favorites.service.isFavorites) none
            system.list.screen
          checks := system.list.checks.erase check }
        favorites } := by
  simp only [step, Option.bind_eq_bind, Option.bind_eq_some_iff] at taken
  obtain ⟨favorites, notified, list, isList, made⟩ := taken
  cases made
  obtain ⟨possible, isList⟩ := ListSystem.step_eq_some isList
  cases isList
  exact ⟨of_decide_eq_true possible, favorites, notified, rfl⟩

/-- A tap shows that the star is being written, and writes if it can. -/
theorem step_select_eq_some {now : Date} {rowVM : ListRowViewModel}
    (taken : step account userLogin system (.selectFavoriteMovie now rowVM) = some next) :
    rowVM ∈ system.rowVMs ∧ ∃ selection : Option Selection,
      (∀ made ∈ selection, made.rowVM = rowVM ∧ rowVM.movie.id = some made.movieId) ∧
      next = { system with
        list := { system.list with screen := rowVM.setLoading true system.list.screen }
        writes := system.writes ++ selection.toList } := by
  simp only [step, Option.ite_none_right_eq_some, Option.bind_eq_bind,
    Option.bind_eq_some_iff] at taken
  obtain ⟨shown, ⟨screen, selection⟩, selected, made⟩ := taken
  cases made
  refine ⟨shown, selection, ?_⟩
  simp only [selectFavoriteMovie] at selected
  split at selected
  · cases selected
    exact ⟨fun _ member => absurd member (Option.not_mem_none _), rfl⟩
  · obtain ⟨movieId, named, made⟩ := Option.map_eq_some_iff.mp selected
    cases made
    refine ⟨fun _ member => ?_, rfl⟩
    cases member
    exact ⟨rfl, named⟩

/-- A write takes effect in the store. -/
theorem step_takeEffect_eq_some {selection : Selection}
    (taken : step account userLogin system (.takeEffect selection) = some next) :
    selection ∈ system.writes ∧ ∃ stores,
      system.stores.step (share account userLogin) selection.call = some stores ∧
      next = { system with
        stores
        writes := system.writes.erase selection
        effects := system.effects ++ [selection] } := by
  simp only [step, Option.ite_none_right_eq_some, Option.bind_eq_bind,
    Option.bind_eq_some_iff] at taken
  obtain ⟨waits, stores, written, made⟩ := taken
  cases made
  exact ⟨waits, stores, written, rfl⟩

/-- An acknowledgement sets the star of its row. -/
theorem step_acknowledge_eq_some {selection : Selection}
    (taken : step account userLogin system (.acknowledge selection) = some next) :
    selection ∈ system.effects ∧
      next = { system with
        list := { system.list with screen := selection.completion system.list.screen }
        effects := system.effects.erase selection } := by
  simp only [step, Option.ite_none_right_eq_some] at taken
  obtain ⟨waits, made⟩ := taken
  cases made
  exact ⟨waits, rfl⟩

end StarSystem

/-! ## What the completions do to the stars -/

/-- The acknowledgement sets the star of its row, to what the write wrote. -/
theorem Selection.isFavoriteMovie_completion (selection : Selection) (screen : ListScreen) :
    (selection.completion screen).isFavoriteMovie =
      Function.update screen.isFavoriteMovie selection.rowVM.number
        (some !selection.isFavoriteMovie) := by
  unfold completion
  cases selection.isFavoriteMovie <;> rfl

/-- The rows and those counted stay. -/
theorem Selection.completion_frame (selection : Selection) (screen : ListScreen) :
    (selection.completion screen).listViewModel = screen.listViewModel ∧
      (selection.completion screen).created = screen.created := by
  unfold completion
  cases selection.isFavoriteMovie <;> exact ⟨rfl, rfl⟩

namespace ListController

variable (check : ListCheck) (isFavoriteMovies : Option IsFavorites) (error : Option NSError)
  (screen : ListScreen)

/-- The stars after the block of a check. -/
theorem isFavoriteMovie_checkCompletion :
    (checkCompletion check isFavoriteMovies error screen).isFavoriteMovie =
      ListRowViewModel.setFavorites check.rowVMs isFavoriteMovies error
        screen.isFavoriteMovie := by
  unfold checkCompletion
  cases check.operation <;> rfl

/-- The block of a check makes no row. -/
theorem created_checkCompletion :
    (checkCompletion check isFavoriteMovies error screen).created = screen.created := by
  unfold checkCompletion
  cases check.operation <;> rfl

end ListController

namespace ListRowViewModel

variable {rowVMs : List ListRowViewModel} {isFavoriteMovies : IsFavorites}
  {stars : Nat → Option Bool}

/-- A check leaves the stars of other rows. -/
theorem setFavorites_of_ne {number : Nat} (apart : ∀ rowVM ∈ rowVMs, rowVM.number ≠ number) :
    setFavorites rowVMs (some isFavoriteMovies) none stars number = stars number := by
  simp only [setFavorites]
  induction rowVMs generalizing stars with
  | nil => rfl
  | cons rowVM rowVMs ih =>
      rw [List.foldl_cons, ih fun other member => apart other (List.mem_cons_of_mem _ member)]
      exact Function.update_of_ne (apart rowVM List.mem_cons_self).symm _ _

/-- A check sets the stars of its rows, which have different numbers. -/
theorem setFavorites_of_mem {rowVM : ListRowViewModel} (member : rowVM ∈ rowVMs)
    (apart : ∀ other ∈ rowVMs, other.number = rowVM.number → other = rowVM) :
    setFavorites rowVMs (some isFavoriteMovies) none stars rowVM.number =
      rowVM.isFavorite isFavoriteMovies := by
  induction rowVMs using List.reverseRecOn generalizing stars with
  | nil => exact absurd member List.not_mem_nil
  | append_singleton rowVMs last ih =>
      simp only [setFavorites, List.foldl_append, List.foldl_cons, List.foldl_nil]
      by_cases same : last.number = rowVM.number
      · rw [apart last (List.mem_append_right _ List.mem_cons_self) same, Function.update_self]
      · rw [Function.update_of_ne (Ne.symm same)]
        refine ih ?_ fun other inside => apart other (List.mem_append_left _ inside)
        rcases List.mem_append.mp member with inside | isLast
        · exact inside
        · exact absurd (congrArg number (List.mem_singleton.mp isLast)).symm same

end ListRowViewModel

end MovieFun
