import MovieFun.View.Chat.ChatEffect
import MovieFun.View.DetailMovie.MovieDetailController
import MovieFun.View.MovieList.ListSystem
import MovieFun.View.SearchMovie.SearchSystem

/-!
# Screens that settle

Each request of a screen raises a flag, and only some of its outcomes lower it: the
completions return early after an error. The screens are free again whenever nothing
is outstanding exactly when the last call of each operation is followed by an outcome
that lowers its flag (`settles_iff_lowered`).
-/

namespace MovieFun

/-- How an event sets the flag of an operation of a movie list. -/
def ListEvent.sets (operation : ListOperation) : ListEvent → Option Bool
  | .start => if operation = .start then some true else none
  | .pullToRefresh => if operation = .pullToRefresh then some true else none
  | .loadMore => if operation = .loadMore then some true else none
  | .reply request totalPages movies error =>
      if request.operation = operation ∧ error = none ∧
          broughtPage totalPages movies error = none then some false
      else none
  | .checkReply check _ _ => if check.operation = some operation then some false else none
  | _ => none

/-- How an event sets a flag of the search. -/
def SearchEvent.sets (searchFlag : SearchFlag) : SearchEvent → Option Bool
  | .start => if searchFlag = .isFetching then some true else none
  | .search _ => if searchFlag = .isFetching then some true else none
  | .loadMore => if searchFlag = .isLoadMore then some true else none
  | .reply request totalPages movies error =>
      if SearchMovieController.flagOf request = searchFlag ∧ request.tested error = none ∧
          broughtPage totalPages movies (request.tested error) = none then some false
      else none
  | .checkReply check _ _ => if check.searchFlag = some searchFlag then some false else none
  | _ => none

/-- How an event sets `isFetching` of a chat. -/
def ChatEvent.sets (movieId : Option String) : ChatEvent → Option Bool
  | .start => if movieId.isSome then some true else none
  | .fetchReply _ _ error => if error = none then some false else none
  | _ => none

/-- How an event sets `isFetching` of the screen of a movie. -/
def MovieDetailEvent.sets (movieId : String) : MovieDetailEvent → Option Bool
  | .start => if Utils.validateNumber (some movieId) then some true else none
  | .fetchReply movie _ => if (movie.bind Movie.id).isSome then none else some true
  | .unanswered => none
  | .checkReply _ _ => some false

namespace ListController

/-- Showing a page changes no flag. -/
theorem flag_shows {operation : ListOperation} {total : Int} {movies : List Movie}
    {screen shown : ListScreen} (isShown : shows operation total movies screen = some shown)
    (other : ListOperation) :
    shown.listViewModel.flag other = screen.listViewModel.flag other := by
  cases operation with
  | loadMore =>
      obtain ⟨built, isBuilt, rfl⟩ := Option.map_eq_some_iff.mp isShown
      obtain ⟨_, _, -, rfl⟩ := buildViewModelAfterLoadMore_eq_some isBuilt
      cases other <;> rfl
  | _ =>
      cases isShown
      cases other <;> rfl

/-- A reply that cannot be shown lowers the flag of its operation. -/
theorem flag_malformed (operation other : ListOperation) (screen : ListScreen) :
    (malformed operation screen).listViewModel.flag other =
      if operation = other then false else screen.listViewModel.flag other := by
  cases operation <;> cases other <;> rfl

end ListController

namespace ListSystem

open ListController

/-- No operation has its flag raised. -/
structure Settled (system : ListSystem) : Prop where
  isFetching : system.screen.listViewModel.isFetching = false
  isPullToRefresh : system.screen.listViewModel.isPullToRefresh = false
  isLoadMore : system.screen.listViewModel.isLoadMore = false

/-- The last event that sets the flag of each operation lowered it. -/
def Lowered (before : List ListEvent) : Prop :=
  ∀ operation, EventRun.last (ListEvent.sets operation) before ≠ some true

variable {system next : ListSystem} {event : ListEvent}

theorem settled_iff : system.Settled ↔
    ∀ operation, system.screen.listViewModel.flag operation = false := by
  constructor
  · rintro ⟨isFetching, isPullToRefresh, isLoadMore⟩ operation
    cases operation <;> assumption
  · exact fun lowered => ⟨lowered .start, lowered .pullToRefresh, lowered .loadMore⟩

/-- What a step does to a flag. -/
theorem flag_of_step (operation : ListOperation) (taken : step system event = some next) :
    next.screen.listViewModel.flag operation =
      (event.sets operation).getD (system.screen.listViewModel.flag operation) := by
  cases event with
  | reply request totalPages movies error =>
      obtain ⟨-, screen, check, completed, rfl⟩ := step_reply_eq_some taken
      rw [completion_eq] at completed
      rw [ListEvent.sets]
      rcases fetchCompletion_eq_some completed with
        ⟨silent, -, ⟨failed, rfl⟩ | ⟨rfl, rfl⟩⟩ | ⟨total, shown, brought, isShown, -⟩
      · have failure : error ≠ none := Option.isSome_iff_ne_none.mp failed
        simp only [failure, false_and, and_false, if_false, Option.getD_none]
        cases operation <;> rfl
      · simp only [silent, and_true]
        rw [flag_malformed]
        split <;> rfl
      · simp only [brought, reduceCtorEq, and_false, if_false, Option.getD_none]
        exact flag_shows isShown operation
  | checkReply check isFavoriteMovies error =>
      cases (step_eq_some taken).2
      rw [ListEvent.sets, flag_checkCompletion]
      split <;> rfl
  | _ =>
      cases (step_eq_some taken).2
      cases operation <;> rfl

/-- A movie list is settled exactly when each flag was lowered. -/
theorem settled_iff_lowered {subclass : ListSubclass} {before : List ListEvent}
    (reached : EventRun.runFrom step (initial subclass) before = some system) :
    system.Settled ↔ Lowered before := by
  rw [settled_iff]
  apply forall_congr'
  intro operation
  refine EventRun.flag_eq_false_iff (fun system => system.screen.listViewModel.flag operation)
    (fun _ => True) trivial (fun _ _ _ _ _ => trivial)
    (fun _ _ _ _ taken => flag_of_step operation taken) ?_ reached
  cases subclass <;> cases operation <;> rfl

end ListSystem

namespace SearchMovieController

/-- Showing an answer changes no flag. -/
theorem flag_shows {request : SearchRequest} {total : Int} {movies : List Movie}
    {screen shown : SearchScreen} (isShown : shows request total movies screen = some shown)
    (searchFlag : SearchFlag) :
    shown.searchMovieViewModel.flag searchFlag = screen.searchMovieViewModel.flag searchFlag := by
  rw [shows] at isShown
  cases more : request.more with
  | true =>
      rw [more] at isShown
      obtain ⟨built, isBuilt, rfl⟩ := Option.map_eq_some_iff.mp isShown
      obtain ⟨_, _, -, rfl⟩ := buildViewModelAfterLoadMore_eq_some isBuilt
      cases searchFlag <;> rfl
  | false =>
      rw [more] at isShown
      cases isShown
      cases searchFlag <;> rfl

end SearchMovieController

namespace SearchSystem

open SearchMovieController

/-- No flag is raised. -/
structure Settled (system : SearchSystem) : Prop where
  isFetching : system.screen.searchMovieViewModel.isFetching = false
  isLoadMore : system.screen.searchMovieViewModel.isLoadMore = false

/-- The last event that sets each flag lowered it. -/
def Lowered (before : List SearchEvent) : Prop :=
  ∀ searchFlag, EventRun.last (SearchEvent.sets searchFlag) before ≠ some true

variable {system next : SearchSystem} {event : SearchEvent}

theorem settled_iff : system.Settled ↔
    ∀ searchFlag, system.screen.searchMovieViewModel.flag searchFlag = false := by
  constructor
  · rintro ⟨isFetching, isLoadMore⟩ searchFlag
    cases searchFlag <;> assumption
  · exact fun lowered => ⟨lowered .isFetching, lowered .isLoadMore⟩

/-- What a step does to a flag. -/
theorem flag_of_step (searchFlag : SearchFlag) (taken : step system event = some next) :
    next.screen.searchMovieViewModel.flag searchFlag =
      (event.sets searchFlag).getD (system.screen.searchMovieViewModel.flag searchFlag) := by
  cases event with
  | reply request totalPages movies error =>
      obtain ⟨-, screen, check, completed, rfl⟩ := step_reply_eq_some taken
      rw [completion_eq] at completed
      rw [SearchEvent.sets]
      rcases fetchCompletion_eq_some completed with
        ⟨silent, -, ⟨failed, rfl⟩ | ⟨passed, rfl⟩⟩ | ⟨total, shown, brought, isShown, -⟩
      · have failure : request.tested error ≠ none := Option.isSome_iff_ne_none.mp failed
        simp only [failure, false_and, and_false, if_false, Option.getD_none]
        cases searchFlag <;> rfl
      · rw [passed] at silent
        simp only [passed, silent, and_true]
        apply (SearchMovieViewModel.flag_setFlag (flagOf request) searchFlag false _).trans
        split
        · rfl
        · cases searchFlag <;> rfl
      · simp only [brought, reduceCtorEq, and_false, if_false, Option.getD_none]
        exact flag_shows isShown searchFlag
  | checkReply check isFavoriteMovies error =>
      cases (step_eq_some taken).2
      rw [SearchEvent.sets, flag_checkCompletion]
      split <;> rfl
  | _ =>
      cases (step_eq_some taken).2
      cases searchFlag <;> rfl

/-- A search is settled exactly when each flag was lowered. -/
theorem settled_iff_lowered {before : List SearchEvent}
    (reached : EventRun.runFrom step {} before = some system) :
    system.Settled ↔ Lowered before := by
  rw [settled_iff]
  apply forall_congr'
  intro searchFlag
  refine EventRun.flag_eq_false_iff
    (fun system => system.screen.searchMovieViewModel.flag searchFlag)
    (fun _ => True) trivial (fun _ _ _ _ _ => trivial)
    (fun _ _ _ _ taken => flag_of_step searchFlag taken) ?_ reached
  cases searchFlag <;> rfl

end SearchSystem

namespace ChatSystem

variable {fm : DateFormatter} {system next : ChatSystem} {event : ChatEvent}

/-- What no event of the chat but a start and a fetch changes. -/
def SameFetching (next system : ChatSystem) : Prop :=
  next.controller.chatViewModel.isFetching = system.controller.chatViewModel.isFetching

/-- An own message does not change whether the chat fetches. -/
theorem sameFetching_of_sendMessage {now : Date} {message : Message} {phAsset : Option PHAsset}
    {documentID : String} {stage : SendStage}
    (sent : sendMessage fm now message phAsset documentID stage system = some next) :
    SameFetching next system := by
  have shown : ∀ {sendID controller},
      ChatController.showOwnMessage fm message phAsset sendID system.controller = some controller →
        controller.chatViewModel.isFetching = system.controller.chatViewModel.isFetching := by
    intro sendID controller shows
    simp only [ChatController.showOwnMessage, Option.bind_eq_bind, Option.bind_eq_some_iff] at shows
    obtain ⟨sections, -, made⟩ := shows
    cases made
    rfl
  unfold sendMessage at sent
  split at sent
  · simp only [Option.bind_eq_bind, Option.bind_eq_some_iff] at sent
    obtain ⟨controller, shows, made⟩ := sent
    cases made
    exact shown shows
  · simp only [Option.bind_eq_bind, Option.bind_eq_some_iff] at sent
    obtain ⟨controller, shows, -, -, made⟩ := sent
    cases made
    exact shown shows

/-- The end of an upload does not change whether the chat fetches. -/
theorem sameFetching_of_putImageReply {documentID : String} {succeeded : Bool}
    (done : handle fm system (.putImageReply documentID succeeded) = some next) :
    SameFetching next system := by
  simp only [handle] at done
  split at done
  · split at done
    · cases done
      rfl
    · next send _ =>
      simp only [Option.bind_eq_bind, Option.bind_eq_some_iff] at done
      obtain ⟨controller, added, made⟩ := done
      cases made
      unfold ChatController.addAsset at added
      split at added
      · cases added
        rfl
      · split at added
        · cases added
          rfl
        · simp only [Option.bind_eq_bind, Option.bind_eq_some_iff] at added
          obtain ⟨accountId, -, made⟩ := added
          cases made
          rfl
  · cases done
    rfl

/-- The flag is raised by a start and lowered by a fetch without an error. -/
theorem isFetching_of_step (taken : step fm system event = some next) :
    next.controller.chatViewModel.isFetching =
      (event.sets system.movieId).getD system.controller.chatViewModel.isFetching := by
  obtain ⟨-, done⟩ := step_eq_some taken
  cases event with
  | start =>
      cases done
      change (ChatController.start _).chatViewModel.isFetching = _
      rw [ChatController.start, ChatEvent.sets, movieId]
      cases system.controller.chatViewModel.movieId <;> rfl
  | fetchReply share messages error =>
      simp only [handle, Option.bind_eq_bind, Option.bind_eq_some_iff] at done
      obtain ⟨controller, completed, made⟩ := done
      cases made
      cases error with
      | some thrown =>
          cases completed
          rfl
      | none =>
          cases messages with
          | none =>
              cases completed
              rfl
          | some messages =>
              obtain ⟨chatViewModel, -, made⟩ := Option.bind_eq_some_iff.mp completed
              cases made
              rfl
  | listenerReply share changes error =>
      simp only [handle, Option.bind_eq_bind, Option.bind_eq_some_iff] at done
      obtain ⟨controller, completed, made⟩ := done
      cases made
      rcases listenerCompletion_eq_some completed with
        ⟨-, rfl⟩ | ⟨-, -, rfl⟩ | ⟨-, -, -, _, _, _, -, -, -, rfl⟩
      · rfl
      · rfl
      · rfl
  | addMessage share now text documentID =>
      simp only [handle, Option.bind_eq_bind, Option.bind_eq_some_iff] at done
      obtain ⟨message, -, sent⟩ := done
      exact sameFetching_of_sendMessage sent
  | addMessageImage share now asset fullSizeImageURL documentID =>
      simp only [handle] at done
      split at done
      · cases done
        rfl
      · simp only [Option.bind_eq_bind, Option.bind_eq_some_iff] at done
        obtain ⟨message, -, sent⟩ := done
        exact sameFetching_of_sendMessage sent
  | addDocumentReply documentID error =>
      simp only [handle] at done
      split at done <;> cases done <;> rfl
  | fetchImageReply documentID hasData =>
      cases hasData <;> cases done <;> rfl
  | putImageReply documentID succeeded => exact sameFetching_of_putImageReply done

/-- The chat of a movie is settled exactly when its flag was lowered. -/
theorem settled_iff_lowered {movieId : Option String} {before : List ChatEvent}
    (reached : run fm movieId before = some system) :
    system.controller.chatViewModel.isFetching = false ↔
      EventRun.last (ChatEvent.sets movieId) before ≠ some true := by
  refine EventRun.flag_eq_false_iff
    (fun system : ChatSystem => system.controller.chatViewModel.isFetching)
    (fun system => system.movieId = movieId) rfl ?_ ?_ rfl reached
  · exact fun state event next same taken => (frame_of_step taken).movieId.trans same
  · exact fun state event next same taken => same ▸ isFetching_of_step taken

end ChatSystem

namespace MovieDetailSystem

variable {system next : MovieDetailSystem} {event : MovieDetailEvent}

/-- The flag is raised by a start and by a movie without an id, and lowered by a
check. -/
theorem isFetching_of_step (taken : step system event = some next) :
    next.controller.movieDetailViewModel.movieId =
        system.controller.movieDetailViewModel.movieId ∧
      next.controller.movieDetailViewModel.isFetching =
        (event.sets system.controller.movieDetailViewModel.movieId).getD
          system.controller.movieDetailViewModel.isFetching := by
  unfold step at taken
  split at taken
  · cases taken
    cases event with
    | start =>
        simp only [handle, MovieDetailController.start, MovieDetailEvent.sets]
        split <;> exact ⟨rfl, rfl⟩
    | fetchReply movie casts =>
        cases movie with
        | none => exact ⟨rfl, rfl⟩
        | some movie =>
            cases named : movie.id <;>
              simp only [handle, MovieDetailController.fetchCompletion,
                MovieDetailController.buildViewModel, MovieDetailEvent.sets, Option.bind_some,
                named, Option.isSome_none, Option.isSome_some, Bool.false_eq_true, if_false,
                if_true, Option.getD_none, Option.getD_some, and_self]
    | unanswered => exact ⟨rfl, rfl⟩
    | checkReply isFavorite error => exact ⟨rfl, rfl⟩
  · cases taken

/-- The screen of a movie is settled exactly when its flag was lowered. -/
theorem settled_iff_lowered {movieId : String} {before : List MovieDetailEvent}
    (reached : EventRun.runFrom step (initial movieId) before = some system) :
    system.controller.movieDetailViewModel.isFetching = false ↔
      EventRun.last (MovieDetailEvent.sets movieId) before ≠ some true := by
  refine EventRun.flag_eq_false_iff
    (fun system : MovieDetailSystem => system.controller.movieDetailViewModel.isFetching)
    (fun system => system.controller.movieDetailViewModel.movieId = movieId) rfl ?_ ?_ rfl reached
  · exact fun state event next same taken => (isFetching_of_step taken).1.trans same
  · exact fun state event next same taken => same ▸ (isFetching_of_step taken).2

end MovieDetailSystem

/-- **When screens settle.** In every run of a movie list, of the search, of a chat
and of the screen of a movie, with any outcome of each request, no flag is raised
whenever nothing is outstanding exactly when, at each of these points, the last event
that set each flag lowered it. -/
theorem settles_iff_lowered (subclass : ListSubclass) (fm : DateFormatter) :
    (∀ events,
      EventRun.EachPoint ListSystem.step (fun _ system => system.Idle → system.Settled)
          (ListSystem.initial subclass) events ↔
        EventRun.EachPoint ListSystem.step (fun before system => system.Idle →
          ListSystem.Lowered before) (ListSystem.initial subclass) events) ∧
    (∀ events,
      EventRun.EachPoint SearchSystem.step (fun _ system => system.Idle → system.Settled)
          {} events ↔
        EventRun.EachPoint SearchSystem.step (fun before system => system.Idle →
          SearchSystem.Lowered before) {} events) ∧
    (∀ movieId events,
      EventRun.EachPoint (ChatSystem.step fm) (fun _ system => system.fetches = 0 →
          system.controller.chatViewModel.isFetching = false) (ChatSystem.initial movieId) events ↔
        EventRun.EachPoint (ChatSystem.step fm) (fun before system => system.fetches = 0 →
          EventRun.last (ChatEvent.sets movieId) before ≠ some true)
          (ChatSystem.initial movieId) events) ∧
    ∀ movieId events,
      EventRun.EachPoint MovieDetailSystem.step (fun _ system => system.Idle →
          system.controller.movieDetailViewModel.isFetching = false)
          (MovieDetailSystem.initial movieId) events ↔
        EventRun.EachPoint MovieDetailSystem.step (fun before system => system.Idle →
          EventRun.last (MovieDetailEvent.sets movieId) before ≠ some true)
          (MovieDetailSystem.initial movieId) events := by
  refine ⟨fun events => ?_, fun events => ?_, fun movieId events => ?_,
    fun movieId events => ?_⟩
  · exact EventRun.eachPoint_congr fun before system reached =>
      imp_congr_right fun _ => ListSystem.settled_iff_lowered reached
  · exact EventRun.eachPoint_congr fun before system reached =>
      imp_congr_right fun _ => SearchSystem.settled_iff_lowered reached
  · exact EventRun.eachPoint_congr fun before system reached =>
      imp_congr_right fun _ => ChatSystem.settled_iff_lowered reached
  · exact EventRun.eachPoint_congr fun before system reached =>
      imp_congr_right fun _ => MovieDetailSystem.settled_iff_lowered reached

/-- A list whose first request fails never stops fetching. -/
theorem not_settled_failedStart :
    ¬ EventRun.EachPoint ListSystem.step (fun _ system => system.Idle → system.Settled)
      (ListSystem.initial .newMovieList)
      [.start, .reply { operation := .start, page := 1 } none none (some ⟨"offline"⟩)] := by
  intro always
  have settled := always _ List.prefix_rfl _ rfl ⟨rfl, rfl, rfl⟩
  cases settled.isFetching

end MovieFun
