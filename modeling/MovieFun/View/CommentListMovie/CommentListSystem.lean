import MovieFun.Foundation.SlotRegistry
import MovieFun.View.CommentListMovie.CommentListController

/-!
# The comment list as an event system

One controller, the fetches it waits for, and the registrations that `ChatService` and
`CommentListService` hold for it, when no other screen uses them. A snapshot comes from
a registration that was not removed, in any order. The documents written and the number
of times the list was built are kept as a record.
-/

namespace MovieFun

/-- A registration with the chat of a movie, whose completion captures the movie. -/
abbrev MovieChatListener := Registration String Movie

/-- A registration with the list of an account. -/
abbrev GroupChatListener := Registration Unit String

/-- The comment list with its listeners, its fetches and the writes on their way. -/
structure CommentListSystem where
  controller : CommentListController := {}
  groupListener : SlotRegistry String Movie := {}
  listener : SlotRegistry Unit String := {}
  fetches : Nat := 0
  writes : List GroupCommentWrite := []
  builds : Nat := 0

/-- What can reach the comment list. `share` is the account service at that moment and
`now` the date. -/
inductive CommentListEvent
  | start (share : AccountService)
  | fetchReply (share : AccountService) (groupComments : Option (List GroupComment))
      (error : Option NSError)
  | movieChat (share : AccountService) (now : Date) (registration : MovieChatListener)
      (messageChanges : Option (List Message)) (error : Option NSError)
  | groupChat (registration : GroupChatListener) (groupComments : Option (List GroupComment))
      (error : Option NSError)

namespace CommentListSystem

open CommentListController

/-- The view controller starts the list for a login only. -/
def enabled (system : CommentListSystem) : CommentListEvent → Bool
  | .start share => share.isLogin
  | .fetchReply .. => 0 < system.fetches
  | .movieChat _ _ registration _ _ => registration ∈ system.groupListener.live
  | .groupChat registration _ _ => registration ∈ system.listener.live

/-- Remove the listener of the list and those of the chats of the movies listed. -/
def removeListener (system : CommentListSystem) : CommentListSystem :=
  { system with
    groupListener := (removedIds system.controller).foldl
      (fun groupListener movieId => groupListener.remove movieId) system.groupListener
    listener := system.listener.remove () }

/-- Listen to the chats of movies. -/
def initListenerForMovieChat (movies : List (String × Movie)) (system : CommentListSystem) :
    CommentListSystem :=
  { system with
    groupListener := movies.foldl
      (fun groupListener (movieId, movie) => groupListener.add movieId movie)
      system.groupListener }

/-- Listen to the list of the session, if it has an account id. -/
def initListenerForGroupChat (share : AccountService) (system : CommentListSystem) :
    CommentListSystem :=
  match share.getAccountId with
  | none => system
  | some accountId => { system with listener := system.listener.add () accountId }

/-- What an event does to the comment list. -/
def handle (system : CommentListSystem) : CommentListEvent → Option CommentListSystem
  | .start share =>
      let removed := system.removeListener
      let controller := CommentListController.start removed.controller
      match share.getAccountId with
      | none => some { removed with controller := fetchCompletion none none controller }
      | some _ => some { removed with controller, fetches := system.fetches + 1 }
  | .fetchReply share groupComments error => do
      let fetched : CommentListSystem :=
        { system with
          controller := fetchCompletion groupComments error system.controller
          fetches := system.fetches - 1 }
      match error, groupComments with
      | none, some groupComments => do
          let movies ← listenedMovies groupComments
          return initListenerForGroupChat share
            (initListenerForMovieChat movies { fetched with builds := system.builds + 1 })
      | _, _ => some fetched
  | .movieChat share now registration messageChanges error => do
      let (controller, write) ← movieChatCompletion share now registration.payload messageChanges
        error system.controller
      return { system with controller, writes := system.writes ++ write.toList }
  | .groupChat _ groupComments error => do
      let (controller, built) ← groupChatCompletion groupComments error system.controller
      return { system with
        controller
        builds := if built then system.builds + 1 else system.builds }

/-- The comment list after an event that can happen. -/
def step (system : CommentListSystem) (event : CommentListEvent) : Option CommentListSystem :=
  if system.enabled event then handle system event else none

/-- The state after a list of events, from a fresh screen. -/
def run (events : List CommentListEvent) : Option CommentListSystem :=
  EventRun.runFrom step {} events

variable {system next : CommentListSystem} {event : CommentListEvent}

theorem step_eq_some (taken : step system event = some next) :
    system.enabled event ∧ handle system event = some next := by
  unfold step at taken
  split at taken
  · next possible => exact ⟨possible, taken⟩
  · cases taken

section Steps

variable {share : AccountService} {now : Date} {registration : MovieChatListener}
  {listRegistration : GroupChatListener} {messageChanges : Option (List Message)}
  {groupComments : Option (List GroupComment)} {error : Option NSError}

/-- A start with a loaded account asks for the comments. -/
theorem step_start (login : share.isLogin) : step system (.start share) = some
    { system.removeListener with
      controller := CommentListController.start system.controller
      fetches := system.fetches + 1 } := by
  obtain ⟨accountId, signedIn⟩ := AccountService.getAccountId_of_isLogin login
  rw [step, enabled, if_pos login, handle, signedIn]
  rfl

/-- A fetch that fails leaves everything but its flag. -/
theorem step_fetchReply_none (waits : 0 < system.fetches)
    (nothing : error.isSome ∨ groupComments = none) :
    step system (.fetchReply share groupComments error) = some
      { system with
        controller := fetchCompletion none none system.controller
        fetches := system.fetches - 1 } := by
  rw [step, enabled, if_pos (decide_eq_true waits)]
  exact of_nothing nothing (fun _ _ => rfl) rfl

/-- The reply to the fetch shows the comments and registers the listeners. -/
theorem step_fetchReply_some {groupComments : List GroupComment} (waits : 0 < system.fetches) :
    step system (.fetchReply share (some groupComments) none) =
      (listenedMovies groupComments).map fun movies =>
        initListenerForGroupChat share (initListenerForMovieChat movies
          { system with
            controller := fetchCompletion (some groupComments) none system.controller
            fetches := system.fetches - 1
            builds := system.builds + 1 }) := by
  rw [step, enabled, if_pos (decide_eq_true waits), handle]
  cases listenedMovies groupComments <;> rfl

/-- The first snapshot of all since the start is dropped. -/
theorem step_movieChat_first (live : registration ∈ system.groupListener.live)
    (first : system.controller.didStart = false) :
    step system (.movieChat share now registration messageChanges error) =
      some { system with controller := { system.controller with didStart := true } } := by
  rw [step, enabled, if_pos (decide_eq_true live), handle, movieChatCompletion, if_pos first]
  simp only [Option.bind_eq_bind, Option.bind_some, Option.toList_none, List.append_nil]
  rfl

/-- Any other snapshot of a chat writes its news. -/
theorem step_movieChat (live : registration ∈ system.groupListener.live)
    (started : system.controller.didStart = true) :
    step system (.movieChat share now registration messageChanges error) =
      (newsOf share now registration.payload messageChanges error).map fun write =>
        { system with writes := system.writes ++ write.toList } := by
  have notFirst : ¬ system.controller.didStart = false := by rwa [Bool.not_eq_false]
  rw [step, enabled, if_pos (decide_eq_true live), handle, movieChatCompletion, if_neg notFirst]
  cases newsOf share now registration.payload messageChanges error <;> rfl

/-- The first callback of the list only sets the flag. -/
theorem step_groupChat_first (live : listRegistration ∈ system.listener.live)
    (first : system.controller.didStart = false) :
    step system (.groupChat listRegistration groupComments error) =
      some { system with controller := { system.controller with didStart := true } } := by
  have dropped : groupChatCompletion groupComments error system.controller =
      some ({ system.controller with didStart := true }, false) := if_pos first
  rw [step, enabled, if_pos (decide_eq_true live), handle, dropped]
  rfl

/-- A callback without comments changes nothing. -/
theorem step_groupChat_none (live : listRegistration ∈ system.listener.live)
    (started : system.controller.didStart = true)
    (nothing : error.isSome ∨ groupComments = none) :
    step system (.groupChat listRegistration groupComments error) = some system := by
  have notFirst : ¬ system.controller.didStart = false := by rwa [Bool.not_eq_false]
  have kept : groupChatCompletion groupComments error system.controller =
      some (system.controller, false) := by
    unfold groupChatCompletion
    rw [if_neg notFirst]
    exact of_nothing nothing (fun _ _ => rfl) rfl
  rw [step, enabled, if_pos (decide_eq_true live), handle, kept]
  rfl

/-- Any other snapshot of the list builds it, sorted. -/
theorem step_groupChat_some {groupComments : List GroupComment}
    (live : listRegistration ∈ system.listener.live)
    (started : system.controller.didStart = true) :
    step system (.groupChat listRegistration (some groupComments) none) =
      (sortedNewestFirst groupComments).map fun sorted =>
        { system with
          controller := rebuilt sorted system.controller
          builds := system.builds + 1 } := by
  have notFirst : ¬ system.controller.didStart = false := by rwa [Bool.not_eq_false]
  rw [step, enabled, if_pos (decide_eq_true live), handle, groupChatCompletion, if_neg notFirst]
  cases sortedNewestFirst groupComments <;> rfl

end Steps

/-- What a step can do. -/
inductive Taken (system : CommentListSystem) : CommentListEvent → CommentListSystem → Prop
  | start {share : AccountService} (login : share.isLogin) :
      Taken system (.start share)
        { system.removeListener with
          controller := CommentListController.start system.controller
          fetches := system.fetches + 1 }
  | notFetched {share : AccountService} {groupComments : Option (List GroupComment)}
      {error : Option NSError} (waits : 0 < system.fetches)
      (nothing : error.isSome ∨ groupComments = none) :
      Taken system (.fetchReply share groupComments error)
        { system with
          controller := fetchCompletion none none system.controller
          fetches := system.fetches - 1 }
  | fetched {share : AccountService} {groupComments : List GroupComment}
      {movies : List (String × Movie)} (waits : 0 < system.fetches)
      (listened : listenedMovies groupComments = some movies) :
      Taken system (.fetchReply share (some groupComments) none)
        (initListenerForGroupChat share (initListenerForMovieChat movies
          { system with
            controller := fetchCompletion (some groupComments) none system.controller
            fetches := system.fetches - 1
            builds := system.builds + 1 }))
  | movieChatFirst {share : AccountService} {now : Date} {registration : MovieChatListener}
      {messageChanges : Option (List Message)} {error : Option NSError}
      (live : registration ∈ system.groupListener.live)
      (first : system.controller.didStart = false) :
      Taken system (.movieChat share now registration messageChanges error)
        { system with controller := { system.controller with didStart := true } }
  | movieChat {share : AccountService} {now : Date} {registration : MovieChatListener}
      {messageChanges : Option (List Message)} {error : Option NSError}
      {write : Option GroupCommentWrite} (live : registration ∈ system.groupListener.live)
      (started : system.controller.didStart = true)
      (written : newsOf share now registration.payload messageChanges error = some write) :
      Taken system (.movieChat share now registration messageChanges error)
        { system with writes := system.writes ++ write.toList }
  | groupChatFirst {registration : GroupChatListener} {groupComments : Option (List GroupComment)}
      {error : Option NSError} (live : registration ∈ system.listener.live)
      (first : system.controller.didStart = false) :
      Taken system (.groupChat registration groupComments error)
        { system with controller := { system.controller with didStart := true } }
  | groupChatNothing {registration : GroupChatListener}
      {groupComments : Option (List GroupComment)} {error : Option NSError}
      (live : registration ∈ system.listener.live) (started : system.controller.didStart = true)
      (nothing : error.isSome ∨ groupComments = none) :
      Taken system (.groupChat registration groupComments error) system
  | groupChat {registration : GroupChatListener} {groupComments sorted : List GroupComment}
      (live : registration ∈ system.listener.live) (started : system.controller.didStart = true)
      (isSorted : sortedNewestFirst groupComments = some sorted) :
      Taken system (.groupChat registration (some groupComments) none)
        { system with
          controller := rebuilt sorted system.controller
          builds := system.builds + 1 }

/-- A step is what its event does. -/
theorem taken_of_step (taken : step system event = some next) : Taken system event next := by
  obtain ⟨possible, -⟩ := step_eq_some taken
  cases event with
  | start share =>
      rw [step_start possible] at taken
      cases taken
      exact .start possible
  | fetchReply share groupComments error =>
      have waits : 0 < system.fetches := of_decide_eq_true possible
      rcases brings_or_nothing groupComments error with ⟨groupComments, rfl, rfl⟩ | nothing
      · rw [step_fetchReply_some waits] at taken
        obtain ⟨movies, listened, rfl⟩ := Option.map_eq_some_iff.mp taken
        exact .fetched waits listened
      · rw [step_fetchReply_none waits nothing] at taken
        cases taken
        exact .notFetched waits nothing
  | movieChat share now registration messageChanges error =>
      have live : registration ∈ system.groupListener.live := of_decide_eq_true possible
      cases started : system.controller.didStart with
      | false =>
          rw [step_movieChat_first live started] at taken
          cases taken
          exact .movieChatFirst live started
      | true =>
          rw [step_movieChat live started] at taken
          obtain ⟨write, written, rfl⟩ := Option.map_eq_some_iff.mp taken
          exact .movieChat live started written
  | groupChat registration groupComments error =>
      have live : registration ∈ system.listener.live := of_decide_eq_true possible
      cases started : system.controller.didStart with
      | false =>
          rw [step_groupChat_first live started] at taken
          cases taken
          exact .groupChatFirst live started
      | true =>
          rcases brings_or_nothing groupComments error with ⟨groupComments, rfl, rfl⟩ | nothing
          · rw [step_groupChat_some live started] at taken
            obtain ⟨sorted, isSorted, rfl⟩ := Option.map_eq_some_iff.mp taken
            exact .groupChat live started isSorted
          · rw [step_groupChat_none live started nothing] at taken
            cases taken
            exact .groupChatNothing live started nothing

@[simp] theorem groupListener_initListenerForGroupChat (share : AccountService) :
    (initListenerForGroupChat share system).groupListener = system.groupListener := by
  unfold initListenerForGroupChat
  split <;> rfl

@[simp] theorem controller_initListenerForGroupChat (share : AccountService) :
    (initListenerForGroupChat share system).controller = system.controller := by
  unfold initListenerForGroupChat
  split <;> rfl

/-- The registrations with a chat are under the name of the chat of their movie. -/
def Named (system : CommentListSystem) : Prop :=
  ∀ registration ∈ system.groupListener.live,
    registration.payload.id.map CommentListService.documentID = some registration.key

/-- Each step keeps the registrations named. -/
theorem named_step (named : Named system) (taken : step system event = some next) :
    Named next := by
  cases taken_of_step taken with
  | start =>
      exact fun registration member =>
        named registration (SlotRegistry.mem_of_mem_foldl_remove member)
  | @fetched share groupComments movies _ listened =>
      intro registration member
      obtain ⟨added, live, same⟩ := SlotRegistry.live_foldl_add movies system.groupListener
      rw [groupListener_initListenerForGroupChat] at member
      rw [initListenerForMovieChat, live, List.mem_append] at member
      rcases member with older | new
      · exact named registration older
      · have addition : (registration.key, registration.payload) ∈ movies :=
          same ▸ List.mem_map.mpr ⟨registration, new, rfl⟩
        obtain ⟨-, -, -, isKey⟩ := (mem_listenedMovies listened).mp addition
        exact isKey
  | notFetched => exact named
  | movieChatFirst => exact named
  | movieChat => exact named
  | groupChatFirst => exact named
  | groupChatNothing => exact named
  | groupChat => exact named

/-- The registrations are named in every run. -/
theorem named_of_run {events : List CommentListEvent} (reached : run events = some system) :
    Named system :=
  EventRun.invariant_state Named (fun _ member => absurd member List.not_mem_nil)
    (fun _ _ _ named taken => named_step named taken) reached

end CommentListSystem

/-- An event that sets `didStart`, and to what. -/
def CommentListEvent.setsDidStart : CommentListEvent → Option Bool
  | start _ => some false
  | fetchReply .. => none
  | movieChat .. => some true
  | groupChat .. => some true

/-- A snapshot has arrived since the list was started last. -/
def Heard (before : List CommentListEvent) : Prop :=
  EventRun.last CommentListEvent.setsDidStart before = some true

namespace CommentListSystem

/-- What a step does to the flag. -/
theorem step_didStart (taken : step system event = some next) :
    next.controller.didStart = event.setsDidStart.getD system.controller.didStart := by
  cases taken_of_step taken with
  | start => rfl
  | fetched =>
      rw [controller_initListenerForGroupChat]
      rfl
  | notFetched => rfl
  | movieChatFirst => rfl
  | movieChat _ started => exact started
  | groupChatFirst => rfl
  | groupChatNothing _ started => exact started
  | groupChat _ started => exact started

/-- The flag is set exactly if a callback was heard since the start. -/
theorem didStart_iff_heard {events : List CommentListEvent} (reached : run events = some system) :
    system.controller.didStart = true ↔ Heard events := by
  have lowered := EventRun.flag_eq_false_iff
    (fun system : CommentListSystem => system.controller.didStart) (fun _ => True) trivial
    (fun _ _ _ _ _ => trivial) (fun _ _ _ _ taken => step_didStart taken) rfl reached
  rw [Heard, ← not_iff_not, Bool.not_eq_true]
  exact lowered

end CommentListSystem

end MovieFun
