import MovieFun.Foundation.CallGroup
import MovieFun.Foundation.Run
import MovieFun.Helper.Gregorian
import MovieFun.Network.MovieService

/-!
# Overlapping fetches of movies

The calls that collect several replies as an event system: calls from any screens,
the ends of their requests in any order, and the blocks on the main queue that hand
over what is parked. All calls park in the same fields, so what a fetch of a movie is
handed depends on the replies to the other calls (`uncrossed_iff_undisturbed`).
-/

namespace MovieFun

/-- A call that collects several replies. -/
inductive MovieCall
  | movieList
  | movieDetail (movieId : String)
deriving DecidableEq, Repr

/-- The replies that a call collects. -/
def MovieCall.parts : MovieCall → List MoviePart
  | movieList => [.newMovies, .nowMovies, .topRateMovies, .popularMovies]
  | movieDetail _ => [.movieDetail, .movieDetailCast]

/-- A request of a call, which is known by its number. -/
structure MovieRequest where
  call : Nat
  part : MoviePart
deriving DecidableEq, Repr

/-- The service, the blocks on the main queue, the requests without an end, those
whose end did not call the completion, and the calls so far. -/
structure MovieSystem where
  service : MovieService := {}
  mainQueue : List Nat := []
  requests : List MovieRequest := []
  unanswered : List MovieRequest := []
  calls : List MovieCall := []

/-- What can reach the service. A request whose text is no URL ends like any other. -/
inductive MovieEvent
  | fetchMovieList
  | fetchMovieDetail (movieId : String)
  | reply (request : MovieRequest) (outcome : Outcome)
  | notify (call : Nat)

namespace MovieEvent

variable (fm : DateFormatter)

/-- The movie that the event brings a call. -/
def repliedMovie (call : Nat) : MovieEvent → Option (Option Movie)
  | reply request outcome =>
      if request = { call, part := .movieDetail } then
        some (MovieService.fetchMovieOfId fm outcome).1
      else none
  | _ => none

/-- The cast that the event brings a call. -/
def repliedCast (call : Nat) : MovieEvent → Option (Option (List Cast))
  | reply request outcome =>
      if request = { call, part := .movieDetailCast } then
        (MovieService.fetchMovieCast outcome).map Prod.fst
      else none
  | _ => none

/-- The movie that the event parks, whichever call it is for. -/
def parksMovie : MovieEvent → Option (Option Movie)
  | reply request outcome =>
      match request.part, MovieService.fetchMovieOfId fm outcome with
      | .movieDetail, (movie, none) => some movie
      | _, _ => none
  | _ => none

/-- The cast that the event parks, whichever call it is for. -/
def parksCast : MovieEvent → Option (Option (List Cast))
  | reply request outcome =>
      match request.part, MovieService.fetchMovieCast outcome with
      | .movieDetailCast, some (casts, none) => some casts
      | _, _ => none
  | _ => none

/-- The call whose block the event runs. -/
def notified : MovieEvent → Option Nat
  | notify call => some call
  | _ => none

end MovieEvent

namespace MovieSystem

variable (fm : DateFormatter)

/-- A call enters the group for each of its requests, and registers its block. -/
def called (call : MovieCall) (system : MovieSystem) : MovieSystem :=
  let (dispatchGroup, submitted) :=
    (system.service.dispatchGroup.enter call.parts.length).notify system.calls.length
  { system with
    service := { system.service with dispatchGroup }
    mainQueue := system.mainQueue ++ submitted
    requests := system.requests ++
      call.parts.map fun part => { call := system.calls.length, part }
    calls := system.calls ++ [call] }

/-- The system after an event that can happen. -/
def step (system : MovieSystem) : MovieEvent → Option MovieSystem
  | .fetchMovieList => some (system.called .movieList)
  | .fetchMovieDetail movieId => some (system.called (.movieDetail movieId))
  | .reply request outcome =>
      if request ∈ system.requests then
        match system.service.park fm request.part outcome with
        | none =>
            some { system with
              requests := system.requests.erase request
              unanswered := system.unanswered ++ [request] }
        | some service =>
            service.dispatchGroup.leave.map fun (dispatchGroup, submitted) =>
              { system with
                service := { service with dispatchGroup }
                mainQueue := system.mainQueue ++ submitted
                requests := system.requests.erase request }
      else none
  | .notify call =>
      if call ∈ system.mainQueue then
        some { system with mainQueue := system.mainQueue.erase call }
      else none

/-- What a block of the main queue hands to the completion of a fetch of a movie. -/
def handed (system : MovieSystem) : Option Movie × Option (List Cast) :=
  (system.service.movieDetail, system.service.movieDetailCast)

/-- The system after a run from the start. -/
def run (events : List MovieEvent) : Option MovieSystem := EventRun.runFrom (step fm) {} events

/-- A fetch is handed the movie and the cast that its own requests brought. -/
def Told (before : List MovieEvent) (system : MovieSystem) (call : Nat) : Prop :=
  ∃ movie casts, EventRun.last (MovieEvent.repliedMovie fm call) before = some movie ∧
    EventRun.last (MovieEvent.repliedCast call) before = some casts ∧
    system.handed = (movie, casts)

/-- The last movie and the last cast parked, for whichever call, are those that the
fetch's own requests brought. -/
def Undisturbed (before : List MovieEvent) (_ : MovieSystem) (call : Nat) : Prop :=
  ∀ movie casts, EventRun.last (MovieEvent.repliedMovie fm call) before = some movie →
    EventRun.last (MovieEvent.repliedCast call) before = some casts →
      (EventRun.last (MovieEvent.parksMovie fm) before).join = movie ∧
        (EventRun.last MovieEvent.parksCast before).join = casts

/-- A property of every block of a fetch of a movie that runs, of the events before it
and its call. -/
def EveryHanding (events : List MovieEvent)
    (holds : List MovieEvent → MovieSystem → Nat → Prop) : Prop :=
  ∀ before call, before ++ [.notify call] <+: events → ∀ system, run fm before = some system →
    call ∈ system.mainQueue → ∀ movieId, system.calls[call]? = some (.movieDetail movieId) →
      holds before system call

/-- The group of the service with its calls, given the events so far. -/
def callGroup (before : List MovieEvent) (system : MovieSystem) : CallGroup where
  group := system.service.dispatchGroup
  queue := system.mainQueue
  outstanding := ↑((system.requests ++ system.unanswered).map MovieRequest.call)
  calls := system.calls.length
  ran := before.filterMap MovieEvent.notified

variable {fm} {system next : MovieSystem} {event : MovieEvent} {before : List MovieEvent}

/-- Parking a reply leaves the group, and parks what the event of the reply tells. -/
theorem park_eq_some {service parked : MovieService} {request : MovieRequest} {outcome : Outcome}
    (parks : service.park fm request.part outcome = some parked) :
    parked.dispatchGroup = service.dispatchGroup ∧
      parked.movieDetail =
        (MovieEvent.parksMovie fm (.reply request outcome)).getD service.movieDetail ∧
      parked.movieDetailCast =
        (MovieEvent.parksCast (.reply request outcome)).getD service.movieDetailCast := by
  obtain ⟨call, part⟩ := request
  cases part with
  | movieDetail =>
      simp only [MovieService.park] at parks
      split at parks
      · next movie fetched =>
        cases parks
        simp only [MovieEvent.parksMovie, MovieEvent.parksCast, fetched, Option.getD_some,
          Option.getD_none, and_self]
      · next failed fetched =>
        cases parks
        simp only [MovieEvent.parksMovie, MovieEvent.parksCast, fetched, Option.getD_none, and_self]
  | movieDetailCast =>
      simp only [MovieService.park] at parks
      split at parks
      · cases parks
      · next casts fetched =>
        cases parks
        simp only [MovieEvent.parksMovie, MovieEvent.parksCast, fetched, Option.getD_some,
          Option.getD_none, and_self]
      · next failed fetched =>
        cases parks
        simp only [MovieEvent.parksMovie, MovieEvent.parksCast, fetched, Option.getD_none, and_self]
  | _ =>
      cases parks
      exact ⟨rfl, rfl, rfl⟩

/-- Only credits without a cast do not call their completion, and they park nothing. -/
theorem park_eq_none {service : MovieService} {request : MovieRequest} {outcome : Outcome}
    (parks : service.park fm request.part outcome = none) :
    request.part = .movieDetailCast ∧ MovieService.fetchMovieCast outcome = none := by
  obtain ⟨call, part⟩ := request
  cases part with
  | movieDetail =>
      simp only [MovieService.park] at parks
      split at parks <;> cases parks
  | movieDetailCast =>
      simp only [MovieService.park] at parks
      split at parks
      · next fetched => exact ⟨rfl, fetched⟩
      · cases parks
      · cases parks
  | _ => cases parks

/-- Credits that are parked have a cast, or failed. -/
theorem isSome_of_park {service parked : MovieService} {part : MoviePart} {outcome : Outcome}
    (parks : service.park fm part outcome = some parked) (isCast : part = .movieDetailCast) :
    (MovieService.fetchMovieCast outcome).isSome := by
  subst isCast
  simp only [MovieService.park] at parks
  split at parks
  · cases parks
  · next fetched => exact Option.isSome_of_eq_some fetched
  · next fetched => exact Option.isSome_of_eq_some fetched

/-- What the end of a request does, with or without a call of its completion. -/
theorem step_reply_eq_some {request : MovieRequest} {outcome : Outcome}
    (taken : step fm system (.reply request outcome) = some next) :
    request ∈ system.requests ∧
      ((system.service.park fm request.part outcome = none ∧
          next = { system with
            requests := system.requests.erase request
            unanswered := system.unanswered ++ [request] }) ∨
        ∃ parked dispatchGroup submitted,
          system.service.park fm request.part outcome = some parked ∧
          system.service.dispatchGroup.leave = some (dispatchGroup, submitted) ∧
          next = { system with
            service := { parked with dispatchGroup }
            mainQueue := system.mainQueue ++ submitted
            requests := system.requests.erase request }) := by
  simp only [step, Option.ite_none_right_eq_some] at taken
  obtain ⟨asked, taken⟩ := taken
  refine ⟨asked, ?_⟩
  split at taken
  · next parks =>
    cases taken
    exact .inl ⟨parks, rfl⟩
  · next parked parks =>
    obtain ⟨⟨dispatchGroup, submitted⟩, left, rfl⟩ := Option.map_eq_some_iff.mp taken
    rw [(park_eq_some parks).1] at left
    exact .inr ⟨parked, dispatchGroup, submitted, parks, left, rfl⟩

/-- A block that was submitted runs. -/
theorem step_notify_eq_some {call : Nat} (taken : step fm system (.notify call) = some next) :
    call ∈ system.mainQueue ∧
      next = { system with mainQueue := system.mainQueue.erase call } := by
  simp only [step, Option.ite_none_right_eq_some] at taken
  obtain ⟨onQueue, made⟩ := taken
  cases made
  exact ⟨onQueue, rfl⟩

/-- The calls of a list of requests without one of them. -/
theorem map_call_erase {requests unanswered : List MovieRequest} {request : MovieRequest}
    (asked : request ∈ requests) :
    (↑((requests.erase request ++ unanswered).map MovieRequest.call) : Multiset Nat) =
      (↑((requests ++ unanswered).map MovieRequest.call) : Multiset Nat).erase request.call := by
  have perm : (requests ++ unanswered).Perm (request :: (requests.erase request ++ unanswered)) :=
    (List.perm_cons_erase asked).append_right unanswered
  rw [Multiset.coe_eq_coe.mpr (perm.map MovieRequest.call), List.map_cons, ← Multiset.cons_coe,
    Multiset.erase_cons_head]

/-- A call of the service is a call of the group. -/
theorem callGroup_called (call : MovieCall) (silent : event.notified = none) :
    (system.called call).callGroup (before ++ [event]) =
      (system.callGroup before).called call.parts.length := by
  have ran : (before ++ [event]).filterMap MovieEvent.notified =
      before.filterMap MovieEvent.notified := EventRun.filterMap_concat_none silent
  have requests : (↑((system.requests ++ (call.parts.map fun part =>
        ({ call := system.calls.length, part } : MovieRequest)) ++ system.unanswered).map
          MovieRequest.call) : Multiset Nat) =
      ↑((system.requests ++ system.unanswered).map MovieRequest.call) +
        Multiset.replicate call.parts.length system.calls.length := by
    have replicated : (call.parts.map fun part =>
        ({ call := system.calls.length, part } : MovieRequest)).map MovieRequest.call =
          List.replicate call.parts.length system.calls.length := by
      rw [List.map_map]
      exact List.map_const
    rw [List.map_append, List.map_append, List.map_append, replicated, ← Multiset.coe_replicate,
      Multiset.coe_add]
    exact Multiset.coe_eq_coe.mpr (by
      rw [List.append_assoc, List.append_assoc]
      exact List.perm_append_comm.append_left _)
  simp only [callGroup, called, CallGroup.called, ran, requests, List.length_append,
    List.length_singleton]

theorem balanced_initial : (callGroup [] {}).Balanced := CallGroup.balanced_empty

/-- **The service moves like its group.** Each step is a move of the calls that share
the group, or changes nothing of them. -/
theorem movesLike_callGroup : CallGroup.MovesLike (step fm) callGroup := by
  intro before event system next taken
  cases event with
  | fetchMovieList =>
      cases taken
      exact .inr ⟨.call 4, congrArg some (callGroup_called .movieList rfl).symm⟩
  | fetchMovieDetail movieId =>
      cases taken
      exact .inr ⟨.call 2, congrArg some (callGroup_called (.movieDetail movieId) rfl).symm⟩
  | reply request outcome =>
      have ran : (before ++ [MovieEvent.reply request outcome]).filterMap MovieEvent.notified =
          before.filterMap MovieEvent.notified := EventRun.filterMap_concat_none rfl
      obtain ⟨asked, ⟨-, rfl⟩ | ⟨parked, dispatchGroup, submitted, -, left, rfl⟩⟩ :=
        step_reply_eq_some taken
      · apply Or.inl
        simp only [callGroup, ran]
        rw [← List.append_assoc]
        congr 1
        refine Multiset.coe_eq_coe.mpr (List.Perm.map MovieRequest.call ?_)
        calc
          List.Perm _ (request :: (system.requests.erase request ++ system.unanswered)) :=
            List.perm_append_singleton _ _
          List.Perm _ (system.requests ++ system.unanswered) :=
            (List.perm_cons_erase asked).symm.append_right _
      · refine .inr ⟨.finish request.call, ?_⟩
        have isOutstanding : request.call ∈ (system.callGroup before).outstanding :=
          Multiset.mem_coe.mpr (List.mem_map_of_mem (List.mem_append_left _ asked))
        have leaves :
            (system.callGroup before).group.leave = some (dispatchGroup, submitted) := left
        rw [CallGroup.step, if_pos isOutstanding, leaves]
        simp only [callGroup, ran, map_call_erase asked, Option.map_some]
  | notify call =>
      obtain ⟨onQueue, rfl⟩ := step_notify_eq_some taken
      have isQueued : call ∈ (system.callGroup before).queue := onQueue
      refine .inr ⟨.run call, ?_⟩
      rw [CallGroup.step, if_pos isQueued]
      simp only [callGroup, List.filterMap_append]
      rfl

/-- What is parked in terms of the events so far, and an answer to each request that is
neither outstanding nor unanswered. -/
structure Recorded (fm : DateFormatter) (before : List MovieEvent) (system : MovieSystem) :
    Prop where
  movieDetail : system.service.movieDetail =
    (EventRun.last (MovieEvent.parksMovie fm) before).join
  movieDetailCast : system.service.movieDetailCast =
    (EventRun.last MovieEvent.parksCast before).join
  answered : ∀ call movieCall, system.calls[call]? = some movieCall →
    ∀ part ∈ movieCall.parts,
      { call, part } ∈ system.requests ++ system.unanswered ∨
        ∃ outcome, .reply { call, part } outcome ∈ before ∧
          (part = .movieDetailCast → (MovieService.fetchMovieCast outcome).isSome)

/-- A call parks nothing and has a request for each of its parts. -/
theorem Recorded.called (recorded : Recorded fm before system) (call : MovieCall)
    (movie : event.parksMovie fm = none) (cast : event.parksCast = none) :
    Recorded fm (before ++ [event]) (system.called call) where
  movieDetail := by
    rw [EventRun.last_concat, movie]
    exact recorded.movieDetail
  movieDetailCast := by
    rw [EventRun.last_concat, cast]
    exact recorded.movieDetailCast
  answered number movieCall isCall part member := by
    change (system.calls ++ [call])[number]? = some movieCall at isCall
    change _ ∈ (system.requests ++ _) ++ system.unanswered ∨ _
    rcases CallGroup.getElem?_concat_eq_some isCall with older | ⟨rfl, rfl⟩
    · rcases recorded.answered number movieCall older part member with waits | replied
      · rcases List.mem_append.mp waits with requested | unanswered
        · exact .inl (List.mem_append_left _ (List.mem_append_left _ requested))
        · exact .inl (List.mem_append_right _ unanswered)
      · obtain ⟨outcome, inside, isCast⟩ := replied
        exact .inr ⟨outcome, List.mem_append_left _ inside, isCast⟩
    · exact .inl (List.mem_append_left _ (List.mem_append_right _ (List.mem_map_of_mem member)))

/-- An end of a request parks what it tells, and answers the request if it can. -/
theorem Recorded.replied (recorded : Recorded fm before system) {request : MovieRequest}
    {outcome : Outcome} (taken : step fm system (.reply request outcome) = some next) :
    Recorded fm (before ++ [.reply request outcome]) next := by
  obtain ⟨-, ⟨parks, rfl⟩ | ⟨parked, dispatchGroup, submitted, parks, -, rfl⟩⟩ :=
    step_reply_eq_some taken
  · obtain ⟨isCast, fetched⟩ := park_eq_none parks
    have noMovie : MovieEvent.parksMovie fm (.reply request outcome) = none := by
      simp only [MovieEvent.parksMovie, isCast]
    have noCast : MovieEvent.parksCast (.reply request outcome) = none := by
      simp only [MovieEvent.parksCast, isCast, fetched]
    constructor
    · rw [EventRun.last_concat, noMovie]
      exact recorded.movieDetail
    · rw [EventRun.last_concat, noCast]
      exact recorded.movieDetailCast
    · intro call movieCall isCall part member
      change _ ∈ system.requests.erase request ++ (system.unanswered ++ [request]) ∨ _
      rcases recorded.answered call movieCall isCall part member with waits | ⟨other, inside, cast⟩
      · apply Or.inl
        by_cases same : { call, part } = request
        · rw [same]
          exact List.mem_append_right _ List.mem_concat_self
        · rcases List.mem_append.mp waits with requested | unanswered
          · exact List.mem_append_left _ ((List.mem_erase_of_ne same).mpr requested)
          · exact List.mem_append_right _ (List.mem_append_left _ unanswered)
      · exact .inr ⟨other, List.mem_append_left _ inside, cast⟩
  · obtain ⟨-, movieDetail, movieDetailCast⟩ := park_eq_some parks
    constructor
    · rw [EventRun.last_concat]
      change parked.movieDetail = _
      rw [movieDetail, recorded.movieDetail]
      cases MovieEvent.parksMovie fm (.reply request outcome) <;> rfl
    · rw [EventRun.last_concat]
      change parked.movieDetailCast = _
      rw [movieDetailCast, recorded.movieDetailCast]
      cases MovieEvent.parksCast (.reply request outcome) <;> rfl
    · intro call movieCall isCall part member
      change _ ∈ system.requests.erase request ++ system.unanswered ∨ _
      rcases recorded.answered call movieCall isCall part member with waits | ⟨other, inside, cast⟩
      · by_cases same : { call, part } = request
        · refine .inr ⟨outcome, ?_, fun isCast => isSome_of_park parks ?_⟩
          · rw [same]
            exact List.mem_concat_self
          · rw [← same]
            exact isCast
        · rcases List.mem_append.mp waits with requested | unanswered
          · exact .inl (List.mem_append_left _ ((List.mem_erase_of_ne same).mpr requested))
          · exact .inl (List.mem_append_right _ unanswered)
      · exact .inr ⟨other, List.mem_append_left _ inside, cast⟩

/-- In every run, what is parked is what the events brought. -/
theorem recorded_of_run (reached : run fm before = some system) : Recorded fm before system := by
  refine EventRun.invariant (Recorded fm) ⟨rfl, rfl, fun _ _ isCall => by cases isCall⟩ ?_ reached
  intro before event state next _ recorded taken
  cases event with
  | fetchMovieList =>
      cases taken
      exact recorded.called .movieList rfl rfl
  | fetchMovieDetail movieId =>
      cases taken
      exact recorded.called (.movieDetail movieId) rfl rfl
  | reply request outcome => exact recorded.replied taken
  | notify call =>
      obtain ⟨-, rfl⟩ := step_notify_eq_some taken
      constructor
      · rw [EventRun.last_concat]
        exact recorded.movieDetail
      · rw [EventRun.last_concat]
        exact recorded.movieDetailCast
      · intro other movieCall isCall part member
        rcases recorded.answered other movieCall isCall part member with
          waits | ⟨outcome, inside, cast⟩
        · exact .inl waits
        · exact .inr ⟨outcome, List.mem_append_left _ inside, cast⟩

/-- When the block of a fetch runs, both its requests were answered. -/
theorem replied_of_submitted {call : Nat} {movieId : String} (reached : run fm before = some system)
    (submitted : call ∈ system.mainQueue)
    (isCall : system.calls[call]? = some (.movieDetail movieId)) :
    (∃ movie, EventRun.last (MovieEvent.repliedMovie fm call) before = some movie) ∧
      ∃ casts, EventRun.last (MovieEvent.repliedCast call) before = some casts := by
  have settled : call ∉ (system.callGroup before).outstanding :=
    (movesLike_callGroup.balanced balanced_initial reached).answered
      (List.mem_append_left _ submitted)
  have answers : ∀ part ∈ MovieCall.parts (.movieDetail movieId),
      ∃ outcome, .reply { call, part } outcome ∈ before ∧
        (part = .movieDetailCast → (MovieService.fetchMovieCast outcome).isSome) := by
    intro part member
    rcases (recorded_of_run reached).answered call _ isCall part member with waits | answered
    · exact absurd (Multiset.mem_coe.mpr (List.mem_map_of_mem waits)) settled
    · exact answered
  obtain ⟨detail, isDetail, -⟩ := answers .movieDetail List.mem_cons_self
  obtain ⟨credits, isCredits, hasCast⟩ :=
    answers .movieDetailCast (List.mem_cons_of_mem _ List.mem_cons_self)
  constructor
  · refine Option.isSome_iff_exists.mp (EventRun.isSome_last isDetail ?_)
    rw [MovieEvent.repliedMovie, if_pos rfl]
    rfl
  · refine Option.isSome_iff_exists.mp (EventRun.isSome_last isCredits ?_)
    rw [MovieEvent.repliedCast, if_pos rfl, Option.isSome_map]
    exact hasCast rfl

/-- **When overlapping fetches do not cross.** In every interleaving, every fetch of a
movie is handed what its own requests brought exactly when no reply to another call
parks a different movie or cast between them and its block. -/
theorem uncrossed_iff_undisturbed (fm : DateFormatter) (events : List MovieEvent) :
    EveryHanding fm events (Told fm) ↔ EveryHanding fm events (Undisturbed fm) := by
  have pointwise : ∀ before system call movieId, run fm before = some system →
      call ∈ system.mainQueue → system.calls[call]? = some (.movieDetail movieId) →
        (Told fm before system call ↔ Undisturbed fm before system call) := by
    intro before system call movieId reached submitted isCall
    have recorded := recorded_of_run reached
    constructor
    · rintro ⟨movie, casts, isMovie, isCasts, handed⟩ other others isOther areOthers
      rw [isMovie] at isOther
      rw [isCasts] at areOthers
      cases isOther
      cases areOthers
      rw [← recorded.movieDetail, ← recorded.movieDetailCast]
      exact Prod.mk.inj handed
    · intro undisturbed
      obtain ⟨⟨movie, isMovie⟩, casts, isCasts⟩ := replied_of_submitted reached submitted isCall
      obtain ⟨sameMovie, sameCasts⟩ := undisturbed movie casts isMovie isCasts
      refine ⟨movie, casts, isMovie, isCasts, ?_⟩
      rw [handed, recorded.movieDetail, recorded.movieDetailCast, sameMovie, sameCasts]
  constructor
  · intro always before call inside system reached submitted movieId isCall
    exact (pointwise before system call movieId reached submitted isCall).mp
      (always before call inside system reached submitted movieId isCall)
  · intro always before call inside system reached submitted movieId isCall
    exact (pointwise before system call movieId reached submitted isCall).mpr
      (always before call inside system reached submitted movieId isCall)

/-- The body of a movie with an id. -/
def movieBody (id : Double) : Outcome := .success (some (.dictionary [("id", .number id)]))

/-- Credits without anybody. -/
def emptyCredits : Outcome := .success (some (.dictionary [("cast", .array [])]))

/-- Two screens fetch their movies, and the replies to the second come last. -/
def twoScreens : List MovieEvent :=
  [.fetchMovieDetail "1", .fetchMovieDetail "2",
    .reply { call := 0, part := .movieDetail } (movieBody 1),
    .reply { call := 0, part := .movieDetailCast } emptyCredits,
    .reply { call := 1, part := .movieDetail } (movieBody 2),
    .reply { call := 1, part := .movieDetailCast } emptyCredits,
    .notify 0]

/-- The first screen is then handed the second movie. -/
theorem not_told_twoScreens :
    ¬ EveryHanding (Gregorian.formatter ⟨0⟩) twoScreens (Told (Gregorian.formatter ⟨0⟩)) := by
  intro always
  obtain ⟨movie, casts, isMovie, -, handed⟩ :=
    always twoScreens.dropLast 0 List.prefix_rfl _ rfl (by decide) "1" rfl
  obtain ⟨sameMovie, -⟩ := Prod.mk.inj handed
  have own : movie.bind Movie.id = some 1 := (congrArg (·.bind (·.bind Movie.id)) isMovie).symm
  have shown : movie.bind Movie.id = some 2 := (congrArg (·.bind Movie.id) sameMovie).symm
  rw [own] at shown
  exact absurd shown (by decide)

end MovieSystem

end MovieFun
