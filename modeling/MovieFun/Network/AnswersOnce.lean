import MovieFun.Network.DetailFetch
import MovieFun.Network.FavoriteCheck

/-!
# Every call answers once

A call with one backend call answers through its ladder, and a call that collects
several replies through the block of its group. Which calls answer exactly once is
`answersOnce_iff`: some ladders forget their completion, one of them with the group.
-/

namespace MovieFun

/-- A call that makes at most one backend call, with how that ends. -/
inductive ServiceCall
  | fetchMovie (outcome : Outcome)
  | searchMovie (outcome : Outcome)
  | fetchVideo (outcome : Outcome)
  | addRealmMovie (now : Date) (movie : Movie) (failure : Option NSError) (realm : Option Realm)
  | removeRealmMovie (movieId : Int) (failure : Option NSError) (realm : Option Realm)
  | checkRealmMovies (movieIds : Option (List Int)) (realm : Option Realm)
  | searchRealmMovies (searchText : String) (realm : Option Realm)
  | fetchRealmMovies (realm : Option Realm)
  | addFavoriteMovie (share : AccountService) (now : Date) (movie : Movie)
      (failure : Option NSError) (realm : Option Realm)
  | removeFavoriteMovie (share : AccountService) (movieId : Int) (failure : Option NSError)
      (realm : Option Realm)
  | checkFavoriteMovie (share : AccountService) (data : Option Dictionary)
      (error : Option NSError)
  | fetchFavoriteMovie (share : AccountService) (documents : Option (List Dictionary))
      (error : Option NSError) (realm : Option Realm)
  | searchFavoriteMovie (share : AccountService) (searchText : String)
      (documents : Option (List Dictionary)) (error : Option NSError) (realm : Option Realm)

/-- How often the call invokes its completion. -/
def ServiceCall.completions (fm : DateFormatter) (like : String → String → Bool) :
    ServiceCall → Nat
  | fetchMovie outcome => (MovieService.fetchMovieCompletions fm outcome).length
  | searchMovie outcome => (MovieService.searchMovieCompletions fm outcome).length
  | fetchVideo outcome => (MovieService.fetchVideoCompletions outcome).length
  | addRealmMovie now movie failure realm =>
      (RealmService.addFavoriteMovieCompletions now movie failure realm).length
  | removeRealmMovie movieId failure realm =>
      (RealmService.removeFavoriteMovieCompletions movieId failure realm).length
  | checkRealmMovies movieIds realm =>
      (RealmService.checkFavoriteMovieCompletions movieIds realm).length
  | searchRealmMovies searchText realm =>
      (RealmService.searchFavoriteMovieCompletions like searchText realm).length
  | fetchRealmMovies realm => (RealmService.fetchFavoriteMovieCompletions realm).length
  | addFavoriteMovie share now movie failure realm =>
      (FavoriteMovieService.addFavoriteMovieCompletions share now movie failure realm).length
  | removeFavoriteMovie share movieId failure realm =>
      (FavoriteMovieService.removeFavoriteMovieCompletions share movieId failure realm).length
  | checkFavoriteMovie share data error =>
      (FavoriteMovieService.checkFavoriteMovieCompletions share data error).length
  | fetchFavoriteMovie share documents error realm =>
      (FavoriteMovieService.fetchFavoriteMovieCompletions share documents error realm).length
  | searchFavoriteMovie share searchText documents error realm =>
      (FavoriteMovieService.searchFavoriteMovieCompletions share like searchText documents error
        realm).length

namespace Outcome

/-- A body, if there is one, has results and a number of pages. -/
def HasPage : Outcome → Prop
  | success (some json) =>
      (json.get "results").array?.isSome ∧ (json.get "total_pages").int?.isSome
  | _ => True

/-- A body, if there is one, has a cast. -/
def HasCast : Outcome → Prop
  | success (some json) => (json.get "cast").array?.isSome
  | _ => True

end Outcome

/-- The local database has an object of the id. -/
def RealmService.Holds (movieId : Int) (realm : Option Realm) : Prop :=
  ∃ objects ∈ realm, movieId ∈ RealmService.movieIds objects

/-- The arguments and outcomes on which a call answers: a search gets a page or
documents, an addition has a movie with an id, and a removal of the local database
finds an object. -/
def ServiceCall.Answers : ServiceCall → Prop
  | searchMovie outcome => outcome.HasPage
  | addRealmMovie _ movie _ _ => movie.id.isSome
  | removeRealmMovie movieId _ realm => RealmService.Holds movieId realm
  | addFavoriteMovie _ _ movie _ _ => movie.id.isSome
  | removeFavoriteMovie share movieId _ realm =>
      share.isLogin = false → RealmService.Holds movieId realm
  | searchFavoriteMovie share _ documents error _ =>
      share.isLogin = true → error = none → documents.isSome
  | _ => True

/-- A search answers when a body has a page. -/
theorem MovieService.length_searchMovieCompletions {fm : DateFormatter} {outcome : Outcome} :
    (searchMovieCompletions fm outcome).length = 1 ↔ outcome.HasPage := by
  cases outcome with
  | invalidURL error => exact iff_of_true rfl trivial
  | failure error => exact iff_of_true rfl trivial
  | success value =>
      cases value with
      | none => exact iff_of_true rfl trivial
      | some json =>
          simp only [searchMovieCompletions, Outcome.HasPage]
          cases (json.get "results").array? <;> cases (json.get "total_pages").int? <;> simp

namespace RealmService

/-- A movie without an id has no model. -/
theorem length_addFavoriteMovieCompletions {now : Date} {movie : Movie}
    {failure : Option NSError} {realm : Option Realm} :
    (addFavoriteMovieCompletions now movie failure realm).length = 1 ↔ movie.id.isSome := by
  unfold addFavoriteMovieCompletions getMovieModel
  cases movie.id with
  | none => simp
  | some movieId => cases realm <;> cases failure <;> simp

/-- A removal from the local database answers once exactly if the movie is there. -/
theorem length_removeFavoriteMovieCompletions {movieId : Int} {failure : Option NSError}
    {realm : Option Realm} :
    (removeFavoriteMovieCompletions movieId failure realm).length = 1 ↔ Holds movieId realm := by
  have found : (realm.bind fun objects => objects.find? (HasId movieId)).isSome ↔
      Holds movieId realm := by
    cases realm with
    | none => exact iff_of_false Bool.false_ne_true fun ⟨_, opened, _⟩ => by cases opened
    | some objects =>
        have checked : checkFavoriteMovie movieId (some objects) = true ↔
            movieId ∈ movieIds objects := by
          rw [checkFavoriteMovie_some, decide_eq_true_iff]
        apply checked.trans
        simp only [Holds, Option.mem_def, Option.some.injEq, exists_eq_left']
  rw [← found]
  unfold removeFavoriteMovieCompletions
  cases realm.bind fun objects => objects.find? (HasId movieId) with
  | none => simp
  | some movieModel => cases failure <;> simp

end RealmService

namespace FavoriteMovieService

variable {share : AccountService} {failure error : Option NSError} {realm : Option Realm}

/-- An addition answers once exactly if the movie has an id. -/
theorem length_addFavoriteMovieCompletions {now : Date} {movie : Movie} :
    (addFavoriteMovieCompletions share now movie failure realm).length = 1 ↔ movie.id.isSome := by
  unfold addFavoriteMovieCompletions
  split
  · next login =>
    obtain ⟨accountId, session⟩ := AccountService.getAccountId_of_isLogin login
    rw [session, movieDictionary]
    cases movie.id <;> simp
  · exact RealmService.length_addFavoriteMovieCompletions

/-- A removal answers once exactly if an account is loaded or the movie is there. -/
theorem length_removeFavoriteMovieCompletions {movieId : Int} :
    (removeFavoriteMovieCompletions share movieId failure realm).length = 1 ↔
      (share.isLogin = false → RealmService.Holds movieId realm) := by
  unfold removeFavoriteMovieCompletions
  split
  · next login =>
    refine iff_of_true ?_ fun signedOut => absurd (login.symm.trans signedOut) (by decide)
    cases share.getAccountId <;> cases failure <;> rfl
  · next signedOut =>
    rw [RealmService.length_removeFavoriteMovieCompletions]
    exact ⟨fun holds _ => holds, fun holds => holds (Bool.eq_false_of_not_eq_true signedOut)⟩

/-- A check of one id answers once. -/
theorem length_checkFavoriteMovieCompletions {data : Option Dictionary} :
    (checkFavoriteMovieCompletions share data error).length = 1 := by
  unfold checkFavoriteMovieCompletions
  cases share.getAccountId with
  | none => rfl
  | some accountId => cases error <;> cases data <;> rfl

/-- A fetch of the favourites answers once. -/
theorem length_fetchFavoriteMovieCompletions {documents : Option (List Dictionary)} :
    (fetchFavoriteMovieCompletions share documents error realm).length = 1 := by
  unfold fetchFavoriteMovieCompletions
  split
  · cases share.getAccountId with
    | none => rfl
    | some accountId => cases error <;> cases documents <;> rfl
  · rw [RealmService.fetchFavoriteMovieCompletions_eq, List.length_singleton]

/-- A search by an account answers unless the snapshot is nil. -/
theorem length_searchFavoriteMovieCompletions {like : String → String → Bool}
    {searchText : String} {documents : Option (List Dictionary)} :
    (searchFavoriteMovieCompletions share like searchText documents error realm).length = 1 ↔
      (share.isLogin = true → error = none → documents.isSome) := by
  unfold searchFavoriteMovieCompletions
  split
  · next login =>
    obtain ⟨accountId, session⟩ := AccountService.getAccountId_of_isLogin login
    rw [session]
    cases error <;> cases documents <;> simp [login]
  · next signedOut =>
    rw [RealmService.searchFavoriteMovieCompletions_eq, List.length_singleton]
    exact iff_of_true rfl fun login => absurd login signedOut

end FavoriteMovieService

namespace ServiceCall

/-- A call invokes its completion exactly once when it answers. -/
theorem completions_eq_one_iff (fm : DateFormatter) (like : String → String → Bool)
    (call : ServiceCall) : call.completions fm like = 1 ↔ call.Answers := by
  cases call with
  | fetchMovie outcome =>
      simp only [completions, Answers, MovieService.fetchMovieCompletions_eq,
        List.length_singleton]
  | searchMovie outcome => exact MovieService.length_searchMovieCompletions
  | fetchVideo outcome =>
      exact iff_of_true (MovieService.length_fetchVideoCompletions outcome) trivial
  | addRealmMovie now movie failure realm =>
      exact RealmService.length_addFavoriteMovieCompletions
  | removeRealmMovie movieId failure realm =>
      exact RealmService.length_removeFavoriteMovieCompletions
  | checkRealmMovies movieIds realm =>
      refine iff_of_true ?_ trivial
      cases movieIds <;> rfl
  | searchRealmMovies searchText realm =>
      simp only [completions, Answers, RealmService.searchFavoriteMovieCompletions_eq,
        List.length_singleton]
  | fetchRealmMovies realm =>
      simp only [completions, Answers, RealmService.fetchFavoriteMovieCompletions_eq,
        List.length_singleton]
  | addFavoriteMovie share now movie failure realm =>
      exact FavoriteMovieService.length_addFavoriteMovieCompletions
  | removeFavoriteMovie share movieId failure realm =>
      exact FavoriteMovieService.length_removeFavoriteMovieCompletions
  | checkFavoriteMovie share data error =>
      exact iff_of_true FavoriteMovieService.length_checkFavoriteMovieCompletions trivial
  | fetchFavoriteMovie share documents error realm =>
      exact iff_of_true FavoriteMovieService.length_fetchFavoriteMovieCompletions trivial
  | searchFavoriteMovie share searchText documents error realm =>
      exact FavoriteMovieService.length_searchFavoriteMovieCompletions

end ServiceCall

/-! ## Calls that collect replies -/

namespace FavoriteSystem

/-- How often a check that comes up in a state invokes its completion over all events:
at once, or by its block. -/
def completions (events : List FavoriteEvent) (share : AccountService) (realm : Option Realm)
    (movieIds : Option (List Int)) (system : FavoriteSystem) : Nat :=
  match system.service.checkFavoriteMovies share realm movieIds system.calls.length with
  | .answered _ => 1
  | .requested .. => (events.filterMap FavoriteEvent.notified).count system.calls.length

/-- Every check of a list of ids answers exactly once. -/
def AnswersOnce (events : List FavoriteEvent) : Prop :=
  ∀ before share realm movieIds,
    before ++ [.checkFavoriteMovies share realm movieIds] <+: events →
      ∀ system, run before = some system → system.completions events share realm movieIds = 1

variable {system later : FavoriteSystem} {events : List FavoriteEvent}

/-- Once nothing is under way every check has answered exactly once. -/
theorem answersOnce_of_run (reached : run events = some later) (answered : later.requests = [])
    (drained : later.mainQueue = []) : AnswersOnce events := by
  intro before share realm movieIds inside system isBefore
  unfold completions
  cases asks : FavoriteMovieService.asks share movieIds with
  | none =>
      have atOnce : ∃ reply, system.service.checkFavoriteMovies share realm movieIds
          system.calls.length = .answered reply :=
        FavoriteMovieService.checkFavoriteMovies_of_quiet asks
      obtain ⟨reply, atOnce⟩ := atOnce
      rw [atOnce]
  | some ids =>
      rw [FavoriteMovieService.checkFavoriteMovies_of_asks asks]
      have nothing : (later.callGroup events).outstanding = 0 := by
        rw [callGroup, answered]
        rfl
      refine movesLike_callGroup.count_ran balanced_initial reached nothing drained inside
        isBefore fun following taken => ?_
      rw [step_of_asks asks] at taken
      cases taken
      change system.calls.length < (system.calls ++ [ids]).length
      rw [List.length_append]
      exact Nat.lt_succ_self _

end FavoriteSystem

/-- The request that the end of it does not answer. -/
def MovieEvent.lost (fm : DateFormatter) : MovieEvent → Option MovieRequest
  | reply request outcome =>
      if MovieService.partCompletions fm request.part outcome = 0 then some request else none
  | _ => none

namespace MovieSystem

/-- Every fetch of a movie answers exactly once. -/
def AnswersOnce (fm : DateFormatter) (events : List MovieEvent) : Prop :=
  ∀ before movieId, before ++ [.fetchMovieDetail movieId] <+: events →
    ∀ system, run fm before = some system →
      (events.filterMap MovieEvent.notified).count system.calls.length = 1

/-- All credits that came have a cast. -/
def EveryCast (events : List MovieEvent) : Prop :=
  ∀ request outcome, .reply request outcome ∈ events → request.part = .movieDetailCast →
    outcome.HasCast

variable {fm : DateFormatter} {system later : MovieSystem} {events : List MovieEvent}

/-- Only credits without a cast are not answered. -/
theorem lost_reply {request : MovieRequest} {outcome : Outcome} :
    MovieEvent.lost fm (.reply request outcome) = none ↔
      (request.part = .movieDetailCast → outcome.HasCast) := by
  have cast : (MovieService.fetchMovieCastCompletions outcome).length = 0 ↔ ¬ outcome.HasCast := by
    cases outcome with
    | invalidURL error => simp [MovieService.fetchMovieCastCompletions, Outcome.HasCast]
    | failure error => simp [MovieService.fetchMovieCastCompletions, Outcome.HasCast]
    | success value =>
        cases value with
        | none => simp [MovieService.fetchMovieCastCompletions, Outcome.HasCast]
        | some json =>
            simp only [MovieService.fetchMovieCastCompletions, Outcome.HasCast]
            cases (json.get "cast").array? <;> simp
  obtain ⟨call, part⟩ := request
  simp only [MovieEvent.lost, ite_eq_right_iff, reduceCtorEq, imp_false]
  cases part with
  | movieDetailCast => simp only [MovieService.partCompletions, cast, not_not, true_imp_iff]
  | movieDetail =>
      simp [MovieService.partCompletions, MovieService.fetchMovieOfIdCompletions_eq]
  | _ => simp [MovieService.partCompletions, MovieService.fetchMovieCompletions_eq]

/-- The requests without an answer are those of credits without a cast. -/
theorem unanswered_of_run (reached : run fm events = some system) :
    system.unanswered = events.filterMap (MovieEvent.lost fm) := by
  refine EventRun.invariant
    (fun before state => state.unanswered = before.filterMap (MovieEvent.lost fm)) rfl ?_ reached
  intro before event state next _ recorded taken
  rw [List.filterMap_append, ← recorded]
  cases event with
  | fetchMovieList =>
      cases taken
      exact (List.append_nil _).symm
  | fetchMovieDetail movieId =>
      cases taken
      exact (List.append_nil _).symm
  | notify call =>
      obtain ⟨-, rfl⟩ := step_notify_eq_some taken
      exact (List.append_nil _).symm
  | reply request outcome =>
      have count := @MovieService.length_park_eq fm outcome state.service request.part
      obtain ⟨-, ⟨parks, rfl⟩ | ⟨parked, dispatchGroup, submitted, parks, -, rfl⟩⟩ :=
        step_reply_eq_some taken
      · rw [parks] at count
        simp only [List.filterMap_cons, MovieEvent.lost, ← count]
        rfl
      · rw [parks] at count
        simp only [List.filterMap_cons, MovieEvent.lost, ← count]
        exact (List.append_nil _).symm

/-- Once nothing is under way, every fetch of a movie has answered exactly once, and
the group was left as often as it was entered, exactly when all credits had a cast. -/
theorem answersOnce_iff_everyCast (reached : run fm events = some later)
    (ended : later.requests = []) (drained : later.mainQueue = []) :
    AnswersOnce fm events ∧ later.service.dispatchGroup.entered = 0 ↔ EveryCast events := by
  have balanced := movesLike_callGroup.balanced balanced_initial reached
  have outstanding : (later.callGroup events).outstanding =
      ↑((events.filterMap (MovieEvent.lost fm)).map MovieRequest.call) := by
    rw [callGroup, ended, List.nil_append, unanswered_of_run reached]
  have everyCast : events.filterMap (MovieEvent.lost fm) = [] ↔ EveryCast events := by
    rw [List.filterMap_eq_nil_iff]
    constructor
    · exact fun found request outcome inside => lost_reply.mp (found _ inside)
    · intro casts event inside
      cases event with
      | reply request outcome => exact lost_reply.mpr (casts request outcome inside)
      | _ => rfl
  rw [← everyCast]
  constructor
  · rintro ⟨-, left⟩
    have nothing : (later.callGroup events).outstanding = 0 := by
      rw [← Multiset.card_eq_zero, ← balanced.entered]
      exact left
    rw [outstanding, Multiset.coe_eq_zero, List.map_eq_nil_iff] at nothing
    exact nothing
  · intro nothing
    have none : (later.callGroup events).outstanding = 0 := by
      rw [outstanding, nothing]
      rfl
    refine ⟨?_, balanced.entered.trans (by rw [none, Multiset.card_zero])⟩
    intro before movieId inside system isBefore
    refine movesLike_callGroup.count_ran balanced_initial reached none drained inside
      isBefore fun following taken => ?_
    cases taken
    change system.calls.length < (system.calls ++ [MovieCall.movieDetail movieId]).length
    rw [List.length_append]
    exact Nat.lt_succ_self _

end MovieSystem

/-- **Which service calls answer exactly once.** A call with at most one backend call
does on the arguments and outcomes of `ServiceCall.Answers`, a check of a list of ids
always does, and the fetches of movies do, with a balanced group, when all credits had
a cast. -/
theorem answersOnce_iff (fm : DateFormatter) (like : String → String → Bool) :
    (∀ call : ServiceCall, call.completions fm like = 1 ↔ call.Answers) ∧
      (∀ events system, FavoriteSystem.run events = some system → system.requests = [] →
        system.mainQueue = [] → FavoriteSystem.AnswersOnce events) ∧
      ∀ events system, MovieSystem.run fm events = some system → system.requests = [] →
        system.mainQueue = [] →
          (MovieSystem.AnswersOnce fm events ∧ system.service.dispatchGroup.entered = 0 ↔
            MovieSystem.EveryCast events) :=
  ⟨fun call => call.completions_eq_one_iff fm like,
    fun _ _ reached answered drained => FavoriteSystem.answersOnce_of_run reached answered drained,
    fun _ _ reached ended drained => MovieSystem.answersOnce_iff_everyCast reached ended drained⟩

/-- A search whose body is an empty dictionary is never answered. -/
theorem not_answersOnce_emptyBody :
    ¬ ∀ call : ServiceCall, call.completions (Gregorian.formatter ⟨0⟩) (fun _ _ => false) = 1 := by
  intro always
  exact absurd (always (.searchMovie (.success (some (.dictionary []))))) (by decide)

end MovieFun
