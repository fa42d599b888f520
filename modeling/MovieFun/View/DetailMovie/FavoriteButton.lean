import MovieFun.Foundation.Once
import MovieFun.Network.FavoriteMovieService
import MovieFun.View.DetailMovie.MovieDetailController

/-!
# The favourite button of a movie

The button of the detail screen is set by the check of the movie and by the completions of
additions and removals. The check asks the remote store for the id of the session, while a
session without a loaded account changes the local database. So when nothing is outstanding
the button tells what the store of the session has in every run exactly when the account is
loaded, or the local database has each movie as often as the check finds it
(`buttonTells_iff`).
-/

namespace MovieFun

open FavoriteMovieService

/-- What the button says of the movie. -/
inductive STATE_OF_MOVIE
  | IS_NOT_FAVORITE
  | IS_FAVORITE
deriving DecidableEq, Repr

namespace STATE_OF_MOVIE

/-- What the button says where the movie is a favourite, and where not. -/
def ofFavorite : Bool → STATE_OF_MOVIE
  | true => IS_FAVORITE
  | false => IS_NOT_FAVORITE

/-- Whether the button says that the movie is a favourite. -/
def isFavorite : STATE_OF_MOVIE → Bool
  | IS_FAVORITE => true
  | IS_NOT_FAVORITE => false

@[simp] theorem isFavorite_ofFavorite (isFavorite : Bool) :
    (ofFavorite isFavorite).isFavorite = isFavorite := by
  cases isFavorite <;> rfl

/-- The button says favourite in one state. -/
theorem isFavorite_iff {state : STATE_OF_MOVIE} :
    state.isFavorite = true ↔ state = IS_FAVORITE := by
  cases state <;> decide

end STATE_OF_MOVIE

/-- A change of the favourites. -/
inductive FavoriteChange
  | addFavoriteMovie (now : Date) (movie : Movie)
  | removeFavoriteMovie (movieId : Int)
deriving DecidableEq, Repr

/-- What the change makes of its movie. -/
def FavoriteChange.isFavorite : FavoriteChange → Bool
  | addFavoriteMovie .. => true
  | removeFavoriteMovie _ => false

/-- A change with the session it was asked for in. -/
structure FavoriteWrite where
  share : AccountService
  change : FavoriteChange
deriving DecidableEq, Repr

/-- The stores after a change, and what the completion makes of the reply, if it is called. -/
def FavoriteWrite.carryOut (write : FavoriteWrite) (failure : Option NSError)
    (stores : FavoriteStores) : Option (FavoriteStores × Option Bool) :=
  match write.change with
  | .addFavoriteMovie now movie => do
      let (stores, reply) ←
        FavoriteMovieService.addFavoriteMovie write.share now movie failure stores
      return (stores, reply.map fun error => error.isNone)
  | .removeFavoriteMovie movieId =>
      let (stores, reply) :=
        FavoriteMovieService.removeFavoriteMovie write.share movieId failure stores
      some (stores, reply.map fun (deleteSuccess, error) =>
        error.isNone && deleteSuccess.getD false)

/-- A check of the movie with the session it was asked for in. -/
structure FavoriteRead where
  share : AccountService
  movieId : Int
deriving DecidableEq, Repr

/-- The screen with its button, the session and the stores, and what is on its way. -/
structure FavoriteButton where
  share : AccountService
  stores : FavoriteStores
  controller : MovieDetailController
  stateOfMovie : STATE_OF_MOVIE := .IS_NOT_FAVORITE
  isChangeFavorite : Bool := false
  alerts : Nat := 0
  fetches : Nat := 0
  checks : List FavoriteRead := []
  answers : List (Option Bool × Option NSError) := []
  writes : List FavoriteWrite := []
  written : List (FavoriteChange × Bool) := []

/-- What can reach the screen. The remote store reads and carries out changes at instants of
its own. -/
inductive FavoriteButtonEvent
  | fetchReply (movie : Option Movie) (casts : Option (List Cast))
  | unanswered
  | read (check : FavoriteRead) (failure : Option NSError)
  | checkReply (answer : Option Bool × Option NSError)
  | tappedButtonAddFavorite (now : Date) (failure : Option NSError)
  | carryOut (write : FavoriteWrite) (failure : Option NSError)
  | told (change : FavoriteChange) (succeeded : Bool)
  | elsewhere (share : AccountService) (stores : FavoriteStores)

namespace FavoriteButton

/-- The screen as it is loaded. -/
def initial (movieId : String) (share : AccountService) (stores : FavoriteStores) :
    FavoriteButton :=
  let (controller, asks) := (MovieDetailSystem.initial movieId).controller.start
  { share, stores, controller, fetches := asks.toNat }

/-- The completion of the check. -/
def checkCompletion (answer : Option Bool × Option NSError) (system : FavoriteButton) :
    FavoriteButton :=
  { system with
    controller := system.controller.checkCompletion answer.1 answer.2
    stateOfMovie := match answer.2 with
      | none => .ofFavorite (answer.1.getD false)
      | some _ => system.stateOfMovie }

/-- The check of the movie. Without an id of the session it is answered at once. -/
def checkFavoriteMovie (movieId : Int) (system : FavoriteButton) : FavoriteButton :=
  match system.share.getAccountId with
  | none => system.checkCompletion (none, none)
  | some _ => { system with checks := system.checks ++ [⟨system.share, movieId⟩] }

/-- The completion of a change. -/
def changeCompletion (change : FavoriteChange) (succeeded : Bool) (system : FavoriteButton) :
    FavoriteButton :=
  { system with
    stateOfMovie := if succeeded then .ofFavorite change.isFavorite else system.stateOfMovie
    alerts := if succeeded then system.alerts else system.alerts + 1
    isChangeFavorite := false }

/-- The change that makes a movie a favourite or none. -/
def changeOf (isFavorite : Bool) (now : Date) (movie : Movie) (movieId : Int) : FavoriteChange :=
  if isFavorite then .addFavoriteMovie now movie else .removeFavoriteMovie movieId

/-- Without a loaded account the local database is changed at once. -/
def changeFavoriteMovie (isFavorite : Bool) (now : Date) (failure : Option NSError)
    (system : FavoriteButton) : Option FavoriteButton :=
  match system.controller.movie, system.controller.movie.bind Movie.id with
  | some movie, some movieId =>
      let write : FavoriteWrite := ⟨system.share, changeOf isFavorite now movie movieId⟩
      let system := { system with isChangeFavorite := true }
      if system.share.isLogin then some { system with writes := system.writes ++ [write] }
      else do
        let (stores, reply) ← write.carryOut failure system.stores
        let system := { system with stores }
        return match reply with
          | none => system
          | some succeeded => system.changeCompletion write.change succeeded
  | _, _ => some { system with alerts := system.alerts + 1 }

/-- The button is taken away when the movie cannot be loaded. -/
def enabled (system : FavoriteButton) : FavoriteButtonEvent → Bool
  | .fetchReply .. => 0 < system.fetches
  | .unanswered => 0 < system.fetches
  | .read check _ => check ∈ system.checks
  | .checkReply answer => answer ∈ system.answers
  | .tappedButtonAddFavorite .. => !system.controller.movieDetailViewModel.isLoadFail
  | .carryOut write _ => write ∈ system.writes
  | .told change succeeded => (change, succeeded) ∈ system.written
  | .elsewhere .. => true

/-- What an event does to the screen. -/
def handle (system : FavoriteButton) : FavoriteButtonEvent → Option FavoriteButton
  | .fetchReply movie casts =>
      let (controller, checked) := system.controller.fetchCompletion movie casts
      let system := { system with controller, fetches := system.fetches - 1 }
      match checked with
      | none => some system
      | some movieId => some (system.checkFavoriteMovie movieId)
  | .unanswered => some { system with fetches := system.fetches - 1 }
  | .read check failure =>
      some { system with
        checks := system.checks.erase check
        answers := system.answers ++
          [FavoriteMovieService.checkFavoriteMovie check.share check.movieId failure
            system.stores] }
  | .checkReply answer =>
      some ({ system with answers := system.answers.erase answer }.checkCompletion answer)
  | .tappedButtonAddFavorite now failure =>
      match system.stateOfMovie with
      | .IS_FAVORITE => system.changeFavoriteMovie false now failure
      | .IS_NOT_FAVORITE => system.changeFavoriteMovie true now failure
  | .carryOut write failure => do
      let (stores, reply) ← write.carryOut failure system.stores
      return { system with
        stores
        writes := system.writes.erase write
        written := system.written ++ reply.toList.map fun succeeded => (write.change, succeeded) }
  | .told change succeeded =>
      some ({ system with written := system.written.erase (change, succeeded) }.changeCompletion
        change succeeded)
  | .elsewhere share stores => some { system with share, stores }

/-- The screen after an event that can happen. -/
def step (system : FavoriteButton) (event : FavoriteButtonEvent) : Option FavoriteButton :=
  if system.enabled event then handle system event else none

/-- What is on its way. -/
def outstanding (system : FavoriteButton) : Nat × List FavoriteRead ×
    List (Option Bool × Option NSError) × List FavoriteWrite × List (FavoriteChange × Bool) :=
  (system.fetches, system.checks, system.answers, system.writes, system.written)

/-- Nothing is outstanding. -/
def AtRest (system : FavoriteButton) : Prop := system.outstanding = (0, [], [], [], [])

end FavoriteButton

/-- The store of the session has the movie. -/
def isKept (share : AccountService) (stores : FavoriteStores) (movieId : Int) : Bool :=
  if share.isLogin then
    (share.getAccountId.bind fun accountId => stores.data accountId (documentID movieId)).isSome
  else RealmService.checkFavoriteMovie movieId stores.realm

/-- What a check of the movie answers when it does not fail. -/
def isChecked (share : AccountService) (stores : FavoriteStores) (movieId : Int) : Bool :=
  (FavoriteMovieService.checkFavoriteMovie share movieId none stores).1.getD false

namespace FavoriteButton

/-- When nothing is outstanding the button tells what the store has, and no change is shown
as under way. -/
def Tells (system : FavoriteButton) : Prop :=
  system.AtRest → ∀ movieId, system.controller.movie.bind Movie.id = some movieId →
    (system.stateOfMovie = .IS_FAVORITE ↔ isKept system.share system.stores movieId) ∧
      system.isChangeFavorite = false

/-- The button is tapped when nothing is outstanding, the check is read without an error, and
nobody else changes the session or the favourites. -/
def Orderly (system : FavoriteButton) : FavoriteButtonEvent → Prop
  | .tappedButtonAddFavorite .. => system.AtRest
  | .read _ failure => failure = none
  | .elsewhere .. => False
  | _ => True

end FavoriteButton

/-- The store of the session has the movie exactly if it is a favourite, and the local
database has it once then. -/
inductive Holds (share : AccountService) (stores : FavoriteStores) (movieId : Int)
    (isFavorite : Bool) : Prop
  | remotely {accountId : String} (login : share.isLogin = true)
      (session : share.getAccountId = some accountId)
      (document : (stores.data accountId (documentID movieId)).isSome = isFavorite)
  | locally {objects : Realm} (signedOut : share.isLogin = false)
      (isRealm : stores.realm = some objects)
      (single : (RealmService.movieIds objects).count movieId = isFavorite.toNat)

section Holds

variable {share : AccountService} {stores : FavoriteStores} {movieId : Int} {isFavorite : Bool}

/-- What the local database keeps. -/
theorem isKept_locally {objects : Realm} (signedOut : share.isLogin = false)
    (isRealm : stores.realm = some objects) :
    isKept share stores movieId = decide (movieId ∈ RealmService.movieIds objects) := by
  rw [isKept, signedOut, if_neg Bool.false_ne_true, isRealm, RealmService.checkFavoriteMovie_some]

/-- What holds of a movie is what is kept of it. -/
theorem isKept_of_holds (holds : Holds share stores movieId isFavorite) :
    isKept share stores movieId = isFavorite := by
  cases holds with
  | remotely login session document =>
      rw [isKept, if_pos login, session, Option.bind_some, document]
  | locally signedOut isRealm single =>
      rw [isKept_locally signedOut isRealm, Bool.eq_iff_iff, decide_eq_true_iff,
        ← List.count_pos_iff, single]
      cases isFavorite <;> decide

/-- A change is carried out by the remote store. -/
theorem carryOut_remotely {accountId : String} {now : Date} {movie : Movie}
    {failure : Option NSError} (named : movie.id = some movieId) (login : share.isLogin = true)
    (session : share.getAccountId = some accountId)
    (document : (stores.data accountId (documentID movieId)).isSome = isFavorite) :
    ∃ next succeeded,
      FavoriteWrite.carryOut ⟨share, FavoriteButton.changeOf (!isFavorite) now movie movieId⟩
        failure stores = some (next, some succeeded) ∧
      (next.data accountId (documentID movieId)).isSome =
        if succeeded then !isFavorite else isFavorite := by
  cases isFavorite with
  | false =>
      obtain ⟨dictionary, written⟩ : ∃ dictionary,
          movieDictionary now movie = some dictionary := ⟨_, congrArg (Option.map _) named⟩
      simp only [FavoriteWrite.carryOut, FavoriteButton.changeOf, Bool.not_false, if_true,
        addFavoriteMovie_of_login login session named written, Option.bind_eq_bind]
      cases failure with
      | none => exact ⟨_, true, rfl, by rw [FavoriteStores.data_setData, if_pos rfl]; rfl⟩
      | some error => exact ⟨_, false, rfl, document⟩
  | true =>
      simp only [FavoriteWrite.carryOut, FavoriteButton.changeOf, Bool.not_true, if_false,
        Bool.false_eq_true, removeFavoriteMovie_of_login login session]
      cases failure with
      | none => exact ⟨_, true, rfl, by rw [FavoriteStores.data_delete, if_pos rfl]; rfl⟩
      | some error => exact ⟨_, false, rfl, document⟩

/-- A removal from the local database takes away one of the objects of the movie. -/
theorem carryOut_removal {objects : Realm} (signedOut : share.isLogin = false)
    (isRealm : stores.realm = some objects) (inside : movieId ∈ RealmService.movieIds objects)
    (failure : Option NSError) :
    ∃ next later, FavoriteWrite.carryOut ⟨share, .removeFavoriteMovie movieId⟩ failure stores =
        some (next, some failure.isNone) ∧ next.realm = some later ∧
      RealmService.movieIds later =
        if failure.isNone then (RealmService.movieIds objects).erase movieId
        else RealmService.movieIds objects := by
  have found : (objects.find? (RealmService.HasId movieId)).isSome = true := by
    have isFound := @RealmService.checkFavoriteMovie_some movieId objects
    rw [RealmService.checkFavoriteMovie, Option.bind_some] at isFound
    rw [isFound, decide_eq_true inside]
  obtain ⟨movieModel, isFound⟩ := Option.isSome_iff_exists.mp found
  have isSignedOut : ¬ share.isLogin = true := by
    rw [signedOut]
    decide
  simp only [FavoriteWrite.carryOut, removeFavoriteMovie_of_signedOut isSignedOut, isRealm,
    RealmService.removeFavoriteMovie_of_found failure isFound]
  cases failure with
  | none =>
      obtain ⟨later, isLater, erased⟩ := RealmService.removeFavoriteMovie_some movieId objects
      rw [RealmService.removeFavoriteMovie_of_found none isFound] at isLater
      exact ⟨_, later, rfl, isLater, erased⟩
  | some error => exact ⟨_, _, rfl, rfl, rfl⟩

/-- An addition to a local database that is there makes one object of the movie more. -/
theorem carryOut_addition {movie : Movie} (named : movie.id = some movieId)
    (signedOut : share.isLogin = false) (now : Date) (failure : Option NSError) :
    ∃ next, FavoriteWrite.carryOut ⟨share, .addFavoriteMovie now movie⟩ failure stores =
        some (next, some (stores.realm.isNone || failure.isNone)) ∧
      next.realm.map RealmService.movieIds = stores.realm.map fun objects =>
        if failure.isNone then RealmService.movieIds objects ++ [movieId]
        else RealmService.movieIds objects := by
  have isSignedOut : ¬ share.isLogin = true := by
    rw [signedOut]
    decide
  simp only [FavoriteWrite.carryOut, addFavoriteMovie_of_signedOut isSignedOut,
    RealmService.addFavoriteMovie_def, RealmService.getMovieModel, named, Option.map_some,
    Option.bind_eq_bind, Option.bind_some]
  cases isRealm : stores.realm with
  | none => exact ⟨_, rfl, rfl⟩
  | some objects =>
      cases failure with
      | none =>
          refine ⟨_, rfl, congrArg some ?_⟩
          rw [RealmService.movieIds, List.map_append, List.map_singleton]
          rfl
      | some error => exact ⟨_, rfl, rfl⟩

/-- A change is carried out by the local database. -/
theorem carryOut_locally {objects : Realm} {now : Date} {movie : Movie}
    {failure : Option NSError} (named : movie.id = some movieId)
    (signedOut : share.isLogin = false) (isRealm : stores.realm = some objects)
    (single : (RealmService.movieIds objects).count movieId = isFavorite.toNat) :
    ∃ next later succeeded,
      FavoriteWrite.carryOut ⟨share, FavoriteButton.changeOf (!isFavorite) now movie movieId⟩
        failure stores = some (next, some succeeded) ∧ next.realm = some later ∧
      (RealmService.movieIds later).count movieId =
        (if succeeded then !isFavorite else isFavorite).toNat := by
  cases isFavorite with
  | false =>
      obtain ⟨next, carriedOut, after⟩ := carryOut_addition named signedOut now failure
      rw [isRealm, Option.map_some, Option.map_eq_some_iff] at after
      obtain ⟨later, isLater, listed⟩ := after
      refine ⟨next, later, _, carriedOut, isLater, ?_⟩
      rw [listed, isRealm, Option.isNone_some, Bool.false_or]
      cases failure with
      | none =>
          rw [Option.isNone_none, if_pos rfl, List.count_append, single,
            List.count_singleton_self]
          rfl
      | some error => exact single
  | true =>
      have inside : movieId ∈ RealmService.movieIds objects := by
        rw [← List.count_pos_iff, single]
        decide
      obtain ⟨next, later, carriedOut, isLater, listed⟩ :=
        carryOut_removal signedOut isRealm inside failure
      refine ⟨next, later, _, carriedOut, isLater, ?_⟩
      rw [listed]
      cases failure with
      | none =>
          rw [Option.isNone_none, if_pos rfl, List.count_erase_self, single]
          rfl
      | some error => exact single

/-- A change that turns the movie over is told, and if it was carried out it is told so. -/
theorem carryOut_of_holds {movie : Movie} (holds : Holds share stores movieId isFavorite)
    (named : movie.id = some movieId) (now : Date) (failure : Option NSError) :
    ∃ next succeeded,
      FavoriteWrite.carryOut ⟨share, FavoriteButton.changeOf (!isFavorite) now movie movieId⟩
        failure stores = some (next, some succeeded) ∧
      Holds share next movieId (if succeeded then !isFavorite else isFavorite) := by
  cases holds with
  | remotely login session document =>
      obtain ⟨next, succeeded, carriedOut, after⟩ := carryOut_remotely named login session document
      exact ⟨next, succeeded, carriedOut, .remotely login session after⟩
  | locally signedOut isRealm single =>
      obtain ⟨next, later, succeeded, carriedOut, isLater, after⟩ :=
        carryOut_locally named signedOut isRealm single
      exact ⟨next, succeeded, carriedOut, .locally signedOut isLater after⟩

end Holds

namespace FavoriteButton

/-- The course of the screen of a movie. -/
inductive Phase (share : AccountService) (stores : FavoriteStores) (system : FavoriteButton) :
    Prop
  | loading (waits : system.outstanding = (1, [], [], [], []))
      (unknown : system.controller.movie = none) (unchanged : system.stores = stores)
      (idle : system.isChangeFavorite = false)
  | unloaded (waits : system.outstanding = (0, [], [], [], []))
      (unknown : system.controller.movie = none)
  | checking {movieId : Int} (waits : system.outstanding = (0, [⟨share, movieId⟩], [], [], []))
      (named : system.controller.movie.bind Movie.id = some movieId)
      (unchanged : system.stores = stores) (idle : system.isChangeFavorite = false)
  | checked {movieId : Int}
      (waits : system.outstanding =
        (0, [], [FavoriteMovieService.checkFavoriteMovie share movieId none stores], [], []))
      (named : system.controller.movie.bind Movie.id = some movieId)
      (unchanged : system.stores = stores) (idle : system.isChangeFavorite = false)
  | resting {movieId : Int} (waits : system.outstanding = (0, [], [], [], []))
      (named : system.controller.movie.bind Movie.id = some movieId)
      (holds : Holds share system.stores movieId system.stateOfMovie.isFavorite)
      (idle : system.isChangeFavorite = false)
  | writing {movieId : Int} {now : Date} {movie : Movie}
      (waits : system.outstanding =
        (0, [], [], [⟨share, changeOf (!system.stateOfMovie.isFavorite) now movie movieId⟩], []))
      (isMovie : system.controller.movie = some movie) (named : movie.id = some movieId)
      (holds : Holds share system.stores movieId system.stateOfMovie.isFavorite)
  | telling {movieId : Int} {now : Date} {movie : Movie} {succeeded : Bool}
      (waits : system.outstanding = (0, [], [], [],
        [(changeOf (!system.stateOfMovie.isFavorite) now movie movieId, succeeded)]))
      (isMovie : system.controller.movie = some movie) (named : movie.id = some movieId)
      (holds : Holds share system.stores movieId
        (if succeeded then !system.stateOfMovie.isFavorite else system.stateOfMovie.isFavorite))

/-- What is outstanding, part by part. -/
theorem outstanding_eq {system : FavoriteButton} {fetches : Nat} {checks : List FavoriteRead}
    {answers : List (Option Bool × Option NSError)} {writes : List FavoriteWrite}
    {written : List (FavoriteChange × Bool)} :
    system.outstanding = (fetches, checks, answers, writes, written) ↔
      system.fetches = fetches ∧ system.checks = checks ∧ system.answers = answers ∧
        system.writes = writes ∧ system.written = written := by
  simp only [outstanding, Prod.mk.injEq]

variable {share : AccountService} {stores : FavoriteStores} {system next : FavoriteButton}
  {event : FavoriteButtonEvent}

/-- In every phase in which nothing is outstanding the button tells what the store has. -/
theorem tells_of_phase (session : system.share = share) (phase : Phase share stores system) :
    system.Tells := by
  intro rest movieId isMovie
  cases phase with
  | loading waits => cases rest.symm.trans waits
  | unloaded _ unknown =>
      rw [unknown] at isMovie
      cases isMovie
  | checking waits => cases rest.symm.trans waits
  | checked waits => cases rest.symm.trans waits
  | resting _ named holds idle =>
      cases named.symm.trans isMovie
      rw [session, isKept_of_holds holds, STATE_OF_MOVIE.isFavorite_iff]
      exact ⟨Iff.rfl, idle⟩
  | writing waits => cases rest.symm.trans waits
  | telling waits => cases rest.symm.trans waits

/-- The completion of the fetch checks the movie that it shows, if it has an id. -/
theorem fetchCompletion_cases (movie : Option Movie) (casts : Option (List Cast))
    (controller : MovieDetailController) :
    (∃ movieId, (controller.fetchCompletion movie casts).2 = some movieId ∧
        (controller.fetchCompletion movie casts).1.movie.bind Movie.id = some movieId) ∨
      (controller.fetchCompletion movie casts).2 = none ∧
        (controller.fetchCompletion movie casts).1.movie = controller.movie := by
  cases movie with
  | none => exact .inr ⟨rfl, rfl⟩
  | some movie =>
      cases named : movie.id with
      | none =>
          simp only [MovieDetailController.fetchCompletion, Option.bind_some, named]
          exact .inr ⟨trivial, trivial⟩
      | some movieId =>
          simp only [MovieDetailController.fetchCompletion, Option.bind_some, named]
          exact .inl ⟨movieId, rfl, rfl⟩

/-- A check that does not fail answers without an error. -/
theorem snd_checkFavoriteMovie (share : AccountService) (movieId : Int)
    (stores : FavoriteStores) :
    (FavoriteMovieService.checkFavoriteMovie share movieId none stores).2 = none := by
  cases known : share.getAccountId with
  | none => rw [FavoriteMovieService.checkFavoriteMovie_of_none known]
  | some accountId =>
      rw [FavoriteMovieService.checkFavoriteMovie_of_some known]
      rfl

/-- What a change is to lead to. -/
theorem isFavorite_changeOf (isFavorite : Bool) (now : Date) (movie : Movie) (movieId : Int) :
    (changeOf isFavorite now movie movieId).isFavorite = isFavorite := by
  cases isFavorite <;> rfl

/-- A tap asks for the change of what the button says. -/
theorem handle_tapped (now : Date) (failure : Option NSError) :
    system.handle (.tappedButtonAddFavorite now failure) =
      system.changeFavoriteMovie (!system.stateOfMovie.isFavorite) now failure := by
  rw [handle]
  cases system.stateOfMovie <;> rfl

/-- What a completion of a change makes of the button. -/
theorem isFavorite_changeCompletion {state : STATE_OF_MOVIE} {isFavorite succeeded : Bool}
    {now : Date} {movie : Movie} {movieId : Int} :
    (if succeeded then STATE_OF_MOVIE.ofFavorite (changeOf isFavorite now movie movieId).isFavorite
      else state).isFavorite = if succeeded then isFavorite else state.isFavorite := by
  cases succeeded with
  | false => rfl
  | true =>
      rw [if_pos rfl, if_pos rfl, isFavorite_changeOf, STATE_OF_MOVIE.isFavorite_ofFavorite]

section Steps

/-- Only the screen that loads waits for its fetch. -/
theorem loading_of_asks (phase : Phase share stores system) (asks : 0 < system.fetches) :
    system.outstanding = (1, [], [], [], []) ∧ system.controller.movie = none ∧
      system.stores = stores ∧ system.isChangeFavorite = false := by
  cases phase with
  | loading waits unknown unchanged idle => exact ⟨waits, unknown, unchanged, idle⟩
  | unloaded waits | checking waits | checked waits | resting waits | writing waits
  | telling waits => exact absurd asks ((outstanding_eq.mp waits).1 ▸ Nat.lt_irrefl 0)

/-- The one check is of the movie on the screen. -/
theorem checking_of_mem (phase : Phase share stores system) {check : FavoriteRead}
    (waiting : check ∈ system.checks) :
    ∃ movieId, check = ⟨share, movieId⟩ ∧ system.outstanding = (0, [check], [], [], []) ∧
      system.controller.movie.bind Movie.id = some movieId ∧ system.stores = stores ∧
      system.isChangeFavorite = false := by
  cases phase with
  | checking waits named unchanged idle =>
      rw [(outstanding_eq.mp waits).2.1, List.mem_singleton] at waiting
      subst waiting
      exact ⟨_, rfl, waits, named, unchanged, idle⟩
  | loading waits | unloaded waits | checked waits | resting waits | writing waits
  | telling waits =>
      rw [(outstanding_eq.mp waits).2.1] at waiting
      exact absurd waiting List.not_mem_nil

/-- The one answer is that of the stores to the check of the movie on the screen. -/
theorem checked_of_mem (phase : Phase share stores system)
    {answer : Option Bool × Option NSError} (waiting : answer ∈ system.answers) :
    ∃ movieId, answer = FavoriteMovieService.checkFavoriteMovie share movieId none stores ∧
      system.outstanding = (0, [], [answer], [], []) ∧
      system.controller.movie.bind Movie.id = some movieId ∧ system.stores = stores ∧
      system.isChangeFavorite = false := by
  cases phase with
  | checked waits named unchanged idle =>
      rw [(outstanding_eq.mp waits).2.2.1, List.mem_singleton] at waiting
      subst waiting
      exact ⟨_, rfl, waits, named, unchanged, idle⟩
  | loading waits | unloaded waits | checking waits | resting waits | writing waits
  | telling waits =>
      rw [(outstanding_eq.mp waits).2.2.1] at waiting
      exact absurd waiting List.not_mem_nil

/-- The one change under way turns the movie on the screen over. -/
theorem writing_of_mem (phase : Phase share stores system) {write : FavoriteWrite}
    (waiting : write ∈ system.writes) :
    ∃ movieId now movie,
      write = ⟨share, changeOf (!system.stateOfMovie.isFavorite) now movie movieId⟩ ∧
      system.outstanding = (0, [], [], [write], []) ∧ system.controller.movie = some movie ∧
      movie.id = some movieId ∧
      Holds share system.stores movieId system.stateOfMovie.isFavorite := by
  cases phase with
  | writing waits isMovie named holds =>
      rw [(outstanding_eq.mp waits).2.2.2.1, List.mem_singleton] at waiting
      subst waiting
      exact ⟨_, _, _, rfl, waits, isMovie, named, holds⟩
  | loading waits | unloaded waits | checking waits | checked waits | resting waits
  | telling waits =>
      rw [(outstanding_eq.mp waits).2.2.2.1] at waiting
      exact absurd waiting List.not_mem_nil

/-- The one change that was carried out turned the movie over, unless it failed. -/
theorem telling_of_mem (phase : Phase share stores system) {change : FavoriteChange}
    {succeeded : Bool} (waiting : (change, succeeded) ∈ system.written) :
    ∃ movieId now movie,
      change = changeOf (!system.stateOfMovie.isFavorite) now movie movieId ∧
      system.outstanding = (0, [], [], [], [(change, succeeded)]) ∧
      system.controller.movie = some movie ∧ movie.id = some movieId ∧
      Holds share system.stores movieId
        (if succeeded then !system.stateOfMovie.isFavorite
          else system.stateOfMovie.isFavorite) := by
  cases phase with
  | telling waits isMovie named holds =>
      rw [(outstanding_eq.mp waits).2.2.2.2, List.mem_singleton] at waiting
      cases waiting
      exact ⟨_, _, _, rfl, waits, isMovie, named, holds⟩
  | loading waits | unloaded waits | checking waits | checked waits | resting waits
  | writing waits =>
      rw [(outstanding_eq.mp waits).2.2.2.2] at waiting
      exact absurd waiting List.not_mem_nil

/-- A screen at rest has no movie, or its button tells what the store has. -/
theorem resting_of_atRest (phase : Phase share stores system) (rest : system.AtRest) :
    system.controller.movie = none ∨ ∃ movieId,
      system.controller.movie.bind Movie.id = some movieId ∧
      Holds share system.stores movieId system.stateOfMovie.isFavorite := by
  cases phase with
  | unloaded _ unknown => exact .inl unknown
  | resting _ named holds => exact .inr ⟨_, named, holds⟩
  | loading waits | checking waits | checked waits | writing waits | telling waits =>
      cases rest.symm.trans waits

/-- The reply to the fetch keeps the phase. -/
theorem phase_fetchReply {movie : Option Movie} {casts : Option (List Cast)}
    (sound : ∀ movieId, Holds share stores movieId (isChecked share stores movieId))
    (session : system.share = share) (phase : Phase share stores system)
    (asks : 0 < system.fetches) (handled : system.handle (.fetchReply movie casts) = some next) :
    next.share = share ∧ Phase share stores next := by
  obtain ⟨waits, unknown, unchanged, idle⟩ := loading_of_asks phase asks
  obtain ⟨fetches, checks, others⟩ := outstanding_eq.mp waits
  have answered : system.fetches - 1 = 0 := by rw [fetches]
  rw [handle] at handled
  rcases fetchCompletion_cases movie casts system.controller with
    ⟨movieId, asked, named⟩ | ⟨nothing, same⟩
  · simp only [asked, checkFavoriteMovie] at handled
    cases known : system.share.getAccountId with
    | none =>
        have unchecked : isChecked share stores movieId = false := by
          rw [isChecked, FavoriteMovieService.checkFavoriteMovie_of_none (session ▸ known)]
          rfl
        have holds : Holds share stores movieId false := unchecked ▸ sound movieId
        simp only [known, Option.some.injEq] at handled
        subst handled
        exact ⟨session, .resting (outstanding_eq.mpr ⟨answered, checks, others⟩) named
          (unchanged ▸ holds) idle⟩
    | some accountId =>
        have isCheck : system.checks ++ [⟨system.share, movieId⟩] = [⟨share, movieId⟩] := by
          rw [checks, session, List.nil_append]
        simp only [known, Option.some.injEq] at handled
        subst handled
        exact ⟨session, .checking (outstanding_eq.mpr ⟨answered, isCheck, others⟩) named unchanged
          idle⟩
  · simp only [nothing, Option.some.injEq] at handled
    subst handled
    exact ⟨session, .unloaded (outstanding_eq.mpr ⟨answered, checks, others⟩)
      (same.trans unknown)⟩

/-- A fetch without an answer keeps the phase. -/
theorem phase_unanswered (session : system.share = share) (phase : Phase share stores system)
    (asks : 0 < system.fetches) (handled : system.handle .unanswered = some next) :
    next.share = share ∧ Phase share stores next := by
  obtain ⟨waits, unknown, -, -⟩ := loading_of_asks phase asks
  obtain ⟨fetches, others⟩ := outstanding_eq.mp waits
  cases handled
  exact ⟨session, .unloaded (outstanding_eq.mpr ⟨by rw [fetches], others⟩) unknown⟩

/-- A read of the check keeps the phase. -/
theorem phase_read {check : FavoriteRead} (session : system.share = share)
    (phase : Phase share stores system) (waiting : check ∈ system.checks)
    (handled : system.handle (.read check none) = some next) :
    next.share = share ∧ Phase share stores next := by
  obtain ⟨movieId, rfl, waits, named, unchanged, idle⟩ := checking_of_mem phase waiting
  obtain ⟨fetches, checks, answers, others⟩ := outstanding_eq.mp waits
  cases handled
  refine ⟨session, .checked (outstanding_eq.mpr ⟨fetches, ?_, ?_, others⟩) named unchanged idle⟩
  · rw [checks, List.erase_cons_head]
  · rw [answers, unchanged, List.nil_append]

/-- The answer of the check keeps the phase. -/
theorem phase_checkReply {answer : Option Bool × Option NSError}
    (sound : ∀ movieId, Holds share stores movieId (isChecked share stores movieId))
    (session : system.share = share) (phase : Phase share stores system)
    (waiting : answer ∈ system.answers)
    (handled : system.handle (.checkReply answer) = some next) :
    next.share = share ∧ Phase share stores next := by
  obtain ⟨movieId, isAnswer, waits, named, unchanged, idle⟩ := checked_of_mem phase waiting
  obtain ⟨fetches, checks, answers, others⟩ := outstanding_eq.mp waits
  have succeeded : answer.2 = none := isAnswer ▸ snd_checkFavoriteMovie share movieId stores
  cases handled
  refine ⟨session, .resting (outstanding_eq.mpr ⟨fetches, checks, ?_, others⟩) named ?_ idle⟩
  · rw [checkCompletion, answers, List.erase_cons_head]
  · simp only [checkCompletion, succeeded, STATE_OF_MOVIE.isFavorite_ofFavorite]
    rw [unchanged, isAnswer]
    exact sound movieId

/-- A tap at rest keeps the phase. -/
theorem phase_tapped {now : Date} {failure : Option NSError} (session : system.share = share)
    (phase : Phase share stores system) (rest : system.AtRest)
    (handled : system.handle (.tappedButtonAddFavorite now failure) = some next) :
    next.share = share ∧ Phase share stores next := by
  obtain ⟨fetches, checks, answers, writes, written⟩ := outstanding_eq.mp rest
  subst session
  rw [handle_tapped, changeFavoriteMovie] at handled
  rcases resting_of_atRest phase rest with unknown | ⟨movieId, named, holds⟩
  · simp only [unknown, Option.bind_none, Option.some.injEq] at handled
    subst handled
    exact ⟨rfl, .unloaded rest unknown⟩
  · obtain ⟨movie, isMovie, isNamed⟩ := Option.bind_eq_some_iff.mp named
    simp only [isMovie, Option.bind_some, isNamed] at handled
    split at handled
    · have isWrite : system.writes ++
          [⟨system.share, changeOf (!system.stateOfMovie.isFavorite) now movie movieId⟩] =
            [⟨system.share, changeOf (!system.stateOfMovie.isFavorite) now movie movieId⟩] := by
        rw [writes, List.nil_append]
      cases handled
      exact ⟨rfl, .writing (outstanding_eq.mpr ⟨fetches, checks, answers, isWrite, written⟩)
        isMovie isNamed holds⟩
    · obtain ⟨later, succeeded, carriedOut, after⟩ := carryOut_of_holds holds isNamed now failure
      simp only [carriedOut, Option.bind_eq_bind, Option.bind_some, Option.pure_def,
        Option.some.injEq] at handled
      subst handled
      refine ⟨rfl, .resting (outstanding_eq.mpr ⟨fetches, checks, answers, writes, written⟩)
        named ?_ rfl⟩
      rw [changeCompletion, isFavorite_changeCompletion]
      exact after

/-- A write that is carried out keeps the phase. -/
theorem phase_carryOut {write : FavoriteWrite} {failure : Option NSError}
    (session : system.share = share) (phase : Phase share stores system)
    (waiting : write ∈ system.writes)
    (handled : system.handle (.carryOut write failure) = some next) :
    next.share = share ∧ Phase share stores next := by
  obtain ⟨movieId, now, movie, rfl, waits, isMovie, named, holds⟩ := writing_of_mem phase waiting
  obtain ⟨fetches, checks, answers, writes, written⟩ := outstanding_eq.mp waits
  obtain ⟨later, succeeded, carriedOut, after⟩ := carryOut_of_holds holds named now failure
  have carried : system.writes.erase
      ⟨share, changeOf (!system.stateOfMovie.isFavorite) now movie movieId⟩ = [] := by
    rw [writes, List.erase_cons_head]
  have tells : system.written ++
      [(changeOf (!system.stateOfMovie.isFavorite) now movie movieId, succeeded)] =
        [(changeOf (!system.stateOfMovie.isFavorite) now movie movieId, succeeded)] := by
    rw [written, List.nil_append]
  rw [handle, carriedOut] at handled
  cases handled
  exact ⟨session, .telling (outstanding_eq.mpr ⟨fetches, checks, answers, carried, tells⟩)
    isMovie named after⟩

/-- A write that is told keeps the phase. -/
theorem phase_told {change : FavoriteChange} {succeeded : Bool} (session : system.share = share)
    (phase : Phase share stores system) (waiting : (change, succeeded) ∈ system.written)
    (handled : system.handle (.told change succeeded) = some next) :
    next.share = share ∧ Phase share stores next := by
  obtain ⟨movieId, now, movie, rfl, waits, isMovie, named, holds⟩ := telling_of_mem phase waiting
  obtain ⟨fetches, checks, answers, writes, written⟩ := outstanding_eq.mp waits
  cases handled
  refine ⟨session, .resting (outstanding_eq.mpr ⟨fetches, checks, answers, writes, ?_⟩)
    (Option.bind_eq_some_iff.mpr ⟨movie, isMovie, named⟩) ?_ rfl⟩
  · rw [changeCompletion, written, List.erase_cons_head]
  · rw [changeCompletion, isFavorite_changeCompletion]
    exact holds

/-- An orderly step keeps the course of the screen. -/
theorem phase_of_step
    (sound : ∀ movieId, Holds share stores movieId (isChecked share stores movieId))
    (session : system.share = share) (phase : Phase share stores system)
    (orderly : system.Orderly event) (taken : system.step event = some next) :
    next.share = share ∧ Phase share stores next := by
  unfold step at taken
  split at taken
  · next possible =>
    cases event with
    | fetchReply movie casts =>
        exact phase_fetchReply sound session phase (of_decide_eq_true possible) taken
    | unanswered => exact phase_unanswered session phase (of_decide_eq_true possible) taken
    | read check failure =>
        cases orderly
        exact phase_read session phase (of_decide_eq_true possible) taken
    | checkReply answer =>
        exact phase_checkReply sound session phase (of_decide_eq_true possible) taken
    | tappedButtonAddFavorite now failure => exact phase_tapped session phase orderly taken
    | carryOut write failure =>
        exact phase_carryOut session phase (of_decide_eq_true possible) taken
    | told change succeeded => exact phase_told session phase (of_decide_eq_true possible) taken
    | elsewhere share stores => exact orderly.elim
  · cases taken

end Steps

/-- The screen of an id that is asked for loads. -/
theorem initial_of_accepted {movieId : String}
    (accepted : Utils.validateNumber (some movieId) = true) (share : AccountService)
    (stores : FavoriteStores) :
    ∃ movieDetailViewModel : MovieDetailViewModel,
      initial movieId share stores =
        { share, stores, controller := { movieDetailViewModel }, fetches := 1 } := by
  have isAccepted : Utils.validateNumber
      (some (MovieDetailSystem.initial movieId).controller.movieDetailViewModel.movieId) = true :=
    accepted
  simp only [initial, MovieDetailController.start]
  rw [if_pos isAccepted]
  exact ⟨_, rfl⟩

/-- The check and the store of the session agree, and the local database has a movie once. -/
theorem holds_isChecked_iff :
    (∀ movieId, Holds share stores movieId (isChecked share stores movieId)) ↔
      share.isLogin = true ∨ ∃ objects, stores.realm = some objects ∧ ∀ movieId,
        (RealmService.movieIds objects).count movieId =
          (isChecked share stores movieId).toNat := by
  constructor
  · intro sound
    by_cases login : share.isLogin = true
    · exact .inl login
    · cases sound 0 with
      | remotely isLogin => exact .inl isLogin
      | locally _ isRealm =>
          refine .inr ⟨_, isRealm, fun movieId => ?_⟩
          cases sound movieId with
          | remotely isLogin => exact absurd isLogin login
          | locally _ isRealm' single =>
              cases isRealm.symm.trans isRealm'
              exact single
  · intro condition movieId
    by_cases login : share.isLogin = true
    · obtain ⟨accountId, session⟩ := AccountService.getAccountId_of_isLogin login
      refine .remotely login session ?_
      rw [isChecked, FavoriteMovieService.checkFavoriteMovie_of_some session]
      rfl
    · rcases condition with isLogin | ⟨objects, isRealm, single⟩
      · exact absurd isLogin login
      · exact .locally (Bool.not_eq_true _ ▸ login) isRealm (single movieId)

/-- A screen whose movie is shown and checked. -/
structure Shown (share : AccountService) (stores : FavoriteStores) (movieId : Int)
    (system : FavoriteButton) : Prop where
  session : system.share = share
  unchanged : system.stores = stores
  rest : system.AtRest
  isMovie : system.controller.movie = some { id := some movieId }
  state : system.stateOfMovie = .ofFavorite (isChecked share stores movieId)
  loaded : system.controller.movieDetailViewModel.isLoadFail = false

/-- Each movie can be shown. -/
theorem exists_shown {movieId : String}
    (accepted : Utils.validateNumber (some movieId) = true) (share : AccountService)
    (stores : FavoriteStores) (id : Int) :
    ∃ system, EventRun.Attains step Orderly (initial movieId share stores) system ∧
      Shown share stores id system := by
  obtain ⟨movieDetailViewModel, isInitial⟩ := initial_of_accepted accepted share stores
  let movie : Movie := { id := some id }
  let loaded : FavoriteButton :=
    { share, stores
      controller :=
        (MovieDetailController.fetchCompletion (some movie) none { movieDetailViewModel }).1 }
  have fetched : step (initial movieId share stores) (.fetchReply (some movie) none) =
      some (loaded.checkFavoriteMovie id) := by
    rw [isInitial]
    rfl
  have first : EventRun.Attains step Orderly (initial movieId share stores)
      (loaded.checkFavoriteMovie id) := EventRun.attains_start.concat fetched trivial
  cases known : share.getAccountId with
  | none =>
      have unchecked : isChecked share stores id = false := by
        rw [isChecked, FavoriteMovieService.checkFavoriteMovie_of_none known]
        rfl
      have answered : loaded.checkFavoriteMovie id = loaded.checkCompletion (none, none) := by
        rw [checkFavoriteMovie, known]
      refine ⟨_, first, ?_⟩
      rw [answered]
      exact ⟨rfl, rfl, rfl, rfl, unchecked ▸ rfl, rfl⟩
  | some accountId =>
      let answer := FavoriteMovieService.checkFavoriteMovie share id none stores
      let checking : FavoriteButton := { loaded with checks := [⟨share, id⟩] }
      let checked : FavoriteButton := { loaded with answers := [answer] }
      have asked : loaded.checkFavoriteMovie id = checking := by
        rw [checkFavoriteMovie, known]
        rfl
      have isRead : step checking (.read ⟨share, id⟩ none) = some checked := by
        rw [step, enabled, if_pos (decide_eq_true List.mem_cons_self), handle,
          List.erase_cons_head]
        rfl
      have replied : step checked (.checkReply answer) = some (loaded.checkCompletion answer) := by
        rw [step, enabled, if_pos (decide_eq_true List.mem_cons_self), handle,
          List.erase_cons_head]
      rw [asked] at first
      refine ⟨_, (first.concat isRead rfl).concat replied trivial, rfl, rfl, rfl, rfl, ?_, rfl⟩
      rw [checkCompletion, snd_checkFavoriteMovie]
      rfl

/-- A tap that changes the local database. -/
theorem exists_tapped {later : FavoriteStores} {movieId : Int} {now : Date}
    {succeeded : Bool} (shown : Shown share stores movieId system)
    (signedOut : share.isLogin = false)
    (carriedOut : FavoriteWrite.carryOut
      ⟨share, changeOf (!isChecked share stores movieId) now { id := some movieId } movieId⟩ none
        stores = some (later, some succeeded)) :
    ∃ tapped, step system (.tappedButtonAddFavorite now none) = some tapped ∧ tapped.AtRest ∧
      tapped.share = share ∧ tapped.stores = later ∧
      tapped.controller.movie = some { id := some movieId } ∧
      tapped.stateOfMovie.isFavorite =
        if succeeded then !isChecked share stores movieId else isChecked share stores movieId := by
  obtain ⟨session, unchanged, rest, isMovie, state, loaded⟩ := shown
  subst session unchanged
  have taken : step system (.tappedButtonAddFavorite now none) =
      some (changeCompletion
        (changeOf (!isChecked system.share system.stores movieId) now { id := some movieId }
          movieId)
        succeeded { system with isChangeFavorite := true, stores := later }) := by
    rw [step, enabled, loaded, Bool.not_false, if_pos rfl, handle_tapped, changeFavoriteMovie]
    simp only [isMovie, Option.bind_some, state, STATE_OF_MOVIE.isFavorite_ofFavorite, signedOut,
      Bool.false_eq_true, if_false, carriedOut, Option.bind_eq_bind]
    rfl
  refine ⟨_, taken, rest, rfl, rfl, isMovie, ?_⟩
  rw [changeCompletion, isFavorite_changeCompletion, state, STATE_OF_MOVIE.isFavorite_ofFavorite]

/-- Where the button always tells what the store has, the store holds what is checked. -/
theorem holds_of_tells {start : FavoriteButton} {movieId : Int}
    (tells : ∀ system, EventRun.Attains step Orderly start system → system.Tells)
    (attained : EventRun.Attains step Orderly start system)
    (shown : Shown share stores movieId system) :
    Holds share stores movieId (isChecked share stores movieId) := by
  by_cases login : share.isLogin = true
  · exact holds_isChecked_iff.mpr (.inl login) movieId
  have signedOut : share.isLogin = false := Bool.not_eq_true _ ▸ login
  have agrees : isKept share stores movieId = isChecked share stores movieId := by
    have told := (tells system attained shown.rest movieId (by rw [shown.isMovie]; rfl)).1
    rw [shown.session, shown.unchanged, shown.state, ← STATE_OF_MOVIE.isFavorite_iff,
      STATE_OF_MOVIE.isFavorite_ofFavorite] at told
    exact (Bool.eq_iff_iff.mpr told).symm
  have turned : ∀ {later : FavoriteStores} {succeeded : Bool}, FavoriteWrite.carryOut
      ⟨share, changeOf (!isChecked share stores movieId) ⟨0⟩ { id := some movieId } movieId⟩ none
        stores = some (later, some succeeded) →
      isKept share later movieId =
        if succeeded then !isChecked share stores movieId else isChecked share stores movieId := by
    intro later succeeded carriedOut
    obtain ⟨tapped, taken, rest, session, isLater, isMovie, state⟩ :=
      exists_tapped shown signedOut carriedOut
    have told := (tells tapped (attained.concat taken shown.rest) rest movieId
      (by rw [isMovie]; rfl)).1
    rw [session, isLater, ← STATE_OF_MOVIE.isFavorite_iff, state] at told
    exact (Bool.eq_iff_iff.mpr told).symm
  cases isRealm : stores.realm with
  | none =>
      have unchecked : isChecked share stores movieId = false := by
        rw [← agrees, isKept, if_neg login, isRealm]
        rfl
      obtain ⟨later, carriedOut, after⟩ :=
        @carryOut_addition share stores movieId { id := some movieId } rfl signedOut ⟨0⟩ none
      have kept := turned (by rw [unchecked]; exact carriedOut)
      rw [isRealm, Option.map_none, Option.map_eq_none_iff] at after
      rw [unchecked, isRealm, isKept, if_neg login, after] at kept
      cases kept
  | some objects =>
      have isMember := @isKept_locally share stores movieId objects signedOut isRealm
      rw [agrees] at isMember
      refine .locally signedOut isRealm ?_
      by_cases member : movieId ∈ RealmService.movieIds objects
      · rw [decide_eq_true member] at isMember
        obtain ⟨later, realm, carriedOut, isLater, erased⟩ :=
          carryOut_removal signedOut isRealm member none
        have kept := turned (by rw [isMember]; exact carriedOut)
        rw [isKept_locally signedOut isLater, erased, isMember] at kept
        have gone : movieId ∉ (RealmService.movieIds objects).erase movieId :=
          of_decide_eq_false kept
        rw [← List.count_eq_zero, List.count_erase_self] at gone
        have positive := List.count_pos_iff.mpr member
        rw [isMember]
        change _ = 1
        omega
      · rw [decide_eq_false member] at isMember
        rw [isMember, List.count_eq_zero.mpr member]
        rfl

/-- **The button tells what the store has** whenever nothing is outstanding, in every orderly
run, exactly if the account of the session is loaded, or the local database has each movie as
often as the check finds it. -/
theorem buttonTells_iff {movieId : String}
    (accepted : Utils.validateNumber (some movieId) = true) (share : AccountService)
    (stores : FavoriteStores) :
    (∀ system, EventRun.Attains step Orderly (initial movieId share stores) system →
        system.Tells) ↔
      share.isLogin = true ∨ ∃ objects, stores.realm = some objects ∧ ∀ movieId,
        (RealmService.movieIds objects).count movieId =
          (isChecked share stores movieId).toNat := by
  rw [← holds_isChecked_iff]
  constructor
  · intro tells id
    obtain ⟨system, attained, shown⟩ := exists_shown accepted share stores id
    exact holds_of_tells tells attained shown
  · intro sound system attained
    obtain ⟨movieDetailViewModel, isInitial⟩ := initial_of_accepted accepted share stores
    have course : system.share = share ∧ Phase share stores system := by
      refine attained.invariant (fun system => system.share = share ∧ Phase share stores system)
        ?_ fun state event next ⟨session, phase⟩ => phase_of_step sound session phase
      rw [isInitial]
      exact ⟨rfl, .loading rfl rfl rfl rfl⟩
    exact tells_of_phase course.1 course.2

/-- Favourites that were kept on the device before anybody signed in. -/
def keptLocally (objects : Realm) : FavoriteStores where
  realm := some objects
  favMovies := fun _ => ∅

/-- Before anybody signs in the button is right about an empty database, and not about one
with a favourite. -/
theorem buttonTells_signedOut :
    (∀ system, EventRun.Attains step Orderly (initial "550" ⟨none, none⟩ (keptLocally [])) system →
        system.Tells) ∧
      ¬∀ system, EventRun.Attains step Orderly
        (initial "550" ⟨none, none⟩ (keptLocally [{ id := 550, releaseDate := ⟨0⟩ }])) system →
          system.Tells := by
  constructor
  · exact (buttonTells_iff (by decide +kernel) _ _).mpr (.inr ⟨[], rfl, fun _ => rfl⟩)
  · refine mt (buttonTells_iff (by decide +kernel) _ _).mp ?_
    rintro (login | ⟨objects, isRealm, single⟩)
    · cases login
    · cases isRealm
      exact absurd (single 550) (by decide)

end FavoriteButton

end MovieFun
