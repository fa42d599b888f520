import MovieFun.Foundation.Level
import MovieFun.Network.ReadBack

/-!
# The local and the remote favourites as sets

The remote store has a document for a movie exactly when the last call on it was an
addition. The local store counts: every addition makes an object, and a removal
takes one away. The two are the same set exactly when no end of the history adds a
movie oftener than that (`sameFavorites_iff`).
-/

namespace MovieFun

open FavoriteMovieService

namespace FavoriteCall

/-- Whether a call adds or removes a movie. -/
def sets (movieId : Int) : FavoriteCall → Option Bool
  | addFavoriteMovie _ movie => if movie.id = some movieId then some true else none
  | removeFavoriteMovie removedId => if removedId = movieId then some false else none
  | _ => none

/-- What a call adds has an id. -/
def Named : FavoriteCall → Prop
  | addFavoriteMovie _ movie => movie.id.isSome
  | _ => True

end FavoriteCall

/-- The local database after a call on `RealmService` whose write succeeds. -/
def RealmService.step (realm : Option Realm) : FavoriteCall → Option (Option Realm)
  | .addFavoriteMovie now movie =>
      (RealmService.addFavoriteMovie now movie none realm).map Prod.fst
  | .removeFavoriteMovie movieId => some (RealmService.removeFavoriteMovie movieId none realm).1
  | _ => some realm

/-- Both stores list the same movies, each once, and agree in every check. -/
structure SameFavorites (share : AccountService) (realm : Option Realm)
    (stores : FavoriteStores) : Prop where
  lists : ∃ localMovies remoteMovies,
    RealmService.fetchFavoriteMovie realm = some localMovies ∧
      FavoriteMovieService.fetchFavoriteMovie share none stores = some remoteMovies ∧
      (localMovies.map Movie.id).Perm (remoteMovies.map Movie.id) ∧
      (localMovies.map Movie.id).Nodup
  checks : ∀ movieId, FavoriteMovieService.checkFavoriteMovie share movieId none stores =
    (some (RealmService.checkFavoriteMovie movieId realm), none)

/-- The local database counts additions and removals. -/
def Counts (calls : List FavoriteCall) (realm : Option Realm) : Prop :=
  ∃ objects, realm = some objects ∧ ∀ movieId,
    (RealmService.movieIds objects).count movieId =
      Level.level (FavoriteCall.sets movieId) calls

/-- The remote store has the movies that were added last, each in its document. -/
structure Keeps (accountId : String) (calls : List FavoriteCall) (stores : FavoriteStores) :
    Prop where
  member : ∀ movieId, (stores.data accountId (documentID movieId)).isSome ↔
    EventRun.last (FavoriteCall.sets movieId) calls = some true
  named : ∀ key data, stores.data accountId key = some data →
    ∃ movieId, (getMovie data).id = some movieId ∧ key = documentID movieId

variable {share : AccountService} {accountId : String} {before : List FavoriteCall}
  {call : FavoriteCall}

/-- Each call on the local database counts. -/
theorem counts_of_step {realm next : Option Realm} (counts : Counts before realm)
    (taken : RealmService.step realm call = some next) : Counts (before ++ [call]) next := by
  obtain ⟨objects, rfl, counts⟩ := counts
  cases call with
  | addFavoriteMovie now movie =>
      obtain ⟨⟨realm, reply⟩, added, rfl⟩ := Option.map_eq_some_iff.mp taken
      obtain ⟨addedId, left, named, rfl, ids⟩ := RealmService.addFavoriteMovie_eq_some added
      refine ⟨left, rfl, fun movieId => ?_⟩
      rw [ids, List.count_append, counts, Level.level_concat, Level.change, FavoriteCall.sets,
        named]
      by_cases same : addedId = movieId
      · rw [if_pos (congrArg some same), same, List.count_singleton_self]
      · rw [if_neg fun isIt => same (Option.some.inj isIt), List.count_singleton,
          if_neg (by simpa using same), Nat.add_zero]
  | removeFavoriteMovie removedId =>
      cases taken
      obtain ⟨left, isLeft, ids⟩ := RealmService.removeFavoriteMovie_some removedId objects
      refine ⟨left, isLeft, fun movieId => ?_⟩
      rw [ids, Level.level_concat, Level.change, FavoriteCall.sets, ← counts]
      by_cases same : removedId = movieId
      · rw [if_pos same, same, List.count_erase_self]
      · rw [if_neg same, List.count_erase_of_ne (Ne.symm same)]
  | _ =>
      cases taken
      refine ⟨objects, rfl, fun movieId => ?_⟩
      rw [Level.level_concat]
      exact counts movieId

/-- Writing the document of a movie keeps the movies that were added last. -/
theorem Keeps.setData {stores : FavoriteStores} (keeps : Keeps accountId before stores)
    {now : Date} {movie : Movie} {addedId : Int} {dictionary : Dictionary}
    (isNamed : movie.id = some addedId) (written : movieDictionary now movie = some dictionary) :
    Keeps accountId (before ++ [.addFavoriteMovie now movie])
      (stores.setData accountId (documentID addedId) dictionary) := by
  constructor
  · intro movieId
    rw [EventRun.last_concat, FavoriteCall.sets, isNamed, FavoriteStores.data_setData]
    by_cases same : addedId = movieId
    · rw [if_pos (congrArg documentID same.symm), if_pos (congrArg some same)]
      exact iff_of_true rfl rfl
    · rw [if_neg fun isIt => same (documentID_injective isIt).symm,
        if_neg fun isIt => same (Option.some.inj isIt)]
      exact keeps.member movieId
  · intro key data isData
    rw [FavoriteStores.data_setData] at isData
    split at isData
    · next isKey =>
      cases isData
      exact ⟨addedId, (getMovie_id_of_movieDictionary written).trans isNamed, isKey⟩
    · exact keeps.named key data isData

/-- So does deleting it. -/
theorem Keeps.delete {stores : FavoriteStores} (keeps : Keeps accountId before stores)
    (removedId : Int) : Keeps accountId (before ++ [.removeFavoriteMovie removedId])
      (stores.delete accountId (documentID removedId)) := by
  constructor
  · intro movieId
    rw [EventRun.last_concat, FavoriteCall.sets, FavoriteStores.data_delete]
    by_cases same : removedId = movieId
    · rw [if_pos (congrArg documentID same.symm), if_pos same]
      exact iff_of_false Bool.false_ne_true nofun
    · rw [if_neg fun isIt => same (documentID_injective isIt).symm, if_neg same]
      exact keeps.member movieId
  · intro key data isData
    rw [FavoriteStores.data_delete] at isData
    split at isData
    · cases isData
    · exact keeps.named key data isData

/-- Each call on the remote store keeps the movies that were added last. -/
theorem keeps_of_step (login : share.isLogin = true) (session : share.getAccountId = some accountId)
    {stores next : FavoriteStores} (keeps : Keeps accountId before stores)
    (taken : stores.step share call = some next) : Keeps accountId (before ++ [call]) next := by
  cases call with
  | addFavoriteMovie now movie =>
      obtain ⟨addedId, isNamed, ⟨-, _, dictionary, session', written, rfl⟩ | ⟨signedOut, -⟩⟩ :=
        step_addFavoriteMovie_eq_some taken
      · rw [session] at session'
        cases session'
        exact keeps.setData isNamed written
      · rw [login] at signedOut
        cases signedOut
  | removeFavoriteMovie removedId =>
      rcases step_removeFavoriteMovie_eq_some taken with
        ⟨-, _, session', rfl⟩ | ⟨signedOut, -⟩
      · rw [session] at session'
        cases session'
        exact keeps.delete removedId
      · rw [login] at signedOut
        cases signedOut
  | _ =>
      cases taken
      refine ⟨fun movieId => ?_, keeps.named⟩
      rw [EventRun.last_concat]
      exact keeps.member movieId

/-- What a fetch of the remote store lists, each movie once. -/
theorem Keeps.fetch {stores : FavoriteStores} (keeps : Keeps accountId before stores)
    (login : share.isLogin = true) (session : share.getAccountId = some accountId) :
    ∃ movies, FavoriteMovieService.fetchFavoriteMovie share none stores = some movies ∧
      (movies.map Movie.id).Nodup ∧ ∀ id, id ∈ movies.map Movie.id ↔ ∃ movieId,
        EventRun.last (FavoriteCall.sets movieId) before = some true ∧ some movieId = id := by
  refine ⟨(stores.documents accountId).map getMovie, ?_, ?_, ?_⟩
  · exact FavoriteMovieService.fetchFavoriteMovie_of_login login session
  · have keys : (((stores.documents accountId).map getMovie).map Movie.id).map
        (Option.map documentID) = (stores.favMovies accountId).keys.map some := by
      simp only [FavoriteStores.documents, AList.keys, List.keys, List.map_map]
      apply List.map_congr_left
      intro entry member
      obtain ⟨movieId, isId, isKey⟩ := keeps.named entry.1 entry.2 (AList.mem_lookup_iff.mpr member)
      simp only [Function.comp_apply, isId, isKey, Option.map_some]
    apply List.Nodup.of_map (Option.map documentID)
    rw [keys]
    exact (AList.keys_nodup _).map (Option.some_injective _)
  · intro id
    simp only [List.mem_map, FavoriteStores.mem_documents, ← keeps.member]
    constructor
    · rintro ⟨_, ⟨data, ⟨key, isData⟩, rfl⟩, rfl⟩
      obtain ⟨movieId, isId, rfl⟩ := keeps.named key data isData
      exact ⟨movieId, Option.isSome_of_mem isData, isId.symm⟩
    · rintro ⟨movieId, isSome, rfl⟩
      obtain ⟨data, isData⟩ := Option.isSome_iff_exists.mp isSome
      obtain ⟨named, isId, same⟩ := keeps.named _ data isData
      rw [documentID_injective same]
      exact ⟨_, ⟨data, ⟨_, isData⟩, rfl⟩, isId⟩

/-- The stores are the same set when the local one has no movie twice and has those
that were added last. -/
theorem sameFavorites_iff_members {stores : FavoriteStores} {objects : Realm}
    (keeps : Keeps accountId before stores) (login : share.isLogin = true)
    (session : share.getAccountId = some accountId) :
    SameFavorites share (some objects) stores ↔
      (RealmService.movieIds objects).Nodup ∧ ∀ movieId,
        movieId ∈ RealmService.movieIds objects ↔
          EventRun.last (FavoriteCall.sets movieId) before = some true := by
  obtain ⟨remoteMovies, isRemote, remoteNodup, remoteIds⟩ := keeps.fetch login session
  obtain ⟨localMovies, isLocal, localIds⟩ := RealmService.fetchFavoriteMovie_some objects
  constructor
  · rintro ⟨⟨movies, _, isMovies, -, -, once⟩, checks⟩
    rw [isLocal] at isMovies
    cases isMovies
    refine ⟨List.Nodup.of_map some (localIds ▸ once), fun movieId => ?_⟩
    have check := checks movieId
    rw [checkFavoriteMovie_eq session, RealmService.checkFavoriteMovie_some] at check
    rw [← keeps.member, Option.some.inj (Prod.mk.inj check).1, decide_eq_true_iff]
  · rintro ⟨once, members⟩
    have localNodup : (localMovies.map Movie.id).Nodup := by
      rw [localIds]
      exact once.map (Option.some_injective _)
    constructor
    · refine ⟨localMovies, remoteMovies, isLocal, isRemote, ?_, localNodup⟩
      apply (List.perm_ext_iff_of_nodup localNodup remoteNodup).mpr
      intro id
      rw [remoteIds, localIds, List.mem_map]
      exact exists_congr fun movieId => and_congr_left fun _ => members movieId
    · intro movieId
      rw [checkFavoriteMovie_eq session, RealmService.checkFavoriteMovie_some]
      apply congrArg (fun isFavorite => (some isFavorite, none))
      exact Bool.eq_iff_iff.mpr ((keeps.member movieId).trans
        ((members movieId).symm.trans decide_eq_true_iff.symm))

/-- A call on a movie with an id does not trap. -/
theorem localStep_isSome (named : call.Named) (realm : Option Realm) :
    (RealmService.step realm call).isSome := by
  cases call with
  | addFavoriteMovie now movie =>
      obtain ⟨movieId, isId⟩ := Option.isSome_iff_exists.mp named
      rw [RealmService.step, Option.isSome_map, RealmService.addFavoriteMovie_def,
        RealmService.getMovieModel, isId]
      rfl
  | _ => rfl

/-- The remote store takes every call about a movie with an id. -/
theorem remoteStep_isSome (session : share.getAccountId = some accountId)
    (login : share.isLogin = true) (named : call.Named) (stores : FavoriteStores) :
    (stores.step share call).isSome := by
  cases call with
  | addFavoriteMovie now movie =>
      obtain ⟨movieId, isId⟩ := Option.isSome_iff_exists.mp named
      simp only [FavoriteStores.step, FavoriteMovieService.addFavoriteMovie, login, if_true,
        session, isId, movieDictionary, Option.map_some]
      rfl
  | _ => rfl

/-- **When the two stores are the same set.** After any calls on movies with ids, from
empty stores, the favourites are the same exactly when no end of the history adds a
movie oftener than it removes it, but for one addition of a movie added last. -/
theorem sameFavorites_iff (share : AccountService) (login : share.isLogin = true)
    (realm : Option Realm) (calls : List FavoriteCall) (named : ∀ call ∈ calls, call.Named) :
    ∃ locally remotely,
      EventRun.runFrom RealmService.step (some []) calls = some locally ∧
      EventRun.runFrom (FavoriteStores.step share) ⟨realm, fun _ => ∅⟩ calls = some remotely ∧
      (SameFavorites share locally remotely ↔ ∀ movieId ending, ending <:+ calls →
        Level.raises (FavoriteCall.sets movieId) ending ≤
          Level.lowers (FavoriteCall.sets movieId) ending +
            if EventRun.last (FavoriteCall.sets movieId) calls = some true then 1 else 0) := by
  obtain ⟨accountId, session⟩ := AccountService.getAccountId_of_isLogin login
  obtain ⟨locally, localRun⟩ := Option.isSome_iff_exists.mp (EventRun.runFrom_isSome _
    (fun call member realm => localStep_isSome (named call member) realm) (some []))
  obtain ⟨remotely, remoteRun⟩ := Option.isSome_iff_exists.mp (EventRun.runFrom_isSome _
    (fun call member stores => remoteStep_isSome session login (named call member) stores)
      ⟨realm, fun _ => ∅⟩)
  have counts : Counts calls locally := by
    refine EventRun.invariant Counts ?_ ?_ localRun
    · exact ⟨[], rfl, fun _ => rfl⟩
    · exact fun before call state next _ counts taken => counts_of_step counts taken
  have keeps : Keeps accountId calls remotely := by
    refine EventRun.invariant (Keeps accountId) ?_ ?_ remoteRun
    · exact ⟨fun _ => iff_of_false Bool.false_ne_true nofun, nofun⟩
    · exact fun before call state next _ keeps taken => keeps_of_step login session keeps taken
  refine ⟨locally, remotely, localRun, remoteRun, ?_⟩
  obtain ⟨objects, rfl, counts⟩ := counts
  rw [sameFavorites_iff_members keeps login session]
  simp only [← Level.level_le_iff, ← counts]
  constructor
  · rintro ⟨once, members⟩ movieId
    split
    · exact List.nodup_iff_count_le_one.mp once movieId
    · next notLast =>
      exact (List.count_eq_zero.mpr fun member => notLast ((members movieId).mp member)).le
  · intro atMost
    constructor
    · refine List.nodup_iff_count_le_one.mpr fun movieId => (atMost movieId).trans ?_
      split <;> decide
    · intro movieId
      rw [← List.count_pos_iff]
      constructor
      · intro present
        by_contra notLast
        have few := atMost movieId
        rw [if_neg notLast] at few
        exact absurd present (Nat.not_lt_of_le few)
      · intro isLast
        rw [counts]
        exact Level.level_pos_of_last isLast

/-- A logged-in session. -/
def loggedIn : AccountService where
  account := some ⟨"an", "An", "an@mail", "", ⟨0⟩⟩
  userLogin := some "an"

/-- A movie is added and removed. -/
def addedOnce : List FavoriteCall :=
  [.addFavoriteMovie ⟨0⟩ { id := some 1 }, .removeFavoriteMovie 1]

/-- The rule holds of a movie that is added and removed. -/
theorem sameFavorites_iff_addedOnce : ∃ locally remotely,
    EventRun.runFrom RealmService.step (some []) addedOnce = some locally ∧
      EventRun.runFrom (FavoriteStores.step loggedIn) ⟨some [], fun _ => ∅⟩ addedOnce =
        some remotely ∧
      (SameFavorites loggedIn locally remotely ↔ ∀ movieId ending, ending <:+ addedOnce →
        Level.raises (FavoriteCall.sets movieId) ending ≤
          Level.lowers (FavoriteCall.sets movieId) ending +
            if EventRun.last (FavoriteCall.sets movieId) addedOnce = some true then 1 else 0) := by
  apply sameFavorites_iff loggedIn rfl (some []) addedOnce
  intro call member
  rcases List.mem_cons.mp member with rfl | isRemoval
  · rfl
  · rw [List.mem_singleton.mp isRemoval]
    trivial

/-- Two screens add a movie, and one removes it. -/
def addedTwice : List FavoriteCall :=
  [.addFavoriteMovie ⟨0⟩ { id := some 1 }, .addFavoriteMovie ⟨0⟩ { id := some 1 },
    .removeFavoriteMovie 1]

/-- The local database still has it, and the remote store has not. -/
theorem not_sameFavorites_addedTwice : ∃ locally remotely,
    EventRun.runFrom RealmService.step (some []) addedTwice = some locally ∧
      EventRun.runFrom (FavoriteStores.step loggedIn) ⟨some [], fun _ => ∅⟩ addedTwice =
        some remotely ∧
      ¬ SameFavorites loggedIn locally remotely := by
  refine ⟨_, _, rfl, rfl, fun same => ?_⟩
  have check := (Prod.mk.inj (same.checks 1)).1
  exact absurd check (by decide +kernel)

end MovieFun
