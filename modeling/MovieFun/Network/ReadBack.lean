import MovieFun.Network.LoneCheck

/-!
# Reading favourites back

The check of one id asks for the id of the session where every other operation
asks whether somebody is logged in, and the local database keeps an object for
every addition. What is written is therefore read back exactly under `Agrees`
(`readsBack_iff_agrees`).
-/

namespace MovieFun

open FavoriteMovieService

/-- A call of the favourites service. -/
inductive FavoriteCall
  | addFavoriteMovie (now : Date) (movie : Movie)
  | removeFavoriteMovie (movieId : Int)
  | checkFavoriteMovie (movieId : Int)
  | checkFavoriteMovies (movieIds : Option (List Int))
  | fetchFavoriteMovie

namespace FavoriteStores

/-- The stores after a call whose backend calls succeed. Only the first two write. -/
def step (share : AccountService) (stores : FavoriteStores) :
    FavoriteCall → Option FavoriteStores
  | .addFavoriteMovie now movie =>
      (FavoriteMovieService.addFavoriteMovie share now movie none stores).map Prod.fst
  | .removeFavoriteMovie movieId =>
      some (FavoriteMovieService.removeFavoriteMovie share movieId none stores).1
  | _ => some stores

end FavoriteStores

/-- The reads of a session report whether a movie is a favourite. A check of one id
that has no value reports that it is none. -/
structure Reports (share : AccountService) (stores : FavoriteStores) (movieId : Int)
    (favorite : Bool) : Prop where
  one : ∃ isFavorite,
    FavoriteMovieService.checkFavoriteMovie share movieId none stores = (isFavorite, none) ∧
      isFavorite.getD false = favorite
  answers : ∀ movieIds, ∃ handed, ChecksAlone share stores movieIds handed
  many : ∀ movieIds, movieId ∈ movieIds → ∀ handed, ChecksAlone share stores movieIds handed →
    ∃ isFavorites, handed = (some isFavorites, none) ∧
      isFavorites.lookup movieId = some (some favorite)
  fetch : ∃ movies, FavoriteMovieService.fetchFavoriteMovie share none stores = some movies ∧
    (some movieId ∈ movies.map Movie.id ↔ favorite = true)

/-- What a call wrote is read back. -/
def ReadsBack (share : AccountService) (next : FavoriteStores) : FavoriteCall → Prop
  | .addFavoriteMovie _ movie => ∀ movieId ∈ movie.id, Reports share next movieId true
  | .removeFavoriteMovie movieId => Reports share next movieId false
  | _ => True

/-- The two stores agree about the movie of a call: the session is logged in and no
other document names the movie, or it is not, and the remote store already has what
the call writes, if the session can read it at all. -/
def Agrees (share : AccountService) (stores : FavoriteStores) : FavoriteCall → Prop
  | .addFavoriteMovie _ movie =>
      share.isLogin = false → ∀ movieId ∈ movie.id, ∃ accountId ∈ share.getAccountId,
        (stores.data accountId (documentID movieId)).isSome
  | .removeFavoriteMovie movieId =>
      (share.isLogin = true → ∀ accountId ∈ share.getAccountId, ∀ documentID data,
        stores.data accountId documentID = some data → (getMovie data).id = some movieId →
          documentID = FavoriteMovieService.documentID movieId) ∧
      (share.isLogin = false →
        (∀ objects ∈ stores.realm, (RealmService.movieIds objects).count movieId ≤ 1) ∧
        ∀ accountId ∈ share.getAccountId,
          stores.data accountId (documentID movieId) = none)
  | _ => True

variable {share : AccountService} {stores next : FavoriteStores} {accountId : String}
  {movieId : Int} {favorite : Bool}

/-- The check of one id that does not fail. -/
theorem checkFavoriteMovie_eq (session : share.getAccountId = some accountId) :
    FavoriteMovieService.checkFavoriteMovie share movieId none stores =
      (some (stores.data accountId (documentID movieId)).isSome, none) :=
  FavoriteMovieService.checkFavoriteMovie_of_some session movieId none

/-- What a session with an account reports. -/
theorem reports_of_login (login : share.isLogin = true)
    (session : share.getAccountId = some accountId) :
    Reports share stores movieId favorite ↔
      (stores.data accountId (documentID movieId)).isSome = favorite ∧
        ((∃ documentID data, stores.data accountId documentID = some data ∧
          (getMovie data).id = some movieId) ↔ favorite = true) := by
  have isAsked : ∀ movieIds : List Int, asks share (some movieIds) = some movieIds := fun _ =>
    if_pos login
  have fetched : FavoriteMovieService.fetchFavoriteMovie share none stores =
      some ((stores.documents accountId).map getMovie) :=
    FavoriteMovieService.fetchFavoriteMovie_of_login login session
  have listed : some movieId ∈ ((stores.documents accountId).map getMovie).map Movie.id ↔
      ∃ documentID data, stores.data accountId documentID = some data ∧
        (getMovie data).id = some movieId := by
    simp only [List.mem_map, FavoriteStores.mem_documents]
    constructor
    · rintro ⟨_, ⟨data, ⟨documentID, isData⟩, rfl⟩, same⟩
      exact ⟨documentID, data, isData, same⟩
    · rintro ⟨documentID, data, isData, same⟩
      exact ⟨_, ⟨data, ⟨documentID, isData⟩, rfl⟩, same⟩
  constructor
  · rintro ⟨⟨isFavorite, isCheck, reported⟩, -, -, movies, isFetch, lists⟩
    rw [checkFavoriteMovie_eq session] at isCheck
    rw [fetched] at isFetch
    cases isCheck
    cases isFetch
    exact ⟨reported, listed.symm.trans lists⟩
  · rintro ⟨member, lists⟩
    refine ⟨⟨_, checkFavoriteMovie_eq session, member⟩,
      fun movieIds => (checksAlone_of_asks session (isAsked movieIds)).1, ?_,
      ⟨_, fetched, listed.trans lists⟩⟩
    intro movieIds inside handed alone
    obtain ⟨isFavorites, isHanded, entries⟩ :=
      (checksAlone_of_asks session (isAsked movieIds)).2 handed alone
    refine ⟨isFavorites, isHanded, ?_⟩
    rw [entries movieId inside, member]

/-- What a session without an account reports. -/
theorem reports_of_signedOut {objects : Realm} (signedOut : share.isLogin = false)
    (realm : stores.realm = some objects) :
    Reports share stores movieId favorite ↔
      (share.getAccountId.any fun accountId =>
        (stores.data accountId (documentID movieId)).isSome) = favorite ∧
      (movieId ∈ RealmService.movieIds objects ↔ favorite = true) := by
  have checked : ∃ isFavorite,
      FavoriteMovieService.checkFavoriteMovie share movieId none stores = (isFavorite, none) ∧
        isFavorite.getD false = share.getAccountId.any fun accountId =>
          (stores.data accountId (documentID movieId)).isSome := by
    cases session : share.getAccountId with
    | none =>
        exact ⟨none, FavoriteMovieService.checkFavoriteMovie_of_none session movieId none, rfl⟩
    | some accountId => exact ⟨_, checkFavoriteMovie_eq session, rfl⟩
  obtain ⟨value, isValue, reported⟩ := checked
  obtain ⟨movies, isMovies, ids⟩ := RealmService.fetchFavoriteMovie_some objects
  have fetched : FavoriteMovieService.fetchFavoriteMovie share none stores = some movies := by
    rw [FavoriteMovieService.fetchFavoriteMovie_of_signedOut (by rw [signedOut]; decide), realm,
      isMovies]
  have listed : some movieId ∈ movies.map Movie.id ↔ movieId ∈ RealmService.movieIds objects := by
    rw [ids, List.mem_map_of_injective (Option.some_injective _)]
  constructor
  · rintro ⟨⟨isFavorite, isCheck, favored⟩, -, -, others, isFetch, lists⟩
    rw [isValue] at isCheck
    rw [fetched] at isFetch
    cases isCheck
    cases isFetch
    exact ⟨reported.symm.trans favored, listed.symm.trans lists⟩
  · rintro ⟨member, lists⟩
    refine ⟨⟨value, isValue, reported.trans member⟩,
      fun movieIds => ⟨_, (checksAlone_of_signedOut signedOut).mpr rfl⟩, ?_,
      ⟨movies, fetched, listed.trans lists⟩⟩
    intro movieIds inside handed alone
    rw [checksAlone_of_signedOut signedOut, realm] at alone
    have dictionary : ∃ isFavorites, RealmService.checkFavoriteMovies (some movieIds)
        (some objects) = (some isFavorites, none) ∧ isFavorites.lookup movieId =
          some (some (RealmService.checkFavoriteMovie movieId (some objects))) :=
      RealmService.lookup_checkFavoriteMovies inside
    obtain ⟨isFavorites, isDictionary, entry⟩ := dictionary
    refine ⟨isFavorites, alone.trans isDictionary, ?_⟩
    rw [entry, RealmService.checkFavoriteMovie_some]
    exact congrArg (some ∘ some) (Bool.eq_iff_iff.mpr (decide_eq_true_iff.trans lists))

/-- The write of an addition. -/
theorem step_addFavoriteMovie_eq_some {now : Date} {movie : Movie}
    (taken : stores.step share (.addFavoriteMovie now movie) = some next) :
    ∃ movieId, movie.id = some movieId ∧
      ((share.isLogin = true ∧ ∃ accountId dictionary, share.getAccountId = some accountId ∧
          movieDictionary now movie = some dictionary ∧
          next = stores.setData accountId (documentID movieId) dictionary) ∨
        (share.isLogin = false ∧ ∃ reply,
          RealmService.addFavoriteMovie now movie none stores.realm = some (next.realm, reply) ∧
          next.favMovies = stores.favMovies)) := by
  obtain ⟨_, added, rfl⟩ := Option.map_eq_some_iff.mp taken
  by_cases login : share.isLogin = true
  · obtain ⟨accountId, session⟩ := AccountService.getAccountId_of_isLogin login
    simp only [FavoriteMovieService.addFavoriteMovie, login, if_true, session,
      Option.bind_eq_bind, Option.bind_eq_some_iff] at added
    obtain ⟨movieId, named, dictionary, written, added⟩ := added
    cases added
    exact ⟨movieId, named, .inl ⟨login, accountId, dictionary, session, written, rfl⟩⟩
  · rw [FavoriteMovieService.addFavoriteMovie_of_signedOut login] at added
    obtain ⟨⟨realm, reply⟩, written, added⟩ := Option.map_eq_some_iff.mp added
    cases added
    have named : ∃ movieId, movie.id = some movieId := by
      simp only [RealmService.addFavoriteMovie_def, RealmService.getMovieModel,
        Option.map_eq_some_iff] at written
      obtain ⟨_, ⟨movieId, named, -⟩, -⟩ := written
      exact ⟨movieId, named⟩
    obtain ⟨movieId, named⟩ := named
    exact ⟨movieId, named, .inr ⟨Bool.eq_false_of_not_eq_true login, reply, written, rfl⟩⟩

/-- An addition is read back at once, unless nobody is logged in and the check of one
id misses it. -/
theorem readsBack_add_iff {objects : Realm} (realm : stores.realm = some objects) {now : Date}
    {movie : Movie} (taken : stores.step share (.addFavoriteMovie now movie) = some next) :
    ReadsBack share next (.addFavoriteMovie now movie) ↔
      Agrees share stores (.addFavoriteMovie now movie) := by
  obtain ⟨movieId, named, ⟨login, accountId, dictionary, session, written, rfl⟩ |
    ⟨signedOut, reply, written, same⟩⟩ := step_addFavoriteMovie_eq_some taken
  · refine iff_of_true ?_ fun signedOut => absurd (login.symm.trans signedOut) (by decide)
    rintro _ isIt
    rw [named] at isIt
    cases isIt
    have isData : (stores.setData accountId (documentID movieId) dictionary).data accountId
        (documentID movieId) = some dictionary.stored := by
      rw [FavoriteStores.data_setData, if_pos rfl]
    refine (reports_of_login login session).mpr ⟨by rw [isData]; rfl, iff_of_true ?_ rfl⟩
    exact ⟨_, _, isData, (getMovie_id_of_movieDictionary written).trans named⟩
  · rw [realm] at written
    obtain ⟨_, added, named', isRealm, ids⟩ := RealmService.addFavoriteMovie_eq_some written
    rw [named] at named'
    cases named'
    have sameData : ∀ accountId documentID,
        next.data accountId documentID = stores.data accountId documentID := by
      intro accountId documentID
      rw [FavoriteStores.data, same, FavoriteStores.data]
    simp only [ReadsBack, Agrees, named, Option.mem_def, Option.some.injEq, forall_eq', signedOut,
      true_imp_iff, reports_of_signedOut signedOut isRealm, sameData, ids, List.mem_append,
      List.mem_singleton, or_true, and_true, Option.any_eq_true]

/-- The write of a removal. -/
theorem step_removeFavoriteMovie_eq_some
    (taken : stores.step share (.removeFavoriteMovie movieId) = some next) :
    (share.isLogin = true ∧ ∃ accountId, share.getAccountId = some accountId ∧
        next = stores.delete accountId (documentID movieId)) ∨
      (share.isLogin = false ∧
        next.realm = (RealmService.removeFavoriteMovie movieId none stores.realm).1 ∧
        next.favMovies = stores.favMovies) := by
  cases taken
  cases login : share.isLogin with
  | true =>
      obtain ⟨accountId, session⟩ := AccountService.getAccountId_of_isLogin login
      refine .inl ⟨rfl, accountId, session, ?_⟩
      simp only [FavoriteMovieService.removeFavoriteMovie, login, if_true, session]
  | false =>
      refine .inr ⟨rfl, ?_⟩
      rw [FavoriteMovieService.removeFavoriteMovie_of_signedOut (by rw [login]; decide)]
      exact ⟨rfl, rfl⟩

/-- A removal from the remote store is read back unless another document names the
movie. -/
theorem reports_delete_iff (login : share.isLogin = true)
    (session : share.getAccountId = some accountId) :
    Reports share (stores.delete accountId (documentID movieId)) movieId false ↔
      ∀ other data, stores.data accountId other = some data →
        (getMovie data).id = some movieId → other = documentID movieId := by
  rw [reports_of_login login session]
  constructor
  · rintro ⟨-, lists⟩ other data isData named
    by_contra apart
    have listed := lists.mp
      ⟨other, data, by rw [FavoriteStores.data_delete, if_neg apart]; exact isData, named⟩
    cases listed
  · intro only
    refine ⟨by rw [FavoriteStores.data_delete, if_pos rfl]; rfl, ?_, ?_⟩
    · rintro ⟨other, data, isData, named⟩
      rw [FavoriteStores.data_delete] at isData
      split at isData
      · cases isData
      · next apart => exact absurd (only other data isData named) apart
    · intro isTrue
      cases isTrue

/-- A removal from the local database is read back when no second object is left and
the check of one id finds no document. -/
theorem reports_erase_iff (signedOut : share.isLogin = false) {objects left : Realm}
    (isLeft : next.realm = some left)
    (ids : RealmService.movieIds left = (RealmService.movieIds objects).erase movieId)
    (same : next.favMovies = stores.favMovies) :
    Reports share next movieId false ↔
      (RealmService.movieIds objects).count movieId ≤ 1 ∧
        ∀ accountId ∈ share.getAccountId,
          stores.data accountId (documentID movieId) = none := by
  have gone : movieId ∈ RealmService.movieIds left ↔
      ¬ (RealmService.movieIds objects).count movieId ≤ 1 := by
    rw [ids, ← List.count_pos_iff, List.count_erase_self]
    omega
  have unread : (share.getAccountId.any fun accountId =>
      (next.data accountId (documentID movieId)).isSome) = false ↔
        ∀ accountId ∈ share.getAccountId,
          stores.data accountId (documentID movieId) = none := by
    simp only [FavoriteStores.data, same, Option.any_eq_false, Option.isSome_eq_false_iff,
      Option.isNone_iff_eq_none, Option.mem_def]
  rw [reports_of_signedOut signedOut isLeft, unread, gone]
  constructor
  · rintro ⟨absent, few⟩
    refine ⟨?_, absent⟩
    by_contra several
    cases few.mp several
  · rintro ⟨few, absent⟩
    exact ⟨absent, iff_of_false (not_not_intro few) Bool.false_ne_true⟩

/-- A removal is read back at once exactly when it leaves nothing that names the
movie in the store that lists favourites, nor in the one that the check of one id
reads. -/
theorem readsBack_remove_iff {objects : Realm} (realm : stores.realm = some objects)
    (taken : stores.step share (.removeFavoriteMovie movieId) = some next) :
    ReadsBack share next (.removeFavoriteMovie movieId) ↔
      Agrees share stores (.removeFavoriteMovie movieId) := by
  rcases step_removeFavoriteMovie_eq_some taken with
    ⟨login, accountId, session, rfl⟩ | ⟨signedOut, isRealm, same⟩
  · apply (reports_delete_iff login session).trans
    constructor
    · intro only
      refine ⟨fun _ _ isSession => ?_, fun signedOut =>
        absurd (login.symm.trans signedOut) (by decide)⟩
      rw [session] at isSession
      cases isSession
      exact only
    · exact fun agrees => agrees.1 login accountId session
  · obtain ⟨left, isLeft, ids⟩ := RealmService.removeFavoriteMovie_some movieId objects
    rw [realm, isLeft] at isRealm
    apply (reports_erase_iff signedOut isRealm ids same).trans
    constructor
    · rintro ⟨few, absent⟩
      refine ⟨fun login => absurd (login.symm.trans signedOut) (by decide), fun _ => ⟨?_, absent⟩⟩
      intro others isObjects
      rw [realm] at isObjects
      cases isObjects
      exact few
    · intro agrees
      obtain ⟨few, absent⟩ := agrees.2 signedOut
      exact ⟨few objects realm, absent⟩

/-- The local database stays open. -/
theorem realm_of_step {objects : Realm} (realm : stores.realm = some objects)
    {call : FavoriteCall} (taken : stores.step share call = some next) :
    ∃ objects, next.realm = some objects := by
  cases call with
  | addFavoriteMovie now movie =>
      obtain ⟨movieId, -, ⟨-, accountId, dictionary, -, -, rfl⟩ | ⟨-, reply, written, -⟩⟩ :=
        step_addFavoriteMovie_eq_some taken
      · exact ⟨objects, realm⟩
      · rw [realm] at written
        obtain ⟨_, added, -, isRealm, -⟩ := RealmService.addFavoriteMovie_eq_some written
        exact ⟨added, isRealm⟩
  | removeFavoriteMovie movieId =>
      rcases step_removeFavoriteMovie_eq_some taken with ⟨-, accountId, -, rfl⟩ | ⟨-, isRealm, -⟩
      · exact ⟨objects, realm⟩
      · obtain ⟨left, isLeft, -⟩ := RealmService.removeFavoriteMovie_some movieId objects
        rw [realm, isLeft] at isRealm
        exact ⟨left, isRealm⟩
  | _ =>
      cases taken
      exact ⟨objects, realm⟩

/-- **When favourites are read back.** In every session and whatever the stores hold,
everything a sequence of calls writes is read back exactly when the two stores agree
about the movie before each of its writes. -/
theorem readsBack_iff_agrees (share : AccountService) (objects : Realm) (favMovies : FavMovies)
    (calls : List FavoriteCall) :
    EventRun.EachStep (FavoriteStores.step share)
        (fun stores call => ∀ next, stores.step share call = some next →
          ReadsBack share next call) ⟨some objects, favMovies⟩ calls ↔
      EventRun.EachStep (FavoriteStores.step share) (Agrees share)
        ⟨some objects, favMovies⟩ calls := by
  refine EventRun.eachStep_congr (fun stores => ∃ objects, stores.realm = some objects) ?_ ?_ ?_
  · exact ⟨objects, rfl⟩
  · exact fun stores call next ⟨objects, realm⟩ taken => realm_of_step realm taken
  · intro stores call next opened taken
    obtain ⟨objects, realm⟩ := opened
    have only : (∀ other, stores.step share call = some other → ReadsBack share other call) ↔
        ReadsBack share next call := by
      refine ⟨fun reads => reads next taken, fun reads other isOther => ?_⟩
      rw [taken] at isOther
      cases isOther
      exact reads
    rw [only]
    cases call with
    | addFavoriteMovie now movie => exact readsBack_add_iff realm taken
    | removeFavoriteMovie movieId => exact readsBack_remove_iff realm taken
    | _ => exact Iff.rfl

/-- Nobody is logged in, and the movie 1 becomes a favourite in the local database. -/
theorem not_readsBack_signedOut : ¬ EventRun.EachStep (FavoriteStores.step ⟨none, none⟩)
    (fun stores call => ∀ next, stores.step ⟨none, none⟩ call = some next →
      ReadsBack ⟨none, none⟩ next call)
    ⟨some [], fun _ => ∅⟩ [.addFavoriteMovie ⟨0⟩ { id := some 1 }] := by
  intro always
  have reads := always [] _ List.prefix_rfl _ _ rfl rfl _ rfl 1 rfl
  obtain ⟨isFavorite, isCheck, reported⟩ := reads.one
  cases isCheck
  cases reported

end MovieFun
