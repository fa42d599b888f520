import MovieFun.Network.FavoriteCheck

/-!
# A check with no other under way

A check of a list of ids that runs alone, each of its replies being what the store
has, hands over the membership of each id, in whatever order the replies come
(`checksAlone_of_asks`). A session without an account reads the local database
(`checksAlone_of_signedOut`).
-/

namespace MovieFun

open FavoriteMovieService FavoriteSystem

/-- No check is under way. -/
structure FavoriteSystem.Idle (system : FavoriteSystem) : Prop where
  entered : system.service.dispatchGroup.entered = 0
  waiting : system.service.dispatchGroup.waiting = []
  requests : system.requests = []

/-- The reply of the store to the request of a call for an id. -/
def FavoriteStores.answer (stores : FavoriteStores) (accountId : String) (call : Nat)
    (movieId : Int) : FavoriteEvent :=
  .getDocumentReply call movieId (stores.data accountId (documentID movieId)) none

/-- What a check of a list of ids that runs alone can hand to its completion. -/
inductive ChecksAlone (share : AccountService) (stores : FavoriteStores) (movieIds : List Int) :
    Option IsFavorites × Option NSError → Prop
  | answered {service : FavoriteMovieService} {call : Nat}
      {reply : Option IsFavorites × Option NSError}
      (start : service.checkFavoriteMovies share stores.realm (some movieIds) call =
        .answered reply) : ChecksAlone share stores movieIds reply
  | handed {system last : FavoriteSystem} {accountId : String} {order : List Int}
      (idle : system.Idle) (session : share.getAccountId = some accountId)
      (asks : asks share (some movieIds) = some movieIds) (perm : order.Perm movieIds)
      (reached : EventRun.runFrom step system
        (.checkFavoriteMovies share stores.realm (some movieIds) ::
          order.map (stores.answer accountId system.calls.length)) = some last)
      (submitted : system.calls.length ∈ last.mainQueue) :
      ChecksAlone share stores movieIds last.handed

variable {share : AccountService} {stores : FavoriteStores} {accountId : String}

/-- The replies to the requests of one call set the entries of its ids and submit
its block, in any order. -/
theorem runFrom_answers {call : Nat} {order : List Int} {system : FavoriteSystem}
    (entered : system.service.dispatchGroup.entered = order.length)
    (requests : system.requests.Perm (order.map fun movieId => (call, movieId)))
    (block : call ∈ system.service.dispatchGroup.waiting ++ system.mainQueue)
    (prompt : system.service.dispatchGroup.Prompt) :
    ∃ last, EventRun.runFrom step system (order.map (stores.answer accountId call)) = some last ∧
      call ∈ last.mainQueue ∧ ∀ movieId, last.service.isFavorites.lookup movieId =
        if movieId ∈ order then some (some (stores.data accountId (documentID movieId)).isSome)
        else system.service.isFavorites.lookup movieId := by
  induction order generalizing system with
  | nil =>
      refine ⟨system, rfl, ?_, fun movieId => (if_neg List.not_mem_nil).symm⟩
      rwa [prompt entered, List.nil_append] at block
  | cons movieId order ih =>
      have asked : (call, movieId) ∈ system.requests := requests.mem_iff.mpr List.mem_cons_self
      obtain ⟨⟨dispatchGroup, submitted⟩, left⟩ := Option.isSome_iff_exists.mp
        (DispatchGroup.leave_isSome (by rw [entered]; exact Nat.succ_ne_zero _))
      obtain ⟨count, -⟩ := DispatchGroup.leave_eq_some left
      obtain ⟨last, reached, onQueue, entries⟩ := @ih
        { system with
          service := {
            isFavorites := system.service.isFavorites.insert movieId
              (some (stores.data accountId (documentID movieId)).isSome)
            dispatchGroup }
          mainQueue := system.mainQueue ++ submitted
          requests := system.requests.erase (call, movieId) }
        (Nat.succ.inj (count.trans entered))
        ((requests.erase (call, movieId)).trans (by rw [List.map_cons, List.erase_cons_head]))
        ((DispatchGroup.leave_perm left system.mainQueue).mem_iff.mpr block)
        (DispatchGroup.Prompt.leave left)
      refine ⟨last, ?_, onQueue, fun otherId => ?_⟩
      · rw [List.map_cons, EventRun.runFrom, FavoriteStores.answer, step, if_pos asked, setFavorite,
          left]
        exact reached
      · rw [entries otherId]
        by_cases later : otherId ∈ order
        · rw [if_pos later, if_pos (List.mem_cons_of_mem _ later)]
        · rw [if_neg later]
          by_cases same : otherId = movieId
          · rw [if_pos (same ▸ List.mem_cons_self), same, AList.lookup_insert]
          · rw [AList.lookup_insert_ne same, if_neg fun member =>
              later ((List.mem_cons.mp member).resolve_left same)]

/-- A check of a session with an account runs to its block from any idle service,
with the membership of each id. -/
theorem runFrom_loneCheck {movieIds order : List Int} {system : FavoriteSystem}
    (idle : system.Idle) (isAsked : asks share (some movieIds) = some movieIds)
    (perm : order.Perm movieIds) :
    ∃ last, EventRun.runFrom step system
        (.checkFavoriteMovies share stores.realm (some movieIds) ::
          order.map (stores.answer accountId system.calls.length)) = some last ∧
      system.calls.length ∈ last.mainQueue ∧ ∀ movieId ∈ movieIds,
        last.service.isFavorites.lookup movieId =
          some (some (stores.data accountId (documentID movieId)).isSome) := by
  have count : (system.service.dispatchGroup.enter movieIds.length).entered = movieIds.length := by
    change system.service.dispatchGroup.entered + _ = _
    rw [idle.entered, Nat.zero_add]
  have entered : (system.asked movieIds).service.dispatchGroup.entered = order.length := by
    rw [perm.length_eq, ← count]
    exact (DispatchGroup.notify_cases _ _).1
  have requests : (system.asked movieIds).requests.Perm
      (order.map fun movieId => (system.calls.length, movieId)) := by
    change (system.requests ++ _).Perm _
    rw [idle.requests, List.nil_append]
    exact (perm.map _).symm
  have block := (DispatchGroup.notify_perm system.calls.length
    (system.service.dispatchGroup.enter movieIds.length) system.mainQueue).mem_iff.mpr
      List.mem_cons_self
  have prompt : system.service.dispatchGroup.Prompt := fun _ => idle.waiting
  obtain ⟨last, reached, onQueue, entries⟩ := @runFrom_answers stores accountId _ _
    (system.asked movieIds) entered requests block ((prompt.enter _).notify _)
  refine ⟨last, ?_, onQueue, fun movieId member => ?_⟩
  · rw [EventRun.runFrom, step_of_asks isAsked]
    exact reached
  · rw [entries movieId, if_pos (perm.mem_iff.mpr member)]

/-- A lone check of a session with an account is handed the membership of each id. -/
theorem checksAlone_of_asks {movieIds : List Int} (session : share.getAccountId = some accountId)
    (isAsked : asks share (some movieIds) = some movieIds) :
    (∃ handed, ChecksAlone share stores movieIds handed) ∧
      ∀ handed, ChecksAlone share stores movieIds handed → ∃ isFavorites,
        handed = (some isFavorites, none) ∧ ∀ movieId ∈ movieIds,
          isFavorites.lookup movieId =
            some (some (stores.data accountId (documentID movieId)).isSome) := by
  constructor
  · have idle : FavoriteSystem.Idle {} := ⟨rfl, rfl, rfl⟩
    obtain ⟨last, reached, submitted, -⟩ :=
      @runFrom_loneCheck share stores accountId _ _ _ idle isAsked (List.Perm.refl _)
    exact ⟨_, .handed idle session isAsked (List.Perm.refl _) reached submitted⟩
  · intro handed alone
    cases alone with
    | answered start =>
        rw [checkFavoriteMovies_of_asks isAsked] at start
        cases start
    | handed idle session' _ perm reached _ =>
        rw [session] at session'
        cases session'
        obtain ⟨last, reached', -, entries⟩ :=
          @runFrom_loneCheck share stores accountId _ _ _ idle isAsked perm
        rw [reached] at reached'
        cases reached'
        exact ⟨_, rfl, entries⟩

/-- A lone check of a session without an account reads the local database. -/
theorem checksAlone_of_signedOut {movieIds : List Int}
    {handed : Option IsFavorites × Option NSError} (signedOut : share.isLogin = false) :
    ChecksAlone share stores movieIds handed ↔
      handed = RealmService.checkFavoriteMovies (some movieIds) stores.realm := by
  have start : ∀ (service : FavoriteMovieService) (call : Nat),
      service.checkFavoriteMovies share stores.realm (some movieIds) call =
        .answered (RealmService.checkFavoriteMovies (some movieIds) stores.realm) := by
    intro service call
    simp only [checkFavoriteMovies, signedOut, Bool.false_eq_true, if_false]
  constructor
  · intro alone
    cases alone with
    | answered isStart =>
        rw [start] at isStart
        cases isStart
        rfl
    | handed _ _ isAsked =>
        rw [FavoriteMovieService.asks, signedOut] at isAsked
        cases isAsked
  · rintro rfl
    exact .answered (start {} 0)

end MovieFun
