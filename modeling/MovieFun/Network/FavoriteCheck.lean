import MovieFun.Foundation.CallGroup
import MovieFun.Foundation.Run
import MovieFun.Network.FavoriteMovieService

/-!
# Overlapping checks of favourites

The checks of lists of ids as an event system: calls from any screens, the replies
to their requests in any order, and the blocks on the main queue that hand the
dictionary to the completions. All calls share that dictionary, so what a call is
handed depends on the calls and replies between its own replies and its block
(`told_iff_undisturbed`).
-/

namespace MovieFun

/-- The service, the blocks on the main queue, the requests without a reply, and the
ids of the calls so far. A call is known by its number. -/
structure FavoriteSystem where
  service : FavoriteMovieService := {}
  mainQueue : List Nat := []
  requests : List (Nat × Int) := []
  calls : List (List Int) := []

/-- What can reach the service. -/
inductive FavoriteEvent
  | checkFavoriteMovies (share : AccountService) (realm : Option Realm)
      (movieIds : Option (List Int))
  | getDocumentReply (call : Nat) (movieId : Int) (data : Option Dictionary)
      (error : Option NSError)
  | notify (call : Nat)

namespace FavoriteEvent

/-- The value that the event brings a call for an id. -/
def replied (call : Nat) (movieId : Int) : FavoriteEvent → Option (Option Bool)
  | getDocumentReply caller repliedId data error =>
      if caller = call ∧ repliedId = movieId then
        some (FavoriteMovieService.isFavorite data error).1
      else none
  | _ => none

/-- What the event does to the entry of an id: a call that asks clears it, and a
reply for the id, to whichever call, sets it. -/
def touches (movieId : Int) : FavoriteEvent → Option (Option (Option Bool))
  | checkFavoriteMovies share _ movieIds =>
      (FavoriteMovieService.asks share movieIds).map fun _ => none
  | getDocumentReply _ repliedId data error =>
      if repliedId = movieId then some (some (FavoriteMovieService.isFavorite data error).1)
      else none
  | _ => none

/-- The call whose block the event runs. -/
def notified : FavoriteEvent → Option Nat
  | notify call => some call
  | _ => none

end FavoriteEvent

namespace FavoriteSystem

/-- The system after an event that can happen. -/
def step (system : FavoriteSystem) : FavoriteEvent → Option FavoriteSystem
  | .checkFavoriteMovies share realm movieIds =>
      match system.service.checkFavoriteMovies share realm movieIds system.calls.length with
      | .answered _ => some system
      | .requested service submitted movieIds =>
          some {
            service
            mainQueue := system.mainQueue ++ submitted
            requests := system.requests ++
              movieIds.map fun movieId => (system.calls.length, movieId)
            calls := system.calls ++ [movieIds] }
  | .getDocumentReply call movieId data error =>
      if (call, movieId) ∈ system.requests then do
        let (service, submitted) ←
          system.service.setFavorite movieId (FavoriteMovieService.isFavorite data error).1
        return { system with
          service
          mainQueue := system.mainQueue ++ submitted
          requests := system.requests.erase (call, movieId) }
      else none
  | .notify call =>
      if call ∈ system.mainQueue then
        some { system with mainQueue := system.mainQueue.erase call }
      else none

/-- What a block of the main queue hands to the completion of its call. -/
def handed (system : FavoriteSystem) : Option IsFavorites × Option NSError :=
  (some system.service.isFavorites, none)

/-- The system after a run from the start. -/
def run (events : List FavoriteEvent) : Option FavoriteSystem :=
  EventRun.runFrom step {} events

/-- The dictionary handed to a call has an entry for each of its ids, with the value
that was replied for the id to the call. -/
def Told (before : List FavoriteEvent) (system : FavoriteSystem) (call : Nat) : Prop :=
  ∀ movieIds, system.calls[call]? = some movieIds → ∀ movieId ∈ movieIds,
    ∃ isFavorites isFavorite, system.handed = (some isFavorites, none) ∧
      EventRun.last (FavoriteEvent.replied call movieId) before = some isFavorite ∧
      isFavorites.lookup movieId = some isFavorite

/-- For each id of a call, the last event that starts a check or brings a reply for
the id brings the value that the call itself was last replied. -/
def Undisturbed (before : List FavoriteEvent) (system : FavoriteSystem) (call : Nat) : Prop :=
  ∀ movieIds, system.calls[call]? = some movieIds → ∀ movieId ∈ movieIds, ∀ isFavorite,
    EventRun.last (FavoriteEvent.replied call movieId) before = some isFavorite →
      EventRun.last (FavoriteEvent.touches movieId) before = some (some isFavorite)

/-- A property of every block that runs, of the events before it and its call. -/
def EveryHanding (events : List FavoriteEvent)
    (holds : List FavoriteEvent → FavoriteSystem → Nat → Prop) : Prop :=
  ∀ before call, before ++ [.notify call] <+: events → ∀ system, run before = some system →
    call ∈ system.mainQueue → holds before system call

/-- The blocks that wait or are on the main queue are of different calls, a request
without a reply is of a call whose block waits, and the group counts the requests. -/
structure Balanced (system : FavoriteSystem) : Prop where
  entered : system.service.dispatchGroup.entered = system.requests.length
  prompt : system.service.dispatchGroup.Prompt
  waiting : ∀ request ∈ system.requests, request.1 ∈ system.service.dispatchGroup.waiting
  apart : (system.service.dispatchGroup.waiting ++ system.mainQueue).Nodup
  numbered : ∀ call ∈ system.service.dispatchGroup.waiting ++ system.mainQueue,
    call < system.calls.length

/-- The dictionary and the requests in terms of the events so far. -/
structure Recorded (before : List FavoriteEvent) (system : FavoriteSystem) : Prop where
  entries : ∀ movieId, system.service.isFavorites.lookup movieId =
    (EventRun.last (FavoriteEvent.touches movieId) before).join
  requests : ∀ call movieIds, system.calls[call]? = some movieIds → ∀ movieId ∈ movieIds,
    (call, movieId) ∈ system.requests ∨
      (EventRun.last (FavoriteEvent.replied call movieId) before).isSome

variable {system next : FavoriteSystem} {event : FavoriteEvent} {before : List FavoriteEvent}

/-- A check that asks nothing leaves the system. -/
theorem step_of_quiet {share : AccountService} {realm : Option Realm}
    {movieIds : Option (List Int)} (quiet : FavoriteMovieService.asks share movieIds = none) :
    step system (.checkFavoriteMovies share realm movieIds) = some system := by
  have answered : ∃ reply, system.service.checkFavoriteMovies share realm movieIds
      system.calls.length = .answered reply :=
    FavoriteMovieService.checkFavoriteMovies_of_quiet quiet
  obtain ⟨reply, answered⟩ := answered
  simp only [step, answered]

/-- The state after a check that asks for ids. -/
def asked (movieIds : List Int) (system : FavoriteSystem) : FavoriteSystem :=
  let (dispatchGroup, submitted) :=
    (system.service.dispatchGroup.enter movieIds.length).notify system.calls.length
  { service := { isFavorites := ∅, dispatchGroup }
    mainQueue := system.mainQueue ++ submitted
    requests := system.requests ++ movieIds.map fun movieId => (system.calls.length, movieId)
    calls := system.calls ++ [movieIds] }

/-- A check that asks for ids sends a request for each. -/
theorem step_of_asks {share : AccountService} {realm : Option Realm}
    {movieIds : Option (List Int)} {ids : List Int}
    (asks : FavoriteMovieService.asks share movieIds = some ids) :
    step system (.checkFavoriteMovies share realm movieIds) = some (system.asked ids) := by
  simp only [step, FavoriteMovieService.checkFavoriteMovies_of_asks asks]
  rfl

/-- A reply sets the entry of its id, answers its request and leaves the group. -/
theorem step_reply_eq_some {call : Nat} {movieId : Int} {data : Option Dictionary}
    {error : Option NSError}
    (taken : step system (.getDocumentReply call movieId data error) = some next) :
    (call, movieId) ∈ system.requests ∧ ∃ dispatchGroup submitted,
      system.service.dispatchGroup.leave = some (dispatchGroup, submitted) ∧
      next = { system with
        service := {
          isFavorites := system.service.isFavorites.insert movieId
            (FavoriteMovieService.isFavorite data error).1
          dispatchGroup }
        mainQueue := system.mainQueue ++ submitted
        requests := system.requests.erase (call, movieId) } := by
  simp only [step] at taken
  split at taken
  · next asked =>
    simp only [FavoriteMovieService.setFavorite, Option.bind_eq_bind, Option.bind_eq_some_iff]
      at taken
    obtain ⟨_, ⟨⟨dispatchGroup, submitted⟩, left, made⟩, taken⟩ := taken
    cases made
    cases taken
    exact ⟨asked, dispatchGroup, submitted, left, rfl⟩
  · cases taken

/-- A block that was submitted runs. -/
theorem step_notify_eq_some {call : Nat} (taken : step system (.notify call) = some next) :
    call ∈ system.mainQueue ∧
      next = { system with mainQueue := system.mainQueue.erase call } := by
  simp only [step] at taken
  split at taken
  · next onQueue =>
    cases taken
    exact ⟨onQueue, rfl⟩
  · cases taken

/-- The group of the service with its calls, given the events so far. -/
def callGroup (before : List FavoriteEvent) (system : FavoriteSystem) : CallGroup where
  group := system.service.dispatchGroup
  queue := system.mainQueue
  outstanding := ↑(system.requests.map Prod.fst)
  calls := system.calls.length
  ran := before.filterMap FavoriteEvent.notified

/-- A check that asks is a call of the group. -/
theorem callGroup_asked (movieIds : List Int) (silent : event.notified = none) :
    (system.asked movieIds).callGroup (before ++ [event]) =
      (system.callGroup before).called movieIds.length := by
  have ran : (before ++ [event]).filterMap FavoriteEvent.notified =
      before.filterMap FavoriteEvent.notified := EventRun.filterMap_concat_none silent
  have requests : (↑((system.requests ++ movieIds.map fun movieId =>
        (system.calls.length, movieId)).map Prod.fst) : Multiset Nat) =
      ↑(system.requests.map Prod.fst) +
        Multiset.replicate movieIds.length system.calls.length := by
    have replicated : (movieIds.map fun movieId => (system.calls.length, movieId)).map Prod.fst =
        List.replicate movieIds.length system.calls.length := by
      rw [List.map_map]
      exact List.map_const
    rw [List.map_append, replicated, ← Multiset.coe_replicate, Multiset.coe_add]
  simp only [callGroup, asked, CallGroup.called, ran, requests, List.length_append,
    List.length_singleton]

theorem balanced_initial : (callGroup [] {}).Balanced := CallGroup.balanced_empty

/-- **The service moves like its group.** Each step is a move of the calls that share
the group, or changes nothing of them. -/
theorem movesLike_callGroup : CallGroup.MovesLike step callGroup := by
  intro before event system next taken
  cases event with
  | checkFavoriteMovies share realm movieIds =>
      cases asks : FavoriteMovieService.asks share movieIds with
      | none =>
          rw [step_of_quiet asks] at taken
          cases taken
          apply Or.inl
          rw [callGroup, callGroup, EventRun.filterMap_concat_none rfl]
      | some ids =>
          rw [step_of_asks asks] at taken
          cases taken
          exact .inr ⟨.call ids.length, congrArg some (callGroup_asked ids rfl).symm⟩
  | getDocumentReply call movieId data error =>
      obtain ⟨asked, dispatchGroup, submitted, left, rfl⟩ := step_reply_eq_some taken
      have isOutstanding : call ∈ (system.callGroup before).outstanding :=
        Multiset.mem_coe.mpr (List.mem_map_of_mem asked)
      have leaves : (system.callGroup before).group.leave = some (dispatchGroup, submitted) := left
      have ran : (before ++ [FavoriteEvent.getDocumentReply call movieId data error]).filterMap
          FavoriteEvent.notified = before.filterMap FavoriteEvent.notified :=
        EventRun.filterMap_concat_none rfl
      have requests : (↑((system.requests.erase (call, movieId)).map Prod.fst) : Multiset Nat) =
          (↑(system.requests.map Prod.fst) : Multiset Nat).erase call := by
        rw [Multiset.coe_eq_coe.mpr ((List.perm_cons_erase asked).map Prod.fst), List.map_cons,
          ← Multiset.cons_coe, Multiset.erase_cons_head]
      refine .inr ⟨.finish call, ?_⟩
      rw [CallGroup.step, if_pos isOutstanding, leaves]
      simp only [callGroup, ran, requests, Option.map_some]
  | notify call =>
      obtain ⟨onQueue, rfl⟩ := step_notify_eq_some taken
      have isQueued : call ∈ (system.callGroup before).queue := onQueue
      refine .inr ⟨.run call, ?_⟩
      rw [CallGroup.step, if_pos isQueued]
      simp only [callGroup, List.filterMap_append]
      rfl

/-- An event that touches no entry and brings no reply leaves the records. -/
theorem Recorded.of_same (recorded : Recorded before system)
    (isFavorites : next.service.isFavorites = system.service.isFavorites)
    (requests : next.requests = system.requests) (calls : next.calls = system.calls)
    (untouched : ∀ movieId, event.touches movieId = none)
    (silent : ∀ call movieId, event.replied call movieId = none) :
    Recorded (before ++ [event]) next where
  entries movieId := by
    rw [isFavorites, EventRun.last_concat, untouched]
    exact recorded.entries movieId
  requests call movieIds isCall movieId member := by
    rw [calls] at isCall
    rw [requests, EventRun.last_concat, silent]
    exact recorded.requests call movieIds isCall movieId member

/-- A check that asks clears every entry and has a request for each of its ids. -/
theorem Recorded.asked (recorded : Recorded before system) {share : AccountService}
    {realm : Option Realm} {movieIds : Option (List Int)} {ids : List Int}
    (asks : FavoriteMovieService.asks share movieIds = some ids) :
    Recorded (before ++ [.checkFavoriteMovies share realm movieIds]) (system.asked ids) := by
  constructor
  · intro movieId
    rw [EventRun.last_concat, FavoriteEvent.touches, asks]
    rfl
  · intro call asked isCall movieId member
    rw [EventRun.last_concat]
    change (system.calls ++ [ids])[call]? = some asked at isCall
    change (call, movieId) ∈ system.requests ++ _ ∨ _
    rcases CallGroup.getElem?_concat_eq_some isCall with older | ⟨rfl, rfl⟩
    · rcases recorded.requests call asked older movieId member with waiting | replied
      · exact .inl (List.mem_append_left _ waiting)
      · exact .inr replied
    · exact .inl (List.mem_append_right _ (List.mem_map_of_mem member))

/-- A reply sets the entry of its id and answers its request. -/
theorem Recorded.replied (recorded : Recorded before system) {call : Nat} {movieId : Int}
    {data : Option Dictionary} {error : Option NSError}
    (taken : step system (.getDocumentReply call movieId data error) = some next) :
    Recorded (before ++ [.getDocumentReply call movieId data error]) next := by
  obtain ⟨-, dispatchGroup, submitted, -, rfl⟩ := step_reply_eq_some taken
  constructor
  · intro otherId
    rw [EventRun.last_concat, FavoriteEvent.touches]
    change (system.service.isFavorites.insert movieId _).lookup otherId = _
    by_cases same : movieId = otherId
    · rw [if_pos same, ← same, AList.lookup_insert]
      rfl
    · rw [if_neg same, AList.lookup_insert_ne (Ne.symm same), recorded.entries]
      rfl
  · intro otherCall ids isCall otherId member
    rw [EventRun.last_concat, FavoriteEvent.replied]
    by_cases same : call = otherCall ∧ movieId = otherId
    · rw [if_pos same]
      exact .inr rfl
    · rw [if_neg same]
      rcases recorded.requests otherCall ids isCall otherId member with waiting | replied
      · refine .inl ((List.mem_erase_of_ne fun isIt => ?_).mpr waiting)
        exact same ⟨(congrArg Prod.fst isIt).symm, (congrArg Prod.snd isIt).symm⟩
      · exact .inr replied

/-- Each step records what it does to the entries and the requests. -/
theorem recorded_of_step (recorded : Recorded before system)
    (taken : step system event = some next) : Recorded (before ++ [event]) next := by
  cases event with
  | checkFavoriteMovies share realm movieIds =>
      cases asks : FavoriteMovieService.asks share movieIds with
      | none =>
          rw [step_of_quiet asks] at taken
          cases taken
          apply recorded.of_same rfl rfl rfl
          · intro movieId
            rw [FavoriteEvent.touches, asks]
            rfl
          · exact fun _ _ => rfl
      | some ids =>
          rw [step_of_asks asks] at taken
          cases taken
          exact recorded.asked asks
  | getDocumentReply call movieId data error => exact recorded.replied taken
  | notify call =>
      obtain ⟨-, rfl⟩ := step_notify_eq_some taken
      exact recorded.of_same rfl rfl rfl (fun _ => rfl) fun _ _ => rfl

/-- The group is balanced in every run. -/
theorem balanced_of_run {events : List FavoriteEvent} (reached : run events = some system) :
    Balanced system := by
  have balanced := movesLike_callGroup.balanced balanced_initial reached
  have sublist : (system.service.dispatchGroup.waiting ++ system.mainQueue).Sublist
      (system.callGroup events).blocks := List.sublist_append_left _ _
  constructor
  · exact balanced.entered.trans (List.length_map _)
  · exact balanced.prompt
  · exact fun request member => balanced.waiting _ (List.mem_map_of_mem member)
  · exact (balanced.once.nodup_iff.mpr List.nodup_range).sublist sublist
  · intro call member
    exact List.mem_range.mp (balanced.once.mem_iff.mp (sublist.subset member))

/-- In every run, the dictionary and the requests are those of the events. -/
theorem recorded_of_run (reached : run before = some system) : Recorded before system := by
  refine EventRun.invariant Recorded ?_ ?_ reached
  · exact ⟨fun _ => rfl, fun _ _ isCall => absurd isCall (by simp)⟩
  · exact fun before event state next _ recorded taken => recorded_of_step recorded taken

/-- When the block of a call runs, the call was replied for each of its ids. -/
theorem replied_of_submitted {call : Nat} (reached : run before = some system)
    (submitted : call ∈ system.mainQueue) {movieIds : List Int}
    (isCall : system.calls[call]? = some movieIds) {movieId : Int} (member : movieId ∈ movieIds) :
    ∃ isFavorite,
      EventRun.last (FavoriteEvent.replied call movieId) before = some isFavorite := by
  have balanced := balanced_of_run reached
  rcases (recorded_of_run reached).requests call movieIds isCall movieId member with
    outstanding | replied
  · obtain ⟨-, -, apart⟩ := List.nodup_append.mp balanced.apart
    exact absurd rfl (apart call (balanced.waiting _ outstanding) call submitted)
  · exact Option.isSome_iff_exists.mp replied

/-- **When overlapping checks do not mix.** In every interleaving, every call is
handed the values that were replied to it exactly when, for each of its ids, nothing
that starts a check or replies for the id comes between its own reply and its block,
but for replies of the same value. -/
theorem told_iff_undisturbed (events : List FavoriteEvent) :
    EveryHanding events Told ↔ EveryHanding events Undisturbed := by
  have pointwise : ∀ before system call, run before = some system → call ∈ system.mainQueue →
      (Told before system call ↔ Undisturbed before system call) := by
    intro before system call reached submitted
    have entries := (recorded_of_run reached).entries
    constructor
    · intro told movieIds isCall movieId member isFavorite replied
      obtain ⟨isFavorites, value, handed, wasReplied, entry⟩ := told movieIds isCall movieId member
      cases handed
      rw [entries, Option.join_eq_some_iff] at entry
      rw [replied] at wasReplied
      cases wasReplied
      exact entry
    · intro undisturbed movieIds isCall movieId member
      obtain ⟨isFavorite, replied⟩ := replied_of_submitted reached submitted isCall member
      refine ⟨_, isFavorite, rfl, replied, ?_⟩
      rw [entries, undisturbed movieIds isCall movieId member isFavorite replied]
      rfl
  constructor
  · intro always before call inside system reached submitted
    exact (pointwise before system call reached submitted).mp
      (always before call inside system reached submitted)
  · intro always before call inside system reached submitted
    exact (pointwise before system call reached submitted).mpr
      (always before call inside system reached submitted)

/-- While a check of the movies 1 and 2 waits for the second, another screen checks
the movie 3. -/
def otherScreen : List FavoriteEvent :=
  let share : AccountService := ⟨some ⟨"an", "An", "an@mail", "", ⟨0⟩⟩, some "an"⟩
  [.checkFavoriteMovies share (some []) (some [1, 2]),
    .getDocumentReply 0 1 (some []) none,
    .checkFavoriteMovies share (some []) (some [3]),
    .getDocumentReply 0 2 (some []) none,
    .getDocumentReply 1 3 (some []) none,
    .notify 0]

/-- The first check is handed no entry for the movie 1. -/
theorem not_told_otherScreen : ¬ EveryHanding otherScreen Told := by
  intro always
  have mixed : (run (otherScreen.take 5)).map (fun system =>
      (system.mainQueue, system.calls, system.service.isFavorites.lookup 1)) =
        some ([0, 1], [[1, 2], [3]], none) := by decide +kernel
  obtain ⟨system, reached, same⟩ := Option.map_eq_some_iff.mp mixed
  obtain ⟨isQueue, rest⟩ := Prod.mk.inj same
  obtain ⟨isCalls, missing⟩ := Prod.mk.inj rest
  have submitted : 0 ∈ system.mainQueue := isQueue ▸ List.mem_cons_self
  obtain ⟨isFavorites, isFavorite, handed, -, entry⟩ := always (otherScreen.take 5) 0
    (List.prefix_rfl) system reached submitted [1, 2] (by rw [isCalls]; rfl) 1 List.mem_cons_self
  cases handed
  rw [missing] at entry
  cases entry

end FavoriteSystem

end MovieFun
