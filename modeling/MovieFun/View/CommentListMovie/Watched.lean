import MovieFun.View.CommentListMovie.CommentListSystem

/-!
# Every listed conversation is watched

Listeners are attached where a fetch is answered, and the list also grows where its own
listener is called. A movie that is first listed there has no listener, and gets none
before the next start (`watched_iff_alreadyLive`).
-/

namespace MovieFun

open CommentListSystem CommentListController

/-- The listener of a chat is live. -/
def Live (system : CommentListSystem) (movieId : String) : Prop :=
  ∃ registration ∈ system.groupListener.live, registration.key = movieId

/-- While no fetch is awaited, each movie listed has a live listener. -/
def Watched (system : CommentListSystem) : Prop :=
  system.fetches = 0 → ∀ movieId ∈ removedIds system.controller, Live system movieId

/-- A snapshot that builds the list brings movies with a live listener only. The movies
listed still have theirs where the last fetch awaited brings nothing. -/
def AlreadyLive (system : CommentListSystem) : CommentListEvent → Prop
  | .fetchReply _ groupComments error =>
      (error.isSome ∨ groupComments = none) → system.fetches = 1 →
        ∀ movieId ∈ removedIds system.controller, Live system movieId
  | .groupChat _ (some groupComments) none =>
      system.controller.didStart = true → system.fetches = 0 →
        ∀ movieId ∈ chatsOf groupComments, Live system movieId
  | _ => True

variable {system next : CommentListSystem} {event : CommentListEvent}

/-- The chats of comments are those of their movies. -/
theorem mem_chatsOf {groupComments : List GroupComment} {movieId : String} :
    movieId ∈ chatsOf groupComments ↔ ∃ groupComment ∈ groupComments, ∃ movie,
      groupComment.movie = some movie ∧
        movie.id.map CommentListService.documentID = some movieId := by
  rw [chatsOf, List.mem_filterMap]
  refine exists_congr fun groupComment => and_congr_right fun _ => ?_
  cases groupComment.movie with
  | none => simp only [Option.bind_none, Option.map_none, reduceCtorEq, false_and, exists_false]
  | some movie => simp only [Option.bind_some, Option.some.injEq, exists_eq_left']

/-- Where a fetch is answered, each movie gets a listener, and the others keep theirs. -/
theorem live_fetched_iff {share : AccountService} {groupComments : List GroupComment}
    {movies : List (String × Movie)} (listened : listenedMovies groupComments = some movies)
    {movieId : String} :
    Live (initListenerForGroupChat share (initListenerForMovieChat movies system)) movieId ↔
      Live system movieId ∨ movieId ∈ chatsOf groupComments := by
  obtain ⟨added, live, same⟩ := SlotRegistry.live_foldl_add movies system.groupListener
  simp only [Live, groupListener_initListenerForGroupChat, initListenerForMovieChat, live,
    List.mem_append, or_and_right, exists_or]
  apply or_congr_right
  rw [mem_chatsOf]
  constructor
  · rintro ⟨registration, new, rfl⟩
    have addition : (registration.key, registration.payload) ∈ movies :=
      same ▸ List.mem_map.mpr ⟨registration, new, rfl⟩
    obtain ⟨groupComment, inside, about, isKey⟩ := (mem_listenedMovies listened).mp addition
    exact ⟨groupComment, inside, registration.payload, about, isKey⟩
  · rintro ⟨groupComment, inside, movie, about, isKey⟩
    have addition : (movieId, movie) ∈ movies :=
      (mem_listenedMovies listened).mpr ⟨groupComment, inside, about, isKey⟩
    rw [← same, List.mem_map] at addition
    obtain ⟨registration, new, isAddition⟩ := addition
    exact ⟨registration, new, congrArg Prod.fst isAddition⟩

/-- A snapshot attaches no listener and removes none. -/
theorem live_snapshot_iff (snapshot : event.setsDidStart = some true)
    (taken : step system event = some next) (movieId : String) :
    Live next movieId ↔ Live system movieId := by
  cases taken_of_step taken with
  | start => cases snapshot
  | notFetched => cases snapshot
  | fetched => cases snapshot
  | movieChatFirst => exact Iff.rfl
  | movieChat => exact Iff.rfl
  | groupChatFirst => exact Iff.rfl
  | groupChatNothing => exact Iff.rfl
  | groupChat => exact Iff.rfl

/-- After one start and its fetch, the live listeners stay those of the movies fetched. -/
theorem live_iff_fetched {share atReply : AccountService} {groupComments : List GroupComment}
    {snapshots : List CommentListEvent}
    (onlySnapshots : ∀ event ∈ snapshots, event.setsDidStart = some true)
    (reached : run (.start share :: .fetchReply atReply (some groupComments) none :: snapshots) =
      some system) (movieId : String) :
    Live system movieId ↔ movieId ∈ chatsOf groupComments := by
  obtain ⟨started, starts, rest⟩ := EventRun.runFrom_cons_eq_some step reached
  obtain ⟨fetched, fetches, later⟩ := EventRun.runFrom_cons_eq_some step rest
  refine EventRun.invariant (fun _ system => Live system movieId ↔ movieId ∈ chatsOf groupComments)
    ?_ ?_ later
  · cases taken_of_step starts with
    | start =>
        cases taken_of_step fetches with
        | notFetched _ nothing => exact absurd nothing (by simp)
        | fetched _ listened =>
            rw [live_fetched_iff listened]
            exact or_iff_right fun ⟨_, member, _⟩ => absurd member List.not_mem_nil
  · intro before event system next inside live taken
    have member : event ∈ snapshots :=
      inside.subset (List.mem_append_right before List.mem_cons_self)
    exact (live_snapshot_iff (onlySnapshots event member) taken movieId).trans live

/-- A step leaves every movie watched exactly if what it lists is live already. -/
theorem watched_step_iff (watched : Watched system) (taken : step system event = some next) :
    Watched next ↔ AlreadyLive system event := by
  cases taken_of_step taken with
  | start => exact iff_of_true (fun awaited => absurd awaited (Nat.succ_ne_zero _)) trivial
  | @notFetched share groupComments error waits nothing =>
      have isLast : system.fetches - 1 = 0 ↔ system.fetches = 1 := by omega
      constructor
      · exact fun after _ only => after (isLast.mpr only)
      · exact fun live awaited => live nothing (isLast.mp awaited)
  | @fetched share groupComments movies waits listened =>
      refine iff_of_true (fun _ => ?_) fun nothing => ?_
      · intro movieId member
        rw [controller_initListenerForGroupChat] at member
        exact (live_fetched_iff listened).mpr (.inr member)
      · rcases nothing with failed | absent
        · cases failed
        · cases absent
  | movieChatFirst => exact iff_of_true watched trivial
  | movieChat => exact iff_of_true watched trivial
  | @groupChatFirst registration groupComments error _ first =>
      apply iff_of_true watched
      unfold AlreadyLive
      split
      · next failed => cases failed
      · intro started
        rw [started] at first
        cases first
      · trivial
  | @groupChatNothing registration groupComments error _ _ nothing =>
      refine iff_of_true watched (of_nothing nothing (fun answer _ => ?_) trivial)
      cases answer <;> trivial
  | @groupChat registration groupComments sorted _ started isSorted =>
      have sameChats : ∀ movieId, movieId ∈ chatsOf sorted ↔ movieId ∈ chatsOf groupComments :=
        fun movieId => ((sortedNewestFirst_eq_some isSorted).2.filterMap _).mem_iff
      constructor
      · exact fun after _ awaited movieId member =>
          after awaited movieId ((sameChats movieId).mpr member)
      · exact fun live awaited movieId member =>
          live started awaited movieId ((sameChats movieId).mp member)

/-- **Every listed conversation is watched exactly when the list brings no new movies.**
In every run, from its first event on. -/
theorem watched_iff_alreadyLive (events : List CommentListEvent) :
    EventRun.EachState step Watched {} events ↔ EventRun.EachStep step AlreadyLive {} events := by
  refine EventRun.eachState_iff_eachStep (fun _ _ => True) ?_ trivial
    (fun _ _ _ _ _ _ _ => trivial) ?_
  · exact fun _ _ member => absurd member List.not_mem_nil
  · exact fun _ _ _ _ _ _ watched taken => watched_step_iff watched taken

/-- The account comments on a second movie while its list of one movie is shown. -/
def secondMovie (share : AccountService) (first second : GroupComment) : List CommentListEvent :=
  [.start share,
    .fetchReply share (some [first]) none,
    .groupChat { key := (), number := 0, payload := "an" } (some [first]) none,
    .groupChat { key := (), number := 0, payload := "an" } (some [first, second]) none]

/-- The chat of the second movie has no listener. -/
theorem not_watched_secondMovie :
    ¬ EventRun.EachState step Watched {} (secondMovie
      { account := some ⟨"an", "An", "an@example.com", "", ⟨0⟩⟩, userLogin := some "an" }
      { movie := some { id := some 1 }, sendDate := some ⟨1566396309000000000⟩ }
      { movie := some { id := some 2 }, sendDate := some ⟨1566396400000000000⟩ }) := by
  intro watched
  obtain ⟨registration, live, isKey⟩ := watched _ List.prefix_rfl _ rfl rfl
    (CommentListService.documentID 2) List.mem_cons_self
  cases List.mem_singleton.mp live
  exact absurd isKey (by decide)

end MovieFun
