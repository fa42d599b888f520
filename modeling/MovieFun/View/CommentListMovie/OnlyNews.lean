import MovieFun.View.CommentListMovie.CommentListSystem

/-!
# Only news updates the comment list

The first snapshot of a listener lists what there is already and should do nothing; any
later one of a chat should write the preview of its movie. All listeners share one flag,
which is spent on the first snapshot of them all, so the first snapshot of any other is
taken for news (`onlyNews_iff_loneFirst`).
-/

namespace MovieFun

open CommentListSystem CommentListController

namespace CommentListEvent

/-- The registration with a chat that a snapshot is for. -/
def movieChatListener? : CommentListEvent → Option MovieChatListener
  | movieChat _ _ registration _ _ => some registration
  | _ => none

/-- The registration with the list that a snapshot is for. -/
def groupChatListener? : CommentListEvent → Option GroupChatListener
  | groupChat registration _ _ => some registration
  | _ => none

end CommentListEvent

open CommentListEvent

/-- The event writes nothing and builds nothing. -/
def Quiet (system : CommentListSystem) (event : CommentListEvent) : Prop :=
  ∃ next, step system event = some next ∧ next.writes = system.writes ∧
    next.builds = system.builds

/-- The event writes one document, that of the movie of a chat. -/
def WritesOnce (movieId : String) (system : CommentListSystem) (event : CommentListEvent) : Prop :=
  ∃ next write, step system event = some next ∧ next.writes = system.writes ++ [write] ∧
    write.documentID = movieId

/-- The first snapshot of a listener is quiet, and any later one of a chat that brings
messages writes the preview of the chat. -/
def OnlyNews (before : List CommentListEvent) (system : CommentListSystem)
    (event : CommentListEvent) : Prop :=
  system.enabled event → match event with
    | movieChat _ _ registration messageChanges error =>
        if registration ∈ before.filterMap movieChatListener? then
          ∀ messages, error = none → messageChanges = some messages → messages ≠ [] →
            WritesOnce registration.key system event
        else Quiet system event
    | groupChat registration _ _ =>
        registration ∉ before.filterMap groupChatListener? → Quiet system event
    | _ => True

/-- The first snapshot of a listener is the first of all since the start, or there is
nothing in it to write or build. Any later one of a chat that brings messages is not the
first of all, and while somebody is signed in its messages can be sorted and the newest
can be previewed. -/
def LoneFirst (before : List CommentListEvent) (system : CommentListSystem)
    (event : CommentListEvent) : Prop :=
  system.enabled event → match event with
    | movieChat share _ registration messageChanges error =>
        if registration ∈ before.filterMap movieChatListener? then
          ∀ messages, error = none → messageChanges = some messages → messages ≠ [] →
            Heard before ∧ share.getAccountId.isSome ∧ Sortable messages ∧
              ∀ message ∈ newest messages, Previewable message
        else Heard before →
          ∀ messages, error = none → messageChanges = some messages → messages ≠ [] →
            share.getAccountId = none ∧ Sortable messages
    | groupChat registration groupComments error =>
        registration ∉ before.filterMap groupChatListener? → Heard before →
          error.isSome ∨ groupComments = none
    | _ => True

section Steps

variable {system : CommentListSystem} {share : AccountService} {now : Date}
  {registration : MovieChatListener} {listRegistration : GroupChatListener}
  {messageChanges : Option (List Message)} {groupComments : Option (List GroupComment)}
  {error : Option NSError}

/-- Once a snapshot was dropped, a snapshot of a chat is quiet if it is no news. -/
theorem quiet_movieChat_iff (live : registration ∈ system.groupListener.live) :
    Quiet system (movieChat share now registration messageChanges error) ↔
      (system.controller.didStart = true →
        newsOf share now registration.payload messageChanges error = some none) := by
  cases started : system.controller.didStart with
  | false =>
      apply iff_of_true ⟨_, step_movieChat_first live started, rfl, rfl⟩
      intro wrong
      cases wrong
  | true =>
      rw [Quiet, step_movieChat live started]
      constructor
      · rintro ⟨next, taken, writes, -⟩ _
        obtain ⟨write, written, rfl⟩ := Option.map_eq_some_iff.mp taken
        cases write with
        | none => exact written
        | some write => cases List.append_right_eq_self.mp writes
      · intro noNews
        rw [noNews rfl]
        exact ⟨_, rfl, List.append_nil _, rfl⟩

/-- Once a snapshot was dropped, a snapshot of the list is quiet if it is empty. -/
theorem quiet_groupChat_iff (live : listRegistration ∈ system.listener.live) :
    Quiet system (groupChat listRegistration groupComments error) ↔
      (system.controller.didStart = true → error.isSome ∨ groupComments = none) := by
  cases started : system.controller.didStart with
  | false =>
      apply iff_of_true ⟨_, step_groupChat_first live started, rfl, rfl⟩
      intro wrong
      cases wrong
  | true =>
      constructor
      · rintro ⟨next, taken, -, builds⟩ _
        cases taken_of_step taken with
        | groupChatFirst _ first =>
            rw [started] at first
            cases first
        | groupChatNothing _ _ nothing => exact nothing
        | groupChat => exact absurd builds (Nat.succ_ne_self _)
      · intro nothing
        exact ⟨system, step_groupChat_none live started (nothing rfl), rfl, rfl⟩

/-- A snapshot of a chat with messages writes once if it is not dropped and its newest
message can be previewed. -/
theorem writesOnce_iff {messages : List Message} (named : Named system)
    (live : registration ∈ system.groupListener.live) (nonempty : messages ≠ []) :
    WritesOnce registration.key system (movieChat share now registration (some messages) none) ↔
      system.controller.didStart = true ∧ share.getAccountId.isSome ∧ Sortable messages ∧
        ∀ message ∈ newest messages, Previewable message := by
  constructor
  · rintro ⟨next, write, taken, writes, -⟩
    cases taken_of_step taken with
    | movieChatFirst =>
        cases List.self_eq_append_right.mp writes
    | @movieChat _ _ _ _ _ written _ started news =>
        cases written with
        | none =>
            rw [Option.toList_none, List.append_nil] at writes
            cases List.self_eq_append_right.mp writes
        | some write =>
            obtain ⟨-, signedIn, -, _, message, same, sortable, isNewest, previewable, -⟩ :=
              newsOf_eq_write news
            cases same
            refine ⟨started, Option.isSome_of_mem signedIn, sortable, fun other isOther => ?_⟩
            rw [isNewest] at isOther
            cases isOther
            exact previewable
  · rintro ⟨started, signedIn, sortable, previewable⟩
    obtain ⟨message, isNewest⟩ :=
      Option.isSome_iff_exists.mp (Bucket.isSome_greatest Message.NoLater nonempty)
    have isKey := named registration live
    obtain ⟨movieId, hasId, -⟩ := Option.map_eq_some_iff.mp isKey
    obtain ⟨write, news⟩ := @exists_newsOf_eq_write share now _ messages message
      (Option.isSome_of_mem hasId) signedIn sortable isNewest (previewable message isNewest)
    refine ⟨{ system with writes := system.writes ++ [write] }, write, ?_, rfl, ?_⟩
    · rw [step_movieChat live started, news]
      rfl
    · obtain ⟨-, -, isDocument, -⟩ := newsOf_eq_write news
      rw [isKey, Option.some.injEq] at isDocument
      exact isDocument.symm

end Steps

/-- **Only news updates the list exactly when each first snapshot is the first of all.**
In every run, for any number of movies and any order of the snapshots. -/
theorem onlyNews_iff_loneFirst (events : List CommentListEvent) :
    EventRun.EachAttempt step OnlyNews {} events ↔
      EventRun.EachAttempt step LoneFirst {} events := by
  apply EventRun.eachAttempt_congr
  intro before system event reached
  have named : Named system := named_of_run reached
  have heard := didStart_iff_heard reached
  apply forall_congr'
  intro possible
  cases event with
  | start share => exact Iff.rfl
  | fetchReply share groupComments error => exact Iff.rfl
  | movieChat share now registration messageChanges error =>
      have live : registration ∈ system.groupListener.live := of_decide_eq_true possible
      dsimp only
      split
      · apply forall_congr'
        intro messages
        constructor
        · rintro writes rfl rfl nonempty
          rw [← heard]
          exact (writesOnce_iff named live nonempty).mp (writes rfl rfl nonempty)
        · rintro complete rfl rfl nonempty
          apply (writesOnce_iff named live nonempty).mpr
          rw [heard]
          exact complete rfl rfl nonempty
      · rw [quiet_movieChat_iff live, heard, newsOf_eq_none_iff]
  | groupChat registration groupComments error =>
      have live : registration ∈ system.listener.live := of_decide_eq_true possible
      dsimp only
      rw [quiet_groupChat_iff live, heard]

section FirstSnapshots

/-- The session of "an". -/
def commenter : AccountService where
  account := some ⟨"an", "An", "an@example.com", "", ⟨0⟩⟩
  userLogin := some "an"

/-- What "an" has written about the movie 1. -/
def commentOnOne : GroupComment where
  movie := some { id := some 1 }
  newMessage := some "good"
  newSenderName := some "An"
  sendDate := some ⟨1566396309000000000⟩

/-- The listener of the list has its first snapshot, and then that of the one chat. -/
def firstSnapshots : List CommentListEvent :=
  [.start commenter,
    .fetchReply commenter (some [commentOnOne]) none,
    .groupChat { key := (), number := 0, payload := "an" } (some [commentOnOne]) none,
    .movieChat commenter ⟨1566396400000000000⟩
      { key := CommentListService.documentID 1, number := 0, payload := { id := some 1 } }
      (some [{
        accountId := some "an"
        accountName := some "An"
        sendDate := some ⟨1566396309000000000⟩
        content := some "good" }]) none]

/-- The message that was there already is written as news. -/
theorem not_onlyNews_firstSnapshots : ¬ EventRun.EachAttempt step OnlyNews {} firstSnapshots := by
  intro onlyNews
  obtain ⟨next, taken, writes, -⟩ :=
    onlyNews (firstSnapshots.take 3) firstSnapshots[3] List.prefix_rfl _ rfl rfl
  cases taken
  cases writes

end FirstSnapshots

end MovieFun
