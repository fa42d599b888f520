import MovieFun.Foundation.Traverse
import MovieFun.Network.CommentListService
import MovieFun.View.Chat.Admission

/-!
# CommentListController

The list of conversations of an account. It is built from a fetch, listens to the chat
of each movie fetched and to the list itself, and writes a new preview when a chat has
news. One flag, `didStart`, tells the first snapshot of all listeners from the others.
`none` is a trap of a forced unwrap.
-/

namespace MovieFun

/-- A row of the comment list: the header, or a comment. -/
inductive CommentListBaseRowViewModel
  | header
  | comment (groupComment : GroupComment)
deriving DecidableEq, Repr

/-- A section of the comment list. -/
structure CommentListSectionViewModel where
  commentListRowViewModels : List CommentListBaseRowViewModel := []
deriving DecidableEq, Repr

/-- What the screen of the comment list is bound to. -/
structure CommentListViewModel where
  isFetching : Bool := false
  haveChangeData : Bool := false
  commentListSectionViewModels : List CommentListSectionViewModel := []
deriving DecidableEq, Repr

/-- What the controller of the comment list holds. -/
structure CommentListController where
  commentListViewModel : CommentListViewModel := {}
  groupComments : Option (List GroupComment) := none
  didStart : Bool := false
deriving DecidableEq, Repr

/-- The order of the sort of the list. It only sees group comments with a date; those
without one come first. -/
def GroupComment.NoEarlier (group1 group2 : GroupComment) : Prop :=
  match group1.sendDate, group2.sendDate with
  | none, _ => True
  | some _, none => False
  | some date1, some date2 => date2 ≤ date1

instance : DecidableRel GroupComment.NoEarlier := fun group1 group2 => by
  unfold GroupComment.NoEarlier
  split <;> infer_instance

instance : Std.Total GroupComment.NoEarlier := ⟨fun group1 group2 => by
  unfold GroupComment.NoEarlier
  cases group1.sendDate with
  | none => exact .inl trivial
  | some date1 =>
      cases group2.sendDate with
      | none => exact .inr trivial
      | some date2 => exact le_total date2 date1⟩

instance : IsTrans GroupComment GroupComment.NoEarlier := ⟨fun group1 group2 group3 => by
  unfold GroupComment.NoEarlier
  cases group1.sendDate with
  | none => exact fun _ _ => trivial
  | some date1 =>
      cases group2.sendDate with
      | none => exact fun above => above.elim
      | some date2 =>
          cases group3.sendDate with
          | none => exact fun _ below => below.elim
          | some date3 => exact fun above below => le_trans below above⟩

namespace CommentListController

/-- Sorting by `sendDate!` traps when a comparison meets a group comment without one. -/
def sortedNewestFirst (groupComments : List GroupComment) : Option (List GroupComment) :=
  if groupComments.length ≤ 1 ∨ ∀ groupComment ∈ groupComments, groupComment.sendDate.isSome then
    some (groupComments.insertionSort GroupComment.NoEarlier)
  else none

/-- One section with the group comments, or with a header where there are none. -/
def buildViewModels (groupComments : List GroupComment) (controller : CommentListController) :
    CommentListController :=
  { controller with
    commentListViewModel :=
      { controller.commentListViewModel with
        commentListSectionViewModels :=
          [{ commentListRowViewModels := groupComments.map .comment ++
              if groupComments.length = 0 then [.header] else [] }] } }

/-- The names of the chats of group comments, of those whose movie has an id. -/
def chatsOf (groupComments : List GroupComment) : List String :=
  groupComments.filterMap fun groupComment =>
    (groupComment.movie.bind Movie.id).map CommentListService.documentID

/-- The chats whose listeners `removeListener` removes. -/
def removedIds (controller : CommentListController) : List String :=
  chatsOf (controller.groupComments.getD [])

/-- The fetch starts. -/
def start (controller : CommentListController) : CommentListController :=
  { controller with
    didStart := false
    commentListViewModel := { controller.commentListViewModel with isFetching := true } }

/-- The movies that the completion of the fetch listens to, by the names of their chats.
It traps on a movie without an id. -/
def listenedMovies (groupComments : List GroupComment) : Option (List (String × Movie)) :=
  (groupComments.filterMap GroupComment.movie).mapM fun movie =>
    movie.id.map fun movieId => (CommentListService.documentID movieId, movie)

/-- What the completion of the fetch makes of the screen. -/
def fetchCompletion (groupComments : Option (List GroupComment)) (error : Option NSError)
    (controller : CommentListController) : CommentListController :=
  let fetched := match error, groupComments with
    | none, some groupComments =>
        { buildViewModels groupComments controller with groupComments := some groupComments }
    | _, _ => controller
  { fetched with
    commentListViewModel := { fetched.commentListViewModel with isFetching := false } }

/-- The group comment that a message of the chat of a movie becomes. -/
def groupCommentOf (movie : Movie) (messageChange : Message) : GroupComment where
  movie := some movie
  newMessage := messageChange.content
  newSenderName := messageChange.accountName
  sendDate := messageChange.sendDate

/-- What is written for a snapshot of a chat that is not taken for the first one: its
last message by date. -/
def newsOf (share : AccountService) (now : Date) (movie : Movie)
    (messageChanges : Option (List Message)) (error : Option NSError) :
    Option (Option GroupCommentWrite) :=
  match error, messageChanges with
  | none, some messageChanges => do
      let messageChanges ← ChatController.sortedBySendDate messageChanges
      match messageChanges.getLast? with
      | none => some none
      | some messageChange =>
          CommentListService.addGroupComment share now (groupCommentOf movie messageChange)
  | _, _ => some none

/-- The completion of the listener of a chat, and the document it writes. -/
def movieChatCompletion (share : AccountService) (now : Date) (movie : Movie)
    (messageChanges : Option (List Message)) (error : Option NSError)
    (controller : CommentListController) :
    Option (CommentListController × Option GroupCommentWrite) :=
  if controller.didStart = false then some ({ controller with didStart := true }, none)
  else (newsOf share now movie messageChanges error).map fun write => (controller, write)

/-- The list as a snapshot of the list leaves it. -/
def rebuilt (groupComments : List GroupComment) (controller : CommentListController) :
    CommentListController :=
  let built := buildViewModels groupComments controller
  { built with
    commentListViewModel := { built.commentListViewModel with haveChangeData := true }
    groupComments := some groupComments }

/-- The completion of the listener of the list, and whether it builds the list. -/
def groupChatCompletion (groupComments : Option (List GroupComment)) (error : Option NSError)
    (controller : CommentListController) : Option (CommentListController × Bool) :=
  if controller.didStart = false then some ({ controller with didStart := true }, false)
  else
    match error, groupComments with
    | none, some groupComments => do
        let groupComments ← sortedNewestFirst groupComments
        return (rebuilt groupComments controller, true)
    | _, _ => some (controller, false)

/-- A sort by date gets through these messages. -/
def Sortable (messageChanges : List Message) : Prop :=
  messageChanges.length ≤ 1 ∨ ∀ message ∈ messageChanges, message.sendDate.isSome

instance (messageChanges : List Message) : Decidable (Sortable messageChanges) :=
  inferInstanceAs (Decidable (_ ∨ _))

/-- The newest message of a snapshot, and of several the one delivered last. -/
def newest (messageChanges : List Message) : Option Message :=
  Bucket.greatest Message.NoLater messageChanges

/-- A message with all that a preview shows. -/
structure Previewable (message : Message) : Prop where
  content : message.content.isSome
  accountName : message.accountName.isSome
  sendDate : message.sendDate.isSome

section Lemmas

variable {share : AccountService} {now : Date} {movie : Movie} {messageChanges : List Message}
  {groupComments sorted : List GroupComment} {controller : CommentListController}

/-- The news of a snapshot is its newest message, once it is sorted. -/
theorem newsOf_eq : newsOf share now movie (some messageChanges) none =
    if Sortable messageChanges then
      match newest messageChanges with
      | none => some none
      | some message => CommentListService.addGroupComment share now (groupCommentOf movie message)
    else none := by
  by_cases sortable : Sortable messageChanges
  · rw [if_pos sortable, newsOf]
    have isSorted : ChatController.sortedBySendDate messageChanges =
        some (messageChanges.insertionSort Message.NoLater) := if_pos sortable
    simp only [isSorted, Option.bind_eq_bind, Option.bind_some, Bucket.getLast?_insertionSort]
    rfl
  · rw [if_neg sortable, newsOf]
    have traps : ChatController.sortedBySendDate messageChanges = none := if_neg sortable
    simp only [traps, Option.bind_eq_bind, Option.bind_none]

/-- A snapshot that brings nothing is no news. -/
theorem newsOf_eq_none_of {messageChanges : Option (List Message)} {error : Option NSError}
    (silent : error.isSome ∨ messageChanges = none) :
    newsOf share now movie messageChanges error = some none :=
  of_nothing silent (fun _ _ => rfl) rfl

/-- The newest change is one of the changes. -/
theorem mem_of_newest {message : Message} (isNewest : newest messageChanges = some message) :
    message ∈ messageChanges :=
  Bucket.mem_of_greatest Message.NoLater isNewest

/-- No change is later than the newest one. -/
theorem noLater_newest {message : Message} (isNewest : newest messageChanges = some message) :
    ∀ other ∈ messageChanges, Message.NoLater other message :=
  Bucket.le_greatest Message.NoLater isNewest

/-- The news of changes is that of the newest one. -/
theorem newsOf_of_newest {message : Message} (sortable : Sortable messageChanges)
    (isNewest : newest messageChanges = some message) :
    newsOf share now movie (some messageChanges) none =
      CommentListService.addGroupComment share now (groupCommentOf movie message) := by
  rw [newsOf_eq, if_pos sortable, isNewest]

/-- A message can be previewed if its group comment can be written. -/
theorem previewable_of_isSome {message : Message} (signedIn : share.getAccountId.isSome)
    (done : (CommentListService.addGroupComment share now
      (groupCommentOf movie message)).isSome) : Previewable message := by
  obtain ⟨-, content, accountName, sendDate⟩ :=
    (CommentListService.addGroupComment_isSome_iff rfl).mp done signedIn
  exact ⟨content, accountName, sendDate⟩

/-- What can be previewed is written. -/
theorem Previewable.isSome {message : Message} (previewable : Previewable message)
    (named : movie.id.isSome) :
    (CommentListService.addGroupComment share now (groupCommentOf movie message)).isSome :=
  (CommentListService.addGroupComment_isSome_iff rfl).mpr fun _ =>
    ⟨named, previewable.content, previewable.accountName, previewable.sendDate⟩

/-- A document that is written is that of the movie, for the newest message. -/
theorem newsOf_eq_write {messageChanges : Option (List Message)} {error : Option NSError}
    {write : GroupCommentWrite}
    (written : newsOf share now movie messageChanges error = some (some write)) :
    error = none ∧ share.getAccountId = some write.accountId ∧
      movie.id.map CommentListService.documentID = some write.documentID ∧
      ∃ messages message, messageChanges = some messages ∧ Sortable messages ∧
        newest messages = some message ∧ Previewable message ∧
        CommentListService.addGroupComment share now (groupCommentOf movie message) =
          some (some write) := by
  rcases brings_or_nothing messageChanges error with ⟨messages, rfl, rfl⟩ | silent
  · rw [newsOf_eq] at written
    split at written
    · next sortable =>
      cases isNewest : newest messages with
      | none =>
          rw [isNewest] at written
          cases written
      | some message =>
          rw [isNewest] at written
          obtain ⟨session, isDocument, -⟩ := CommentListService.addGroupComment_eq_write written
          exact ⟨rfl, session, isDocument, messages, message, rfl, sortable, isNewest,
            previewable_of_isSome (Option.isSome_of_mem session) (Option.isSome_of_mem written),
            written⟩
    · cases written
  · rw [newsOf_eq_none_of silent] at written
    cases written

/-- The news of a sorted snapshot with messages, while somebody is signed in. -/
theorem exists_newsOf_eq_write {message : Message} (named : movie.id.isSome)
    (signedIn : share.getAccountId.isSome) (sortable : Sortable messageChanges)
    (isNewest : newest messageChanges = some message) (previewable : Previewable message) :
    ∃ write, newsOf share now movie (some messageChanges) none = some (some write) := by
  rw [newsOf_of_newest sortable isNewest]
  exact CommentListService.exists_write_of_isSome signedIn (previewable.isSome named)

/-- A snapshot is no news if it fails, is empty, or nobody is signed in. -/
theorem newsOf_eq_none_iff {messageChanges : Option (List Message)} {error : Option NSError} :
    newsOf share now movie messageChanges error = some none ↔
      ∀ messages, error = none → messageChanges = some messages → messages ≠ [] →
        share.getAccountId = none ∧ Sortable messages := by
  rcases brings_or_nothing messageChanges error with ⟨messages, rfl, rfl⟩ | silent
  · constructor
    · rintro noNews _ _ ⟨⟩ nonempty
      obtain ⟨message, isNewest⟩ : ∃ message, newest messages = some message :=
        Option.isSome_iff_exists.mp (Bucket.isSome_greatest Message.NoLater nonempty)
      by_cases sortable : Sortable messages
      · rw [newsOf_of_newest sortable isNewest] at noNews
        refine ⟨Option.not_isSome_iff_eq_none.mp fun signedIn => ?_, sortable⟩
        obtain ⟨write, written⟩ :=
          CommentListService.exists_write_of_isSome signedIn (Option.isSome_of_mem noNews)
        rw [noNews] at written
        cases written
      · rw [newsOf_eq, if_neg sortable] at noNews
        cases noNews
    · intro quiet
      cases messages with
      | nil => rfl
      | cons message rest =>
          obtain ⟨session, sortable⟩ := quiet _ rfl rfl (List.cons_ne_nil message rest)
          obtain ⟨newMessage, isNewest⟩ :
              ∃ newMessage, newest (message :: rest) = some newMessage :=
            Option.isSome_iff_exists.mp
              (Bucket.isSome_greatest Message.NoLater (List.cons_ne_nil message rest))
          rw [newsOf_of_newest sortable isNewest]
          exact CommentListService.addGroupComment_signedOut session _ _
  · apply iff_of_true (newsOf_eq_none_of silent)
    intro messages succeeded brings _
    rw [succeeded, brings] at silent
    rcases silent with failed | nothing
    · cases failed
    · cases nothing

/-- When the news of a snapshot with messages gets through. -/
theorem newsOf_isSome_iff (named : movie.id.isSome) (signedIn : share.getAccountId.isSome) :
    (newsOf share now movie (some messageChanges) none).isSome ↔
      Sortable messageChanges ∧ ∀ message ∈ newest messageChanges, Previewable message := by
  by_cases sortable : Sortable messageChanges
  · rw [and_iff_right sortable]
    cases isNewest : newest messageChanges with
    | none =>
        rw [newsOf_eq, if_pos sortable, isNewest]
        exact iff_of_true rfl fun _ member => by cases member
    | some message =>
        rw [newsOf_of_newest sortable isNewest]
        constructor
        · rintro done _ ⟨⟩
          exact previewable_of_isSome signedIn done
        · exact fun previewable => (previewable message rfl).isSome named
  · rw [newsOf_eq, if_neg sortable]
    exact iff_of_false Bool.false_ne_true fun both => sortable both.1

/-- A sorted list is in order and has the same comments. -/
theorem sortedNewestFirst_eq_some (taken : sortedNewestFirst groupComments = some sorted) :
    sorted.Pairwise GroupComment.NoEarlier ∧ sorted.Perm groupComments := by
  unfold sortedNewestFirst at taken
  split at taken
  · cases taken
    exact ⟨List.pairwise_insertionSort _ _, List.perm_insertionSort _ _⟩
  · cases taken

/-- A list is sorted unless a comment lacks its date. -/
theorem sortedNewestFirst_isSome_iff : (sortedNewestFirst groupComments).isSome ↔
    groupComments.length ≤ 1 ∨ ∀ groupComment ∈ groupComments, groupComment.sendDate.isSome := by
  unfold sortedNewestFirst
  split
  · next sortable => exact iff_of_true rfl sortable
  · next unsortable => exact iff_of_false Bool.false_ne_true unsortable

/-- The movies are listened to unless one of them lacks its id. -/
theorem listenedMovies_isSome_iff : (listenedMovies groupComments).isSome ↔
    ∀ groupComment ∈ groupComments, ∀ movie, groupComment.movie = some movie →
      movie.id.isSome := by
  rw [listenedMovies, Traverse.isSome_mapM_iff]
  simp only [List.mem_filterMap, Option.isSome_map]
  constructor
  · exact fun named groupComment member movie about => named movie ⟨groupComment, member, about⟩
  · rintro named movie ⟨groupComment, member, about⟩
    exact named groupComment member movie about

/-- The movies listened to are those of the group comments, by the names of their chats. -/
theorem mem_listenedMovies {movies : List (String × Movie)}
    (listened : listenedMovies groupComments = some movies) {key : String} :
    (key, movie) ∈ movies ↔ ∃ groupComment ∈ groupComments, groupComment.movie = some movie ∧
      movie.id.map CommentListService.documentID = some key := by
  rw [Traverse.mem_mapM listened]
  simp only [List.mem_filterMap, Option.map_eq_some_iff, Prod.mk.injEq]
  constructor
  · rintro ⟨_, ⟨groupComment, member, about⟩, movieId, named, rfl, rfl⟩
    exact ⟨groupComment, member, about, movieId, named, rfl⟩
  · rintro ⟨groupComment, member, about, movieId, named, rfl⟩
    exact ⟨movie, ⟨groupComment, member, about⟩, movieId, named, rfl, rfl⟩

end Lemmas

end CommentListController

end MovieFun
