import MovieFun.Model.Movie
import MovieFun.Network.AccountService

/-!
# The conversations of an account

`CommentListService` keeps one group comment for each movie an account has commented
on, in the collection `groupComment/<accountId>/groupComments`.
-/

namespace MovieFun

/-- The preview of the conversation about a movie. -/
structure GroupComment where
  movie : Option Movie := none
  newMessage : Option String := none
  newSenderName : Option String := none
  sendDate : Option Date := none
deriving DecidableEq, Repr

/-- A document that is set, with the account whose collection it is in. -/
structure GroupCommentWrite where
  accountId : String
  documentID : String
  dictionary : Dictionary

namespace CommentListService

/-- The id of the document of a movie, which also names its chat. -/
def documentID (movieId : Int) : String := toString movieId

/-- The group comment of a document. A document can lack any of the fields. -/
def getGroupComment (dictionary : Dictionary) : GroupComment where
  movie := Movie.getMovie ((dictionary.get "movie").bind Value.asDictionary)
  newMessage := (dictionary.get "newMessage").bind Value.asString
  newSenderName := (dictionary.get "newSenderName").bind Value.asString
  sendDate := (dictionary.get "sendDate").bind Value.asTimestamp

/-- What the completions of `fetchGroupComments` and of `addListener` receive. -/
def receivedGroupComments (documents : Option (List Dictionary)) (error : Option NSError) :
    Option (List GroupComment) × Option NSError :=
  match error, documents with
  | none, some documents => (some (documents.map getGroupComment), none)
  | none, none => (none, none)
  | some error, _ => (none, some error)

/-- The document that a group comment is written to, `now` being the date at the call.
It traps when somebody is signed in and a field, or the id of the movie, is missing. -/
def addGroupComment (share : AccountService) (now : Date) (groupMessage : GroupComment) :
    Option (Option GroupCommentWrite) :=
  match share.getAccountId with
  | none => some none
  | some accountId => do
      let movie ← groupMessage.movie
      let movieInfo ← Movie.getDictionary now movie
      let newMessage ← groupMessage.newMessage
      let newSenderName ← groupMessage.newSenderName
      let sendDate ← groupMessage.sendDate
      let movieId ← movie.id
      return some {
        accountId
        documentID := documentID movieId
        dictionary := [
          ("movie", .map movieInfo),
          ("newMessage", .string newMessage),
          ("newSenderName", .string newSenderName),
          ("sendDate", .date sendDate)] }

/-- Without an account id nothing is written. -/
theorem addGroupComment_signedOut {share : AccountService} (signedOut : share.getAccountId = none)
    (now : Date) (groupMessage : GroupComment) :
    addGroupComment share now groupMessage = some none := by
  rw [addGroupComment, signedOut]

/-- What is written for a group comment that has what its encoder unwraps. -/
theorem addGroupComment_eq_some {share : AccountService} {now : Date} {accountId : String}
    (signedIn : share.getAccountId = some accountId) {groupMessage : GroupComment}
    {write : Option GroupCommentWrite}
    (written : addGroupComment share now groupMessage = some write) :
    ∃ movie movieId movieInfo newMessage newSenderName sendDate,
      groupMessage = ⟨some movie, some newMessage, some newSenderName, some sendDate⟩ ∧
      movie.id = some movieId ∧ Movie.getDictionary now movie = some movieInfo ∧
      write = some {
        accountId
        documentID := documentID movieId
        dictionary := [
          ("movie", .map movieInfo),
          ("newMessage", .string newMessage),
          ("newSenderName", .string newSenderName),
          ("sendDate", .date sendDate)] } := by
  obtain ⟨movie, newMessage, newSenderName, sendDate⟩ := groupMessage
  simp only [addGroupComment, signedIn, Option.bind_eq_bind, Option.bind_eq_some_iff] at written
  obtain ⟨movie, rfl, movieInfo, encoded, newMessage, rfl, newSenderName, rfl, sendDate, rfl,
    movieId, named, written⟩ := written
  cases written
  exact ⟨movie, movieId, movieInfo, newMessage, newSenderName, sendDate, rfl, named, encoded, rfl⟩

/-- A document is that of the session and of the movie, and has the preview of the group
comment that it is written for. -/
theorem addGroupComment_eq_write {share : AccountService} {now : Date}
    {groupMessage : GroupComment} {write : GroupCommentWrite}
    (written : addGroupComment share now groupMessage = some (some write)) :
    share.getAccountId = some write.accountId ∧
      (groupMessage.movie.bind Movie.id).map documentID = some write.documentID ∧
      (getGroupComment write.dictionary.stored).newMessage = groupMessage.newMessage ∧
      (getGroupComment write.dictionary.stored).newSenderName = groupMessage.newSenderName ∧
      (getGroupComment write.dictionary.stored).sendDate = groupMessage.sendDate := by
  cases session : share.getAccountId with
  | none =>
      rw [addGroupComment_signedOut session] at written
      cases written
  | some accountId =>
      obtain ⟨_, _, _, _, _, _, rfl, named, -, isWrite⟩ :=
        addGroupComment_eq_some session written
      cases isWrite
      exact ⟨rfl, by rw [Option.bind_some, named]; rfl, rfl, rfl, rfl⟩

/-- While somebody is signed in, what gets through is written. -/
theorem exists_write_of_isSome {share : AccountService} {now : Date} {groupMessage : GroupComment}
    (signedIn : share.getAccountId.isSome)
    (done : (addGroupComment share now groupMessage).isSome) :
    ∃ write, addGroupComment share now groupMessage = some (some write) := by
  obtain ⟨accountId, session⟩ := Option.isSome_iff_exists.mp signedIn
  obtain ⟨write, written⟩ := Option.isSome_iff_exists.mp done
  obtain ⟨_, _, _, _, _, _, -, -, -, rfl⟩ := addGroupComment_eq_some session written
  exact ⟨_, written⟩

/-- When a group comment can be written. -/
theorem addGroupComment_isSome_iff {share : AccountService} {now : Date} {movie : Movie}
    {groupMessage : GroupComment} (about : groupMessage.movie = some movie) :
    (addGroupComment share now groupMessage).isSome ↔
      (share.getAccountId.isSome → movie.id.isSome ∧ groupMessage.newMessage.isSome ∧
        groupMessage.newSenderName.isSome ∧ groupMessage.sendDate.isSome) := by
  cases session : share.getAccountId with
  | none =>
      rw [addGroupComment_signedOut session]
      exact iff_of_true rfl fun signedIn => by cases signedIn
  | some accountId =>
      constructor
      · intro done _
        obtain ⟨write, written⟩ := Option.isSome_iff_exists.mp done
        obtain ⟨_, movieId, _, _, _, _, rfl, named, -, -⟩ :=
          addGroupComment_eq_some session written
        cases about
        exact ⟨Option.isSome_of_mem named, rfl, rfl, rfl⟩
      · intro complete
        obtain ⟨named, hasMessage, hasSender, isDated⟩ := complete rfl
        obtain ⟨movieId, named⟩ := Option.isSome_iff_exists.mp named
        obtain ⟨newMessage, hasMessage⟩ := Option.isSome_iff_exists.mp hasMessage
        obtain ⟨newSenderName, hasSender⟩ := Option.isSome_iff_exists.mp hasSender
        obtain ⟨sendDate, isDated⟩ := Option.isSome_iff_exists.mp isDated
        simp only [addGroupComment, session, about, hasMessage, hasSender, isDated, named,
          Movie.getDictionary, Option.map_some, Option.bind_eq_bind, Option.bind_some]
        rfl

end CommentListService

end MovieFun
