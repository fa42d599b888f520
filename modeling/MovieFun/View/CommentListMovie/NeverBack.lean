import MovieFun.View.CommentListMovie.CommentListSystem

/-!
# The preview never goes back in time

Each snapshot of a chat replaces the preview of its movie by the newest message of the
snapshot, whatever the preview has. So the preview keeps the latest date of all messages
delivered exactly when each snapshot brings a message that is no older than those
delivered before (`neverBack_iff_noneNewer`).
-/

namespace MovieFun

open CommentListSystem CommentListController

/-- A snapshot of a chat with messages, all dated, in the session of an account. -/
def CommentListEvent.Brings (accountId : String) : CommentListEvent → Prop
  | movieChat share _ _ (some messages) none =>
      share.getAccountId = some accountId ∧ messages ≠ [] ∧
        ∀ message ∈ messages, message.sendDate.isSome
  | _ => False

/-- The messages of the chat of a movie that an event delivers. -/
def CommentListEvent.messagesOf (movieId : String) : CommentListEvent → List Message
  | movieChat _ _ registration (some messages) none =>
      if registration.key = movieId then messages else []
  | _ => []

/-- The messages delivered of the chat of a movie. -/
def deliveredMessages (movieId : String) (before : List CommentListEvent) : List Message :=
  before.flatMap (CommentListEvent.messagesOf movieId)

/-- The date of the preview of a movie, as it was stored last. -/
def previewDate (accountId movieId : String) (system : CommentListSystem) : Option Date :=
  (EventRun.last (fun write : GroupCommentWrite =>
    if write.accountId = accountId ∧ write.documentID = movieId then
      some (CommentListService.getGroupComment write.dictionary.stored).sendDate
    else none) system.writes).join

/-- A date is the latest of messages. -/
def IsLatest (date : Date) (messages : List Message) : Prop :=
  (∃ message ∈ messages, message.sendDate = some date) ∧
    ∀ message ∈ messages, ∀ sendDate, message.sendDate = some sendDate → sendDate ≤ date

/-- The snapshot leaves the preview of its movie with the latest date of all messages
delivered. -/
def NeverBack (accountId : String) (before : List CommentListEvent) (system : CommentListSystem)
    (event : CommentListEvent) : Prop :=
  system.enabled event → match event with
    | .movieChat _ _ registration _ _ =>
        ∃ next date, step system event = some next ∧
          previewDate accountId registration.key next = some date ∧
          IsLatest date (deliveredMessages registration.key (before ++ [event]))
    | _ => True

/-- The newest message of the snapshot can be previewed, and none that was delivered
before is newer. -/
def NoneNewer (before : List CommentListEvent) (system : CommentListSystem)
    (event : CommentListEvent) : Prop :=
  system.enabled event → match event with
    | .movieChat _ _ registration (some messages) _ =>
        (∀ message ∈ newest messages, Previewable message) ∧
          ∃ message ∈ messages, ∀ earlier ∈ deliveredMessages registration.key before,
            Message.NoLater earlier message
    | _ => True

variable {accountId : String} {before : List CommentListEvent} {system next : CommentListSystem}
  {event : CommentListEvent}

theorem deliveredMessages_concat (movieId : String) :
    deliveredMessages movieId (before ++ [event]) =
      deliveredMessages movieId before ++ event.messagesOf movieId := by
  rw [deliveredMessages, List.flatMap_append, List.flatMap_singleton]
  rfl

/-- What is delivered by such snapshots has a date. -/
theorem dated_of_mem_deliveredMessages (each : ∀ event ∈ before, event.Brings accountId)
    {movieId : String} {message : Message} (member : message ∈ deliveredMessages movieId before) :
    message.sendDate.isSome := by
  obtain ⟨event, inside, member⟩ := List.mem_flatMap.mp member
  have brings := each event inside
  unfold CommentListEvent.messagesOf at member
  split at member
  · split at member
    · exact brings.2.2 message member
    · exact absurd member List.not_mem_nil
  · exact absurd member List.not_mem_nil

/-- The document that a snapshot writes is the preview stored last. -/
theorem previewDate_concat {write : GroupCommentWrite}
    (writes : next.writes = system.writes ++ [write]) :
    previewDate write.accountId write.documentID next =
      (CommentListService.getGroupComment write.dictionary.stored).sendDate := by
  rw [previewDate, writes, EventRun.last_concat, if_pos ⟨rfl, rfl⟩, Option.some_or,
    Option.join_some]

/-- Such snapshots leave the flag, and the names of the registrations. -/
theorem heard_of_brings {snapshots : List CommentListEvent} {opened : CommentListSystem}
    (named : Named opened) (started : opened.controller.didStart = true)
    (each : ∀ event ∈ snapshots, event.Brings accountId)
    (reached : EventRun.runFrom step opened snapshots = some system) :
    Named system ∧ system.controller.didStart = true := by
  refine EventRun.invariant (fun _ system => Named system ∧ system.controller.didStart = true)
    ⟨named, started⟩ ?_ reached
  rintro before event system next inside ⟨named, started⟩ taken
  have brings := each event (inside.subset (List.mem_append_right before List.mem_cons_self))
  refine ⟨named_step named taken, ?_⟩
  rw [step_didStart taken, started]
  cases event with
  | movieChat => rfl
  | start => exact brings.elim
  | fetchReply => exact brings.elim
  | groupChat => exact brings.elim

/-- The latest date of two lists is that of the second exactly if the second has an
element that is no older than those of the first. -/
theorem isLatest_append_iff {earlier messages : List Message} {message : Message} {date : Date}
    (inside : message ∈ messages) (dated : message.sendDate = some date)
    (latest : ∀ other ∈ messages, Message.NoLater other message)
    (earlierDated : ∀ other ∈ earlier, other.sendDate.isSome) :
    IsLatest date (earlier ++ messages) ↔
      ∃ message ∈ messages, ∀ other ∈ earlier, Message.NoLater other message := by
  constructor
  · rintro ⟨-, bounds⟩
    refine ⟨message, inside, fun other member => ?_⟩
    obtain ⟨sendDate, sent⟩ := Option.isSome_iff_exists.mp (earlierDated other member)
    exact (Message.noLater_iff sent dated).mpr
      (bounds other (List.mem_append_left _ member) sendDate sent)
  · rintro ⟨bound, isInside, below⟩
    refine ⟨⟨message, List.mem_append_right _ inside, dated⟩, fun other member sendDate sent => ?_⟩
    apply (Message.noLater_iff sent dated).mp
    rcases List.mem_append.mp member with isEarlier | isNew
    · exact trans_of Message.NoLater (below other isEarlier) (latest bound isInside)
    · exact latest other isNew

section Snapshot

variable {share : AccountService} {now : Date} {registration : MovieChatListener}
  {messages : List Message} {message : Message}

/-- A snapshot stores the date of its newest message. -/
theorem step_previews (named : Named system) (started : system.controller.didStart = true)
    (live : registration ∈ system.groupListener.live)
    (signedIn : share.getAccountId = some accountId)
    (dated : ∀ message ∈ messages, message.sendDate.isSome)
    (isNewest : newest messages = some message) (previewable : Previewable message) :
    ∃ next, step system (.movieChat share now registration (some messages) none) = some next ∧
      previewDate accountId registration.key next = message.sendDate := by
  have isKey := named registration live
  obtain ⟨movieId, hasId, -⟩ := Option.map_eq_some_iff.mp isKey
  obtain ⟨write, news⟩ := @exists_newsOf_eq_write share now _ messages message
    (Option.isSome_of_mem hasId) (Option.isSome_of_mem signedIn) (.inr dated) isNewest previewable
  obtain ⟨-, isAccount, isDocument, _, other, same, -, isOther, -, written⟩ := newsOf_eq_write news
  cases same
  rw [isNewest, Option.some.injEq] at isOther
  subst isOther
  rw [signedIn, Option.some.injEq] at isAccount
  rw [isKey, Option.some.injEq] at isDocument
  refine ⟨{ system with writes := system.writes ++ [write] }, ?_, ?_⟩
  · rw [step_movieChat live started, news]
    rfl
  · obtain ⟨-, -, -, -, decoded⟩ := CommentListService.addGroupComment_eq_write written
    rw [isAccount, isDocument, previewDate_concat rfl, decoded]
    rfl

/-- It gets through only if its newest message can be previewed. -/
theorem previewable_of_step (started : system.controller.didStart = true)
    (signedIn : share.getAccountId = some accountId) (isNewest : newest messages = some message)
    (taken : step system (.movieChat share now registration (some messages) none) = some next) :
    Previewable message := by
  have nonempty : messages ≠ [] := by
    rintro rfl
    cases isNewest
  cases taken_of_step taken with
  | movieChatFirst _ first =>
      rw [started] at first
      cases first
  | @movieChat _ _ _ _ _ write _ _ news =>
      cases write with
      | none =>
          obtain ⟨signedOut, -⟩ := newsOf_eq_none_iff.mp news messages rfl rfl nonempty
          rw [signedIn] at signedOut
          cases signedOut
      | some write =>
          obtain ⟨-, -, -, _, other, same, -, isOther, previewable, -⟩ := newsOf_eq_write news
          cases same
          rw [isNewest, Option.some.injEq] at isOther
          exact isOther ▸ previewable

end Snapshot

/-- A snapshot keeps the preview exactly if none delivered before is newer. -/
theorem neverBack_step_iff (named : Named system) (started : system.controller.didStart = true)
    (each : ∀ event ∈ before, event.Brings accountId) (brings : event.Brings accountId) :
    NeverBack accountId before system event ↔ NoneNewer before system event := by
  apply forall_congr'
  intro possible
  unfold CommentListEvent.Brings at brings
  split at brings
  · next share now registration messages =>
    obtain ⟨signedIn, nonempty, dated⟩ := brings
    have live : registration ∈ system.groupListener.live := of_decide_eq_true possible
    obtain ⟨message, isNewest⟩ : ∃ message, newest messages = some message :=
      Option.isSome_iff_exists.mp (Bucket.isSome_greatest Message.NoLater nonempty)
    have inside := mem_of_newest isNewest
    obtain ⟨date, isDate⟩ := Option.isSome_iff_exists.mp (dated message inside)
    have delivered : deliveredMessages registration.key
        (before ++ [.movieChat share now registration (some messages) none]) =
        deliveredMessages registration.key before ++ messages := by
      rw [deliveredMessages_concat, CommentListEvent.messagesOf, if_pos rfl]
    have latest := @isLatest_append_iff (deliveredMessages registration.key before) _ _ _ inside
      isDate (noLater_newest isNewest) fun _ => dated_of_mem_deliveredMessages each
    dsimp only
    rw [delivered]
    constructor
    · rintro ⟨next, _, taken, previewed, isLatest⟩
      have previewable := previewable_of_step started signedIn isNewest taken
      obtain ⟨other, same, stored⟩ :=
        @step_previews _ _ share now registration _ _ named started live signedIn dated isNewest
          previewable
      rw [taken, Option.some.injEq] at same
      rw [← same, previewed, isDate, Option.some.injEq] at stored
      subst stored
      refine ⟨fun other isOther => ?_, latest.mp isLatest⟩
      rw [isNewest] at isOther
      cases isOther
      exact previewable
    · rintro ⟨previewable, bound⟩
      obtain ⟨next, taken, stored⟩ :=
        @step_previews _ _ share now registration _ _ named started live signedIn dated isNewest
          (previewable message isNewest)
      exact ⟨next, date, taken, stored.trans isDate, latest.mpr bound⟩
  · exact brings.elim

/-- **The preview never goes back exactly when no snapshot is older than one before.** For
every opening of the list whose first snapshot was dropped, and every sequence of
snapshots of its chats with dated messages. -/
theorem neverBack_iff_noneNewer {opening snapshots : List CommentListEvent}
    (reached : run opening = some system) (heard : Heard opening)
    (each : ∀ event ∈ snapshots, event.Brings accountId) :
    EventRun.EachAttempt step (NeverBack accountId) system snapshots ↔
      EventRun.EachAttempt step NoneNewer system snapshots := by
  apply EventRun.eachAttempt_congr_within
  intro before state event inside run
  have earlier : ∀ event ∈ before, event.Brings accountId := fun event member =>
    each event (inside.subset (List.mem_append_left _ member))
  have brings := each event (inside.subset (List.mem_append_right before List.mem_cons_self))
  obtain ⟨named, started⟩ := heard_of_brings (named_of_run reached)
    ((didStart_iff_heard reached).mpr heard) earlier run
  exact neverBack_step_iff named started earlier brings

section ClockBehind

/-- The session of "an". -/
def reader : AccountService where
  account := some ⟨"an", "An", "an@example.com", "", ⟨0⟩⟩
  userLogin := some "an"

/-- A list of one movie after the first snapshot. -/
def openedList : List CommentListEvent :=
  [.start reader,
    .fetchReply reader (some [{ movie := some { id := some 1 } }]) none,
    .groupChat { key := (), number := 0, payload := "an" } none none]

/-- A new message in the chat of the movie, by the clock of its sender. -/
def newMessage (sendDate : Date) : CommentListEvent :=
  .movieChat reader ⟨0⟩
    { key := CommentListService.documentID 1, number := 0, payload := { id := some 1 } }
    (some [{
      accountId := some "binh"
      accountName := some "Binh"
      sendDate := some sendDate
      content := some "good" }]) none

/-- The clock of the second sender is behind. -/
theorem not_neverBack_clockBehind : ∃ system, run openedList = some system ∧
    Heard openedList ∧
    ¬ EventRun.EachAttempt step (NeverBack "an") system
      [newMessage ⟨1566396400000000000⟩, newMessage ⟨1566396309000000000⟩] := by
  refine ⟨_, rfl, rfl, fun neverBack => ?_⟩
  obtain ⟨next, date, taken, previewed, -, latest⟩ :=
    neverBack [newMessage ⟨1566396400000000000⟩] (newMessage ⟨1566396309000000000⟩)
      List.prefix_rfl _ rfl rfl
  cases taken
  cases previewed
  exact absurd (latest _ List.mem_cons_self _ rfl) (by decide)

/-- The rule at a sender whose clock is behind. -/
theorem neverBack_iff_noneNewer_clockBehind : ∃ system, run openedList = some system ∧
    (EventRun.EachAttempt step (NeverBack "an") system
        [newMessage ⟨1566396400000000000⟩, newMessage ⟨1566396309000000000⟩] ↔
      EventRun.EachAttempt step NoneNewer system
        [newMessage ⟨1566396400000000000⟩, newMessage ⟨1566396309000000000⟩]) := by
  refine ⟨_, rfl, neverBack_iff_noneNewer (show run openedList = some _ from rfl) rfl ?_⟩
  have brings : ∀ sendDate, (newMessage sendDate).Brings "an" := fun sendDate =>
    ⟨rfl, List.cons_ne_nil _ _, List.forall_mem_singleton.mpr rfl⟩
  exact List.forall_mem_cons.mpr ⟨brings _, List.forall_mem_singleton.mpr (brings _)⟩

end ClockBehind

end MovieFun
