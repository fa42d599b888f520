import MovieFun.Helper.Gregorian
import MovieFun.View.Chat.ChatEffect
import MovieFun.View.CommentListMovie.CommentListSystem

/-!
# Malformed documents

A document can lack any field, and its decoder then leaves the field out. The chat and the
comment list unwrap some of them by force: the account id of a message that is shown, the
stamps that are compared, the dates that are sorted by, the content and the name that are
previewed, and the id of a movie that is listened to. `survives_iff_wellFormed` says which
replies and snapshots they get through.
-/

namespace MovieFun

open ChatController in
/-- The same event with those of its messages that can be shown: they have an account id,
and a day that can be read in a fetch or a date in a snapshot. -/
def ChatEvent.showable (fm : DateFormatter) : ChatEvent → ChatEvent
  | fetchReply share (some messages) none =>
      fetchReply share (some (messages.filter fun message =>
        message.accountId.isSome && (dayKey fm message).isSome)) none
  | listenerReply share (some messageChanges) none =>
      listenerReply share (some (messageChanges.filter fun message =>
        message.accountId.isSome && message.sendDate.isSome)) none
  | event => event

namespace ChatSystem

variable (fm : DateFormatter)

/-- The event does not trap, and shows what it would without the messages that cannot be
shown. -/
def PassesOver (system : ChatSystem) (event : ChatEvent) : Prop :=
  ∃ next other, step fm system event = some next ∧
    step fm system (event.showable fm) = some other ∧
    next.controller.chatViewModel = other.controller.chatViewModel

/-- While somebody is signed in, no reply and no snapshot traps. -/
def Survives (_ : List ChatEvent) (system : ChatSystem) (event : ChatEvent) : Prop :=
  system.enabled event → match event with
    | .start => (step fm system event).isSome
    | .fetchReply share _ _ => share.getAccountId.isSome → PassesOver fm system event
    | .listenerReply share _ _ => share.getAccountId.isSome → PassesOver fm system event
    | _ => True

/-- The messages held can be compared with a stamped one, up to the first with its stamp. -/
def Comparable (held : Option (List Message)) (message : Message) : Prop :=
  ∀ messages, held = some messages →
    ∀ mess ∈ messages.takeWhile fun mess => !decide (SameStamp mess message),
      mess.accountId.isSome ∧ (mess.accountId = message.accountId → mess.sendDate.isSome)

/-- Each message of a fetch whose day can be read has an account id. Each message of a
snapshot that is not dropped has an account id and a date, and the messages held can be
compared with it. -/
def WellFormed (_ : List ChatEvent) (system : ChatSystem) (event : ChatEvent) : Prop :=
  system.enabled event → match event with
    | .fetchReply share (some messages) none => share.getAccountId.isSome →
        ∀ message ∈ messages, (ChatController.dayKey fm message).isSome → message.accountId.isSome
    | .listenerReply share (some messageChanges) none => share.getAccountId.isSome →
        system.controller.didStart = true →
          ∀ message ∈ messageChanges, message.Stamped ∧ Comparable system.held message
    | _ => True

end ChatSystem

namespace CommentListSystem

open CommentListController

/-- While somebody is signed in, no reply and no snapshot traps. Every group comment can be
shown, whatever it lacks. -/
def Survives (_ : List CommentListEvent) (system : CommentListSystem) (event : CommentListEvent) :
    Prop :=
  system.enabled event → match event with
    | .fetchReply share _ _ => share.getAccountId.isSome → (step system event).isSome
    | .movieChat share _ _ _ _ => share.getAccountId.isSome → (step system event).isSome
    | _ => (step system event).isSome

/-- Each movie of a fetch has an id. Of a snapshot that is not dropped: the messages of a
chat can be sorted and the newest can be previewed; the group comments all have a date,
or there is at most one. -/
def WellFormed (_ : List CommentListEvent) (system : CommentListSystem)
    (event : CommentListEvent) : Prop :=
  system.enabled event → match event with
    | .fetchReply share (some groupComments) none => share.getAccountId.isSome →
        ∀ groupComment ∈ groupComments, ∀ movie, groupComment.movie = some movie →
          movie.id.isSome
    | .movieChat share _ _ (some messageChanges) none => share.getAccountId.isSome →
        system.controller.didStart = true →
          Sortable messageChanges ∧ ∀ message ∈ newest messageChanges, Previewable message
    | .groupChat _ (some groupComments) none => system.controller.didStart = true →
        groupComments.length ≤ 1 ∨
          ∀ groupComment ∈ groupComments, groupComment.sendDate.isSome
    | _ => True

end CommentListSystem

section Chat

open ChatSystem ChatController

variable {fm : DateFormatter} {share : AccountService} {system : ChatSystem}
  {messages : List Message}

/-- The check of a stamped message against one message held. -/
theorem checkExistMessageIn_singleton_isSome_iff {mess message : Message}
    (stamped : message.Stamped) :
    (checkExistMessageIn message [mess]).isSome ↔
      mess.accountId.isSome ∧ (mess.accountId = message.accountId → mess.sendDate.isSome) := by
  obtain ⟨accountId, account⟩ := Option.isSome_iff_exists.mp stamped.accounted
  obtain ⟨sendDate, sent⟩ := Option.isSome_iff_exists.mp stamped.dated
  simp only [checkExistMessageIn, account, sent, Option.bind_eq_bind, Option.bind_some]
  cases mess.accountId with
  | none => exact iff_of_false Bool.false_ne_true fun complete => by cases complete.1
  | some messAccountId =>
      rw [Option.bind_some, Option.some.injEq]
      split
      · next same =>
        cases mess.sendDate with
        | none => exact iff_of_false Bool.false_ne_true fun complete => by cases complete.2 same
        | some messSendDate =>
            refine iff_of_true ?_ ⟨rfl, fun _ => rfl⟩
            rw [Option.bind_some]
            split <;> rfl
      · next different => exact iff_of_true rfl ⟨rfl, fun same => absurd same different⟩

/-- The check of a stamped message goes through exactly if each message held before its equal has
an account, and a date where the account is the same. -/
theorem checkExistMessageIn_isSome_iff {message : Message} (stamped : message.Stamped) :
    (checkExistMessageIn message messages).isSome ↔
      ∀ mess ∈ messages.takeWhile fun mess => !decide (SameStamp mess message),
        mess.accountId.isSome ∧ (mess.accountId = message.accountId → mess.sendDate.isSome) := by
  induction messages with
  | nil => exact iff_of_true rfl fun _ member => absurd member List.not_mem_nil
  | cons mess messages ih =>
      rw [checkExistMessageIn_cons]
      by_cases same : SameStamp mess message
      · -- the search ends at a message with the stamp
        have messStamped : mess.Stamped :=
          ⟨same.1 ▸ stamped.accounted, same.2 ▸ stamped.dated⟩
        rw [checkExistMessageIn_singleton messStamped stamped, List.takeWhile_cons_of_neg
          (by simpa using same), decide_eq_true same]
        exact iff_of_true rfl fun _ member => absurd member List.not_mem_nil
      · rw [List.takeWhile_cons_of_pos (by simpa using same), List.forall_mem_cons, ← ih,
          ← checkExistMessageIn_singleton_isSome_iff stamped]
        cases checked : checkExistMessageIn message [mess] with
        | none => exact iff_of_false Bool.false_ne_true fun both => by cases both.1
        | some found =>
            have notFound : found = false := by
              cases found with
              | false => rfl
              | true => exact absurd ((sameStamp_of_checkExistMessageIn checked).1 rfl).2 same
            rw [notFound, Option.bind_some, if_neg Bool.false_ne_true]
            exact (and_iff_right rfl).symm

/-- The check of a stamped message traps exactly on what cannot be compared with it. -/
theorem checkExistMessage_isSome_iff {held : Option (List Message)} {message : Message}
    (stamped : message.Stamped) :
    (checkExistMessage held message).isSome ↔ Comparable held message := by
  cases held with
  | none => exact iff_of_true rfl fun _ isHeld => by cases isHeld
  | some messages =>
      constructor
      · rintro done _ ⟨⟩
        exact (checkExistMessageIn_isSome_iff stamped).mp done
      · exact fun comparable =>
          (checkExistMessageIn_isSome_iff stamped).mpr (comparable messages rfl)

/-- A fetch is built if what has a day also has an account id. -/
theorem buildViewModels_isSome_iff (signedIn : share.getAccountId.isSome)
    (chatViewModel : ChatViewModel) :
    (buildViewModels fm share (createGroupMessage fm messages) chatViewModel).isSome ↔
      ∀ message ∈ messages, (dayKey fm message).isSome → message.accountId.isSome := by
  constructor
  · intro done message member hasDay
    obtain ⟨next, made⟩ := Option.isSome_iff_exists.mp done
    exact ((buildViewModels_eq_some made).1 message
      (mem_shownMessages.mpr ⟨member, hasDay⟩)).1.accounted
  · intro accounted
    refine buildViewModels_isSome signedIn (fun message member => ?_) chatViewModel
    obtain ⟨inside, hasDay⟩ := mem_shownMessages.mp member
    exact ⟨accounted message inside hasDay, sendDate_of_dayKey hasDay⟩

/-- A fetch without an error shows its build. -/
theorem step_fetchReply_eq_some {built : ChatViewModel} (waits : 0 < system.fetches)
    (made : buildViewModels fm share (createGroupMessage fm messages)
      system.controller.chatViewModel = some built) :
    ∃ next, ChatSystem.step fm system (.fetchReply share (some messages) none) = some next ∧
      next.controller.chatViewModel = { built with isFetching := false } := by
  refine ⟨{ system with
    controller := { system.controller with
      chatViewModel := { built with isFetching := false }
      messages := some messages }
    fetches := system.fetches - 1
    listeners := system.listeners + 1 }, ?_, rfl⟩
  rw [ChatSystem.step, enabled, if_pos (decide_eq_true waits), handle, fetchCompletion]
  simp only [made, Option.bind_eq_bind, Option.bind_some]
  rfl

/-- It traps where the build does. -/
theorem step_fetchReply_eq_none (waits : 0 < system.fetches)
    (traps : buildViewModels fm share (createGroupMessage fm messages)
      system.controller.chatViewModel = none) :
    ChatSystem.step fm system (.fetchReply share (some messages) none) = none := by
  rw [ChatSystem.step, enabled, if_pos (decide_eq_true waits), handle, fetchCompletion]
  simp only [traps, Option.bind_eq_bind, Option.bind_none]

/-- A reply to a fetch passes over what cannot be shown exactly if each message with a day has an
account. -/
theorem passesOver_fetchReply_iff (signedIn : share.getAccountId.isSome)
    (waits : 0 < system.fetches) :
    PassesOver fm system (.fetchReply share (some messages) none) ↔
      ∀ message ∈ messages, (dayKey fm message).isSome → message.accountId.isSome := by
  rw [← buildViewModels_isSome_iff signedIn system.controller.chatViewModel]
  constructor
  · rintro ⟨next, -, taken, -⟩
    apply Option.isSome_iff_ne_none.mpr
    intro traps
    rw [step_fetchReply_eq_none waits traps] at taken
    cases taken
  · intro done
    have accounted := (buildViewModels_isSome_iff signedIn _).mp done
    -- what has no day is not grouped, so the groups are the same without it
    have kept : (messages.filter fun message =>
        message.accountId.isSome && (dayKey fm message).isSome) =
        messages.filter fun message => (dayKey fm message).isSome := by
      apply List.filter_congr
      intro message member
      cases hasDay : (dayKey fm message).isSome with
      | false => exact Bool.and_false _
      | true => rw [accounted message member hasDay, Bool.and_true]
    have sameGroups : createGroupMessage fm (messages.filter fun message =>
        message.accountId.isSome && (dayKey fm message).isSome) =
        createGroupMessage fm messages := by
      rw [kept]
      exact Bucket.buckets_filter (dayKey fm) Message.NoLater messages
    obtain ⟨built, made⟩ := Option.isSome_iff_exists.mp done
    have madeWithout := made
    rw [← sameGroups] at madeWithout
    obtain ⟨next, taken, shows⟩ := step_fetchReply_eq_some waits made
    obtain ⟨other, otherTaken, otherShows⟩ := step_fetchReply_eq_some waits madeWithout
    exact ⟨next, other, taken, otherTaken, shows.trans otherShows.symm⟩

/-- Where every message can be shown, it is enough not to trap. -/
theorem passesOver_of_showable_eq {event : ChatEvent} (same : event.showable fm = event)
    (done : (ChatSystem.step fm system event).isSome) : PassesOver fm system event := by
  obtain ⟨next, taken⟩ := Option.isSome_iff_exists.mp done
  exact ⟨next, next, taken, by rw [same, taken], rfl⟩

/-- A callback is survived exactly if it is the first, or each message of it is stamped and can be
compared. -/
theorem step_listenerReply_isSome_iff (live : 0 < system.listeners)
    (signedIn : share.getAccountId.isSome) :
    (ChatSystem.step fm system (.listenerReply share (some messages) none)).isSome ↔
      (system.controller.didStart = true →
        ∀ message ∈ messages, message.Stamped ∧ Comparable system.held message) := by
  have completes : (ChatSystem.step fm system (.listenerReply share (some messages) none)).isSome ↔
      (listenerCompletion fm share (some messages) none system.controller).isSome := by
    rw [ChatSystem.step, enabled, if_pos (decide_eq_true live), handle]
    cases listenerCompletion fm share (some messages) none system.controller <;> rfl
  rw [completes, listenerCompletion_isSome_iff]
  apply forall_congr'
  intro _
  rw [received_isSome_iff]
  constructor
  · intro gets message member
    obtain ⟨stamped, checks⟩ := gets signedIn
    exact ⟨stamped message member,
      (checkExistMessage_isSome_iff (stamped message member)).mp (checks message member)⟩
  · exact fun complete _ => ⟨fun message member => (complete message member).1,
      fun message member =>
        (checkExistMessage_isSome_iff (complete message member).1).mpr (complete message member).2⟩

/-- A callback passes over what cannot be shown exactly if it is the first, or each message of it
is stamped and can be compared. -/
theorem passesOver_listenerReply_iff (live : 0 < system.listeners)
    (signedIn : share.getAccountId.isSome) :
    PassesOver fm system (.listenerReply share (some messages) none) ↔
      (system.controller.didStart = true →
        ∀ message ∈ messages, message.Stamped ∧ Comparable system.held message) := by
  rw [← step_listenerReply_isSome_iff live signedIn]
  constructor
  · exact fun ⟨next, _, taken, _⟩ => Option.isSome_of_mem taken
  · intro done
    cases started : system.controller.didStart with
    | false =>
        have dropped : ∀ messages, ∃ next,
            ChatSystem.step fm system (.listenerReply share (some messages) none) = some next ∧
              next.controller.chatViewModel = system.controller.chatViewModel := by
          intro messages
          refine
            ⟨{ system with controller := { system.controller with didStart := true } }, ?_, rfl⟩
          have first : listenerCompletion fm share (some messages) none system.controller =
              some { system.controller with didStart := true } := if_pos started
          rw [ChatSystem.step, enabled, if_pos (decide_eq_true live), handle, first]
          rfl
        obtain ⟨next, taken, same⟩ := dropped messages
        obtain ⟨other, otherTaken, otherSame⟩ := dropped (messages.filter fun message =>
          message.accountId.isSome && message.sendDate.isSome)
        exact ⟨next, other, taken, otherTaken, same.trans otherSame.symm⟩
    | true =>
        have complete := (step_listenerReply_isSome_iff live signedIn).mp done started
        refine passesOver_of_showable_eq ?_ done
        rw [ChatEvent.showable, List.filter_eq_self.mpr fun message member => ?_]
        rw [(complete message member).1.accounted, (complete message member).1.dated, Bool.and_self]

/-- Without messages there is nothing to trap on. -/
theorem passesOver_fetchReply_of_nothing {messages : Option (List Message)}
    {error : Option NSError} (possible : system.enabled (.fetchReply share messages error))
    (nothing : error.isSome ∨ messages = none) :
    PassesOver fm system (.fetchReply share messages error) := by
  have same : (ChatEvent.fetchReply share messages error).showable fm =
      .fetchReply share messages error := by
    refine of_nothing nothing (fun messages _ => ?_) rfl
    cases messages <;> rfl
  have completes : (fetchCompletion fm share messages error system.controller).isSome :=
    of_nothing nothing (fun _ _ => rfl) rfl
  obtain ⟨controller, completes⟩ := Option.isSome_iff_exists.mp completes
  apply passesOver_of_showable_eq same
  rw [ChatSystem.step, if_pos possible, handle, completes]
  rfl

/-- A callback without messages does not trap and shows nothing. -/
theorem passesOver_listenerReply_of_nothing {messageChanges : Option (List Message)}
    {error : Option NSError}
    (possible : system.enabled (.listenerReply share messageChanges error))
    (nothing : error.isSome ∨ messageChanges = none) :
    PassesOver fm system (.listenerReply share messageChanges error) := by
  have same : (ChatEvent.listenerReply share messageChanges error).showable fm =
      .listenerReply share messageChanges error := by
    refine of_nothing nothing (fun messageChanges _ => ?_) rfl
    cases messageChanges <;> rfl
  have completes :
      (listenerCompletion fm share messageChanges error system.controller).isSome := by
    unfold listenerCompletion
    split
    · rfl
    · exact of_nothing nothing (fun _ _ => rfl) rfl
  obtain ⟨controller, completes⟩ := Option.isSome_iff_exists.mp completes
  apply passesOver_of_showable_eq same
  rw [ChatSystem.step, if_pos possible, handle, completes]
  rfl

/-- The chat gets through an event exactly if what it brings is well formed. -/
theorem survives_chat_iff (before : List ChatEvent) (event : ChatEvent) :
    ChatSystem.Survives fm before system event ↔ ChatSystem.WellFormed fm before system event := by
  apply forall_congr'
  intro possible
  cases event with
  | start => exact iff_of_true (by rw [ChatSystem.step, if_pos possible]; rfl) trivial
  | fetchReply share messages error =>
      rcases brings_or_nothing messages error with ⟨messages, rfl, rfl⟩ | nothing
      · exact forall_congr' fun signedIn =>
          passesOver_fetchReply_iff signedIn (of_decide_eq_true possible)
      · apply iff_of_true (fun _ => passesOver_fetchReply_of_nothing possible nothing)
        refine of_nothing nothing (fun messages _ => ?_) trivial
        cases messages <;> trivial
  | listenerReply share messageChanges error =>
      rcases brings_or_nothing messageChanges error with ⟨messageChanges, rfl, rfl⟩ | nothing
      · exact forall_congr' fun signedIn =>
          passesOver_listenerReply_iff (of_decide_eq_true possible) signedIn
      · apply iff_of_true (fun _ => passesOver_listenerReply_of_nothing possible nothing)
        refine of_nothing nothing (fun messageChanges _ => ?_) trivial
        cases messageChanges <;> trivial
  | _ => exact Iff.rfl

end Chat

section CommentList

open CommentListSystem CommentListController

variable {system : CommentListSystem} {share : AccountService} {now : Date}
  {registration : MovieChatListener} {listRegistration : GroupChatListener}

/-- The reply to the fetch of comments is survived exactly if each movie of a comment has an id.
-/
theorem step_fetchReply_isSome_iff {groupComments : List GroupComment}
    (waits : 0 < system.fetches) :
    (CommentListSystem.step system (.fetchReply share (some groupComments) none)).isSome ↔
      ∀ groupComment ∈ groupComments, ∀ movie, groupComment.movie = some movie →
        movie.id.isSome := by
  rw [step_fetchReply_some waits, Option.isSome_map, listenedMovies_isSome_iff]

/-- A callback of a movie is survived exactly if it is the first, or its messages can be sorted
and the newest can be previewed. -/
theorem step_movieChat_isSome_iff {messageChanges : List Message} (named : Named system)
    (live : registration ∈ system.groupListener.live) (signedIn : share.getAccountId.isSome) :
    (CommentListSystem.step system
        (.movieChat share now registration (some messageChanges) none)).isSome ↔
      (system.controller.didStart = true →
        Sortable messageChanges ∧ ∀ message ∈ newest messageChanges, Previewable message) := by
  cases started : system.controller.didStart with
  | false =>
      rw [step_movieChat_first live started]
      exact iff_of_true rfl fun wrong => by cases wrong
  | true =>
      obtain ⟨movieId, hasId, -⟩ := Option.map_eq_some_iff.mp (named registration live)
      rw [step_movieChat live started, Option.isSome_map,
        newsOf_isSome_iff (Option.isSome_of_mem hasId) signedIn]
      exact ⟨fun complete _ => complete, fun complete => complete rfl⟩

/-- A callback of the list is survived exactly if it is the first, or its comments can be sorted.
-/
theorem step_groupChat_isSome_iff {groupComments : List GroupComment}
    (live : listRegistration ∈ system.listener.live) :
    (CommentListSystem.step system
        (.groupChat listRegistration (some groupComments) none)).isSome ↔
      (system.controller.didStart = true → groupComments.length ≤ 1 ∨
        ∀ groupComment ∈ groupComments, groupComment.sendDate.isSome) := by
  cases started : system.controller.didStart with
  | false =>
      rw [step_groupChat_first live started]
      exact iff_of_true rfl fun wrong => by cases wrong
  | true =>
      rw [step_groupChat_some live started, Option.isSome_map, sortedNewestFirst_isSome_iff]
      exact ⟨fun complete _ => complete, fun complete => complete rfl⟩

/-- Without messages there is no news to trap on. -/
theorem step_movieChat_nothing {messageChanges : Option (List Message)} {error : Option NSError}
    (live : registration ∈ system.groupListener.live)
    (nothing : error.isSome ∨ messageChanges = none) :
    (CommentListSystem.step system
      (.movieChat share now registration messageChanges error)).isSome := by
  cases started : system.controller.didStart with
  | false =>
      rw [step_movieChat_first live started]
      rfl
  | true =>
      rw [step_movieChat live started, newsOf_eq_none_of nothing]
      rfl

/-- A callback of the list without comments is survived. -/
theorem step_groupChat_nothing {groupComments : Option (List GroupComment)}
    {error : Option NSError} (live : listRegistration ∈ system.listener.live)
    (nothing : error.isSome ∨ groupComments = none) :
    (CommentListSystem.step system (.groupChat listRegistration groupComments error)).isSome := by
  cases started : system.controller.didStart with
  | false =>
      rw [step_groupChat_first live started]
      rfl
  | true =>
      rw [step_groupChat_none live started nothing]
      rfl

/-- The comment list gets through an event exactly if what it brings is well formed. -/
theorem survives_list_iff (named : Named system) (before : List CommentListEvent)
    (event : CommentListEvent) :
    CommentListSystem.Survives before system event ↔
      CommentListSystem.WellFormed before system event := by
  apply forall_congr'
  intro possible
  cases event with
  | start share => exact iff_of_true (by rw [step_start possible]; rfl) trivial
  | fetchReply share groupComments error =>
      have waits : 0 < system.fetches := of_decide_eq_true possible
      rcases brings_or_nothing groupComments error with ⟨groupComments, rfl, rfl⟩ | nothing
      · exact forall_congr' fun _ => step_fetchReply_isSome_iff waits
      · apply iff_of_true (fun _ => by rw [step_fetchReply_none waits nothing]; rfl)
        refine of_nothing nothing (fun groupComments _ => ?_) trivial
        cases groupComments <;> trivial
  | movieChat share now registration messageChanges error =>
      have live : registration ∈ system.groupListener.live := of_decide_eq_true possible
      rcases brings_or_nothing messageChanges error with ⟨messageChanges, rfl, rfl⟩ | nothing
      · exact forall_congr' fun signedIn => step_movieChat_isSome_iff named live signedIn
      · apply iff_of_true (fun _ => step_movieChat_nothing live nothing)
        refine of_nothing nothing (fun messageChanges _ => ?_) trivial
        cases messageChanges <;> trivial
  | groupChat registration groupComments error =>
      have live : registration ∈ system.listener.live := of_decide_eq_true possible
      rcases brings_or_nothing groupComments error with ⟨groupComments, rfl, rfl⟩ | nothing
      · exact step_groupChat_isSome_iff live
      · apply iff_of_true (step_groupChat_nothing live nothing)
        refine of_nothing nothing (fun groupComments _ => ?_) trivial
        cases groupComments <;> trivial

end CommentList

/-- **No document crashes the chat or the comment list exactly while what is unwrapped is
there.** For every chat and every sequence of replies and snapshots, whatever they bring. -/
theorem survives_iff_wellFormed (fm : DateFormatter) :
    (∀ movieId events,
      EventRun.EachAttempt (ChatSystem.step fm) (ChatSystem.Survives fm)
          (ChatSystem.initial movieId) events ↔
        EventRun.EachAttempt (ChatSystem.step fm) (ChatSystem.WellFormed fm)
          (ChatSystem.initial movieId) events) ∧
    ∀ events,
      EventRun.EachAttempt CommentListSystem.step CommentListSystem.Survives {} events ↔
        EventRun.EachAttempt CommentListSystem.step CommentListSystem.WellFormed {} events :=
  ⟨fun _ _ => EventRun.eachAttempt_congr fun before _ event _ => survives_chat_iff before event,
    fun _ => EventRun.eachAttempt_congr fun before _ event reached =>
      survives_list_iff (CommentListSystem.named_of_run reached) before event⟩

/-- The fetch of a chat returns a document with a date and nothing else. -/
def withoutAccountId : List ChatEvent :=
  [.start,
    .fetchReply ⟨none, some "an"⟩ (some [ChatService.message (Gregorian.formatter ⟨0⟩)
      ⟨"d1", [("sendDate", .timestamp ⟨1566345600000000000⟩)]⟩]) none]

/-- The build traps on its account id. -/
theorem not_survives_withoutAccountId :
    ¬ EventRun.EachAttempt (ChatSystem.step (Gregorian.formatter ⟨0⟩))
      (ChatSystem.Survives (Gregorian.formatter ⟨0⟩)) (ChatSystem.initial (some "1"))
      withoutAccountId := by
  intro survives
  obtain ⟨next, -, taken, -⟩ :=
    survives (withoutAccountId.take 1) withoutAccountId[1] List.prefix_rfl _ rfl rfl rfl
  exact absurd (Option.isSome_of_mem taken) (by decide +kernel)

end MovieFun
