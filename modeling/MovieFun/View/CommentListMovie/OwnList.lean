import MovieFun.Foundation.Once
import MovieFun.Helper.Gregorian
import MovieFun.Network.ChatService
import MovieFun.View.CommentListMovie.CommentListSystem

/-!
# The comment list of the session

The page of the comment list starts its list anew when it appears after a login, a
registration or a logout. Neither the rows nor the listener of the list go with the session;
both stay until a fetch of the next one is answered. When nobody logs in or out while a fetch
is awaited, no late reply or snapshot makes another account that of the session, and each fetch
brings the documents, then from the answer of a fetch to the next login or logout the rows are
those of the session, and the one listener of the list is for it (`ownList_of_attains`).
-/

namespace MovieFun

open CommentListController

/-- The page with the session. Kept as a record are the accounts whose fetch is awaited, and
the account whose group comments the rows were built of. -/
structure CommentListPage where
  share : AccountService
  list : CommentListSystem := {}
  needUpdateGroupComment : Bool := true
  fetchers : List String := []
  rowsOf : Option String := none

/-- What can reach the page. A login, a registration and a logout are posted; that the
account of the session is loaded or changed is not. Replies and snapshots come as the documents
that the services decode. -/
inductive CommentListPageEvent
  | session (share : AccountService)
  | account (share : AccountService)
  | viewWillAppear
  | fetchReply (accountId : String) (documents : Option (List Dictionary))
      (error : Option NSError)
  | movieChat (now : Date) (registration : MovieChatListener)
      (documentChanges : Option (List Document)) (error : Option NSError)
  | groupChat (registration : GroupChatListener) (documents : Option (List Dictionary))
      (error : Option NSError)

namespace CommentListPage

variable (fm : DateFormatter)

/-- The page before it appears for the first time. -/
def initial (share : AccountService) : CommentListPage where
  share

/-- The list without rows. -/
def removeAll (list : CommentListSystem) : CommentListSystem :=
  { list with
    controller :=
      { list.controller with
        commentListViewModel :=
          { list.controller.commentListViewModel with commentListSectionViewModels := [] } } }

/-- The page after a step of its list. Rows that were built are those of the account. -/
def become (accountId : String) (list : CommentListSystem) (page : CommentListPage) :
    CommentListPage :=
  { page with
    list
    rowsOf := if list.builds = page.list.builds then page.rowsOf else some accountId }

/-- Without a loaded account the rows are removed, and the user is asked to log in. -/
def fetchGroupComments (page : CommentListPage) : Option CommentListPage :=
  if page.share.isLogin then do
    let list ← page.list.step (.start page.share)
    return { page with
      list
      needUpdateGroupComment := false
      fetchers := page.fetchers ++ page.share.getAccountId.toList }
  else some { page with list := removeAll page.list, rowsOf := none }

/-- Only a fetch that is awaited is answered. The session may load any account, since
`AccountService` does not look at whose document a reply or a snapshot brings. -/
def enabled (page : CommentListPage) : CommentListPageEvent → Bool
  | .fetchReply accountId .. => accountId ∈ page.fetchers
  | _ => true

/-- What an event does to the page. `none` is a trap. -/
def handle (page : CommentListPage) : CommentListPageEvent → Option CommentListPage
  | .session share => some { page with share, needUpdateGroupComment := true }
  | .account share => some { page with share }
  | .viewWillAppear => if page.needUpdateGroupComment then page.fetchGroupComments else some page
  | .fetchReply accountId documents error => do
      let (groupComments, error) := CommentListService.receivedGroupComments documents error
      let list ← page.list.step (.fetchReply page.share groupComments error)
      return { page.become accountId list with fetchers := page.fetchers.erase accountId }
  | .movieChat now registration documentChanges error => do
      let (messageChanges, error) := ChatService.addListener fm documentChanges error
      let list ← page.list.step (.movieChat page.share now registration messageChanges error)
      return { page with list }
  | .groupChat registration documents error => do
      let (groupComments, error) := CommentListService.receivedGroupComments documents error
      let list ← page.list.step (.groupChat registration groupComments error)
      return page.become registration.payload list

/-- The page after an event that can happen. -/
def step (page : CommentListPage) (event : CommentListPageEvent) : Option CommentListPage :=
  if page.enabled event then handle fm page event else none

/-- The rows are the group comments of the account, and the list listens to it alone. -/
structure Own (page : CommentListPage) (accountId : String) : Prop where
  rowsOf : page.rowsOf = some accountId
  rows : ∃ groupComments, page.list.controller.groupComments = some groupComments ∧
    page.list.controller.commentListViewModel.commentListSectionViewModels =
      (buildViewModels groupComments {}).commentListViewModel.commentListSectionViewModels
  listener : ∃ registration, page.list.listener.live = [registration] ∧
    registration.payload = accountId

/-- Nobody logs in or out while a fetch is awaited, an account that is loaded is that of the
session, and each fetch brings the documents. -/
def Orderly (page : CommentListPage) : CommentListPageEvent → Prop
  | .session _ => page.fetchers = []
  | .account share => share.getAccountId = page.share.getAccountId
  | .fetchReply _ documents error => error = none ∧ documents.isSome
  | _ => True

/-- What an orderly run keeps. -/
structure Course (page : CommentListPage) : Prop where
  sole : page.list.listener.Sole ()
  quiet : page.needUpdateGroupComment = true → page.fetchers = []
  asks : page.fetchers ≠ [] → ∃ accountId, page.fetchers = [accountId] ∧
    page.share.getAccountId = some accountId ∧ page.list.listener.live = []
  own : page.needUpdateGroupComment = false → page.fetchers = [] →
    ∃ accountId, page.share.getAccountId = some accountId ∧ page.Own accountId

variable {fm} {page next : CommentListPage} {event : CommentListPageEvent} {accountId : String}

/-- A page that differs in nothing that the course is about. -/
structure Same (next page : CommentListPage) : Prop where
  session : next.share.getAccountId = page.share.getAccountId
  needs : next.needUpdateGroupComment = page.needUpdateGroupComment
  fetchers : next.fetchers = page.fetchers
  rowsOf : next.rowsOf = page.rowsOf
  groupComments : next.list.controller.groupComments = page.list.controller.groupComments
  rows : next.list.controller.commentListViewModel.commentListSectionViewModels =
    page.list.controller.commentListViewModel.commentListSectionViewModels
  listener : next.list.listener = page.list.listener

/-- A page with the same list and session keeps the course. -/
theorem Course.of_same (course : page.Course) (same : Same next page) : next.Course := by
  constructor
  · rw [same.listener]
    exact course.sole
  · rw [same.needs, same.fetchers]
    exact course.quiet
  · rw [same.fetchers, same.session, same.listener]
    exact course.asks
  · rw [same.needs, same.fetchers, same.session]
    intro updated none
    obtain ⟨accountId, session, rowsOf, rows, listener⟩ := course.own updated none
    refine ⟨accountId, session, same.rowsOf.trans rowsOf, ?_, ?_⟩
    · rw [same.groupComments, same.rows]
      exact rows
    · rw [same.listener]
      exact listener

/-- The registrations with the list of an account have one key. -/
theorem live_eq_nil {registry : SlotRegistry Unit String} (silent : registry.Silent ()) :
    registry.live = [] :=
  List.eq_nil_iff_forall_not_mem.mpr fun registration member => silent registration member rfl

/-- A registration on its own is in the slot. -/
theorem sole_add {registry : SlotRegistry Unit String} (none : registry.live = []) :
    (registry.add () accountId).Sole () := by
  intro registration member _
  rcases SlotRegistry.mem_add.mp member with older | rfl
  · rw [none] at older
    exact absurd older List.not_mem_nil
  · exact SlotRegistry.slot_add_self

/-- The listener of the list is that of the account. -/
theorem listener_initListenerForGroupChat {share : AccountService} {list : CommentListSystem}
    (session : share.getAccountId = some accountId) :
    (CommentListSystem.initListenerForGroupChat share list).listener =
      list.listener.add () accountId := by
  rw [CommentListSystem.initListenerForGroupChat, session]

/-- Registering the listener builds nothing. -/
theorem builds_initListenerForGroupChat (share : AccountService) (list : CommentListSystem) :
    (CommentListSystem.initListenerForGroupChat share list).builds = list.builds := by
  unfold CommentListSystem.initListenerForGroupChat
  split <;> rfl

/-- The step is the handler of an event that is enabled. -/
theorem step_eq_some (taken : step fm page event = some next) :
    page.enabled event = true ∧ handle fm page event = some next := by
  unfold step at taken
  split at taken
  · next possible => exact ⟨possible, taken⟩
  · cases taken

/-- A page that appears starts its list if it needs to. -/
theorem course_viewWillAppear (course : page.Course)
    (taken : handle fm page .viewWillAppear = some next) : next.Course := by
  rw [handle] at taken
  split at taken
  · next needs =>
    have awaitsNone := course.quiet needs
    rw [fetchGroupComments] at taken
    split at taken
    · next login =>
      obtain ⟨accountId, session⟩ := AccountService.getAccountId_of_isLogin login
      simp only [CommentListSystem.step_start login, Option.bind_eq_bind, Option.bind_some,
        Option.pure_def, Option.some.injEq] at taken
      subst taken
      have asked : page.fetchers ++ page.share.getAccountId.toList = [accountId] := by
        rw [awaitsNone, session]
        rfl
      exact {
        sole := course.sole.remove ()
        quiet := fun needed => by cases needed
        asks := fun _ => ⟨accountId, asked, session, live_eq_nil course.sole.silent_remove⟩
        own := fun _ none => by
          rw [asked] at none
          cases none }
    · cases taken
      exact {
        sole := course.sole
        quiet := course.quiet
        asks := course.asks
        own := fun updated => by
          rw [needs] at updated
          cases updated }
  · cases taken
    exact course

/-- The answer of the fetch brings the rows of the session, and its listener. -/
theorem course_fetchReply {documents : List Dictionary} (course : page.Course)
    (awaited : accountId ∈ page.fetchers)
    (taken : handle fm page (.fetchReply accountId (some documents) none) = some next) :
    next.Course := by
  let groupComments := documents.map CommentListService.getGroupComment
  obtain ⟨asker, fetchers, session, silent⟩ := course.asks (List.ne_nil_of_mem awaited)
  rw [fetchers, List.mem_singleton] at awaited
  subst awaited
  rw [handle] at taken
  obtain ⟨list, moved, isNext⟩ := Option.bind_eq_some_iff.mp taken
  cases isNext
  cases CommentListSystem.taken_of_step moved with
  | notFetched _ nothing =>
      rcases nothing with failed | none
      · cases failed
      · cases none
  | @fetched _ _ movies waits listened =>
      let answered := CommentListSystem.initListenerForMovieChat movies
        { page.list with
          controller := fetchCompletion (some groupComments) none page.list.controller
          fetches := page.list.fetches - 1
          builds := page.list.builds + 1 }
      have isListener := @listener_initListenerForGroupChat accountId page.share answered session
      have isController :=
        @CommentListSystem.controller_initListenerForGroupChat answered page.share
      have live : (page.list.listener.add () accountId).live =
          [⟨(), page.list.listener.made, accountId⟩] := by
        rw [SlotRegistry.add, silent, List.nil_append]
      have awaitsNone : page.fetchers.erase accountId = [] := by
        rw [fetchers, List.erase_cons_head]
      refine ⟨isListener ▸ sole_add silent, fun _ => awaitsNone,
        fun awaits => absurd awaitsNone awaits, fun _ _ => ⟨accountId, session, ?_, ?_, ?_⟩⟩
      · rw [become, builds_initListenerForGroupChat]
        exact if_neg (Nat.succ_ne_self _)
      · have rows := congrArg (fun controller : CommentListController =>
          controller.commentListViewModel.commentListSectionViewModels) isController
        exact ⟨groupComments, congrArg CommentListController.groupComments isController, rows⟩
      · exact ⟨_, isListener ▸ live, rfl⟩

/-- A message of a chat leaves the rows to the list. -/
theorem course_movieChat {now : Date} {registration : MovieChatListener}
    {documentChanges : Option (List Document)} {error : Option NSError} (course : page.Course)
    (taken : handle fm page (.movieChat now registration documentChanges error) = some next) :
    next.Course := by
  rw [handle] at taken
  obtain ⟨list, moved, isNext⟩ := Option.bind_eq_some_iff.mp taken
  cases isNext
  cases CommentListSystem.taken_of_step moved with
  | movieChatFirst => exact course.of_same ⟨rfl, rfl, rfl, rfl, rfl, rfl, rfl⟩
  | movieChat => exact course.of_same ⟨rfl, rfl, rfl, rfl, rfl, rfl, rfl⟩

/-- A snapshot of the list is one of the session. -/
theorem course_groupChat {registration : GroupChatListener}
    {documents : Option (List Dictionary)} {error : Option NSError} (course : page.Course)
    (taken : handle fm page (.groupChat registration documents error) = some next) :
    next.Course := by
  rw [handle] at taken
  generalize CommentListService.receivedGroupComments documents error = received at taken
  obtain ⟨groupComments, failure⟩ := received
  obtain ⟨list, moved, isNext⟩ := Option.bind_eq_some_iff.mp taken
  cases isNext
  cases CommentListSystem.taken_of_step moved with
  | groupChatFirst => exact course.of_same ⟨rfl, rfl, rfl, if_pos rfl, rfl, rfl, rfl⟩
  | groupChatNothing => exact course.of_same ⟨rfl, rfl, rfl, if_pos rfl, rfl, rfl, rfl⟩
  | @groupChat _ groupComments sorted live started isSorted =>
      exact {
        sole := course.sole
        quiet := course.quiet
        asks := course.asks
        own := fun updated none => by
          obtain ⟨accountId, session, -, -, listener, isLive, isOwn⟩ := course.own updated none
          rw [isLive, List.mem_singleton] at live
          subst live
          exact ⟨accountId, session, isOwn ▸ if_neg (Nat.succ_ne_self _), ⟨sorted, rfl, rfl⟩,
            registration, isLive, isOwn⟩ }

/-- Each orderly step keeps the course. -/
theorem course_of_step (course : page.Course) (orderly : page.Orderly event)
    (taken : step fm page event = some next) : next.Course := by
  obtain ⟨possible, handled⟩ := step_eq_some taken
  cases event with
  | session share =>
      cases handled
      exact {
        sole := course.sole
        quiet := fun _ => orderly
        asks := fun awaits => absurd orderly awaits
        own := fun updated => by cases updated }
  | account share =>
      cases handled
      exact course.of_same ⟨orderly, rfl, rfl, rfl, rfl, rfl, rfl⟩
  | viewWillAppear => exact course_viewWillAppear course handled
  | fetchReply accountId documents error =>
      obtain ⟨rfl, brings⟩ := orderly
      obtain ⟨documents, rfl⟩ := Option.isSome_iff_exists.mp brings
      exact course_fetchReply course (of_decide_eq_true possible) handled
  | movieChat now registration documentChanges error => exact course_movieChat course handled
  | groupChat registration documents error => exact course_groupChat course handled

/-- **The comment list is that of the session.** In every orderly run, once a fetch was
answered and until the next login or logout, the rows are the group comments of the session's
account, and the one listener of the list is for that account. -/
theorem ownList_of_attains {share : AccountService}
    (attained : EventRun.Attains (step fm) Orderly (initial share) page)
    (updated : page.needUpdateGroupComment = false) (answered : page.fetchers = []) :
    ∃ accountId, page.share.getAccountId = some accountId ∧ page.Own accountId := by
  have course : page.Course := by
    refine attained.invariant Course ?_ fun page event next => course_of_step
    exact {
      sole := fun registration member => absurd member List.not_mem_nil
      quiet := fun _ => rfl
      asks := fun awaits => absurd rfl awaits
      own := fun updated => by cases updated }
  exact course.own updated answered

/-- A session with a loaded account. -/
def sessionOf (accountId : String) : AccountService where
  account := some ⟨accountId, "", "", "", ⟨0⟩⟩
  userLogin := some accountId

/-- Where one account logs out and another logs in, the second sees its own list. -/
theorem ownList_secondAccount :
    ∃ page, EventRun.Attains (step (Gregorian.formatter ⟨0⟩)) Orderly (initial (sessionOf "an"))
        page ∧ page.Own "binh" := by
  let steps := step (Gregorian.formatter ⟨0⟩)
  have start : EventRun.Attains steps Orderly (initial (sessionOf "an")) _ :=
    EventRun.attains_start
  have appeared := start.concat (show steps _ .viewWillAppear = some _ from rfl) trivial
  have fetched := appeared.concat
    (show steps _ (.fetchReply "an" (some []) none) = some _ from rfl) ⟨rfl, rfl⟩
  have loggedOut := fetched.concat (show steps _ (.session ⟨none, none⟩) = some _ from rfl) rfl
  have loggedIn := loggedOut.concat
    (show steps _ (.session (sessionOf "binh")) = some _ from rfl) rfl
  have appearedAgain := loggedIn.concat (show steps _ .viewWillAppear = some _ from rfl) trivial
  have fetchedAgain := appearedAgain.concat
    (show steps _ (.fetchReply "binh" (some []) none) = some _ from rfl) ⟨rfl, rfl⟩
  obtain ⟨accountId, session, own⟩ := ownList_of_attains fetchedAgain rfl rfl
  cases session
  exact ⟨_, fetchedAgain, own⟩

end CommentListPage

end MovieFun
