import Mathlib.Algebra.Order.Group.Multiset
import MovieFun.Foundation.CallGroup
import MovieFun.Network.AccountService
import MovieFun.View.PhotoGallery.MainCollectionViewCell

/-!
# What the account page waits for

Each start of the account page asks for the account and for its picture in one dispatch
group, whose block lowers `isFetching`; every update and every upload of a picture raises and
lowers the same flag on its own. So the flag tells whether anything is awaited exactly when
each lowering comes with the last answer and no upload starts that is not sent
(`fetching_iff_alone`). The picture that an answer brings is shown whoever is logged in by
then (`ownPicture_iff_inSession`).
-/

namespace MovieFun

/-- The page with the id that the session knows, the calls of `start` with the requests that
have no answer, and the updates and uploads without one. The picture is that of the image
view, which shows `IMAGE_NOT_FOUND` without one. -/
structure AccountFetching where
  accountId : Option String
  hasAccount : Bool := false
  isFetching : Bool := false
  accountImage : Option UIImage := none
  calls : CallGroup := {}
  fetches : List (Nat × String) := []
  downloads : List (Nat × String) := []
  updates : Nat := 0
  uploads : List String := []

/-- What can reach the page. An upload is of an image that has data or has none, and the
session may be changed by the login view and by the listener of the account. -/
inductive AccountFetchingEvent
  | start
  | fetchReply (call : Nat) (userId : String) (now : Date) (data : Option Dictionary)
      (error : Option NSError)
  | downloadReply (call : Nat) (accountId : String) (data : Option ImageData)
      (error : Option NSError)
  | notify (call : Nat)
  | update
  | updateReply (error : Option NSError)
  | uploadImage (hasData : Bool)
  | uploadReply (accountId : String) (hasMetadata : Bool) (error : Option NSError)
  | logout
  | session (accountId : Option String)

namespace AccountFetchingEvent

/-- The event lowers `isFetching`. -/
def lowers : AccountFetchingEvent → Bool
  | notify _ | updateReply _ | uploadReply .. => true
  | _ => false

/-- The picture that the event brings. -/
def picture : AccountFetchingEvent → Option UIImage
  | downloadReply _ accountId (some data) none => UIImage.ofData accountId data
  | uploadReply accountId true none => some ⟨accountId⟩
  | _ => none

/-- The session that the event makes. -/
def becomes : AccountFetchingEvent → Option (Option String)
  | fetchReply _ _ now data error =>
      (AccountService.receivedAccount now data error).1.map fun account => some account.accountId
  | logout => some none
  | session accountId => some accountId
  | _ => none

end AccountFetchingEvent

namespace AccountFetching

/-- A page that has asked for nothing yet. -/
def initial (accountId : Option String) : AccountFetching where
  accountId

/-- The two requests of `start`, if an account id is known. -/
def start (page : AccountFetching) : AccountFetching :=
  match page.accountId with
  | none => page
  | some accountId =>
      { page with
        isFetching := true
        calls := page.calls.called 2
        fetches := page.fetches ++ [(page.calls.calls, accountId)]
        downloads := page.downloads ++ [(page.calls.calls, accountId)] }

/-- The three updates, as far as the flag is concerned. -/
def update (page : AccountFetching) : AccountFetching :=
  if page.hasAccount then { page with isFetching := true, updates := page.updates + 1 }
  else page

/-- The flag is raised before `putImage`, which sends nothing without an account id. -/
def uploadImage (hasData : Bool) (page : AccountFetching) : AccountFetching :=
  if hasData then
    { page with isFetching := true, uploads := page.uploads ++ page.accountId.toList }
  else page

/-- A reply comes to what is awaited, and a block runs once it was submitted. -/
def enabled (page : AccountFetching) : AccountFetchingEvent → Bool
  | .fetchReply call userId .. => (call, userId) ∈ page.fetches
  | .downloadReply call accountId .. => (call, accountId) ∈ page.downloads
  | .notify call => call ∈ page.calls.queue
  | .updateReply _ => 0 < page.updates
  | .uploadReply accountId .. => accountId ∈ page.uploads
  | _ => true

/-- `none` is a trap. -/
def handle (page : AccountFetching) (event : AccountFetchingEvent) : Option AccountFetching :=
  let shown := event.picture.or page.accountImage
  let accountId := event.becomes.getD page.accountId
  match event with
  | .start => some page.start
  | .fetchReply call userId now data error =>
      (page.calls.step (.finish call)).map fun calls =>
        { page with
          calls, accountId
          hasAccount :=
            page.hasAccount || (AccountService.receivedAccount now data error).1.isSome
          fetches := page.fetches.erase (call, userId) }
  | .downloadReply call accountId .. =>
      (page.calls.step (.finish call)).map fun calls =>
        { page with
          calls
          accountImage := shown
          downloads := page.downloads.erase (call, accountId) }
  | .notify call =>
      (page.calls.step (.run call)).map fun calls => { page with calls, isFetching := false }
  | .update => some page.update
  | .updateReply _ => some { page with isFetching := false, updates := page.updates - 1 }
  | .uploadImage hasData => some (page.uploadImage hasData)
  | .uploadReply accountId .. =>
      some { page with
        isFetching := false
        accountImage := shown
        uploads := page.uploads.erase accountId }
  | .logout => some { page with accountId, accountImage := none }
  | .session _ => some { page with accountId }

/-- The page after an event that can happen. -/
def step (page : AccountFetching) (event : AccountFetchingEvent) : Option AccountFetching :=
  if page.enabled event then page.handle event else none

/-- The number of answers and blocks that the page waits for. -/
def awaited (page : AccountFetching) : Nat :=
  page.calls.outstanding.card + page.calls.queue.length + page.updates + page.uploads.length

/-- The calls are balanced, and their requests are the fetches and downloads. -/
structure Sound (page : AccountFetching) : Prop where
  balanced : page.calls.Balanced
  requests : page.calls.outstanding =
    ↑(page.fetches.map Prod.fst) + ↑(page.downloads.map Prod.fst)

/-- What a step does to the flag and to what the page waits for. -/
inductive Effect (page next : AccountFetching) (event : AccountFetchingEvent) : Prop
  | raises (quiet : event.lowers = false) (sent : event ≠ .uploadImage true ∨ page.accountId ≠ none)
      (raised : next.isFetching = true) (awaits : 0 < next.awaited)
  | lowers (isLowering : event.lowers = true) (lowered : next.isFetching = false)
      (answered : next.awaited + 1 = page.awaited)
  | goesNowhere (isUpload : event = .uploadImage true) (unknown : page.accountId = none)
      (raised : next.isFetching = true) (same : next.awaited = page.awaited)
  | stays (quiet : event.lowers = false) (other : event ≠ .uploadImage true)
      (flag : next.isFetching = page.isFetching) (same : 0 < next.awaited ↔ 0 < page.awaited)

section Steps

variable {page next : AccountFetching} {event : AccountFetchingEvent}

theorem sound_initial (accountId : Option String) : Sound (initial accountId) :=
  ⟨CallGroup.balanced_empty, rfl⟩

/-- A step is an event that can happen, and what it does. -/
theorem handle_of_step (taken : step page event = some next) :
    page.enabled event = true ∧ page.handle event = some next := by
  rwa [step, Option.ite_none_right_eq_some] at taken

/-- The calls of a list of requests with one more. -/
theorem map_fst_concat (requests : List (Nat × String)) (request : Nat × String) :
    (↑((requests ++ [request]).map Prod.fst) : Multiset Nat) =
      ↑(requests.map Prod.fst) + {request.1} := by
  rw [List.map_append, ← Multiset.coe_add]
  rfl

/-- The calls of a list of requests without one of them. -/
theorem map_fst_erase {requests : List (Nat × String)} {request : Nat × String}
    (asked : request ∈ requests) :
    (↑((requests.erase request).map Prod.fst) : Multiset Nat) =
      (↑(requests.map Prod.fst) : Multiset Nat).erase request.1 := by
  have perm : requests.Perm (request :: requests.erase request) := List.perm_cons_erase asked
  rw [Multiset.coe_eq_coe.mpr (perm.map Prod.fst), List.map_cons, ← Multiset.cons_coe,
    Multiset.erase_cons_head]

/-- Each step keeps what is sound. -/
theorem sound_of_step (sound : Sound page) (taken : step page event = some next) : Sound next := by
  obtain ⟨balanced, requests⟩ := sound
  obtain ⟨enabled, handled⟩ := handle_of_step taken
  cases event with
  | start =>
      cases handled
      unfold start
      split
      · exact ⟨balanced, requests⟩
      · next accountId known =>
        refine ⟨balanced.called 2, ?_⟩
        change page.calls.outstanding + Multiset.replicate 2 page.calls.calls = _
        rw [requests, map_fst_concat, map_fst_concat, add_add_add_comm]
        rfl
  | fetchReply call userId now data error =>
      obtain ⟨calls, moved, rfl⟩ := Option.map_eq_some_iff.mp handled
      have asked : (call, userId) ∈ page.fetches := of_decide_eq_true enabled
      refine ⟨balanced.of_step moved, ?_⟩
      obtain ⟨-, group, submitted, -, rfl⟩ := CallGroup.step_finish_eq_some moved
      change page.calls.outstanding.erase call = _
      rw [requests, map_fst_erase asked]
      exact Multiset.erase_add_left_pos _ (Multiset.mem_coe.mpr (List.mem_map_of_mem asked))
  | downloadReply call accountId data error =>
      obtain ⟨calls, moved, rfl⟩ := Option.map_eq_some_iff.mp handled
      have asked : (call, accountId) ∈ page.downloads := of_decide_eq_true enabled
      refine ⟨balanced.of_step moved, ?_⟩
      obtain ⟨-, group, submitted, -, rfl⟩ := CallGroup.step_finish_eq_some moved
      change page.calls.outstanding.erase call = _
      rw [requests, map_fst_erase asked]
      exact Multiset.erase_add_right_pos _ (Multiset.mem_coe.mpr (List.mem_map_of_mem asked))
  | notify call =>
      obtain ⟨calls, moved, rfl⟩ := Option.map_eq_some_iff.mp handled
      refine ⟨balanced.of_step moved, ?_⟩
      simp only [CallGroup.step, Option.ite_none_right_eq_some] at moved
      obtain ⟨-, made⟩ := moved
      cases made
      exact requests
  | update =>
      cases handled
      unfold update
      split <;> exact ⟨balanced, requests⟩
  | uploadImage hasData =>
      cases handled
      unfold uploadImage
      split <;> exact ⟨balanced, requests⟩
  | updateReply error | uploadReply accountId hasMetadata error | logout | session accountId =>
      cases handled
      exact ⟨balanced, requests⟩

/-- A page that waits for the group alone goes on waiting after an answer. -/
theorem awaited_of_finish (sound : Sound page) {call : Nat} {calls : CallGroup}
    (moved : page.calls.step (.finish call) = some calls) (sameCalls : next.calls = calls) :
    0 < next.awaited ∧ 0 < page.awaited := by
  have after := sound.balanced.awaited_finish moved
  obtain ⟨isOutstanding, -⟩ := CallGroup.step_finish_eq_some moved
  have before : 0 < page.calls.outstanding.card :=
    Multiset.card_pos_iff_exists_mem.mpr ⟨call, isOutstanding⟩
  unfold awaited
  rw [sameCalls]
  omega

/-- What a step does to the flag and to what is awaited. -/
theorem effect_of_step (sound : Sound page) (taken : step page event = some next) :
    Effect page next event := by
  obtain ⟨enabled, handled⟩ := handle_of_step taken
  cases event with
  | start =>
      cases handled
      unfold start
      split
      · exact .stays rfl (fun same => by cases same) rfl Iff.rfl
      · refine .raises rfl (.inl fun same => by cases same) rfl ?_
        have more : (page.calls.called 2).outstanding.card = page.calls.outstanding.card + 2 :=
          Multiset.card_add _ _
        change 0 < _ + _ + _ + _
        rw [more]
        omega
  | fetchReply call userId now data error =>
      obtain ⟨calls, moved, made⟩ := Option.map_eq_some_iff.mp handled
      have sameCalls : next.calls = calls := (congrArg AccountFetching.calls made).symm
      obtain ⟨after, before⟩ := awaited_of_finish sound moved sameCalls
      subst made
      exact .stays rfl (fun same => by cases same) rfl (iff_of_true after before)
  | downloadReply call accountId data error =>
      obtain ⟨calls, moved, made⟩ := Option.map_eq_some_iff.mp handled
      have sameCalls : next.calls = calls := (congrArg AccountFetching.calls made).symm
      obtain ⟨after, before⟩ := awaited_of_finish sound moved sameCalls
      subst made
      exact .stays rfl (fun same => by cases same) rfl (iff_of_true after before)
  | notify call =>
      obtain ⟨calls, moved, rfl⟩ := Option.map_eq_some_iff.mp handled
      simp only [CallGroup.step, Option.ite_none_right_eq_some] at moved
      obtain ⟨onQueue, made⟩ := moved
      cases made
      refine .lowers rfl rfl ?_
      have fewer := List.length_erase_add_one onQueue
      simp only [awaited]
      omega
  | update =>
      cases handled
      unfold update
      split
      · refine .raises rfl (.inl fun same => by cases same) rfl ?_
        simp only [awaited]
        omega
      · exact .stays rfl (fun same => by cases same) rfl Iff.rfl
  | updateReply error =>
      cases handled
      have isSent : 0 < page.updates := of_decide_eq_true enabled
      refine .lowers rfl rfl ?_
      simp only [awaited]
      omega
  | uploadImage hasData =>
      cases handled
      cases hasData with
      | false => exact .stays rfl (fun same => by cases same) rfl Iff.rfl
      | true =>
          cases known : page.accountId with
          | none =>
              refine .goesNowhere rfl known rfl ?_
              simp only [awaited, uploadImage, known, Option.toList_none, List.append_nil, if_true]
          | some accountId =>
              refine .raises rfl (.inr ?_) rfl ?_
              · rw [known]
                exact Option.some_ne_none accountId
              · simp only [awaited, uploadImage, known, Option.toList_some, List.length_append,
                  List.length_singleton, if_true]
                omega
  | uploadReply accountId hasMetadata error =>
      cases handled
      have isSent : accountId ∈ page.uploads := of_decide_eq_true enabled
      refine .lowers rfl rfl ?_
      have fewer := List.length_erase_add_one isSent
      simp only [awaited]
      omega
  | logout | session accountId =>
      cases handled
      exact .stays rfl (fun same => by cases same) rfl Iff.rfl

end Steps

/-- The flag is raised exactly while an answer or a block is awaited. -/
def Tells (page : AccountFetching) : Prop := page.isFetching = true ↔ 0 < page.awaited

/-- The event lowers the flag only with the last that is awaited, and an upload starts only
where it is sent or something else is awaited. -/
structure Alone (page : AccountFetching) (event : AccountFetchingEvent) : Prop where
  last : event.lowers = true → page.awaited = 1
  sent : event = .uploadImage true → page.accountId ≠ none ∨ 0 < page.awaited

/-- The picture on the page is of the account that is logged in. -/
def OwnPicture (page : AccountFetching) : Prop :=
  ∀ image, page.accountImage = some image → page.accountId = some image.path

/-- The event brings only a picture of the account that is logged in, and a picture that is
shown stays of that account, unless a logout takes it away. -/
structure InSession (page : AccountFetching) (event : AccountFetchingEvent) : Prop where
  brings : ∀ image, event.picture = some image → page.accountId = some image.path
  becomes : event ≠ .logout → page.accountImage ≠ none →
    ∀ accountId, event.becomes = some accountId → accountId = page.accountId

section Runs

variable {page next : AccountFetching} {event : AccountFetchingEvent}

/-- A step keeps the flag telling exactly if its completion comes alone. -/
theorem tells_step_iff (sound : Sound page) (tells : Tells page)
    (taken : step page event = some next) : Tells next ↔ Alone page event := by
  cases effect_of_step sound taken with
  | raises quiet sent raised awaits =>
      refine iff_of_true (iff_of_true raised awaits) ⟨fun isLowering => ?_, fun isUpload => ?_⟩
      · cases quiet.symm.trans isLowering
      · exact .inl (sent.resolve_left (not_not_intro isUpload))
  | lowers isLowering lowered answered =>
      have notUpload : event ≠ .uploadImage true := by
        rintro rfl
        cases isLowering
      rw [Tells, lowered]
      constructor
      · intro idle
        have none : ¬ 0 < next.awaited := fun awaits => by cases idle.mpr awaits
        exact ⟨fun _ => by omega, fun isUpload => absurd isUpload notUpload⟩
      · intro alone
        have one := alone.last isLowering
        exact iff_of_false (fun raised => by cases raised) (by omega)
  | goesNowhere isUpload unknown raised same =>
      subst isUpload
      rw [Tells, raised, same]
      constructor
      · intro busy
        refine ⟨fun isLowering => ?_, fun _ => .inr (busy.mp rfl)⟩
        cases isLowering
      · intro alone
        exact iff_of_true rfl ((alone.sent rfl).resolve_left (not_not_intro unknown))
  | stays quiet other flag same =>
      refine iff_of_true ?_ ⟨fun isLowering => ?_, fun isUpload => absurd isUpload other⟩
      · rw [Tells, flag, same]
        exact tells
      · cases quiet.symm.trans isLowering

/-- **The page tells whether it waits.** In every run `isFetching` is raised exactly while
an answer or a block is awaited, throughout, exactly when each event that lowers it comes
with the last that is awaited and no upload starts that is not sent while nothing is
awaited. -/
theorem fetching_iff_alone (accountId : Option String) (events : List AccountFetchingEvent) :
    EventRun.EachState step Tells (initial accountId) events ↔
      EventRun.EachStep step Alone (initial accountId) events := by
  refine EventRun.eachState_iff_eachStep (fun _ => Sound) ?_ (sound_initial accountId) ?_ ?_
  · exact iff_of_false (fun raised => by cases raised) (Nat.lt_irrefl 0)
  · exact fun before event state next _ sound taken => sound_of_step sound taken
  · exact fun before event state next _ sound tells taken => tells_step_iff sound tells taken

/-- The picture and the session after a step. -/
theorem picture_of_step (taken : step page event = some next) :
    (event = .logout ∧ next.accountImage = none) ∨
      (event ≠ .logout ∧ next.accountImage = event.picture.or page.accountImage ∧
        next.accountId = event.becomes.getD page.accountId) := by
  obtain ⟨-, handled⟩ := handle_of_step taken
  cases event with
  | start =>
      cases handled
      refine .inr ⟨nofun, ?_⟩
      unfold start
      split <;> exact ⟨rfl, rfl⟩
  | fetchReply call userId now data error =>
      obtain ⟨calls, -, rfl⟩ := Option.map_eq_some_iff.mp handled
      exact .inr ⟨nofun, rfl, rfl⟩
  | downloadReply call accountId data error =>
      obtain ⟨calls, -, rfl⟩ := Option.map_eq_some_iff.mp handled
      exact .inr ⟨nofun, rfl, rfl⟩
  | notify call =>
      obtain ⟨calls, -, rfl⟩ := Option.map_eq_some_iff.mp handled
      exact .inr ⟨nofun, rfl, rfl⟩
  | update =>
      cases handled
      refine .inr ⟨nofun, ?_⟩
      unfold update
      split <;> exact ⟨rfl, rfl⟩
  | uploadImage hasData =>
      cases handled
      refine .inr ⟨nofun, ?_⟩
      unfold uploadImage
      split <;> exact ⟨rfl, rfl⟩
  | updateReply error | uploadReply accountId hasMetadata error | session accountId =>
      cases handled
      exact .inr ⟨nofun, rfl, rfl⟩
  | logout =>
      cases handled
      exact .inl ⟨rfl, rfl⟩

/-- No event brings a picture and makes a session. -/
theorem becomes_of_picture {image : UIImage} (brings : event.picture = some image) :
    event.becomes = none := by
  cases event <;> first | rfl | cases brings

/-- A step keeps the own picture exactly if it is in the session. -/
theorem ownPicture_step_iff (own : OwnPicture page) (taken : step page event = some next) :
    OwnPicture next ↔ InSession page event := by
  rcases picture_of_step taken with ⟨rfl, noPicture⟩ | ⟨stays, image', session⟩
  · refine iff_of_true (fun image shown => ?_) ⟨fun image brings => ?_, fun other => ?_⟩
    · cases noPicture.symm.trans shown
    · cases brings
    · exact absurd rfl other
  · rw [OwnPicture, image', session]
    cases brings : event.picture with
    | some image =>
        rw [becomes_of_picture brings]
        constructor
        · intro isOwn
          refine ⟨fun other isOther => ?_, fun _ _ accountId becomes => ?_⟩
          · cases brings.symm.trans isOther
            exact isOwn image rfl
          · cases (becomes_of_picture brings).symm.trans becomes
        · intro inSession other isOther
          cases isOther
          exact inSession.brings image brings
    | none =>
        rw [Option.none_or]
        constructor
        · intro isOwn
          refine ⟨fun image isImage => ?_, fun _ shown accountId becomes => ?_⟩
          · cases brings.symm.trans isImage
          · obtain ⟨image, isShown⟩ := Option.ne_none_iff_exists'.mp shown
            have after := isOwn image isShown
            rw [becomes] at after
            exact after.trans (own image isShown).symm
        · intro inSession image isShown
          have shown : page.accountImage ≠ none := by
            rw [isShown]
            exact Option.some_ne_none image
          cases becomes : event.becomes with
          | none => exact own image isShown
          | some accountId =>
              exact (inSession.becomes stays shown accountId becomes).trans (own image isShown)

/-- **The page shows no picture of somebody else.** In every run the picture is of the
account that is logged in, throughout, exactly when each picture that arrives is of the
account that is logged in by then, and while one is shown the session changes by a logout. -/
theorem ownPicture_iff_inSession (accountId : Option String)
    (events : List AccountFetchingEvent) :
    EventRun.EachState step OwnPicture (initial accountId) events ↔
      EventRun.EachStep step InSession (initial accountId) events := by
  refine EventRun.eachState_iff_eachStep (fun _ _ => True) ?_ trivial ?_ ?_
  · intro image shown
    cases shown
  · exact fun _ _ _ _ _ _ _ => trivial
  · exact fun before event state next _ _ own taken => ownPicture_step_iff own taken

end Runs

end AccountFetching

end MovieFun
