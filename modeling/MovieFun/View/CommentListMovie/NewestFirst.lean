import MovieFun.View.CommentListMovie.CommentListSystem

/-!
# The comment list is newest first

The list is built from a fetch as the store returns it, and from a snapshot after a sort;
the first snapshot builds nothing. So the rows are what was delivered last, newest first,
exactly when the fetch is in that order already and the dropped snapshot brings nothing
else (`newestFirst_iff_deliveredInOrder`).
-/

namespace MovieFun

open CommentListSystem CommentListController

/-- The group comments that a reply or a snapshot delivers. -/
def CommentListEvent.delivers : CommentListEvent → Option (List GroupComment)
  | fetchReply _ (some groupComments) none => some groupComments
  | groupChat _ (some groupComments) none => some groupComments
  | _ => none

/-- The comment of a row. -/
def CommentListBaseRowViewModel.groupComment? : CommentListBaseRowViewModel → Option GroupComment
  | header => none
  | comment groupComment => some groupComment

/-- The group comments of the rows of a section, from top to bottom. -/
def CommentListSectionViewModel.groupComments (sectionVM : CommentListSectionViewModel) :
    List GroupComment :=
  sectionVM.commentListRowViewModels.filterMap CommentListBaseRowViewModel.groupComment?

/-- What was delivered last. -/
def Delivered (before : List CommentListEvent) : Option (List GroupComment) :=
  EventRun.last CommentListEvent.delivers before

/-- The sections on display. -/
def CommentListSystem.sections (system : CommentListSystem) : List CommentListSectionViewModel :=
  system.controller.commentListViewModel.commentListSectionViewModels

/-- One section has the group comments, newest first. -/
def Lists (system : CommentListSystem) (groupComments : List GroupComment) : Prop :=
  ∃ sectionVM, system.sections = [sectionVM] ∧
    sectionVM.groupComments.Pairwise GroupComment.NoEarlier ∧
    sectionVM.groupComments.Perm groupComments

/-- The list has what was delivered last, newest first. -/
def NewestFirst (before : List CommentListEvent) (system : CommentListSystem) : Prop :=
  ∀ groupComments, Delivered before = some groupComments → Lists system groupComments

/-- A fetch is answered newest first, and a snapshot of the list that is the first of all
brings what was delivered last. -/
def DeliveredInOrder (before : List CommentListEvent) (_ : CommentListSystem) :
    CommentListEvent → Prop
  | .fetchReply _ (some groupComments) none => groupComments.Pairwise GroupComment.NoEarlier
  | .groupChat _ (some groupComments) none =>
      ¬ Heard before → ∀ delivered, Delivered before = some delivered →
        groupComments.Perm delivered
  | _ => True

variable {before : List CommentListEvent} {system next : CommentListSystem}
  {event : CommentListEvent} {groupComments : List GroupComment}

theorem delivered_concat :
    Delivered (before ++ [event]) = event.delivers.or (Delivered before) :=
  EventRun.last_concat _ before event

/-- A built section has the group comments it is built from, in their order. -/
theorem groupComments_built (header : List CommentListBaseRowViewModel)
    (isHeader : ∀ row ∈ header, row = .header) :
    CommentListSectionViewModel.groupComments
      { commentListRowViewModels := groupComments.map .comment ++ header } = groupComments := by
  have noComments : header.filterMap CommentListBaseRowViewModel.groupComment? = [] := by
    apply List.filterMap_eq_nil_iff.mpr
    intro row member
    rw [isHeader row member]
    rfl
  rw [CommentListSectionViewModel.groupComments, List.filterMap_append, noComments,
    List.append_nil, List.filterMap_map]
  exact List.filterMap_some

/-- Comments that were built are listed exactly if they were in order. -/
theorem lists_iff_of_built {controller : CommentListController}
    (built : system.sections = (buildViewModels groupComments
      controller).commentListViewModel.commentListSectionViewModels)
    {delivered : List GroupComment} :
    Lists system delivered ↔
      groupComments.Pairwise GroupComment.NoEarlier ∧ groupComments.Perm delivered := by
  have rows : ∀ sectionVM, system.sections = [sectionVM] →
      sectionVM.groupComments = groupComments := by
    intro sectionVM single
    rw [built, buildViewModels] at single
    cases single
    apply groupComments_built _
    intro row member
    split at member
    · exact List.mem_singleton.mp member
    · exact absurd member List.not_mem_nil
  constructor
  · rintro ⟨sectionVM, single, ordered, same⟩
    rw [rows sectionVM single] at ordered same
    exact ⟨ordered, same⟩
  · rintro ⟨ordered, same⟩
    refine ⟨_, built, ?_⟩
    rw [rows _ built]
    exact ⟨ordered, same⟩

/-- The list is listened to only after something was delivered. -/
theorem isSome_delivered {events : List CommentListEvent} (reached : run events = some system)
    {registration : GroupChatListener} (live : registration ∈ system.listener.live) :
    (Delivered events).isSome := by
  have always : ∀ registration ∈ system.listener.live, (Delivered events).isSome := by
    refine EventRun.invariant
      (fun before system => ∀ registration ∈ system.listener.live, (Delivered before).isSome)
      (fun _ member => absurd member List.not_mem_nil) ?_ reached
    intro before event system next _ delivered taken registration member
    have kept : registration ∈ system.listener.live → (Delivered (before ++ [event])).isSome := by
      intro older
      rw [delivered_concat, Option.isSome_or, delivered registration older, Bool.or_true]
    cases taken_of_step taken with
    | start => exact kept (SlotRegistry.mem_remove.mp member).1
    | fetched =>
        rw [delivered_concat]
        rfl
    | notFetched => exact kept member
    | movieChatFirst => exact kept member
    | movieChat => exact kept member
    | groupChatFirst => exact kept member
    | groupChatNothing => exact kept member
    | groupChat => exact kept member
  exact always registration live

/-- A reply without comments delivers nothing. -/
theorem delivers_fetchReply_eq_none (share : AccountService)
    {groupComments : Option (List GroupComment)} {error : Option NSError}
    (nothing : error.isSome ∨ groupComments = none) :
    (CommentListEvent.fetchReply share groupComments error).delivers = none := by
  refine of_nothing nothing (fun answer error => ?_) rfl
  cases answer <;> rfl

/-- A callback without comments delivers nothing. -/
theorem delivers_groupChat_eq_none (registration : GroupChatListener)
    {groupComments : Option (List GroupComment)} {error : Option NSError}
    (nothing : error.isSome ∨ groupComments = none) :
    (CommentListEvent.groupChat registration groupComments error).delivers = none := by
  refine of_nothing nothing (fun answer error => ?_) rfl
  cases answer <;> rfl

/-- What delivers nothing is in order. -/
theorem deliveredInOrder_of_silent (silent : event.delivers = none) :
    DeliveredInOrder before system event := by
  unfold DeliveredInOrder
  split
  · cases silent
  · cases silent
  · trivial

theorem lists_congr (same : next.sections = system.sections) :
    Lists next groupComments ↔ Lists system groupComments := by
  rw [Lists, same, Lists]

/-- A step that delivers nothing and builds nothing keeps the list as it is. -/
theorem newestFirst_of_silent (newestFirst : NewestFirst before system)
    (silent : event.delivers = none) (same : next.sections = system.sections) :
    NewestFirst (before ++ [event]) next := by
  intro groupComments last
  rw [delivered_concat, silent, Option.none_or] at last
  exact (lists_congr same).mpr (newestFirst groupComments last)

/-- After a delivery, the order is that of what was delivered. -/
theorem newestFirst_concat_iff (delivers : event.delivers = some groupComments) :
    NewestFirst (before ++ [event]) next ↔ Lists next groupComments := by
  rw [NewestFirst, delivered_concat, delivers, Option.some_or]
  constructor
  · exact fun each => each groupComments rfl
  · rintro lists _ ⟨⟩
    exact lists

/-- A step keeps the list newest first exactly if what it delivers is in order. -/
theorem newestFirst_step_iff (reached : run before = some system)
    (newestFirst : NewestFirst before system) (taken : step system event = some next) :
    NewestFirst (before ++ [event]) next ↔ DeliveredInOrder before system event := by
  cases taken_of_step taken with
  | start => exact iff_of_true (newestFirst_of_silent newestFirst rfl rfl) trivial
  | @notFetched share groupComments error _ nothing =>
      have silent := delivers_fetchReply_eq_none share nothing
      exact iff_of_true (newestFirst_of_silent newestFirst silent rfl)
        (deliveredInOrder_of_silent silent)
  | @fetched share groupComments movies =>
      have built : (initListenerForGroupChat share (initListenerForMovieChat movies
          { system with
            controller := fetchCompletion (some groupComments) none system.controller
            fetches := system.fetches - 1
            builds := system.builds + 1 })).sections =
          (buildViewModels groupComments
            system.controller).commentListViewModel.commentListSectionViewModels := by
        rw [CommentListSystem.sections, controller_initListenerForGroupChat]
        rfl
      rw [newestFirst_concat_iff rfl, lists_iff_of_built built]
      exact and_iff_left (List.Perm.refl groupComments)
  | movieChatFirst => exact iff_of_true (newestFirst_of_silent newestFirst rfl rfl) trivial
  | movieChat => exact iff_of_true (newestFirst_of_silent newestFirst rfl rfl) trivial
  | @groupChatFirst registration groupComments error live first =>
      have unheard : ¬ Heard before := by
        rw [← didStart_iff_heard reached, first]
        exact Bool.false_ne_true
      rcases brings_or_nothing groupComments error with ⟨groupComments, rfl, rfl⟩ | nothing
      · obtain ⟨delivered, last⟩ := Option.isSome_iff_exists.mp (isSome_delivered reached live)
        obtain ⟨sectionVM, single, ordered, same⟩ := newestFirst delivered last
        rw [newestFirst_concat_iff rfl]
        constructor
        · rintro ⟨other, otherSingle, -, otherSame⟩ _ _ isLast
          rw [last, Option.some.injEq] at isLast
          subst isLast
          cases single.symm.trans otherSingle
          exact otherSame.symm.trans same
        · intro permuted
          exact ⟨sectionVM, single, ordered, same.trans (permuted unheard delivered last).symm⟩
      · have silent := delivers_groupChat_eq_none registration nothing
        exact iff_of_true (newestFirst_of_silent newestFirst silent rfl)
          (deliveredInOrder_of_silent silent)
  | @groupChatNothing registration groupComments error _ _ nothing =>
      have silent := delivers_groupChat_eq_none registration nothing
      exact iff_of_true (newestFirst_of_silent newestFirst silent rfl)
        (deliveredInOrder_of_silent silent)
  | @groupChat registration groupComments sorted live started isSorted =>
      have heard : Heard before := (didStart_iff_heard reached).mp started
      refine iff_of_true ?_ fun unheard => absurd heard unheard
      rw [newestFirst_concat_iff rfl]
      exact (@lists_iff_of_built _ sorted system.controller rfl groupComments).mpr
        (sortedNewestFirst_eq_some isSorted)

/-- **The list is newest first exactly when the fetch is in order and the dropped snapshot
brings nothing else.** In every run, at each of its points. -/
theorem newestFirst_iff_deliveredInOrder (events : List CommentListEvent) :
    EventRun.EachPoint step NewestFirst {} events ↔
      EventRun.EachTransition step DeliveredInOrder {} events := by
  refine EventRun.eachPoint_iff_eachTransition (fun before system => run before = some system)
    ?_ rfl ?_ ?_
  · exact fun _ none => by cases none
  · intro before event system next _ reached taken
    rw [run, EventRun.runFrom_concat]
    exact Option.bind_eq_some_iff.mpr ⟨system, reached, taken⟩
  · exact fun _ _ _ _ _ reached newestFirst taken =>
      newestFirst_step_iff reached newestFirst taken

/-- The store returns the older of two conversations first. -/
def olderFirst : List CommentListEvent :=
  let share : AccountService :=
    { account := some ⟨"an", "An", "an@example.com", "", ⟨0⟩⟩, userLogin := some "an" }
  [.start share,
    .fetchReply share (some [
      { movie := some { id := some 1 }, sendDate := some ⟨1566396309000000000⟩ },
      { movie := some { id := some 2 }, sendDate := some ⟨1566396400000000000⟩ }]) none]

/-- The list shows the older one on top. -/
theorem not_newestFirst_olderFirst : ¬ EventRun.EachPoint step NewestFirst {} olderFirst := by
  intro newestFirst
  obtain ⟨sectionVM, single, ordered, -⟩ := newestFirst olderFirst List.prefix_rfl _ rfl _ rfl
  cases single
  exact absurd ordered (by decide)

end MovieFun
