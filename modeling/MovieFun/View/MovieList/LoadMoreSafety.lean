import MovieFun.View.MovieList.ListSystem

/-!
# The section that a load-more appends to

A load-more appends to the first section, which only a first page makes. The guard
of the scroll view does not look for a section, so no load-more traps exactly when
none is answered with a page before a start or a refresh was
(`survives_iff_afterFirst`).
-/

namespace MovieFun

/-- The event brings a page for a load-more. -/
def ListEvent.BringsMore (event : ListEvent) : Prop :=
  ∃ page ∈ event.brings, page.1.operation = .loadMore

/-- The event brings a first page. -/
def ListEvent.BringsFirst (event : ListEvent) : Prop :=
  ∃ page ∈ event.brings, page.1.operation ≠ .loadMore

namespace ListSystem

open ListController

/-- The event does not trap. -/
def Survives (_ : List ListEvent) (system : ListSystem) (event : ListEvent) : Prop :=
  system.permits event → system.enabled event → (handle system event).isSome

/-- A page for a load-more comes after a first page. -/
def AfterFirst (before : List ListEvent) (system : ListSystem) (event : ListEvent) : Prop :=
  system.permits event → system.enabled event → event.BringsMore →
    ∃ earlier ∈ before, earlier.BringsFirst

/-- There is a section exactly from the first page on. -/
def Sectioned (before : List ListEvent) (system : ListSystem) : Prop :=
  system.screen.listViewModel.listSectionViewModels ≠ [] ↔
    ∃ earlier ∈ before, earlier.BringsFirst

variable {system next : ListSystem} {event : ListEvent}

/-- A page for a load-more is shown exactly when there is a section. -/
theorem isSome_showMore {total : Int} {movies : List Movie} {screen : ListScreen} :
    (showMore total movies screen).isSome ↔ screen.listViewModel.listSectionViewModels ≠ [] := by
  rw [showMore, Option.isSome_map, buildViewModelAfterLoadMore]
  cases screen.listViewModel.listSectionViewModels with
  | nil => exact iff_of_false Bool.false_ne_true fun some => some rfl
  | cons sectionVM others => exact iff_of_true rfl (List.cons_ne_nil _ _)

/-- An event traps when it brings a page that cannot be shown. -/
theorem isSome_handle : (handle system event).isSome ↔
    ∀ page ∈ event.brings, (shows page.1.operation page.2.1 page.2.2 system.screen).isSome := by
  cases event with
  | reply request totalPages movies error =>
      have completed : (handle system (.reply request totalPages movies error)).isSome ↔
          (completion request.operation totalPages movies error system.screen).isSome := by
        simp only [handle]
        cases completion request.operation totalPages movies error system.screen <;> exact Iff.rfl
      rw [completed, completion_eq, fetchCompletion_isSome]
      simp only [ListEvent.brings, Option.mem_def, Option.map_eq_some_iff, forall_exists_index,
        and_imp, forall_apply_eq_imp_iff₂]
  | _ => exact iff_of_true rfl fun page member => absurd member (Option.not_mem_none page)

/-- Nothing traps but a page for a load-more without a section. -/
theorem isSome_handle_iff : (handle system event).isSome ↔
    (event.BringsMore → system.screen.listViewModel.listSectionViewModels ≠ []) := by
  rw [isSome_handle]
  constructor
  · intro shown more
    obtain ⟨page, member, isMore⟩ := more
    have isShown := shown page member
    rw [isMore] at isShown
    exact isSome_showMore.mp isShown
  · intro needs page member
    cases operation : page.1.operation with
    | loadMore => exact isSome_showMore.mpr (needs ⟨page, member, operation⟩)
    | _ => rfl

/-- Every page makes a section or needs one. -/
theorem sections_of_shows {operation : ListOperation} {total : Int} {movies : List Movie}
    {screen shown : ListScreen} (isShown : shows operation total movies screen = some shown) :
    shown.listViewModel.listSectionViewModels ≠ [] ∧
      (operation = .loadMore → screen.listViewModel.listSectionViewModels ≠ []) := by
  cases operation with
  | loadMore =>
      refine ⟨?_, fun _ => isSome_showMore.mp (Option.isSome_of_eq_some isShown)⟩
      obtain ⟨⟨sectionVM, others, -, sections⟩, -⟩ := showMore_eq_some isShown
      rw [sections]
      exact List.cons_ne_nil _ _
  | start =>
      cases isShown
      exact ⟨List.cons_ne_nil _ _, fun more => by cases more⟩
  | pullToRefresh =>
      cases isShown
      exact ⟨List.cons_ne_nil _ _, fun more => by cases more⟩

/-- A first page makes a section, and nothing takes the last one away. -/
theorem sections_of_step (taken : step system event = some next) :
    next.screen.listViewModel.listSectionViewModels ≠ [] ↔
      (system.screen.listViewModel.listSectionViewModels ≠ [] ∨ event.BringsFirst) := by
  rcases pagesShown_of_step taken with ⟨silent, same⟩ |
    ⟨request, total, movies, brings, -, isShown⟩
  · simp only [pagesShown, Prod.mk.injEq] at same
    rw [same.1]
    refine ⟨.inl, fun either => either.elim id fun first => ?_⟩
    obtain ⟨page, member, -⟩ := first
    cases silent.symm.trans member
  · obtain ⟨isThere, needs⟩ := sections_of_shows isShown
    apply iff_of_true isThere
    by_cases more : request.operation = .loadMore
    · exact .inl (needs more)
    · exact .inr ⟨_, brings, more⟩

/-- In every run there is a section exactly from the first page on. -/
theorem sectioned_of_run {subclass : ListSubclass} {before : List ListEvent}
    (reached : EventRun.runFrom scrollStep (initial subclass) before = some system) :
    Sectioned before system := by
  refine EventRun.invariant Sectioned ?_ ?_ reached
  · refine iff_of_false (fun some => some ?_) fun ⟨_, member, _⟩ => List.not_mem_nil member
    cases subclass <;> rfl
  · intro before event state next _ sectioned taken
    rw [Sectioned] at sectioned
    rw [Sectioned, sections_of_step (scrollStep_eq_some taken).2, sectioned]
    simp only [List.mem_append, List.mem_singleton, or_and_right, exists_or, exists_eq_left]

/-- **When no load-more traps.** In every run of every subclass, no event traps
exactly when every load-more that is answered with a page is so after a start or a
refresh was. -/
theorem survives_iff_afterFirst (subclass : ListSubclass) (events : List ListEvent) :
    EventRun.EachAttempt scrollStep Survives (initial subclass) events ↔
      EventRun.EachAttempt scrollStep AfterFirst (initial subclass) events := by
  apply EventRun.eachAttempt_congr
  intro before state event reached
  have sectioned := sectioned_of_run reached
  rw [Sectioned] at sectioned
  rw [Survives, AfterFirst, isSome_handle_iff, sectioned]

/-- The list is scrolled while its first page is asked for. -/
def scrolledEarly : List ListEvent :=
  [.start, .loadMore, .deadline .loadMore,
    .reply { operation := .loadMore, page := 1 } (some 5) (some []) none]

/-- The page for the load-more, which comes first, traps. -/
theorem not_survives_scrolledEarly :
    ¬ EventRun.EachAttempt scrollStep Survives (initial .newMovieList) scrolledEarly := by
  intro always
  have survives := always (scrolledEarly.take 3) _ List.prefix_rfl _ rfl rfl rfl
  cases survives

end ListSystem

end MovieFun
