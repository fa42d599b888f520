import MovieFun.View.MovieList.ListSystem

/-!
# A prefix of the pages

A load-more reads the page number when it asks and moves the counter when it is
answered. What a list shows is therefore a prefix of the pages, without a gap and
without a repetition, exactly when each load-more is answered while the counter is
where it was when it asked (`gapFree_iff_inTurn`).
-/

namespace MovieFun

/-- A reply of a server with these pages succeeds. -/
def ListEvent.Serves (pages : Nat → List Movie) : ListEvent → Prop
  | .reply request totalPages movies error =>
      error = none ∧ totalPages.isSome ∧ movies = some (pages request.page)
  | _ => True

namespace ListSystem

open ListController ListRowViewModel

/-- The first reply of a screen, to the request of its start. -/
def firstReply (pages : Nat → List Movie) (total : Int) : ListEvent :=
  .reply { operation := .start, page := 1 } (some total) (some (pages 1)) none

/-- The list is one section with the pages before the current one, in order. -/
def GapFree (pages : Nat → List Movie) (system : ListSystem) : Prop :=
  ∃ sectionVM, system.screen.listViewModel.listSectionViewModels = [sectionVM] ∧
    sectionVM.listRowViewModels.map movie =
      (List.range' 1 (system.screen.listViewModel.currentPage - 1)).flatMap pages

/-- What a load-more is answered with is the current page. -/
def InTurn (pages : Nat → List Movie) (system : ListSystem) : ListEvent → Prop
  | .reply request .. =>
      request.operation = .loadMore →
        pages request.page = pages system.screen.listViewModel.currentPage
  | _ => True

/-- Only load-mores ask for other pages than the first, and the counter counts. -/
structure Counts (system : ListSystem) : Prop where
  first : ∀ request ∈ system.requests, request.operation ≠ .loadMore → request.page = 1
  positive : 1 ≤ system.screen.listViewModel.currentPage

variable {pages : Nat → List Movie} {system next : ListSystem} {event : ListEvent}

theorem gapFree_congr (same : pagesShown next.screen = pagesShown system.screen) :
    GapFree pages next ↔ GapFree pages system := by
  simp only [pagesShown, Prod.mk.injEq] at same
  rw [GapFree, GapFree, same.1, same.2.2.1]

/-- The pages before the next one are those before the current one, and it. -/
theorem pagesBefore_succ (pages : Nat → List Movie) {current : Nat} (positive : 1 ≤ current) :
    (List.range' 1 (current + 1 - 1)).flatMap pages =
      (List.range' 1 (current - 1)).flatMap pages ++ pages current := by
  obtain ⟨earlier, rfl⟩ := Nat.exists_eq_add_of_le positive
  rw [Nat.add_sub_cancel, Nat.add_sub_cancel_left, Nat.add_comm 1 earlier,
    List.range'_1_concat, List.flatMap_append, List.flatMap_singleton, Nat.add_comm 1 earlier]

/-- Each step keeps the counter counting. -/
theorem Counts.of_step (counts : Counts system) (taken : step system event = some next) :
    Counts next := by
  constructor
  · cases event with
    | reply request totalPages movies error =>
        obtain ⟨-, screen, check, -, rfl⟩ := step_reply_eq_some taken
        exact fun other member => counts.first other (List.mem_of_mem_erase member)
    | start =>
        cases (step_eq_some taken).2
        intro request member other
        rcases List.mem_append.mp member with older | isNew
        · exact counts.first request older other
        · rw [List.mem_singleton.mp isNew]
    | deadline operation =>
        cases (step_eq_some taken).2
        intro request member other
        rcases List.mem_append.mp member with older | isNew
        · exact counts.first request older other
        · rw [List.mem_singleton.mp isNew] at other ⊢
          cases operation with
          | loadMore => exact absurd rfl other
          | start => rfl
          | pullToRefresh => rfl
    | _ =>
        cases (step_eq_some taken).2
        exact counts.first
  · rcases pagesShown_of_step taken with ⟨-, same⟩ | ⟨request, total, movies, -, -, isShown⟩
    · simp only [pagesShown, Prod.mk.injEq] at same
      exact same.2.2.1 ▸ counts.positive
    · cases operation : request.operation with
      | loadMore =>
          rw [operation] at isShown
          rw [(showMore_eq_some isShown).2.2.1]
          exact Nat.le_add_left 1 _
      | _ =>
          rw [operation] at isShown
          rw [(showFirst_eq_some isShown).2]
          exact Nat.le_succ 1

/-- A page keeps the list a prefix exactly when it is in turn. -/
theorem gapFree_of_shows (counts : Counts system) (gapFree : GapFree pages system)
    {request : ListRequest} (asked : request ∈ system.requests) {total : Int}
    (isShown : shows request.operation total (pages request.page) system.screen =
      some next.screen) :
    GapFree pages next ↔ (request.operation = .loadMore →
      pages request.page = pages system.screen.listViewModel.currentPage) := by
  by_cases more : request.operation = .loadMore
  · rw [more] at isShown
    obtain ⟨⟨sectionVM, others, sections, isNext⟩, -, current, -⟩ := showMore_eq_some isShown
    obtain ⟨_, alone, rows⟩ := gapFree
    rw [sections] at alone
    cases alone
    simp only [GapFree, isNext, List.cons.injEq, and_true, exists_eq_left', List.map_append,
      movie_newRows, current, pagesBefore_succ pages counts.positive, rows,
      List.append_right_inj, more, true_imp_iff]
  · have first := counts.first request asked more
    have isFirst : showFirst total (pages request.page) system.screen = some next.screen := by
      cases operation : request.operation with
      | loadMore => exact absurd operation more
      | start => rw [← isShown, operation]; rfl
      | pullToRefresh => rw [← isShown, operation]; rfl
    obtain ⟨isNext, current⟩ := showFirst_eq_some isFirst
    refine iff_of_true ⟨_, isNext, ?_⟩ fun isMore => absurd isMore more
    rw [current, first, movie_newRows]
    exact (List.flatMap_singleton ..).symm

/-- Each step keeps the list a prefix exactly when what it brings is in turn. -/
theorem gapFree_of_step (counts : Counts system) (gapFree : GapFree pages system)
    (serves : event.Serves pages) (taken : step system event = some next) :
    GapFree pages next ↔ InTurn pages system event := by
  rcases pagesShown_of_step taken with ⟨silent, same⟩ |
    ⟨request, total, movies, brings, asked, isShown⟩
  · apply iff_of_true ((gapFree_congr same).mpr gapFree)
    cases event with
    | reply request totalPages movies error =>
        obtain ⟨rfl, isTotal, rfl⟩ := serves
        obtain ⟨total, rfl⟩ := Option.isSome_iff_exists.mp isTotal
        cases silent
    | _ => trivial
  · obtain rfl := ListEvent.brings_eq_some.mp brings
    obtain ⟨-, -, isMovies⟩ := serves
    cases isMovies
    exact gapFree_of_shows counts gapFree asked isShown

/-- The screen after its start and the first reply shows the first page. -/
theorem gapFree_began {subclass : ListSubclass} {total : Int}
    (began : EventRun.runFrom scrollStep (initial subclass) [.start, firstReply pages total] =
      some system) : GapFree pages system ∧ Counts system := by
  cases began
  refine ⟨⟨_, rfl, ?_⟩, fun request member => ?_, Nat.le_succ 1⟩
  · rw [movie_newRows]
    exact (List.flatMap_singleton ..).symm
  · exact absurd member List.not_mem_nil

/-- **When a list is a prefix of the pages.** For every subclass and every server, a
list that goes on from its start and the first reply is one section with the pages
before the current one, in every state of every run, exactly when each load-more is
answered with the page that is then the current one. -/
theorem gapFree_iff_inTurn {subclass : ListSubclass} {total : Int} {events : List ListEvent}
    (began : EventRun.runFrom scrollStep (initial subclass) [.start, firstReply pages total] =
      some system)
    (served : ∀ event ∈ events, event.Serves pages) :
    EventRun.EachState scrollStep (GapFree pages) system events ↔
      EventRun.EachStep scrollStep (InTurn pages) system events := by
  obtain ⟨gapFree, counts⟩ := gapFree_began began
  refine EventRun.eachState_iff_eachStep (fun _ => Counts) gapFree counts ?_ ?_
  · exact fun before event state next _ counts taken =>
      counts.of_step (scrollStep_eq_some taken).2
  · intro before event state next inside counts gapFree taken
    have member : event ∈ events := inside.subset (List.mem_append_right _ List.mem_cons_self)
    exact gapFree_of_step counts gapFree (served event member) (scrollStep_eq_some taken).2

/-- Page after page of one movie each. -/
def numbered (page : Nat) : List Movie := [{ id := some page }]

/-- The load-more of the second page, up to its check of favourites. -/
def secondPage : List ListEvent :=
  let check : ListCheck :=
    { operation := some .loadMore
      rowVMs := [{ number := 0, movie := { id := some 1 } },
        { number := 1, movie := { id := some 2 } }] }
  [.loadMore, .deadline .loadMore,
    .reply { operation := .loadMore, page := 2 } (some 5) (some (numbered 2)) none,
    .checkReply check none none]

/-- A refresh is answered while the third page is asked for. -/
def refreshedBetween : List ListEvent :=
  secondPage ++
    [.loadMore, .deadline .loadMore, .pullToRefresh, .deadline .pullToRefresh,
      .reply { operation := .pullToRefresh, page := 1 } (some 5) (some (numbered 1)) none,
      .reply { operation := .loadMore, page := 3 } (some 5) (some (numbered 3)) none]

/-- The server serves the pages of the run. -/
theorem serves_secondPage : ∀ event ∈ secondPage, event.Serves numbered := by
  simp [secondPage, ListEvent.Serves]

/-- The list then shows the first page and the third. -/
theorem not_gapFree_refreshedBetween : ∃ system,
    EventRun.runFrom scrollStep (initial .newMovieList) [.start, firstReply numbered 5] =
        some system ∧
      (∀ event ∈ refreshedBetween, event.Serves numbered) ∧
      ¬ EventRun.EachState scrollStep (GapFree numbered) system refreshedBetween := by
  refine ⟨_, rfl, ?_, fun always => ?_⟩
  · simp [refreshedBetween, secondPage, ListEvent.Serves]
  · obtain ⟨sectionVM, sections, rows⟩ := always refreshedBetween List.prefix_rfl _ rfl
    cases sections
    exact absurd rows (by decide)

/-- The second page in its turn. -/
theorem gapFree_iff_inTurn_secondPage : ∃ system,
    EventRun.runFrom scrollStep (initial .newMovieList) [.start, firstReply numbered 5] =
        some system ∧
      (EventRun.EachState scrollStep (GapFree numbered) system secondPage ↔
        EventRun.EachStep scrollStep (InTurn numbered) system secondPage) :=
  ⟨_, rfl, gapFree_iff_inTurn rfl serves_secondPage⟩

end ListSystem

end MovieFun
