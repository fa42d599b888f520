import MovieFun.View.SearchMovie.SearchPager

/-!
# Scrolling to the last page

The current page of both screens is the next page to ask for, but its listener takes
it for the last one shown and stops when it equals the total. Scrolling reaches every
page exactly when there is only one (`reachesEveryPage_iff`).
-/

namespace MovieFun

/-- A start, and its first page. -/
def ListSystem.startAnswered (totalPages : Nat) (movies : List Movie) : List ListEvent :=
  [.start, .reply { operation := .start, page := 1 } (some totalPages) (some movies) none]

/-- A search, and its first page. -/
def SearchSystem.searchAnswered (searchText : String) (totalPages : Nat) (movies : List Movie) :
    List SearchEvent :=
  [.search searchText,
    .reply { searchText := some searchText, more := false, page := 1 } (some totalPages)
      (some movies) none]

/-- A run that starts a list with success and then scrolls for as long as the list
permits, on a server that reports one total. -/
structure ListScroll (totalPages : Nat) where
  subclass : ListSubclass
  movies : List Movie
  events : List ListEvent
  final : ListSystem
  positive : 1 ≤ totalPages
  reached : EventRun.runFrom ListSystem.scrollStep (ListSystem.initial subclass)
    (ListSystem.startAnswered totalPages movies ++ events) = some final
  scrolling : ∀ event ∈ events, event.Scrolls totalPages
  idle : final.Idle
  exhausted : final.scrolls = false

/-- A run that searches with success, from a screen with nothing outstanding, and then
scrolls for as long as the screen permits, on a server that reports one total. -/
structure SearchScroll (totalPages : Nat) where
  begun : SearchSystem
  searchText : String
  movies : List Movie
  events : List SearchEvent
  final : SearchSystem
  positive : 1 ≤ totalPages
  nonempty : searchText ≠ ""
  quiet : begun.Idle
  free : begun.screen.searchMovieViewModel.isLoadMore = false
  reached : EventRun.runFrom SearchSystem.scrollStep begun
    (SearchSystem.searchAnswered searchText totalPages movies ++ events) = some final
  scrolling : ∀ event ∈ events, event.Scrolls totalPages
  idle : final.Idle
  exhausted : final.scrolls = false

variable {totalPages : Nat}

/-- The pages asked for are all pages, each once and in order, and no more are
needed. -/
def ListScroll.ReachesEveryPage (scroll : ListScroll totalPages) : Prop :=
  scroll.final.sent.map ListRequest.page = List.range' 1 totalPages ∧
    scroll.final.screen.needLoadMore = false

/-- The same of the pages asked for since the search. -/
def SearchScroll.ReachesEveryPage (scroll : SearchScroll totalPages) : Prop :=
  (scroll.final.sent.drop scroll.begun.sent.length).map SearchRequest.page =
      List.range' 1 totalPages ∧
    scroll.final.screen.needLoadMore = false

/-- The pages up to the last but one are all pages only if there is one. -/
theorem range'_eq_iff (positive : 1 ≤ totalPages) :
    List.range' 1 (max 1 (totalPages - 1)) = List.range' 1 totalPages ↔ totalPages = 1 := by
  constructor
  · intro same
    have lengths := congrArg List.length same
    rw [List.length_range', List.length_range'] at lengths
    omega
  · rintro rfl
    rfl

/-- A list that was started with success is a pager that has the first page. -/
theorem ListSystem.pager_began {subclass : ListSubclass} {movies : List Movie}
    {first : ListSystem}
    (began : EventRun.runFrom scrollStep (initial subclass) (startAnswered totalPages movies) =
      some first) :
    OnlyMore totalPages first ∧ first.pager.Sound := by
  cases began
  refine ⟨⟨fun _ member => absurd member List.not_mem_nil,
    fun _ member => absurd member List.not_mem_nil, rfl⟩, ?_⟩
  have sound := Pager.sound_first totalPages
  rw [← needsMore_eq] at sound
  cases subclass <;> exact sound

/-- A search that was answered with success is one, but for the requests before. -/
theorem SearchSystem.pager_began {begun first : SearchSystem} {searchText : String}
    {movies : List Movie} (quiet : begun.Idle)
    (free : begun.screen.searchMovieViewModel.isLoadMore = false)
    (began : EventRun.runFrom scrollStep begun (searchAnswered searchText totalPages movies) =
      some first) :
    OnlyMore totalPages begun.sent.length first ∧ (first.pager begun.sent.length).Sound := by
  obtain ⟨screen, delayed, requests, checks, sent⟩ := begun
  obtain ⟨noDelay, noRequest, noCheck⟩ := quiet
  cases noDelay
  cases noRequest
  cases noCheck
  obtain ⟨asked, isAsked, reached⟩ := EventRun.runFrom_cons_eq_some _ began
  cases isAsked
  obtain ⟨last, answered, ended⟩ := EventRun.runFrom_cons_eq_some _ reached
  cases ended
  obtain ⟨-, shown, check, completed, rfl⟩ := step_reply_eq_some (scrollStep_eq_some answered).2
  cases completed
  let request : SearchRequest := { searchText := some searchText, more := false, page := 1 }
  have answered : ([] ++ [request]).erase request = [] := by
    rw [List.nil_append, List.erase_cons_head]
  refine ⟨⟨rfl, fun other member => ?_, rfl, ?_⟩, ?_⟩
  · exact absurd (answered ▸ member) List.not_mem_nil
  · exact List.length_append ▸ Nat.le_add_right _ _
  · change Pager.Sound
      { current := 2
        total := totalPages
        needMore := needsMore totalPages 2
        loading := screen.searchMovieViewModel.isLoadMore
        requested := (([] ++ [request]).erase request).length
        asked := ((sent ++ [request]).drop sent.length).map SearchRequest.page }
    rw [answered, List.drop_left, needsMore_eq, free]
    exact Pager.sound_first totalPages

/-- A list that was scrolled asked for all pages but the last. -/
theorem ListScroll.sent_eq (scroll : ListScroll totalPages) :
    scroll.final.screen.needLoadMore = false ∧
      scroll.final.sent.map ListRequest.page = List.range' 1 (max 1 (totalPages - 1)) := by
  obtain ⟨first, began, reached⟩ := EventRun.runFrom_append_eq_some _ scroll.reached
  obtain ⟨only, sound⟩ := ListSystem.pager_began began
  obtain ⟨onlyFinal, soundFinal⟩ := ListSystem.sound_of_run only sound scroll.scrolling reached
  obtain ⟨noDelay, noRequest, noCheck⟩ := scroll.idle
  refine soundFinal.asked_of_settled ?_ scroll.exhausted onlyFinal.total
  simp only [ListSystem.pager, noDelay, noRequest, noCheck, List.length_nil, List.countP_nil]

/-- A search that was scrolled asked for all pages but the last. -/
theorem SearchScroll.sent_eq (scroll : SearchScroll totalPages) :
    scroll.final.screen.needLoadMore = false ∧
      (scroll.final.sent.drop scroll.begun.sent.length).map SearchRequest.page =
        List.range' 1 (max 1 (totalPages - 1)) := by
  obtain ⟨first, began, reached⟩ := EventRun.runFrom_append_eq_some _ scroll.reached
  obtain ⟨only, sound⟩ := SearchSystem.pager_began scroll.quiet scroll.free began
  obtain ⟨onlyFinal, soundFinal⟩ := SearchSystem.sound_of_run only sound scroll.scrolling reached
  obtain ⟨noDelay, noRequest, noCheck⟩ := scroll.idle
  refine soundFinal.asked_of_settled ?_ scroll.exhausted onlyFinal.total
  simp only [SearchSystem.pager, noDelay, noRequest, noCheck, List.length_nil, List.countP_nil]

/-- **When scrolling reaches every page.** For every total that the server reports and
every run, scrolling a movie list, or a search, to where it stops asks for all pages
exactly when there is one page. -/
theorem reachesEveryPage_iff (totalPages : Nat) :
    (∀ scroll : ListScroll totalPages, scroll.ReachesEveryPage ↔ totalPages = 1) ∧
      ∀ scroll : SearchScroll totalPages, scroll.ReachesEveryPage ↔ totalPages = 1 := by
  constructor
  · intro scroll
    obtain ⟨stopped, sent⟩ := scroll.sent_eq
    rw [ListScroll.ReachesEveryPage, sent, range'_eq_iff scroll.positive]
    exact and_iff_left stopped
  · intro scroll
    obtain ⟨stopped, sent⟩ := scroll.sent_eq
    rw [SearchScroll.ReachesEveryPage, sent, range'_eq_iff scroll.positive]
    exact and_iff_left stopped

/-- Of two pages a list never asks for the second. -/
theorem not_reachesEveryPage_two : ∃ scroll : ListScroll 2, ¬ scroll.ReachesEveryPage := by
  let check : ListCheck := { operation := some .start, rowVMs := [] }
  refine ⟨⟨.newMovieList, [], [.checkReply check none none], _, by decide, rfl, ?_,
    ⟨rfl, rfl, rfl⟩, rfl⟩, ?_⟩
  · intro event member
    cases List.mem_singleton.mp member
    trivial
  · intro reaches
    exact absurd reaches.1 (by decide)

end MovieFun
