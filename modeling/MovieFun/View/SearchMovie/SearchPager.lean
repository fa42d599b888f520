import MovieFun.View.MovieList.ListPager
import MovieFun.View.SearchMovie.SearchSystem

/-!
# A search that is scrolled

A search that is only scrolled after its first page, on a server that reports one
total, moves like a pager (`pager_of_step`).
-/

namespace MovieFun

/-- What happens while a search is scrolled and every reply succeeds with a total. -/
def SearchEvent.Scrolls (totalPages : Nat) : SearchEvent → Prop
  | .start => False
  | .search _ => False
  | .reply _ total movies error => total = some (totalPages : Int) ∧ movies.isSome ∧ error = none
  | .unanswered _ => False
  | _ => True

namespace SearchSystem

open SearchMovieController

/-- A check whose completion ends a load-more. -/
def endsLoadMore (check : SearchCheck) : Bool := check.searchFlag = some .isLoadMore

/-- The pager that a search is, without the first `skipped` requests. -/
def pager (skipped : Nat) (system : SearchSystem) : Pager where
  current := system.screen.searchMovieViewModel.currentPage
  total := system.screen.searchMovieViewModel.totalPage
  needMore := system.screen.needLoadMore
  loading := system.screen.searchMovieViewModel.isLoadMore
  waiting := system.delayed
  requested := system.requests.length
  settling := system.checks.countP endsLoadMore
  asked := (system.sent.drop skipped).map SearchRequest.page

/-- Only load-mores of a search ask, on a server of that total. -/
structure OnlyMore (totalPages skipped : Nat) (system : SearchSystem) : Prop where
  searches : system.screen.searchMovieViewModel.searchText.isSome
  requests : ∀ request ∈ system.requests, request.more = true ∧ request.searchText.isSome
  total : system.screen.searchMovieViewModel.totalPage = totalPages
  skipped : skipped ≤ system.sent.length

variable {totalPages skipped : Nat} {system next : SearchSystem} {event : SearchEvent}

/-- The reply to a load-more shows its page and starts a check. -/
theorem reply_of_scrolls {request : SearchRequest} {total : Option Int}
    {movies : Option (List Movie)} {error : Option NSError}
    (only : OnlyMore totalPages skipped system)
    (scrolls : (SearchEvent.reply request total movies error).Scrolls totalPages)
    (taken : step system (.reply request total movies error) = some next) :
    OnlyMore totalPages skipped next ∧
      Pager.step (system.pager skipped) .answer = some (next.pager skipped) := by
  obtain ⟨rfl, isMovies, rfl⟩ := scrolls
  obtain ⟨movies, rfl⟩ := Option.isSome_iff_exists.mp isMovies
  obtain ⟨asked, screen, check, completed, rfl⟩ := step_reply_eq_some taken
  obtain ⟨more, isText⟩ := only.requests request asked
  obtain ⟨searchText, hasText⟩ := Option.isSome_iff_exists.mp isText
  have isSearch : completion request = loadMoreForMovieWhenSearchCompletion := by
    simp only [completion, more, hasText]
  rw [isSearch] at completed
  obtain ⟨_, isShown, made⟩ := Option.map_eq_some_iff.mp completed
  cases made
  obtain ⟨-, total, current, -, text, need, loading⟩ := showMore_eq_some isShown
  refine ⟨⟨text ▸ only.searches, ?_, total, only.skipped⟩, ?_⟩
  · exact fun other member => only.requests other (List.mem_of_mem_erase member)
  · have answered : (0 : Nat) < system.requests.length := List.length_pos_of_mem asked
    have fewer : (system.requests.erase request).length = system.requests.length - 1 :=
      List.length_erase_of_mem asked
    have one : [checkOf .isLoadMore screen].countP endsLoadMore = 1 := rfl
    simp only [Pager.step, pager, answered, if_true, only.total, total, current, need, loading,
      needsMore_eq, fewer, Option.toList_some, List.countP_append, one]

/-- A check that ends a load-more frees the flag, and others leave it. -/
theorem checkReply_of_scrolls {check : SearchCheck} {isFavoriteMovies : Option IsFavorites}
    {error : Option NSError} (only : OnlyMore totalPages skipped system)
    (taken : step system (.checkReply check isFavoriteMovies error) = some next) :
    OnlyMore totalPages skipped next ∧ (next.pager skipped = system.pager skipped ∨
      Pager.step (system.pager skipped) .settle = some (next.pager skipped)) := by
  obtain ⟨possible, taken⟩ := step_eq_some taken
  cases taken
  have waits : check ∈ system.checks := of_decide_eq_true possible
  obtain ⟨shown, text⟩ :=
    pagesShown_checkCompletion check isFavoriteMovies error system.screen
  simp only [pagesShown, Prod.mk.injEq] at shown
  obtain ⟨-, total, current, need, -⟩ := shown
  refine ⟨⟨text ▸ only.searches, only.requests, total.trans only.total, only.skipped⟩, ?_⟩
  have count : (system.checks.erase check).countP endsLoadMore =
      system.checks.countP endsLoadMore - if endsLoadMore check then 1 else 0 := by
    rw [List.countP_erase]
    simp only [waits, true_and]
  have loading :
      (checkCompletion check isFavoriteMovies error system.screen).searchMovieViewModel.isLoadMore =
        if check.searchFlag = some .isLoadMore then false
        else system.screen.searchMovieViewModel.isLoadMore :=
    flag_checkCompletion check isFavoriteMovies error system.screen .isLoadMore
  by_cases ends : check.searchFlag = some .isLoadMore
  · have isEnd : endsLoadMore check = true := decide_eq_true ends
    have settles : 0 < system.checks.countP endsLoadMore :=
      List.countP_pos_iff.mpr ⟨check, waits, isEnd⟩
    rw [if_pos ends] at loading
    rw [isEnd, if_pos rfl] at count
    apply Or.inr
    simp only [Pager.step, pager, settles, if_true, total, current, need, loading, count]
  · have isNoEnd : endsLoadMore check = false := decide_eq_false ends
    rw [if_neg ends] at loading
    rw [isNoEnd, if_neg Bool.false_ne_true, Nat.sub_zero] at count
    apply Or.inl
    simp only [pager, total, current, need, loading, count]

/-- **A search that is scrolled is a pager.** Each step of such a search is a step of
the pager, or none. -/
theorem pager_of_step (only : OnlyMore totalPages skipped system)
    (scrolls : event.Scrolls totalPages) (taken : scrollStep system event = some next) :
    OnlyMore totalPages skipped next ∧ (next.pager skipped = system.pager skipped ∨
      ∃ move, Pager.step (system.pager skipped) move = some (next.pager skipped)) := by
  obtain ⟨permitted, taken⟩ := scrollStep_eq_some taken
  cases event with
  | start => exact absurd scrolls id
  | search searchText => exact absurd scrolls id
  | unanswered request => exact absurd scrolls id
  | loadMore =>
      cases (step_eq_some taken).2
      refine ⟨⟨only.searches, only.requests, only.total, only.skipped⟩, .inr ⟨.load, ?_⟩⟩
      have free : ((system.pager skipped).needMore && !(system.pager skipped).loading) = true :=
        permitted
      rw [Pager.step, if_pos free]
      rfl
  | loadFavoriteMovies =>
      cases (step_eq_some taken).2
      refine ⟨⟨only.searches, only.requests, only.total, only.skipped⟩, .inl ?_⟩
      simp only [pager, List.countP_append]
      rfl
  | deadline =>
      obtain ⟨possible, taken⟩ := step_eq_some taken
      cases taken
      refine ⟨⟨only.searches, ?_, only.total, ?_⟩, .inr ⟨.ask, ?_⟩⟩
      · intro request member
        rcases List.mem_append.mp member with older | isNew
        · exact only.requests request older
        · rw [List.mem_singleton.mp isNew]
          exact ⟨rfl, only.searches⟩
      · exact only.skipped.trans (List.length_append ▸ Nat.le_add_right _ _)
      · have waiting : 0 < (system.pager skipped).waiting := of_decide_eq_true possible
        rw [Pager.step, if_pos waiting]
        simp only [pager, send, List.length_append, List.length_singleton,
          List.drop_append_of_le_length only.skipped, List.map_append, List.map_singleton]
  | reply request total movies error =>
      obtain ⟨onlyNext, answered⟩ := reply_of_scrolls only scrolls taken
      exact ⟨onlyNext, .inr ⟨.answer, answered⟩⟩
  | checkReply check isFavoriteMovies error =>
      obtain ⟨onlyNext, same | settled⟩ := checkReply_of_scrolls only taken
      · exact ⟨onlyNext, .inl same⟩
      · exact ⟨onlyNext, .inr ⟨.settle, settled⟩⟩

/-- A search that is scrolled stays the sound pager that it is. -/
theorem sound_of_run {events : List SearchEvent} (only : OnlyMore totalPages skipped system)
    (sound : (system.pager skipped).Sound)
    (scrolling : ∀ event ∈ events, event.Scrolls totalPages)
    (reached : EventRun.runFrom scrollStep system events = some next) :
    OnlyMore totalPages skipped next ∧ (next.pager skipped).Sound := by
  refine EventRun.invariant
    (fun _ state => OnlyMore totalPages skipped state ∧ (state.pager skipped).Sound)
    ⟨only, sound⟩ ?_ reached
  rintro before event state after inside ⟨only, sound⟩ taken
  have member : event ∈ events := inside.subset (List.mem_append_right _ List.mem_cons_self)
  obtain ⟨onlyAfter, same | ⟨move, moved⟩⟩ := pager_of_step only (scrolling event member) taken
  · exact ⟨onlyAfter, same ▸ sound⟩
  · exact ⟨onlyAfter, sound.of_step moved⟩

end SearchSystem

end MovieFun
