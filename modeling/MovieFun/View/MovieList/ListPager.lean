import Mathlib.Data.List.Count
import MovieFun.Foundation.Pager
import MovieFun.View.MovieList.ListSystem

/-!
# A movie list that is scrolled

A list that is only scrolled after its start, on a server that reports one total,
moves like a pager (`pager_of_step`).
-/

namespace MovieFun

/-- What happens while a list is scrolled and every reply succeeds with a total. -/
def ListEvent.Scrolls (totalPages : Nat) : ListEvent → Prop
  | .start => False
  | .pullToRefresh => False
  | .reply _ total movies error => total = some (totalPages : Int) ∧ movies.isSome ∧ error = none
  | _ => True

/-- A list needs more pages as a pager does. -/
theorem needsMore_eq (totalPage : Int) (currentPage : Nat) :
    needsMore totalPage currentPage = Pager.needs totalPage currentPage := by
  rw [needsMore, Pager.needs, ← decide_not]
  exact decide_eq_decide.mpr not_le

namespace ListSystem

open ListController

/-- A check whose completion ends a load-more. -/
def endsLoadMore (check : ListCheck) : Bool := check.operation = some .loadMore

/-- The pager that a list is. -/
def pager (system : ListSystem) : Pager where
  current := system.screen.listViewModel.currentPage
  total := system.screen.listViewModel.totalPage
  needMore := system.screen.needLoadMore
  loading := system.screen.listViewModel.isLoadMore
  waiting := system.delayed.length
  requested := system.requests.length
  settling := system.checks.countP endsLoadMore
  asked := system.sent.map ListRequest.page

/-- Only load-mores wait or ask, on a server of that total. -/
structure OnlyMore (totalPages : Nat) (system : ListSystem) : Prop where
  delayed : ∀ operation ∈ system.delayed, operation = .loadMore
  requests : ∀ request ∈ system.requests, request.operation = .loadMore
  total : system.screen.listViewModel.totalPage = totalPages

variable {totalPages : Nat} {system next : ListSystem} {event : ListEvent}

/-- The reply to a load-more shows its page and starts a check. -/
theorem reply_of_scrolls {request : ListRequest} {total : Option Int}
    {movies : Option (List Movie)} {error : Option NSError} (only : OnlyMore totalPages system)
    (scrolls : (ListEvent.reply request total movies error).Scrolls totalPages)
    (taken : step system (.reply request total movies error) = some next) :
    OnlyMore totalPages next ∧ Pager.step system.pager .answer = some next.pager := by
  obtain ⟨rfl, isMovies, rfl⟩ := scrolls
  obtain ⟨movies, rfl⟩ := Option.isSome_iff_exists.mp isMovies
  obtain ⟨asked, screen, check, completed, rfl⟩ := step_reply_eq_some taken
  rw [only.requests request asked] at completed
  obtain ⟨_, isShown, made⟩ := Option.map_eq_some_iff.mp completed
  cases made
  obtain ⟨-, total, current, need, loading⟩ := showMore_eq_some isShown
  refine ⟨⟨only.delayed, ?_, total⟩, ?_⟩
  · exact fun other member => only.requests other (List.mem_of_mem_erase member)
  · have answered : (0 : Nat) < system.requests.length := List.length_pos_of_mem asked
    have fewer : (system.requests.erase request).length = system.requests.length - 1 :=
      List.length_erase_of_mem asked
    have one : [checkOf .loadMore screen].countP endsLoadMore = 1 := rfl
    simp only [Pager.step, pager, answered, if_true, only.total, total, current, need, loading,
      needsMore_eq, fewer, Option.toList_some, List.countP_append, one]

/-- A check that ends a load-more frees the flag, and others leave it. -/
theorem checkReply_of_scrolls {check : ListCheck} {isFavoriteMovies : Option IsFavorites}
    {error : Option NSError} (only : OnlyMore totalPages system)
    (taken : step system (.checkReply check isFavoriteMovies error) = some next) :
    OnlyMore totalPages next ∧
      (next.pager = system.pager ∨ Pager.step system.pager .settle = some next.pager) := by
  obtain ⟨possible, taken⟩ := step_eq_some taken
  cases taken
  have waits : check ∈ system.checks := of_decide_eq_true possible
  have shown := pagesShown_checkCompletion check isFavoriteMovies error system.screen
  simp only [pagesShown, Prod.mk.injEq] at shown
  obtain ⟨-, total, current, need⟩ := shown
  refine ⟨⟨only.delayed, only.requests, total.trans only.total⟩, ?_⟩
  have count : (system.checks.erase check).countP endsLoadMore =
      system.checks.countP endsLoadMore - if endsLoadMore check then 1 else 0 := by
    rw [List.countP_erase]
    simp only [waits, true_and]
  have loading :
      (checkCompletion check isFavoriteMovies error system.screen).listViewModel.isLoadMore =
      if check.operation = some .loadMore then false
      else system.screen.listViewModel.isLoadMore :=
    flag_checkCompletion check isFavoriteMovies error system.screen .loadMore
  by_cases ends : check.operation = some .loadMore
  · have isEnd : endsLoadMore check = true := decide_eq_true ends
    have settles : 0 < system.checks.countP endsLoadMore :=
      List.countP_pos_iff.mpr ⟨check, waits, isEnd⟩
    rw [if_pos ends] at loading
    rw [isEnd, if_pos rfl] at count
    apply Or.inr
    simp only [Pager.step, pager, settles, if_true, total, current, need, loading, count]
  · have isNoEnd : endsLoadMore check = false := decide_eq_false ends
    rw [if_neg ends] at loading
    rw [isNoEnd, if_neg Bool.false_ne_true, Nat.sub_zero] at count
    apply Or.inl
    simp only [pager, total, current, need, loading, count]

/-- **A list that is scrolled is a pager.** Each step of such a list is a step of the
pager, or none. -/
theorem pager_of_step (only : OnlyMore totalPages system) (scrolls : event.Scrolls totalPages)
    (taken : scrollStep system event = some next) :
    OnlyMore totalPages next ∧ (next.pager = system.pager ∨
      ∃ move, Pager.step system.pager move = some next.pager) := by
  obtain ⟨permitted, taken⟩ := scrollStep_eq_some taken
  cases event with
  | start => exact absurd scrolls id
  | pullToRefresh => exact absurd scrolls id
  | loadMore =>
      cases (step_eq_some taken).2
      refine ⟨⟨?_, only.requests, only.total⟩, .inr ⟨.load, ?_⟩⟩
      · intro operation member
        rcases List.mem_append.mp member with older | isNew
        · exact only.delayed operation older
        · exact List.mem_singleton.mp isNew
      · have free : (system.pager.needMore && !system.pager.loading) = true := permitted
        rw [Pager.step, if_pos free]
        simp only [pager, List.length_append, List.length_singleton]
        rfl
  | loadFavoriteMovies =>
      cases (step_eq_some taken).2
      refine ⟨⟨only.delayed, only.requests, only.total⟩, .inl ?_⟩
      simp only [pager, List.countP_append]
      rfl
  | deadline operation =>
      obtain ⟨possible, taken⟩ := step_eq_some taken
      cases taken
      have waits : operation ∈ system.delayed := of_decide_eq_true possible
      obtain rfl := only.delayed operation waits
      refine ⟨⟨?_, ?_, only.total⟩, .inr ⟨.ask, ?_⟩⟩
      · exact fun other member => only.delayed other (List.mem_of_mem_erase member)
      · intro request member
        rcases List.mem_append.mp member with older | isNew
        · exact only.requests request older
        · rw [List.mem_singleton.mp isNew]
      · have waiting : 0 < system.pager.waiting := List.length_pos_of_mem waits
        rw [Pager.step, if_pos waiting]
        simp only [pager, send, List.length_append, List.length_singleton, List.map_append,
          List.map_singleton, List.length_erase_of_mem waits]
        rfl
  | reply request total movies error =>
      obtain ⟨onlyNext, answered⟩ := reply_of_scrolls only scrolls taken
      exact ⟨onlyNext, .inr ⟨.answer, answered⟩⟩
  | checkReply check isFavoriteMovies error =>
      obtain ⟨onlyNext, same | settled⟩ := checkReply_of_scrolls only taken
      · exact ⟨onlyNext, .inl same⟩
      · exact ⟨onlyNext, .inr ⟨.settle, settled⟩⟩

/-- A list that is scrolled stays the sound pager that it is. -/
theorem sound_of_run {events : List ListEvent} (only : OnlyMore totalPages system)
    (sound : system.pager.Sound) (scrolling : ∀ event ∈ events, event.Scrolls totalPages)
    (reached : EventRun.runFrom scrollStep system events = some next) :
    OnlyMore totalPages next ∧ next.pager.Sound := by
  refine EventRun.invariant (fun _ state => OnlyMore totalPages state ∧ state.pager.Sound)
    ⟨only, sound⟩ ?_ reached
  rintro before event state after inside ⟨only, sound⟩ taken
  have member : event ∈ events := inside.subset (List.mem_append_right _ List.mem_cons_self)
  obtain ⟨onlyAfter, same | ⟨move, moved⟩⟩ := pager_of_step only (scrolling event member) taken
  · exact ⟨onlyAfter, same ▸ sound⟩
  · exact ⟨onlyAfter, sound.of_step moved⟩

end ListSystem

end MovieFun
