import MovieFun.View.SearchMovie.SearchSystem

/-!
# The query on display

The rows of the search screen, its total and its current page come from whichever
replies came last, while its text is that of the last call. They are of one query
exactly when the replies that made what is displayed answer that text
(`ofQuery_iff_answeredInText`).
-/

namespace MovieFun

/-- A reply that made rows: its request, the total it brought, and the rows. -/
structure SearchAnswer where
  request : SearchRequest
  totalPages : Int
  rowVMs : List SearchMovieRowViewModel
deriving DecidableEq, Repr

/-- The search text that an event sets. -/
def SearchEvent.text : SearchEvent → Option (Option String)
  | .start => some none
  | .search searchText => some (some searchText)
  | _ => none

/-- How many rows were made so far, and the replies that made what is displayed. -/
structure SearchHistory where
  created : Nat := 0
  answers : List SearchAnswer := []
deriving DecidableEq, Repr

namespace SearchHistory

/-- A first page replaces what is displayed, and a further one is added. -/
def after (history : SearchHistory) (event : SearchEvent) : SearchHistory :=
  match event.brings with
  | none => history
  | some (request, totalPages, movies) =>
      { created := history.created + movies.length
        answers := (if request.more then history.answers else []) ++
          [{ request, totalPages, rowVMs := ListRowViewModel.newRows history.created movies }] }

/-- The answers that a list of events brings. -/
def of (events : List SearchEvent) : SearchHistory := events.foldl after {}

@[simp] theorem of_concat (events : List SearchEvent) (event : SearchEvent) :
    of (events ++ [event]) = (of events).after event := by
  rw [of, List.foldl_append]
  rfl

end SearchHistory

namespace SearchSystem

open SearchMovieController ListRowViewModel

variable {system next : SearchSystem} {event : SearchEvent} {before : List SearchEvent}

/-- Only a page changes which pages are shown, and only a call changes the text. -/
theorem shown_of_step (taken : step system event = some next) :
    next.screen.searchMovieViewModel.searchText =
        event.text.getD system.screen.searchMovieViewModel.searchText ∧
      ((event.brings = none ∧ pagesShown next.screen = pagesShown system.screen) ∨
        ∃ request total movies, event.brings = some (request, total, movies) ∧
          shows request total movies system.screen = some next.screen) := by
  cases event with
  | reply request totalPages movies error =>
      obtain ⟨-, screen, check, completed, rfl⟩ := step_reply_eq_some taken
      rw [completion_eq] at completed
      rcases fetchCompletion_eq_some completed with
        ⟨silent, -, ⟨-, rfl⟩ | ⟨-, rfl⟩⟩ | ⟨total, shown, brought, isShown, -⟩
      · exact ⟨rfl, .inl ⟨by rw [SearchEvent.brings, silent]; rfl, rfl⟩⟩
      · exact ⟨searchText_setFlag .., .inl ⟨by rw [SearchEvent.brings, silent]; rfl,
          pagesShown_setFlag ..⟩⟩
      · refine ⟨?_, .inr ⟨request, total, shown, by rw [SearchEvent.brings, brought]; rfl, isShown⟩⟩
        cases more : request.more with
        | false =>
            rw [shows, more] at isShown
            exact (showFirst_eq_some isShown).2.2.2.2
        | true =>
            rw [shows, more] at isShown
            exact (showMore_eq_some isShown).2.2.2.2.1
  | checkReply check isFavoriteMovies error =>
      cases (step_eq_some taken).2
      obtain ⟨pages, text⟩ := pagesShown_checkCompletion check isFavoriteMovies error system.screen
      exact ⟨text, .inl ⟨rfl, pages⟩⟩
  | _ =>
      cases (step_eq_some taken).2
      exact ⟨rfl, .inl ⟨rfl, rfl⟩⟩

/-- What is displayed in terms of the events so far. -/
structure Tells (before : List SearchEvent) (system : SearchSystem) : Prop where
  created : system.screen.created = (SearchHistory.of before).created
  searchText : system.screen.searchMovieViewModel.searchText =
    (EventRun.last SearchEvent.text before).getD none
  displayed : (system.screen.searchMovieViewModel.sectionViewModels = [] ∧
      (SearchHistory.of before).answers = []) ∨
    ∃ sectionVM earlier last, system.screen.searchMovieViewModel.sectionViewModels = [sectionVM] ∧
      (SearchHistory.of before).answers = earlier ++ [last] ∧
      sectionVM.rowViewModels.filterMap asMovieRow =
        (earlier ++ [last]).flatMap SearchAnswer.rowVMs ∧
      system.screen.searchMovieViewModel.totalPage = last.totalPages ∧
      system.screen.searchMovieViewModel.currentPage = (earlier ++ [last]).length + 1

/-- Each step tells what it displays. -/
theorem Tells.of_step (tells : Tells before system) (taken : step system event = some next) :
    Tells (before ++ [event]) next := by
  obtain ⟨text, ⟨silent, same⟩ | ⟨request, total, movies, brings, isShown⟩⟩ := shown_of_step taken
  · have history : SearchHistory.of (before ++ [event]) = SearchHistory.of before := by
      rw [SearchHistory.of_concat, SearchHistory.after, silent]
    simp only [pagesShown, Prod.mk.injEq] at same
    obtain ⟨sections, totalPage, currentPage, -, created⟩ := same
    constructor
    · rw [history, created, tells.created]
    · rw [text, tells.searchText, EventRun.last_concat]
      cases event.text <;> rfl
    · rw [history, sections, totalPage, currentPage]
      exact tells.displayed
  · have history : SearchHistory.of (before ++ [event]) =
        { created := system.screen.created + movies.length
          answers := (if request.more then (SearchHistory.of before).answers else []) ++
            [⟨request, total, newRows system.screen.created movies⟩] } := by
      rw [SearchHistory.of_concat, SearchHistory.after, brings, tells.created]
    have searchText : next.screen.searchMovieViewModel.searchText =
        (EventRun.last SearchEvent.text (before ++ [event])).getD none := by
      rw [text, tells.searchText, EventRun.last_concat]
      cases event.text <;> rfl
    rw [shows] at isShown
    cases more : request.more with
    | false =>
        rw [more] at isShown history
        obtain ⟨⟨sectionVM, sections, rows⟩, totalPage, currentPage, created, -⟩ :=
          showFirst_eq_some isShown
        refine ⟨created.trans (by rw [history]), searchText, .inr ⟨sectionVM, [],
          ⟨request, total, newRows system.screen.created movies⟩, sections,
          by rw [history]; rfl, ?_, totalPage, currentPage⟩⟩
        rw [rows]
        exact (List.flatMap_singleton ..).symm
    | true =>
        rw [more] at isShown history
        obtain ⟨⟨first, others, sectionVM, older, sections, rows⟩, totalPage, currentPage,
          created, -, -⟩ := showMore_eq_some isShown
        refine ⟨created.trans (by rw [history]), searchText, .inr ?_⟩
        rcases tells.displayed with
          ⟨none, -⟩ | ⟨only, earlier, last, isOnly, answers, shown, -, count⟩
        · cases older.symm.trans none
        · cases older.symm.trans isOnly
          refine ⟨sectionVM, earlier ++ [last],
            ⟨request, total, newRows system.screen.created movies⟩, sections, ?_, ?_, totalPage, ?_⟩
          · rw [history, answers]
            rfl
          · rw [rows, shown, @List.flatMap_append _ _ (earlier ++ [last]), List.flatMap_singleton]
          · rw [currentPage, count, @List.length_append _ (earlier ++ [last])]
            rfl

/-- In every run the rows are those of the answers. -/
theorem tells_of_run (reached : EventRun.runFrom scrollStep {} before = some system) :
    Tells before system := by
  refine EventRun.invariant Tells ⟨rfl, rfl, .inl ⟨rfl, rfl⟩⟩ ?_ reached
  exact fun before event state next _ tells taken => tells.of_step (scrollStep_eq_some taken).2

/-- Every row displayed was made by a reply for the current text, the total came with
the last of these replies, and the current page is the one after their pages. -/
structure OfQuery (before : List SearchEvent) (system : SearchSystem) : Prop where
  rows : ∀ rowVM ∈ movieRows system.screen, ∃ answer ∈ (SearchHistory.of before).answers,
    rowVM ∈ answer.rowVMs ∧
      answer.request.searchText = system.screen.searchMovieViewModel.searchText
  totalPage : ∀ answer ∈ (SearchHistory.of before).answers.getLast?,
    system.screen.searchMovieViewModel.totalPage = answer.totalPages ∧
      answer.request.searchText = system.screen.searchMovieViewModel.searchText
  currentPage : (SearchHistory.of before).answers ≠ [] →
    system.screen.searchMovieViewModel.currentPage = (SearchHistory.of before).answers.countP
      (fun answer =>
        answer.request.searchText = system.screen.searchMovieViewModel.searchText) + 1

/-- The last first page and the pages added to it answer the text of the last call. -/
def AnsweredInText (before : List SearchEvent) : Prop :=
  ∀ answer ∈ (SearchHistory.of before).answers,
    answer.request.searchText = (EventRun.last SearchEvent.text before).getD none

/-- The rows are of the query exactly if it was answered in its text. -/
theorem ofQuery_iff (tells : Tells before system) :
    OfQuery before system ↔ AnsweredInText before := by
  rw [AnsweredInText, ← tells.searchText]
  rcases tells.displayed with ⟨sections, answers⟩ |
    ⟨sectionVM, earlier, last, sections, answers, rows, totalPage, currentPage⟩
  · rw [answers]
    refine iff_of_true ⟨?_, ?_, ?_⟩ fun answer member => absurd member List.not_mem_nil
    · intro rowVM member
      rw [movieRows, sections] at member
      exact absurd member List.not_mem_nil
    · rw [answers]
      exact fun answer member => absurd member (Option.not_mem_none _)
    · exact fun some => absurd answers some
  · constructor
    · intro ofQuery
      have displayed : (SearchHistory.of before).answers ≠ [] := by
        rw [answers]
        exact List.concat_ne_nil last earlier
      have count := ofQuery.currentPage displayed
      rw [currentPage, ← answers, Nat.add_right_cancel_iff, eq_comm, List.countP_eq_length] at count
      exact fun answer member => of_decide_eq_true (count answer member)
    · intro inText
      refine ⟨?_, ?_, fun _ => ?_⟩
      · intro rowVM member
        rw [movieRows, sections, List.flatMap_singleton, rows, ← answers] at member
        obtain ⟨answer, isAnswer, made⟩ := List.mem_flatMap.mp member
        exact ⟨answer, isAnswer, made, inText answer isAnswer⟩
      · intro answer isLast
        rw [answers, List.getLast?_append] at isLast
        cases isLast
        exact ⟨totalPage, inText last (by rw [answers]; exact List.mem_concat_self)⟩
      · rw [currentPage, ← answers, Nat.add_right_cancel_iff, eq_comm, List.countP_eq_length]
        exact fun answer member => decide_eq_true (inText answer member)

/-- **When what is displayed is of the query.** In every run, in every state without an
outstanding request, the rows displayed, the total and the current page are of the
current text exactly when the last first page and the pages added to it answer the
text of the last call. -/
theorem ofQuery_iff_answeredInText (events : List SearchEvent) :
    EventRun.EachPoint scrollStep
        (fun before system => system.requests = [] → OfQuery before system) {} events ↔
      EventRun.EachPoint scrollStep
        (fun before system => system.requests = [] → AnsweredInText before) {} events := by
  apply EventRun.eachPoint_congr
  intro before system reached
  rw [ofQuery_iff (tells_of_run reached)]

/-- Two keystrokes, and the reply to the first one comes last. -/
def twoKeystrokes : List SearchEvent :=
  [.search "a", .search "ab",
    .reply { searchText := some "ab", more := false, page := 1 } (some 1)
      (some [{ id := some 2 }]) none,
    .reply { searchText := some "a", more := false, page := 1 } (some 1)
      (some [{ id := some 1 }]) none]

/-- The screen then shows the movies of the first text under the second one. -/
theorem not_ofQuery_twoKeystrokes : ¬ EventRun.EachPoint scrollStep
    (fun before system => system.requests = [] → OfQuery before system) {} twoKeystrokes := by
  intro always
  have inText :=
    (ofQuery_iff (tells_of_run rfl)).mp (always twoKeystrokes List.prefix_rfl _ rfl rfl)
  exact absurd (inText _ List.mem_cons_self) (by decide)

end SearchSystem

end MovieFun
