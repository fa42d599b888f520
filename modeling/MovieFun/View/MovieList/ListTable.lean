import MovieFun.Foundation.TableView
import MovieFun.View.Settling

/-!
# The table of a movie list

The listeners of the three flags put a reload of the table on the main queue when a flag
is lowered. A first page takes the place of all rows when its reply comes, but the flag
is lowered only when the check of favourites is answered. Until then the table asks for
the rows it counted before: no row is missing exactly when each first page has at least
as many movies as the table counted (`listTable_safe_iff_refills`). Once no check is
outstanding and no reload waits, the table shows what the list has (`listTable_current`).
-/

namespace MovieFun

namespace ListTable

open ListController

/-- `numberOfSections` and `tableView(_:numberOfRowsInSection:)`. -/
def counts (system : ListSystem) : List Nat :=
  system.screen.listViewModel.listSectionViewModels.map fun sectionVM =>
    sectionVM.listRowViewModels.length

/-- The listeners of the flags reload the table when a flag is lowered. -/
def reloads (_ : ListSystem) (event : ListEvent) (_ : ListSystem) : Nat :=
  [ListOperation.start, .pullToRefresh, .loadMore].countP fun operation =>
    event.sets operation = some false

/-- The list as what its table counts. -/
def source : TableSource ListSystem ListEvent where
  step := ListSystem.step
  counts := counts
  reloads := reloads

/-- A screen as it is loaded. -/
def initial (subclass : ListSubclass) : TableScreen ListSystem where
  data := ListSystem.initial subclass

/-- The rows of a first page. -/
def firstPage (event : ListEvent) : Option Nat := do
  let (request, _, movies) ← event.brings
  if request.operation = .loadMore then none else some movies.length

/-- The flag of an operation waits for a check of favourites. -/
def Checking (system : ListSystem) : Prop :=
  ∃ check ∈ system.checks, check.operation.isSome

variable {system next : ListSystem} {event : ListEvent}

/-- A flag that is lowered reloads the table. -/
theorem reloads_pos {operation : ListOperation} (lowers : event.sets operation = some false) :
    0 < reloads system event next := by
  refine List.countP_pos_iff.mpr ⟨operation, ?_, decide_eq_true lowers⟩
  cases operation <;> decide

/-- The counts are those of the sections on display. -/
theorem counts_eq_of_pagesShown (same : pagesShown next.screen = pagesShown system.screen) :
    counts next = counts system := by
  have sections : next.screen.listViewModel.listSectionViewModels =
      system.screen.listViewModel.listSectionViewModels := congrArg Prod.fst same
  rw [counts, counts, sections]

/-- A first page is one section with a row for each movie, and a further page adds rows. -/
theorem oneSection : TableScreen.OneSection source firstPage where
  replaces := by
    intro data change after rows changed page
    simp only [firstPage, Option.bind_eq_bind, Option.bind_eq_some_iff] at page
    obtain ⟨⟨request, total, movies⟩, brings, page⟩ := page
    split at page
    · cases page
    · next first =>
      cases page
      rcases ListSystem.pagesShown_of_step changed with ⟨silent, -⟩ | ⟨_, _, _, isPage, -, isShown⟩
      · rw [silent] at brings
        cases brings
      · rw [isPage] at brings
        cases brings
        have isFirst : showFirst total movies data.screen = some after.screen := by
          cases operation : request.operation with
          | loadMore => exact absurd operation first
          | _ =>
              rw [operation] at isShown
              exact isShown
        have sections := (showFirst_eq_some isFirst).1
        change counts after = [movies.length]
        rw [counts, sections, List.map_singleton, ListRowViewModel.newRows, List.length_map,
          List.length_zipIdx]
  grows := by
    intro data change after changed further single
    rcases ListSystem.pagesShown_of_step changed with
      ⟨-, same⟩ | ⟨request, total, movies, brings, -, isShown⟩
    · have sameCounts : source.counts after = source.counts data := counts_eq_of_pagesShown same
      rw [sameCounts]
      exact ⟨single, TableCounts.covers_refl _⟩
    · have more : request.operation = .loadMore := by
        by_contra first
        rw [firstPage, brings] at further
        exact absurd further (by simp [first])
      rw [more] at isShown
      obtain ⟨⟨sectionVM, others, sections, appended⟩, -⟩ := showMore_eq_some isShown
      have before : source.counts data = sectionVM.listRowViewModels.length ::
          others.map fun sectionVM => sectionVM.listRowViewModels.length := by
        change counts data = _
        rw [counts, sections, List.map_cons]
      have now : source.counts after =
          (sectionVM.listRowViewModels.length +
              (ListRowViewModel.newRows data.screen.created movies).length) ::
            others.map fun sectionVM => sectionVM.listRowViewModels.length := by
        change counts after = _
        rw [counts, appended, List.map_cons, List.length_append]
      rw [before] at single ⊢
      rw [now]
      exact ⟨single, TableCounts.covers_grown [] _ (Nat.le_add_right _ _)⟩

theorem single_initial (subclass : ListSubclass) :
    (counts (ListSystem.initial subclass)).length ≤ 1 := by
  cases subclass <;> exact Nat.zero_le _

variable {subclass : ListSubclass} {screen : TableScreen ListSystem}
  {events : List (TableEvent ListEvent)}

/-- **No row of a movie list is missing** that its table asks for exactly when each first
page has at least as many movies as the table counted. -/
theorem listTable_safe_iff_refills (subclass : ListSubclass)
    (events : List (TableEvent ListEvent)) :
    EventRun.EachState (TableScreen.step source) (TableScreen.Safe source) (initial subclass)
        events ↔
      EventRun.EachStep (TableScreen.step source) (TableScreen.Refills firstPage)
        (initial subclass) events :=
  oneSection.safe_iff_refills (single_initial subclass) events

/-- A page on display is being checked. -/
theorem checking_of_page (taken : ListSystem.step system event = some next)
    (brings : event.brings ≠ none) : Checking next := by
  cases event with
  | reply request totalPages movies error =>
      obtain ⟨-, screen, check, completed, rfl⟩ := ListSystem.step_reply_eq_some taken
      rw [completion_eq] at completed
      rcases fetchCompletion_eq_some completed with ⟨silent, -⟩ | ⟨_, _, _, -, rfl⟩
      · exact absurd (by rw [ListEvent.brings, silent]; rfl) brings
      · exact ⟨_, List.mem_append_right _ List.mem_cons_self, rfl⟩
  | _ => exact absurd rfl brings

/-- A check stays outstanding until it lowers its flag. -/
theorem checking_of_step (taken : ListSystem.step system event = some next)
    (checking : Checking system) : Checking next ∨ 0 < reloads system event next := by
  obtain ⟨check, waits, isSome⟩ := checking
  cases event with
  | reply request totalPages movies error =>
      obtain ⟨-, screen, started, -, rfl⟩ := ListSystem.step_reply_eq_some taken
      exact .inl ⟨check, List.mem_append_left _ waits, isSome⟩
  | checkReply answered isFavoriteMovies error =>
      by_cases same : check = answered
      · subst same
        obtain ⟨operation, isOperation⟩ := Option.isSome_iff_exists.mp isSome
        exact .inr (reloads_pos (if_pos isOperation))
      · cases (ListSystem.step_eq_some taken).2
        exact .inl ⟨check, (List.mem_erase_of_ne same).mpr waits, isSome⟩
  | loadFavoriteMovies =>
      cases (ListSystem.step_eq_some taken).2
      exact .inl ⟨check, List.mem_append_left _ waits, isSome⟩
  | _ =>
      cases (ListSystem.step_eq_some taken).2
      exact .inl ⟨check, waits, isSome⟩

/-- **The table of a movie list catches up**: when no flag waits for a check and no reload
is on the queue, the table counted what the list has. -/
theorem listTable_current
    (reached : EventRun.runFrom (TableScreen.step source) (initial subclass) events = some screen)
    (checked : ∀ check ∈ screen.data.checks, check.operation = none)
    (reloaded : screen.reloads = 0) : screen.Current source := by
  have changes : ∀ data change after, source.step data change = some after →
      counts after = counts data ∨ Checking after ∨ 0 < reloads data change after := by
    intro data change after changed
    rcases ListSystem.pagesShown_of_step changed with
      ⟨-, same⟩ | ⟨request, total, movies, brings, -⟩
    · exact .inl (counts_eq_of_pagesShown same)
    · refine .inr (.inl (checking_of_page changed ?_))
      rw [brings]
      exact Option.some_ne_none _
  have keeps : ∀ data change after, source.step data change = some after → Checking data →
      Checking after ∨ 0 < reloads data change after :=
    fun data change after changed owed => checking_of_step changed owed
  have paid : ¬ Checking screen.data := by
    rintro ⟨check, waits, isSome⟩
    rw [checked check waits] at isSome
    cases isSome
  exact TableScreen.current_of_paid changes keeps reached paid reloaded

/-- One movie, then a second page, and a refresh that brings one movie again. -/
def refreshedShorter : List (TableEvent ListEvent) :=
  [.data .start, .data (.reply { operation := .start, page := 1 } (some 3) (some [{}]) none),
    .layout,
    .data (.checkReply { operation := some .start, rowVMs := [{ number := 0, movie := {} }] }
      none none),
    .reload, .data .loadMore, .data (.deadline .loadMore),
    .data (.reply { operation := .loadMore, page := 2 } (some 3) (some [{}]) none),
    .data (.checkReply
      { operation := some .loadMore
        rowVMs := [{ number := 0, movie := {} }, { number := 1, movie := {} }] } none none),
    .reload, .data .pullToRefresh, .data (.deadline .pullToRefresh),
    .data (.reply { operation := .pullToRefresh, page := 1 } (some 3) (some [{}]) none)]

/-- The check of the refresh, and the reload after it. -/
def refreshChecked : List (TableEvent ListEvent) :=
  [.data (.checkReply { operation := some .pullToRefresh, rowVMs := [{ number := 2, movie := {} }] }
    none none), .reload]

/-- The table has counted what there is after the check. -/
theorem current_refreshChecked : ∃ screen,
    EventRun.runFrom (TableScreen.step source) (initial .newMovieList)
        (refreshedShorter ++ refreshChecked) = some screen ∧ screen.Current source := by
  have reached : ∃ screen, EventRun.runFrom (TableScreen.step source) (initial .newMovieList)
      (refreshedShorter ++ refreshChecked) = some screen ∧
        screen.data.checks = [] ∧ screen.reloads = 0 := ⟨_, rfl, rfl, rfl⟩
  obtain ⟨screen, run, checked, reloaded⟩ := reached
  refine ⟨screen, run, listTable_current run (fun check waits => ?_) reloaded⟩
  rw [checked] at waits
  cases waits

/-- Before the check is answered, the table asks for a second row that is not there. -/
example : ¬ EventRun.EachState (TableScreen.step source) (TableScreen.Safe source)
    (initial .newMovieList) refreshedShorter := by
  intro always
  obtain ⟨rows, there, within⟩ :=
    always refreshedShorter List.prefix_rfl _ rfl [2] rfl 0 1 ⟨2, rfl, Nat.lt_succ_self 1⟩
  cases there
  exact Nat.lt_irrefl 1 within

end ListTable

end MovieFun
