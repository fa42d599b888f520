import MovieFun.Foundation.TableView
import MovieFun.View.SearchMovie.QueryOnDisplay
import MovieFun.View.Settling

/-!
# The table of the search

The table of the search is reloaded as that of a movie list is: when a check of
favourites lowers a flag. Each key typed asks for a first page, and the rows of an
answer take the place of those the table counted for the text before. An answer without
movies still is one row, a header.
-/

namespace MovieFun

namespace SearchTable

open SearchMovieController

/-- `numberOfSections` and `tableView(_:numberOfRowsInSection:)`. -/
def counts (system : SearchSystem) : List Nat :=
  system.screen.searchMovieViewModel.sectionViewModels.map fun sectionVM =>
    sectionVM.rowViewModels.length

/-- The listeners of the flags reload the table when a flag is lowered. -/
def reloads (_ : SearchSystem) (event : SearchEvent) (_ : SearchSystem) : Nat :=
  [SearchFlag.isFetching, .isLoadMore].countP fun searchFlag =>
    event.sets searchFlag = some false

/-- The search screen as what its table counts. -/
def source : TableSource SearchSystem SearchEvent where
  step := SearchSystem.step
  counts := counts
  reloads := reloads

/-- The rows of a first page: its movies, or a header. -/
def firstPage (event : SearchEvent) : Option Nat := do
  let (request, _, movies) ← event.brings
  if request.more then none else some (max movies.length 1)

/-- A flag waits for a check of favourites. -/
def Checking (system : SearchSystem) : Prop :=
  ∃ check ∈ system.checks, check.searchFlag.isSome

variable {system next : SearchSystem} {event : SearchEvent}

/-- A flag that is lowered reloads the table. -/
theorem reloads_pos {searchFlag : SearchFlag} (lowers : event.sets searchFlag = some false) :
    0 < reloads system event next := by
  refine List.countP_pos_iff.mpr ⟨searchFlag, ?_, decide_eq_true lowers⟩
  cases searchFlag <;> decide

/-- The counts are those of the sections on display. -/
theorem counts_eq_of_pagesShown (same : pagesShown next.screen = pagesShown system.screen) :
    counts next = counts system := by
  have sections : next.screen.searchMovieViewModel.sectionViewModels =
      system.screen.searchMovieViewModel.sectionViewModels := congrArg Prod.fst same
  rw [counts, counts, sections]

/-- The rows that are built of a list of movies. -/
theorem counts_showFirst {total : Int} {movies : List Movie} {screen shown : SearchScreen}
    (isShown : showFirst total movies screen = some shown) :
    (shown.searchMovieViewModel.sectionViewModels.map fun sectionVM =>
      sectionVM.rowViewModels.length) = [max movies.length 1] := by
  cases isShown
  cases movies with
  | nil => rfl
  | cons movie movies =>
      change [((ListRowViewModel.newRows screen.created (movie :: movies)).map
        SearchMovieBaseRowViewModel.movie ++ []).length] = _
      rw [List.append_nil, List.length_map, ListRowViewModel.newRows, List.length_map,
        List.length_zipIdx, max_eq_left]
      exact Nat.succ_pos movies.length

/-- A first page is one section, and a further page adds rows. -/
theorem oneSection : TableScreen.OneSection source firstPage where
  replaces := by
    intro data change after rows changed page
    simp only [firstPage, Option.bind_eq_bind, Option.bind_eq_some_iff] at page
    obtain ⟨⟨request, total, movies⟩, brings, page⟩ := page
    split at page
    · cases page
    · next first =>
      cases page
      rcases (SearchSystem.shown_of_step changed).2 with ⟨silent, -⟩ | ⟨_, _, _, isPage, isShown⟩
      · rw [silent] at brings
        cases brings
      · rw [isPage] at brings
        cases brings
        rw [shows, if_neg first] at isShown
        exact counts_showFirst isShown
  grows := by
    intro data change after changed further single
    rcases (SearchSystem.shown_of_step changed).2 with
      ⟨-, same⟩ | ⟨request, total, movies, brings, isShown⟩
    · have sameCounts : source.counts after = source.counts data := counts_eq_of_pagesShown same
      rw [sameCounts]
      exact ⟨single, TableCounts.covers_refl _⟩
    · have more : request.more = true := by
        by_contra first
        rw [firstPage, brings] at further
        exact absurd further (by simp [first])
      rw [shows, if_pos more] at isShown
      obtain ⟨built, isBuilt, isCounted⟩ := Option.map_eq_some_iff.mp isShown
      obtain ⟨sectionVM, others, sections, rfl⟩ := buildViewModelAfterLoadMore_eq_some isBuilt
      have before : source.counts data = sectionVM.rowViewModels.length ::
          others.map fun sectionVM => sectionVM.rowViewModels.length := by
        change counts data = _
        rw [counts, sections, List.map_cons]
      have now : source.counts after =
          (sectionVM.rowViewModels.length +
              ((ListRowViewModel.newRows data.screen.created movies).map
                SearchMovieBaseRowViewModel.movie).length) ::
            others.map fun sectionVM => sectionVM.rowViewModels.length := by
        change counts after = _
        rw [counts, ← isCounted, ← List.length_append]
        rfl
      rw [before] at single ⊢
      rw [now]
      exact ⟨single, TableCounts.covers_grown [] _ (Nat.le_add_right _ _)⟩

variable {screen : TableScreen SearchSystem} {events : List (TableEvent SearchEvent)}

/-- **No row of the search is missing** that its table asks for exactly when each answer has
at least as many rows as the table counted. -/
theorem searchTable_safe_iff_refills (events : List (TableEvent SearchEvent)) :
    EventRun.EachState (TableScreen.step source) (TableScreen.Safe source) { data := {} } events ↔
      EventRun.EachStep (TableScreen.step source) (TableScreen.Refills firstPage)
        { data := {} } events :=
  oneSection.safe_iff_refills (Nat.zero_le _) events

/-- A page on display is being checked. -/
theorem checking_of_page (taken : SearchSystem.step system event = some next)
    (brings : event.brings ≠ none) : Checking next := by
  cases event with
  | reply request totalPages movies error =>
      obtain ⟨-, screen, check, completed, rfl⟩ := SearchSystem.step_reply_eq_some taken
      rw [completion_eq] at completed
      rcases fetchCompletion_eq_some completed with ⟨silent, -⟩ | ⟨_, _, _, -, rfl⟩
      · exact absurd (by rw [SearchEvent.brings, silent]; rfl) brings
      · exact ⟨_, List.mem_append_right _ List.mem_cons_self, rfl⟩
  | _ => exact absurd rfl brings

/-- A check stays outstanding until it lowers its flag. -/
theorem checking_of_step (taken : SearchSystem.step system event = some next)
    (checking : Checking system) : Checking next ∨ 0 < reloads system event next := by
  obtain ⟨check, waits, isSome⟩ := checking
  cases event with
  | reply request totalPages movies error =>
      obtain ⟨-, screen, started, -, rfl⟩ := SearchSystem.step_reply_eq_some taken
      exact .inl ⟨check, List.mem_append_left _ waits, isSome⟩
  | checkReply answered isFavoriteMovies error =>
      by_cases same : check = answered
      · subst same
        obtain ⟨searchFlag, isFlag⟩ := Option.isSome_iff_exists.mp isSome
        exact .inr (reloads_pos (if_pos isFlag))
      · cases (SearchSystem.step_eq_some taken).2
        exact .inl ⟨check, (List.mem_erase_of_ne same).mpr waits, isSome⟩
  | loadFavoriteMovies =>
      cases (SearchSystem.step_eq_some taken).2
      exact .inl ⟨check, List.mem_append_left _ waits, isSome⟩
  | _ =>
      cases (SearchSystem.step_eq_some taken).2
      exact .inl ⟨check, waits, isSome⟩

/-- **The table of the search catches up**: when no flag waits for a check and no reload is
on the queue, the table counted the rows of the answer on display. -/
theorem searchTable_current
    (reached : EventRun.runFrom (TableScreen.step source) { data := {} } events = some screen)
    (checked : ∀ check ∈ screen.data.checks, check.searchFlag = none)
    (reloaded : screen.reloads = 0) : screen.Current source := by
  have changes : ∀ data change after, source.step data change = some after →
      counts after = counts data ∨ Checking after ∨ 0 < reloads data change after := by
    intro data change after changed
    rcases (SearchSystem.shown_of_step changed).2 with
      ⟨-, same⟩ | ⟨request, total, movies, brings, -⟩
    · exact .inl (counts_eq_of_pagesShown same)
    · refine .inr (.inl (checking_of_page changed ?_))
      rw [brings]
      exact Option.some_ne_none _
  have keeps : ∀ data change after, source.step data change = some after → Checking data →
      Checking after ∨ 0 < reloads data change after :=
    fun data change after changed owed => checking_of_step changed owed
  have paid : ¬ Checking screen.data := by
    rintro ⟨check, waits, isSome⟩
    rw [checked check waits] at isSome
    cases isSome
  exact TableScreen.current_of_paid changes keeps reached paid reloaded

/-- Two movies are found, and then none for a longer text. -/
def typedOn : List (TableEvent SearchEvent) :=
  [.data (.search "a"),
    .data (.reply { searchText := some "a", more := false, page := 1 } (some 1)
      (some [{}, {}]) none),
    .data (.checkReply
      { searchFlag := some .isFetching
        rowVMs := [{ number := 0, movie := {} }, { number := 1, movie := {} }] } none none),
    .layout, .reload, .data (.search "ab"),
    .data (.reply { searchText := some "ab", more := false, page := 1 } (some 0) (some []) none),
    .data (.checkReply { searchFlag := some .isFetching, rowVMs := [] } none none), .reload]

/-- The table has counted what there is after the check. -/
theorem current_typedOn : ∃ screen,
    EventRun.runFrom (TableScreen.step source) { data := {} } typedOn = some screen ∧
      screen.Current source := by
  have reached : ∃ screen, EventRun.runFrom (TableScreen.step source) { data := {} } typedOn =
      some screen ∧ screen.data.checks = [] ∧ screen.reloads = 0 := ⟨_, rfl, rfl, rfl⟩
  obtain ⟨screen, run, checked, reloaded⟩ := reached
  refine ⟨screen, run, searchTable_current run (fun check waits => ?_) reloaded⟩
  rw [checked] at waits
  cases waits

end SearchTable

end MovieFun
