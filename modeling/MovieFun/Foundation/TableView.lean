import MovieFun.Foundation.Run

/-!
# A table over data that changes under it

A table counts the rows of its sections when it loads, and asks for cells by these
counts until it loads again, while its data source answers from the data of the moment.
A table is safe while the data has every row that the table counted. Data that only
grows keeps it safe, so what matters is the steps that put other data in place
(`safe_step_iff`): with one section, each of these must bring at least as many rows as
were counted (`OneSection.safe_iff_refills`). A table that counted something else than the
data has is still going to load again when whoever changes the data owes a reload
(`counted_of_run`).
-/

/-- The counts have a row at an index path. -/
def TableCounts.HasRow (counts : List Nat) (part row : Nat) : Prop :=
  ∃ rows ∈ counts[part]?, row < rows

/-- The first counts have every row that the second have. -/
def TableCounts.Covers (counts known : List Nat) : Prop :=
  ∀ part row, HasRow known part row → HasRow counts part row

namespace TableCounts

variable {counts known other : List Nat}

theorem covers_refl (counts : List Nat) : Covers counts counts :=
  fun _ _ has => has

theorem Covers.trans (covers : Covers counts other) (covered : Covers other known) :
    Covers counts known :=
  fun part row has => covers part row (covered part row has)

theorem covers_nil (counts : List Nat) : Covers counts [] := by
  rintro part row ⟨rows, counted, -⟩
  cases counted

/-- Sections that are added take no row away. -/
theorem covers_append (counts more : List Nat) : Covers (counts ++ more) counts := by
  rintro part row ⟨rows, counted, within⟩
  have inside : part < counts.length := (List.getElem?_eq_some_iff.mp counted).choose
  exact ⟨rows, (List.getElem?_append_left inside).trans counted, within⟩

/-- A section that grows takes no row away. -/
theorem covers_grown (before after : List Nat) {rows more : Nat} (grows : rows ≤ more) :
    Covers (before ++ more :: after) (before ++ rows :: after) := by
  rintro part row ⟨counted, isCounted, within⟩
  rcases Nat.lt_trichotomy part before.length with inside | here | beyond
  · rw [List.getElem?_append_left inside] at isCounted
    exact ⟨counted, (List.getElem?_append_left inside).trans isCounted, within⟩
  · subst here
    rw [List.getElem?_append_right (Nat.le_refl _), Nat.sub_self] at isCounted
    cases isCounted
    refine ⟨more, ?_, Nat.lt_of_lt_of_le within grows⟩
    rw [List.getElem?_append_right (Nat.le_refl _), Nat.sub_self]
    rfl
  · obtain ⟨distance, isDistance⟩ := Nat.exists_eq_add_of_lt beyond
    have later : part - before.length = distance + 1 := by omega
    rw [List.getElem?_append_right (Nat.le_of_lt beyond), later] at isCounted
    refine ⟨counted, ?_, within⟩
    rw [List.getElem?_append_right (Nat.le_of_lt beyond), later]
    exact isCounted

/-- One section covers one that counts no more rows. -/
theorem covers_single_iff {rows : Nat} (single : known.length ≤ 1) :
    Covers [rows] known ↔ ∀ counted ∈ known, counted ≤ rows := by
  match known, single with
  | [], _ => exact iff_of_true (covers_nil _) fun _ member => by cases member
  | [counted], _ =>
      rw [List.forall_mem_singleton]
      constructor
      · intro covers
        by_contra more
        obtain ⟨there, isThere, within⟩ := covers 0 rows ⟨counted, rfl, Nat.lt_of_not_le more⟩
        cases isThere
        exact Nat.lt_irrefl _ within
      · exact fun fewer => covers_grown [] [] fewer

end TableCounts

/-- What a table shows: the data, the counts of the last load, if there was one, and the
reloads that wait on the main queue. -/
structure TableScreen (Data : Type*) where
  data : Data
  counted : Option (List Nat) := none
  reloads : Nat := 0

/-- The data changes, the table loads when it is laid out for the first time, and a reload
that waits is carried out. -/
inductive TableEvent (Event : Type*)
  | data (event : Event)
  | layout
  | reload

/-- Data that changes step by step, how many rows its sections have, and how many reloads a
step puts on the main queue. -/
structure TableSource (Data Event : Type*) where
  step : Data → Event → Option Data
  counts : Data → List Nat
  reloads : Data → Event → Data → Nat

namespace TableScreen

variable {Data Event : Type*} (source : TableSource Data Event)

/-- The screen after an event of the data, the first layout, or a reload that waits. -/
def step (screen : TableScreen Data) : TableEvent Event → Option (TableScreen Data)
  | .data event =>
      (source.step screen.data event).map fun next =>
        { screen with
          data := next
          reloads := screen.reloads + source.reloads screen.data event next }
  | .layout =>
      some { screen with
        counted := some (screen.counted.getD (source.counts screen.data)) }
  | .reload =>
      if 0 < screen.reloads then
        some { screen with
          counted := some (source.counts screen.data)
          reloads := screen.reloads - 1 }
      else none

/-- The data has every row that the table counted. -/
def Safe (screen : TableScreen Data) : Prop :=
  ∀ counted ∈ screen.counted, TableCounts.Covers (source.counts screen.data) counted

/-- The table counted what the data has. -/
def Current (screen : TableScreen Data) : Prop :=
  ∀ counted ∈ screen.counted, counted = source.counts screen.data

variable {source} {screen next : TableScreen Data} {event : TableEvent Event}

/-- What a step does: the data changes and the counts stay, or the table counts the data. -/
theorem step_cases (taken : step source screen event = some next) :
    (∃ change, event = .data change ∧ source.step screen.data change = some next.data ∧
        next.counted = screen.counted ∧
        next.reloads = screen.reloads + source.reloads screen.data change next.data) ∨
      ((∀ change, event ≠ .data change) ∧ next.data = screen.data ∧
        (next.counted = some (source.counts screen.data) ∨
          (next.counted = screen.counted ∧ next.reloads = screen.reloads))) := by
  cases event with
  | data change =>
      obtain ⟨data, changed, rfl⟩ := Option.map_eq_some_iff.mp taken
      exact .inl ⟨change, rfl, changed, rfl, rfl⟩
  | layout =>
      cases taken
      refine .inr ⟨(fun _ isData => by cases isData), rfl, ?_⟩
      cases counted : screen.counted with
      | none => exact .inl rfl
      | some known => exact .inr ⟨rfl, rfl⟩
  | reload =>
      simp only [step] at taken
      split at taken
      · cases taken
        exact .inr ⟨(fun _ isData => by cases isData), rfl, .inl rfl⟩
      · cases taken

/-- An invariant of the data is one of a table over it. -/
theorem data_of_run (inv : Data → Prop) {start : Data} {events : List (TableEvent Event)}
    (initial : inv start)
    (preserved : ∀ data change after, inv data → source.step data change = some after → inv after)
    (reached : EventRun.runFrom (step source) { data := start } events = some screen) :
    inv screen.data := by
  refine EventRun.invariant_state (fun screen => inv screen.data) initial ?_ reached
  intro state event after holds taken
  rcases step_cases taken with ⟨change, -, changed, -, -⟩ | ⟨-, same, -⟩
  · exact preserved _ change _ holds changed
  · exact same ▸ holds

/-- Every count of the table was a count of the data. -/
theorem counted_of_data {inv : List Nat → Prop} {start : Data} {events : List (TableEvent Event)}
    (initial : inv (source.counts start))
    (preserved : ∀ data change after, inv (source.counts data) →
      source.step data change = some after → inv (source.counts after))
    (reached : EventRun.runFrom (step source) { data := start } events = some screen) :
    ∀ counted ∈ screen.counted, inv counted := by
  refine (EventRun.invariant_state (fun screen => inv (source.counts screen.data) ∧
    ∀ counted ∈ screen.counted, inv counted) ⟨initial, fun _ member => by cases member⟩
    ?_ reached).2
  rintro state event after ⟨now, before⟩ taken
  rcases step_cases taken with ⟨change, -, changed, kept, -⟩ | ⟨-, same, loads | ⟨kept, -⟩⟩
  · exact ⟨preserved _ change _ now changed, kept ▸ before⟩
  · refine ⟨same ▸ now, ?_⟩
    rw [loads]
    exact fun counted member => Option.some.inj member ▸ now
  · exact ⟨same ▸ now, kept ▸ before⟩

/-- A safe table stays safe exactly when the data that takes the place of the old has every
row the table counted; data that covers the old always does. -/
theorem safe_step_iff (safe : screen.Safe source) (taken : step source screen event = some next) :
    next.Safe source ↔ ∀ change, event = .data change →
      ¬ TableCounts.Covers (source.counts next.data) (source.counts screen.data) →
        ∀ counted ∈ screen.counted, TableCounts.Covers (source.counts next.data) counted := by
  rcases step_cases taken with ⟨change, rfl, -, kept, -⟩ | ⟨loads, same, counts⟩
  · constructor
    · exact fun after _ _ _ counted member => after counted (kept.symm ▸ member)
    · intro covered counted member
      rw [kept] at member
      by_cases grows : TableCounts.Covers (source.counts next.data) (source.counts screen.data)
      · exact grows.trans (safe counted member)
      · exact covered change rfl grows counted member
  · refine iff_of_true (fun counted member => ?_) fun change isData => absurd isData (loads change)
    rw [same]
    rcases counts with isCounts | ⟨kept, -⟩
    · rw [isCounts] at member
      exact Option.some.inj member ▸ TableCounts.covers_refl _
    · exact safe counted (kept ▸ member)

/-- When each step that changes the counts puts a reload on the queue or owes one, and a
debt is kept or paid with a reload, then a table is current unless a reload is owed or
waits. -/
theorem counted_of_run {owes : Data → Prop} {start : Data} {events : List (TableEvent Event)}
    (changes : ∀ data change after, source.step data change = some after →
      source.counts after = source.counts data ∨ owes after ∨ 0 < source.reloads data change after)
    (keeps : ∀ data change after, source.step data change = some after → owes data →
      owes after ∨ 0 < source.reloads data change after)
    (reached : EventRun.runFrom (step source) { data := start } events = some screen) :
    screen.Current source ∨ owes screen.data ∨ 0 < screen.reloads := by
  refine EventRun.invariant_state
    (fun screen => screen.Current source ∨ owes screen.data ∨ 0 < screen.reloads)
    (.inl fun _ member => by cases member) ?_ reached
  intro state event after holds taken
  rcases step_cases taken with ⟨change, -, changed, kept, queued⟩ | ⟨-, same, counts⟩
  · have waits : 0 < source.reloads state.data change after.data ∨ 0 < state.reloads →
        0 < after.reloads := by omega
    rcases holds with current | debt | waiting
    · rcases changes _ change _ changed with sameCounts | owed | pays
      · refine .inl fun counted member => ?_
        rw [sameCounts]
        exact current counted (kept ▸ member)
      · exact .inr (.inl owed)
      · exact .inr (.inr (waits (.inl pays)))
    · rcases keeps _ change _ changed debt with owed | pays
      · exact .inr (.inl owed)
      · exact .inr (.inr (waits (.inl pays)))
    · exact .inr (.inr (waits (.inr waiting)))
  · rcases counts with isCounts | ⟨kept, sameReloads⟩
    · refine .inl fun counted member => ?_
      rw [isCounts] at member
      exact same ▸ (Option.some.inj member).symm
    · rw [sameReloads, same]
      rcases holds with current | rest
      · refine .inl fun counted member => ?_
        rw [same]
        exact current counted (kept ▸ member)
      · exact .inr rest

/-- Where nothing is owed and nothing waits, the table is current. -/
theorem current_of_paid {owes : Data → Prop} {start : Data} {events : List (TableEvent Event)}
    (changes : ∀ data change after, source.step data change = some after →
      source.counts after = source.counts data ∨ owes after ∨ 0 < source.reloads data change after)
    (keeps : ∀ data change after, source.step data change = some after → owes data →
      owes after ∨ 0 < source.reloads data change after)
    (reached : EventRun.runFrom (step source) { data := start } events = some screen)
    (paid : ¬ owes screen.data) (reloaded : screen.reloads = 0) : screen.Current source := by
  rcases counted_of_run changes keeps reached with current | owed | waiting
  · exact current
  · exact absurd owed paid
  · omega

/-- A first page has at least as many rows as the table counted. -/
def Refills (first : Event → Option Nat) (screen : TableScreen Data) (event : TableEvent Event) :
    Prop :=
  ∀ change rows, event = .data change → first change = some rows →
    ∀ counted ∈ screen.counted, ∀ known ∈ counted, known ≤ rows

/-- Data in at most one section: an event puts a first page of so many rows in place of all
rows, or takes no row away. -/
structure OneSection (source : TableSource Data Event) (first : Event → Option Nat) : Prop where
  replaces : ∀ data change after rows, source.step data change = some after →
    first change = some rows → source.counts after = [rows]
  grows : ∀ data change after, source.step data change = some after → first change = none →
    (source.counts data).length ≤ 1 → (source.counts after).length ≤ 1 ∧
      TableCounts.Covers (source.counts after) (source.counts data)

namespace OneSection

variable {first : Event → Option Nat}

/-- Data of one section at most goes on having one at most. -/
theorem single_of_step (one : OneSection source first) {data after : Data} {change : Event}
    (single : (source.counts data).length ≤ 1) (changed : source.step data change = some after) :
    (source.counts after).length ≤ 1 := by
  cases page : first change with
  | none => exact (one.grows _ _ _ changed page single).1
  | some rows => rw [one.replaces _ _ _ _ changed page, List.length_singleton]

/-- **No row is missing** that a table of one section asks for exactly when each first page
has at least as many rows as the table counted. -/
theorem safe_iff_refills (one : OneSection source first) {start : Data}
    (single : (source.counts start).length ≤ 1) (events : List (TableEvent Event)) :
    EventRun.EachState (step source) (Safe source) { data := start } events ↔
      EventRun.EachStep (step source) (Refills first) { data := start } events := by
  refine EventRun.eachState_iff_eachStep
    (fun before screen => EventRun.runFrom (step source) { data := start } before = some screen)
    (fun _ member => by cases member) rfl ?_ ?_
  · intro before event state next _ reached taken
    rw [EventRun.runFrom_concat, reached]
    exact taken
  · intro before event state next _ reached safe taken
    have countedSingle : ∀ counted ∈ state.counted, counted.length ≤ 1 :=
      counted_of_data single (fun _ _ _ single changed => one.single_of_step single changed) reached
    constructor
    · rintro after change rows rfl page counted member
      obtain ⟨data, changed, rfl⟩ := Option.map_eq_some_iff.mp taken
      have covers : TableCounts.Covers (source.counts data) counted := after counted member
      rw [one.replaces _ _ _ _ changed page] at covers
      exact (TableCounts.covers_single_iff (countedSingle counted member)).mp covers
    · intro refills
      refine (safe_step_iff safe taken).mpr ?_
      rintro change rfl shrinks counted member
      obtain ⟨data, changed, rfl⟩ := Option.map_eq_some_iff.mp taken
      cases page : first change with
      | none =>
          have now := data_of_run (fun data => (source.counts data).length ≤ 1) single
            (fun _ _ _ single changed => one.single_of_step single changed) reached
          exact absurd (one.grows _ _ _ changed page now).2 shrinks
      | some rows =>
          have covers : TableCounts.Covers [rows] counted :=
            (TableCounts.covers_single_iff (countedSingle counted member)).mpr
              (refills change rows rfl page counted member)
          rw [← one.replaces _ _ _ _ changed page] at covers
          exact covers

end OneSection

end TableScreen
