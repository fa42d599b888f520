import MovieFun.Foundation.Run

/-!
# A part of a system, run by its share of the events

A system of several parties takes one list of events. When each of its steps is
either a step of one party or leaves that party as it is, a run of the system is a
run of the party by the events that concern it (`Projects.run`), and what the party
is owed at each of these events is read off the system (`owed_of_run`).
-/

namespace EventRun

variable {State Event Part Label : Type*} {step : State → Event → Option State}
  {partStep : Part → Label → Option Part} {part : State → Part} {label : Event → Option Label}

/-- A step with a label is a step of the part, and one without a label leaves it. -/
structure Projects (step : State → Event → Option State) (partStep : Part → Label → Option Part)
    (part : State → Part) (label : Event → Option Label) : Prop where
  moves : ∀ state event next own, step state event = some next → label event = some own →
    partStep (part state) own = some (part next)
  stays : ∀ state event next, step state event = some next → label event = none →
    part next = part state

/-- The events with a label, up to one of them, are those of an initial segment. -/
theorem exists_prefix_of_filterMap {events : List Event} {before : List Label} {own : Label}
    (inside : before ++ [own] <+: events.filterMap label) :
    ∃ earlier event, earlier ++ [event] <+: events ∧ label event = some own ∧
      earlier.filterMap label = before := by
  obtain ⟨whole, within, same⟩ := List.prefix_filterMap_iff.mp inside
  obtain ⟨first, second, rfl, isBefore, isOwn⟩ := List.filterMap_eq_append_iff.mp same.symm
  obtain ⟨silent, event, rest, rfl, allSilent, isLabel, -⟩ := List.filterMap_eq_cons_iff.mp isOwn
  refine ⟨first ++ silent, event, ?_, isLabel, ?_⟩
  · refine List.IsPrefix.trans ⟨rest, ?_⟩ within
    simp only [List.append_assoc, List.singleton_append]
  · rw [List.filterMap_append, isBefore, List.filterMap_eq_nil_iff.mpr allSilent, List.append_nil]

/-- What every step with a label guarantees, the part finds at each of its events. -/
theorem owed_of_run {owes : List Label → Label → Prop} {start state : State} {events : List Event}
    (reached : runFrom step start events = some state)
    (guaranteed : ∀ earlier event later, earlier ++ event :: later = events → ∀ middle next own,
      runFrom step start earlier = some middle → step middle event = some next →
        runFrom step next later = some state → label event = some own →
          owes (earlier.filterMap label) own) :
    ∀ before own, before ++ [own] <+: events.filterMap label → owes before own := by
  intro before own inside
  obtain ⟨earlier, event, ⟨later, split⟩, isLabel, rfl⟩ := exists_prefix_of_filterMap inside
  have whole : earlier ++ event :: later = events := by
    rw [← split, List.append_assoc, List.singleton_append]
  rw [← whole] at reached
  obtain ⟨middle, run, rest⟩ := runFrom_append_eq_some step reached
  obtain ⟨next, taken, toEnd⟩ := runFrom_cons_eq_some step rest
  exact guaranteed earlier event later whole middle next own run taken toEnd isLabel

namespace Projects

/-- A run of the system is a run of the part. -/
theorem run (projects : Projects step partStep part label) {start state : State}
    {events : List Event} (reached : runFrom step start events = some state) :
    runFrom partStep (part start) (events.filterMap label) = some (part state) := by
  induction events using List.reverseRecOn generalizing state with
  | nil =>
      cases reached
      rfl
  | append_singleton events event ih =>
      obtain ⟨middle, run, taken⟩ := runFrom_concat_eq_some step reached
      cases isLabel : label event with
      | none =>
          rw [filterMap_concat_none isLabel, ih run, projects.stays _ _ _ taken isLabel]
      | some own =>
          rw [List.filterMap_append, List.filterMap_cons_some isLabel, List.filterMap_nil,
            runFrom_concat, ih run]
          exact projects.moves _ _ _ _ taken isLabel

end Projects

end EventRun
