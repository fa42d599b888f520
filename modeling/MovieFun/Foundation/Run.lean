import Mathlib.Data.List.DropRight
import Mathlib.Data.List.Induction

/-!
# Runs of deterministic event systems

A system is a step function that may refuse an event. A run feeds it a list of
events and keeps the last state, or nothing once an event was refused. Facts
about runs are read off their initial segments: `EachState` speaks of every
state a run passes through, `EachStep` of every transition it takes, and
`EachPoint` and `EachTransition` of the same with the events so far, and
`EachAttempt` of every event that comes up.
-/

namespace EventRun

variable {State Event : Type*} (step : State → Event → Option State)

/-- The state reached by a list of events, if none of them is refused. -/
def runFrom : State → List Event → Option State
  | state, [] => some state
  | state, event :: events => (step state event).bind fun next => runFrom next events

@[simp] theorem runFrom_nil (state : State) : runFrom step state [] = some state := rfl

/-- A run over two lists of events runs over the first, then over the second. -/
theorem runFrom_append (state : State) (first second : List Event) :
    runFrom step state (first ++ second) =
      (runFrom step state first).bind fun middle => runFrom step middle second := by
  induction first generalizing state with
  | nil => rfl
  | cons event first ih =>
      simp only [List.cons_append, runFrom]
      cases step state event with
      | none => rfl
      | some next => exact ih next

/-- A run with one more event takes one more step. -/
theorem runFrom_concat (state : State) (events : List Event) (event : Event) :
    runFrom step state (events ++ [event]) =
      (runFrom step state events).bind fun middle => step middle event := by
  rw [runFrom_append]
  cases runFrom step state events with
  | none => rfl
  | some middle =>
      simp only [Option.bind_some, runFrom]
      cases step middle event with
      | none => rfl
      | some next => rfl

/-- A run that begins with `event` splits after its first transition. -/
theorem runFrom_cons_eq_some {state last : State} {event : Event} {events : List Event}
    (run : runFrom step state (event :: events) = some last) :
    ∃ next, step state event = some next ∧ runFrom step next events = some last :=
  Option.bind_eq_some_iff.mp run

/-- A run splits at any point of its events. -/
theorem runFrom_append_eq_some {state last : State} {first second : List Event}
    (run : runFrom step state (first ++ second) = some last) :
    ∃ middle, runFrom step state first = some middle ∧ runFrom step middle second = some last := by
  rw [runFrom_append, Option.bind_eq_some_iff] at run
  exact run

/-- A run that ends with `event` splits at its last transition. -/
theorem runFrom_concat_eq_some {state last : State} {events : List Event} {event : Event}
    (run : runFrom step state (events ++ [event]) = some last) :
    ∃ middle, runFrom step state events = some middle ∧ step middle event = some last := by
  rw [runFrom_concat, Option.bind_eq_some_iff] at run
  exact run

/-- A run whose events are never refused ends somewhere. -/
theorem runFrom_isSome {events : List Event}
    (accepted : ∀ event ∈ events, ∀ state, (step state event).isSome) (state : State) :
    (runFrom step state events).isSome := by
  induction events generalizing state with
  | nil => rfl
  | cons event events ih =>
      obtain ⟨next, taken⟩ := Option.isSome_iff_exists.mp (accepted event List.mem_cons_self state)
      rw [runFrom, taken]
      exact ih (fun later member => accepted later (List.mem_cons_of_mem _ member)) next

/-- Every state the run passes through, its first and last included. -/
def EachState (holds : State → Prop) (start : State) (events : List Event) : Prop :=
  ∀ before, before <+: events → ∀ state, runFrom step start before = some state → holds state

/-- Every transition the run takes. -/
def EachStep (allowed : State → Event → Prop) (start : State) (events : List Event) : Prop :=
  ∀ before event, before ++ [event] <+: events → ∀ state next,
    runFrom step start before = some state → step state event = some next → allowed state event

/-- Every point of the run: the events so far and the state they lead to. -/
def EachPoint (holds : List Event → State → Prop) (start : State) (events : List Event) : Prop :=
  ∀ before, before <+: events → ∀ state, runFrom step start before = some state →
    holds before state

/-- Every transition the run takes, with the events before it. -/
def EachTransition (allowed : List Event → State → Event → Prop) (start : State)
    (events : List Event) : Prop :=
  ∀ before event, before ++ [event] <+: events → ∀ state next,
    runFrom step start before = some state → step state event = some next →
      allowed before state event

/-- Every event of the run, taken or refused, with the events before it. -/
def EachAttempt (allowed : List Event → State → Event → Prop) (start : State)
    (events : List Event) : Prop :=
  ∀ before event, before ++ [event] <+: events → ∀ state,
    runFrom step start before = some state → allowed before state event

/-- What holds at every point of a run begins at its first event. -/
theorem forall_prefix_cons {holds : List Event → Event → Prop} {first : Event}
    {events : List Event} (atFirst : holds [] first)
    (later : ∀ before event, before ++ [event] <+: events → holds (first :: before) event) :
    ∀ before event, before ++ [event] <+: first :: events → holds before event := by
  intro before event inside
  cases before with
  | nil =>
      obtain ⟨same, -⟩ := List.cons_prefix_cons.mp inside
      exact same ▸ atFirst
  | cons earlier before =>
      obtain ⟨rfl, within⟩ := List.cons_prefix_cons.mp inside
      exact later before event within

/-- The points of a run are the positions of its events. -/
theorem forall_prefix_of_positions {holds : List Event → Event → Prop} {events : List Event}
    (atPosition : ∀ index, (inside : index < events.length) →
      holds (events.take index) events[index]) :
    ∀ before event, before ++ [event] <+: events → holds before event := by
  rintro before event ⟨rest, rfl⟩
  have inside : before.length < (before ++ [event] ++ rest).length := by simp
  have here := atPosition before.length inside
  simpa using here

/-- What the last of the events that has an answer answers. -/
def last {α : Type*} (answer : Event → Option α) (events : List Event) : Option α :=
  events.reverse.findSome? answer

@[simp] theorem last_concat {α : Type*} (answer : Event → Option α) (events : List Event)
    (event : Event) :
    last answer (events ++ [event]) = (answer event).or (last answer events) := by
  rw [last, List.reverse_concat, List.findSome?_cons]
  cases answer event <;> rfl

/-- An event without an answer adds none. -/
theorem filterMap_concat_none {α : Type*} {answer : Event → Option α} {events : List Event}
    {event : Event} (silent : answer event = none) :
    (events ++ [event]).filterMap answer = events.filterMap answer := by
  rw [List.filterMap_append, List.filterMap_cons_none silent, List.filterMap_nil, List.append_nil]

/-- An event that has an answer gives the events one. -/
theorem isSome_last {α : Type*} {answer : Event → Option α} {events : List Event} {event : Event}
    (member : event ∈ events) (answers : (answer event).isSome) : (last answer events).isSome := by
  rw [last, List.findSome?_isSome_iff]
  exact ⟨event, List.mem_reverse.mpr member, answers⟩

/-- What the last of the events that has an answer answers, when an answer may
depend on the events before. The events are given last first. -/
def lastRev {α : Type*} (answer : List Event → Event → Option α) : List Event → Option α
  | [] => none
  | event :: earlier => (answer earlier.reverse event).or (lastRev answer earlier)

/-- The same for events in their order. -/
def lastAt {α : Type*} (answer : List Event → Event → Option α) (events : List Event) : Option α :=
  lastRev answer events.reverse

@[simp] theorem lastAt_concat {α : Type*} (answer : List Event → Event → Option α)
    (events : List Event) (event : Event) :
    lastAt answer (events ++ [event]) = (answer events event).or (lastAt answer events) := by
  rw [lastAt, List.reverse_concat, lastRev, List.reverse_reverse, lastAt]

/-- The events up to the last one of a kind. -/
def upTo (kind : Event → Bool) (events : List Event) : List Event :=
  events.rdropWhile fun event => !kind event

@[simp] theorem upTo_concat (kind : Event → Bool) (events : List Event) (event : Event) :
    upTo kind (events ++ [event]) =
      if kind event then events ++ [event] else upTo kind events := by
  rw [upTo, List.rdropWhile_concat]
  cases kind event <;> rfl

variable {step}

/-- An invariant, which may mention the events so far, holds at the end of a
run when each transition of the run preserves it. -/
theorem invariant (inv : List Event → State → Prop) {start : State} {events : List Event}
    (initial : inv [] start)
    (preserved : ∀ before event state next, before ++ [event] <+: events → inv before state →
      step state event = some next → inv (before ++ [event]) next)
    {state : State} (run : runFrom step start events = some state) : inv events state := by
  induction events using List.reverseRecOn generalizing state with
  | nil =>
      rw [runFrom_nil, Option.some.injEq] at run
      exact run ▸ initial
  | append_singleton events event ih =>
      obtain ⟨middle, reached, taken⟩ := runFrom_concat_eq_some step run
      refine preserved events event middle state List.prefix_rfl ?_ taken
      refine ih (fun before event state next inside => ?_) reached
      exact preserved before event state next (inside.trans (List.prefix_append ..))

/-- The state invariant of a run, without reference to the events. -/
theorem invariant_state (inv : State → Prop) {start : State} {events : List Event}
    (initial : inv start)
    (preserved : ∀ state event next, inv state → step state event = some next → inv next)
    {state : State} (run : runFrom step start events = some state) : inv state := by
  have always : (fun (_ : List Event) => inv) events state :=
    invariant _ initial (fun _ event state next _ => preserved state event next) run
  exact always

/-- A part of the state that events either set or leave is what the last event that
sets it has set. -/
theorem value_eq_last {α : Type*} {value : State → α} {sets : Event → Option α}
    (inv : State → Prop) {start state : State} {events : List Event} (initial : inv start)
    (preserved : ∀ state event next, inv state → step state event = some next → inv next)
    (written : ∀ state event next, inv state → step state event = some next →
      value next = (sets event).getD (value state))
    (run : runFrom step start events = some state) :
    value state = (last sets events).getD (value start) := by
  have both : inv state ∧ value state = (last sets events).getD (value start) := by
    refine invariant
      (fun before state => inv state ∧ value state = (last sets before).getD (value start))
      ⟨initial, rfl⟩ ?_ run
    rintro before event state next - ⟨holds, recorded⟩ taken
    refine ⟨preserved state event next holds taken, ?_⟩
    rw [written state event next holds taken, recorded, last_concat]
    cases sets event <;> rfl
  exact both.2

/-- A flag that starts out lowered is lowered exactly when the last event that sets it
did not raise it. -/
theorem flag_eq_false_iff (flag : State → Bool) {sets : Event → Option Bool} (inv : State → Prop)
    {start state : State} {events : List Event} (initial : inv start)
    (preserved : ∀ state event next, inv state → step state event = some next → inv next)
    (written : ∀ state event next, inv state → step state event = some next →
      flag next = (sets event).getD (flag state))
    (lowered : flag start = false) (run : runFrom step start events = some state) :
    flag state = false ↔ last sets events ≠ some true := by
  rw [value_eq_last inv initial preserved written run, lowered]
  cases last sets events with
  | none => exact iff_of_true rfl fun isTrue => by cases isTrue
  | some value => cases value <;> simp

/-- Two properties of the points of a run agree when they agree at each point. -/
theorem eachPoint_congr {holds permitted : List Event → State → Prop} {start : State}
    {events : List Event}
    (same : ∀ before state, runFrom step start before = some state →
      (holds before state ↔ permitted before state)) :
    EachPoint step holds start events ↔ EachPoint step permitted start events := by
  constructor
  · exact fun always before inside state reached =>
      (same before state reached).mp (always before inside state reached)
  · exact fun always before inside state reached =>
      (same before state reached).mpr (always before inside state reached)

/-- Two conditions on what the run attempts agree when they agree at each attempt of it. -/
theorem eachAttempt_congr_within {allowed permitted : List Event → State → Event → Prop}
    {start : State} {events : List Event}
    (same : ∀ before state event, before ++ [event] <+: events →
      runFrom step start before = some state →
        (allowed before state event ↔ permitted before state event)) :
    EachAttempt step allowed start events ↔ EachAttempt step permitted start events := by
  constructor
  · exact fun always before event inside state reached =>
      (same before state event inside reached).mp (always before event inside state reached)
  · exact fun always before event inside state reached =>
      (same before state event inside reached).mpr (always before event inside state reached)

/-- The same where the rest of the run does not matter. -/
theorem eachAttempt_congr {allowed permitted : List Event → State → Event → Prop} {start : State}
    {events : List Event}
    (same : ∀ before state event, runFrom step start before = some state →
      (allowed before state event ↔ permitted before state event)) :
    EachAttempt step allowed start events ↔ EachAttempt step permitted start events :=
  eachAttempt_congr_within fun before state event _ => same before state event

/-- Two conditions on transitions are met by the same runs when an invariant of the
states makes them the same. -/
theorem eachStep_congr {allowed permitted : State → Event → Prop} (inv : State → Prop)
    {start : State} {events : List Event} (initial : inv start)
    (preserved : ∀ state event next, inv state → step state event = some next → inv next)
    (same : ∀ state event next, inv state → step state event = some next →
      (allowed state event ↔ permitted state event)) :
    EachStep step allowed start events ↔ EachStep step permitted start events := by
  have always : ∀ before state, runFrom step start before = some state → inv state :=
    fun before state reached => invariant_state inv initial preserved reached
  constructor
  · intro holds before event inside state next reached taken
    exact (same state event next (always before state reached) taken).mp
      (holds before event inside state next reached taken)
  · intro holds before event inside state next reached taken
    exact (same state event next (always before state reached) taken).mpr
      (holds before event inside state next reached taken)

/-- When, from a point where the property holds, a transition keeps it exactly
if the transition is allowed, a run keeps the property throughout exactly if all
its transitions are allowed. -/
theorem eachPoint_iff_eachTransition {holds : List Event → State → Prop}
    {allowed : List Event → State → Event → Prop} (inv : List Event → State → Prop)
    {start : State} {events : List Event} (first : holds [] start) (initial : inv [] start)
    (preserved : ∀ before event state next, before ++ [event] <+: events → inv before state →
      step state event = some next → inv (before ++ [event]) next)
    (exact : ∀ before event state next, before ++ [event] <+: events → inv before state →
      holds before state → step state event = some next →
        (holds (before ++ [event]) next ↔ allowed before state event)) :
    EachPoint step holds start events ↔ EachTransition step allowed start events := by
  have invariants : ∀ before, before <+: events → ∀ state,
      runFrom step start before = some state → inv before state := by
    intro before inside state reached
    refine invariant inv initial (fun earlier event state next within => ?_) reached
    exact preserved earlier event state next (within.trans inside)
  constructor
  · intro always before event inside state next reached taken
    have earlier : before <+: events := (List.prefix_append before [event]).trans inside
    have after : runFrom step start (before ++ [event]) = some next := by
      rw [runFrom_concat, reached, Option.bind_some, taken]
    exact (exact before event state next inside (invariants before earlier state reached)
      (always before earlier state reached) taken).mp (always _ inside next after)
  · intro allowedSteps before inside state reached
    induction before using List.reverseRecOn generalizing state with
    | nil =>
        rw [runFrom_nil, Option.some.injEq] at reached
        exact reached ▸ first
    | append_singleton before event ih =>
        obtain ⟨middle, run, taken⟩ := runFrom_concat_eq_some step reached
        have earlier : before <+: events := (List.prefix_append before [event]).trans inside
        exact (exact before event middle state inside (invariants before earlier middle run)
          (ih earlier middle run) taken).mpr
            (allowedSteps before event inside middle state run taken)

/-- The same for a property of states and a condition that does not look at the
events before. -/
theorem eachState_iff_eachStep {holds : State → Prop} {allowed : State → Event → Prop}
    (inv : List Event → State → Prop) {start : State} {events : List Event}
    (first : holds start) (initial : inv [] start)
    (preserved : ∀ before event state next, before ++ [event] <+: events → inv before state →
      step state event = some next → inv (before ++ [event]) next)
    (exact : ∀ before event state next, before ++ [event] <+: events → inv before state →
      holds state → step state event = some next → (holds next ↔ allowed state event)) :
    EachState step holds start events ↔ EachStep step allowed start events := by
  have points : EachPoint step (fun _ => holds) start events ↔
      EachTransition step (fun _ => allowed) start events :=
    eachPoint_iff_eachTransition inv first initial preserved exact
  exact points

/-- The same where exactness needs more than the property, which the property itself keeps up
on the way. -/
theorem eachState_iff_eachStep_of_strong {holds strong : State → Prop}
    {allowed : State → Event → Prop} {start : State} {events : List Event} (first : strong start)
    (weaken : ∀ state, strong state → holds state)
    (kept : ∀ state event next, strong state → step state event = some next → holds next →
      strong next)
    (exact : ∀ state event next, strong state → step state event = some next →
      (holds next ↔ allowed state event)) :
    EachState step holds start events ↔ EachStep step allowed start events := by
  have stronger : EachState step holds start events ↔ EachState step strong start events := by
    constructor
    · intro always before inside state reached
      induction before using List.reverseRecOn generalizing state with
      | nil =>
          rw [runFrom_nil, Option.some.injEq] at reached
          exact reached ▸ first
      | append_singleton before event ih =>
          obtain ⟨middle, run, taken⟩ := runFrom_concat_eq_some step reached
          have earlier : before <+: events := (List.prefix_append before [event]).trans inside
          exact kept middle event state (ih earlier middle run) taken
            (always _ inside state reached)
    · exact fun always before inside state reached =>
        weaken state (always before inside state reached)
  rw [stronger]
  apply eachState_iff_eachStep (fun _ _ => True) first trivial fun _ _ _ _ _ _ _ => trivial
  intro _ event state next _ _ isStrong taken
  constructor
  · exact fun after => (exact state event next isStrong taken).mp (weaken next after)
  · exact fun permitted =>
      kept state event next isStrong taken ((exact state event next isStrong taken).mpr permitted)

end EventRun
