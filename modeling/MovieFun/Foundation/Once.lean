import MovieFun.Foundation.Run

/-!
# What a run came through

A run came through a state with a property when one of its initial segments leads to such
a state. What a run came through it came through however it goes on. A state is attained by
allowed steps when a run that takes no others ends in it.
-/

namespace EventRun

variable {State Event : Type*} (step : State → Event → Option State)

/-- The run came through a state with the property, its first and last included. -/
def Once (holds : State → Prop) (start : State) (events : List Event) : Prop :=
  ∃ before, before <+: events ∧ ∃ state, runFrom step start before = some state ∧ holds state

variable {step} {start state : State} {events : List Event} {holds other : State → Prop}

/-- What holds at the end of a run held once. -/
theorem once_of_run (run : runFrom step start events = some state) (now : holds state) :
    Once step holds start events :=
  ⟨events, List.prefix_rfl, state, run, now⟩

/-- What held once goes on having done so. -/
theorem Once.concat (once : Once step holds start events) (event : Event) :
    Once step holds start (events ++ [event]) := by
  obtain ⟨before, inside, reached⟩ := once
  exact ⟨before, inside.trans (List.prefix_append ..), reached⟩

/-- A state the run came through has what each of its states has. -/
theorem Once.meets (once : Once step holds start events)
    (each : EachState step other start events) : ∃ earlier, holds earlier ∧ other earlier := by
  obtain ⟨before, inside, earlier, reached, held⟩ := once
  exact ⟨earlier, held, each before inside earlier reached⟩

/-- Two properties of each state hold together. -/
theorem EachState.and (each : EachState step holds start events)
    (also : EachState step other start events) :
    EachState step (fun state => holds state ∧ other state) start events :=
  fun before inside state reached =>
    ⟨each before inside state reached, also before inside state reached⟩

/-- The states a run came through are related to its last one as each step keeps it. -/
theorem eachState_related_of_run (related : State → State → Prop)
    (same : ∀ state, related state state)
    (keeps : ∀ earlier state event next, related earlier state → step state event = some next →
      related earlier next)
    (run : runFrom step start events = some state) :
    EachState step (fun earlier => related earlier state) start events := by
  rintro before ⟨rest, rfl⟩ earlier reached
  rw [runFrom_append, reached, Option.bind_some] at run
  exact invariant_state (related earlier) (same earlier) (keeps earlier) run

/-- A run of allowed steps ends in the state. -/
def Attains (step : State → Event → Option State) (allowed : State → Event → Prop)
    (start state : State) : Prop :=
  ∃ events, runFrom step start events = some state ∧ EachStep step allowed start events

variable {allowed : State → Event → Prop} {event : Event} {next : State}

theorem attains_start : Attains step allowed start start :=
  ⟨[], rfl, fun _ _ inside => absurd (List.prefix_nil.mp inside) (List.concat_ne_nil _ _)⟩

/-- An allowed step leads from an attained state to another. -/
theorem Attains.concat (attains : Attains step allowed start state)
    (taken : step state event = some next) (isAllowed : allowed state event) :
    Attains step allowed start next := by
  obtain ⟨events, run, each⟩ := attains
  refine ⟨events ++ [event], by rw [runFrom_concat, run, Option.bind_some, taken], ?_⟩
  intro before last inside earlier later reached moved
  rcases List.prefix_concat_iff.mp inside with whole | within
  · obtain ⟨rfl, same⟩ := List.append_inj' whole rfl
    cases same
    cases reached.symm.trans run
    exact isAllowed
  · exact each before last within earlier later reached moved

/-- What allowed steps preserve holds of every state they attain. -/
theorem Attains.invariant (inv : State → Prop) (initial : inv start)
    (preserved : ∀ state event next, inv state → allowed state event →
      step state event = some next → inv next)
    (attains : Attains step allowed start state) : inv state := by
  obtain ⟨events, run, each⟩ := attains
  have both : runFrom step start events = some state ∧ inv state := by
    refine EventRun.invariant
      (fun before state => runFrom step start before = some state ∧ inv state) ⟨rfl, initial⟩ ?_ run
    rintro before event state next inside ⟨reached, holds⟩ taken
    exact ⟨by rw [runFrom_concat, reached, Option.bind_some, taken],
      preserved state event next holds (each before event inside state next reached taken) taken⟩
  exact both.2

end EventRun
