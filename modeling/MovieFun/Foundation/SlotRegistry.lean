import Mathlib.Logic.Function.Basic
import MovieFun.Foundation.Run

/-!
# Registries with one slot for each key

A registry hands out registrations under keys and keeps, for each key, the one made
last. Removing a key stops the registration in its slot, and no other. A registration
that is not in the slot of its key can never be stopped: `tight_iff_alternating` says
that no registration is lost exactly when no key is added twice without a removal in
between.
-/

/-- What an addition hands out. `number` is its number in the order of the additions. -/
structure Registration (Key Payload : Type*) where
  key : Key
  number : Nat
  payload : Payload
deriving DecidableEq

/-- The number of additions, the slots, and the registrations that were not stopped. -/
structure SlotRegistry (Key Payload : Type*) where
  made : Nat := 0
  slot : Key → Option Nat := fun _ => none
  live : List (Registration Key Payload) := []

/-- A call of a registry. -/
inductive SlotCall (Key Payload : Type*)
  | add (key : Key) (payload : Payload)
  | remove (key : Key)

namespace SlotRegistry

variable {Key Payload : Type*}

/-- A new registration, which takes the slot of its key whatever was in it. -/
def add [DecidableEq Key] (key : Key) (payload : Payload) (registry : SlotRegistry Key Payload) :
    SlotRegistry Key Payload where
  made := registry.made + 1
  slot := Function.update registry.slot key (some registry.made)
  live := registry.live ++ [{ key, number := registry.made, payload }]

/-- Stop the registration in the slot of a key. -/
def remove (key : Key) (registry : SlotRegistry Key Payload) : SlotRegistry Key Payload :=
  { registry with
    live := registry.live.filter fun registration =>
      registry.slot key ≠ some registration.number }

/-- The registry after a call. -/
def call [DecidableEq Key] (registry : SlotRegistry Key Payload) :
    SlotCall Key Payload → SlotRegistry Key Payload
  | .add key payload => registry.add key payload
  | .remove key => registry.remove key

/-- A key without registrations. -/
def Silent (key : Key) (registry : SlotRegistry Key Payload) : Prop :=
  ∀ registration ∈ registry.live, registration.key ≠ key

/-- No registration of a key is outside its slot. -/
def Sole (key : Key) (registry : SlotRegistry Key Payload) : Prop :=
  ∀ registration ∈ registry.live, registration.key = key →
    registry.slot key = some registration.number

/-- Numbers are handed out once. -/
structure Numbered (registry : SlotRegistry Key Payload) : Prop where
  live : ∀ registration ∈ registry.live, registration.number < registry.made
  slot : ∀ key number, registry.slot key = some number → number < registry.made
  own : ∀ registration ∈ registry.live, ∀ key,
    registry.slot key = some registration.number → registration.key = key

variable {registry : SlotRegistry Key Payload} {key other : Key} {payload : Payload}
  {registration : Registration Key Payload}

/-- A removal removes the registration of the slot and no other. -/
theorem mem_remove : registration ∈ (registry.remove key).live ↔
    registration ∈ registry.live ∧ registry.slot key ≠ some registration.number := by
  rw [remove, List.mem_filter, decide_eq_true_iff]

theorem numbered_empty : Numbered ({} : SlotRegistry Key Payload) where
  live := fun _ member => absurd member List.not_mem_nil
  slot := fun _ _ filled => by cases filled
  own := fun _ member => absurd member List.not_mem_nil

/-- A removal keeps the numbers. -/
theorem Numbered.remove (numbered : Numbered registry) (key : Key) :
    Numbered (registry.remove key) where
  live := fun registration member => numbered.live registration (mem_remove.mp member).1
  slot := numbered.slot
  own := fun registration member => numbered.own registration (mem_remove.mp member).1

/-- A removal leaves no registration of a key outside its slot. -/
theorem Sole.remove (sole : registry.Sole other) (key : Key) : (registry.remove key).Sole other :=
  fun registration member => sole registration (mem_remove.mp member).1

/-- A removal leaves a silent key silent. -/
theorem Silent.remove (silent : registry.Silent other) (key : Key) :
    (registry.remove key).Silent other :=
  fun registration member => silent registration (mem_remove.mp member).1

/-- A removal stops the one registration of its key. -/
theorem Sole.silent_remove (sole : registry.Sole key) : (registry.remove key).Silent key := by
  intro registration member named
  obtain ⟨inside, kept⟩ := mem_remove.mp member
  exact kept (sole registration inside named)

/-- A removal leaves other keys alone. -/
theorem silent_remove_of_ne (numbered : Numbered registry) (different : other ≠ key) :
    (registry.remove key).Silent other ↔ registry.Silent other := by
  refine ⟨fun silent registration member named => ?_, fun silent => silent.remove key⟩
  refine silent registration (mem_remove.mpr ⟨member, fun filled => ?_⟩) named
  exact different (named.symm.trans (numbered.own registration member key filled))

variable [DecidableEq Key]

/-- What is live after a registration is the new one and what was live. -/
theorem mem_add : registration ∈ (registry.add key payload).live ↔
    registration ∈ registry.live ∨ registration = { key, number := registry.made, payload } := by
  rw [add, List.mem_append, List.mem_singleton]

theorem slot_add_self :
    (registry.add key payload).slot key = some registry.made :=
  Function.update_self _ _ _

theorem slot_add_of_ne (different : other ≠ key) :
    (registry.add key payload).slot other = registry.slot other :=
  Function.update_of_ne different _ _

/-- A registration keeps the numbers. -/
theorem Numbered.add (numbered : Numbered registry) (key : Key) (payload : Payload) :
    Numbered (registry.add key payload) := by
  obtain ⟨live, slot, own⟩ := numbered
  constructor
  · intro registration member
    rcases mem_add.mp member with older | rfl
    · exact Nat.lt_succ_of_lt (live registration older)
    · exact Nat.lt_succ_self _
  · intro other number filled
    by_cases same : other = key
    · subst same
      rw [slot_add_self, Option.some.injEq] at filled
      subst filled
      exact Nat.lt_succ_self _
    · rw [slot_add_of_ne same] at filled
      exact Nat.lt_succ_of_lt (slot other number filled)
  · intro registration member other filled
    by_cases same : other = key
    · subst same
      rw [slot_add_self, Option.some.injEq] at filled
      rcases mem_add.mp member with older | rfl
      · exact absurd filled.symm (live registration older).ne
      · rfl
    · rw [slot_add_of_ne same] at filled
      rcases mem_add.mp member with older | rfl
      · exact own registration older other filled
      · exact absurd (slot other _ filled) (lt_irrefl _)

/-- An addition hides what the slot held before. -/
theorem sole_add_iff (numbered : Numbered registry) :
    (registry.add key payload).Sole key ↔ registry.Silent key := by
  constructor
  · intro sole registration member named
    have filled := sole registration (mem_add.mpr (.inl member)) named
    rw [slot_add_self, Option.some.injEq] at filled
    exact absurd filled.symm (numbered.live registration member).ne
  · intro silent registration member named
    rcases mem_add.mp member with older | rfl
    · exact absurd named (silent registration older)
    · exact slot_add_self

/-- A registration for another key does not matter to the slot of a key. -/
theorem sole_add_of_ne (different : other ≠ key) :
    (registry.add key payload).Sole other ↔ registry.Sole other := by
  constructor
  · intro sole registration member named
    rw [← slot_add_of_ne different]
    exact sole registration (mem_add.mpr (.inl member)) named
  · intro sole registration member named
    rw [slot_add_of_ne different]
    rcases mem_add.mp member with older | rfl
    · exact sole registration older named
    · exact absurd named.symm different

theorem not_silent_add : ¬ (registry.add key payload).Silent key := fun silent =>
  silent _ (mem_add.mpr (.inr rfl)) rfl

theorem silent_add_of_ne (different : other ≠ key) :
    (registry.add key payload).Silent other ↔ registry.Silent other := by
  constructor
  · exact fun silent registration member => silent registration (mem_add.mpr (.inl member))
  · intro silent registration member
    rcases mem_add.mp member with older | rfl
    · exact silent registration older
    · exact different.symm

/-- Additions keep what is live, and each makes a registration of its own. -/
theorem live_foldl_add (additions : List (Key × Payload)) (registry : SlotRegistry Key Payload) :
    ∃ added, (additions.foldl (fun registry (key, payload) => registry.add key payload)
        registry).live = registry.live ++ added ∧
      added.map (fun registration => (registration.key, registration.payload)) = additions := by
  induction additions generalizing registry with
  | nil => exact ⟨[], (List.append_nil _).symm, rfl⟩
  | cons addition additions ih =>
      obtain ⟨key, payload⟩ := addition
      obtain ⟨added, live, same⟩ := ih (registry.add key payload)
      refine ⟨{ key, number := registry.made, payload } :: added, ?_, ?_⟩
      · rw [List.foldl_cons, live, add, List.append_assoc, List.singleton_append]
      · rw [List.map_cons, same]

omit [DecidableEq Key] in
/-- Removals make nothing live. -/
theorem mem_of_mem_foldl_remove {keys : List Key}
    (member : registration ∈ (keys.foldl (fun registry key => registry.remove key) registry).live) :
    registration ∈ registry.live := by
  induction keys generalizing registry with
  | nil => exact member
  | cons key keys ih => exact (mem_remove.mp (ih member)).1

section Runs

variable {Event : Type*} (calls : Event → Option (SlotCall Key Payload))

/-- A registry under events, some of which call it. -/
def step (registry : SlotRegistry Key Payload) (event : Event) :
    Option (SlotRegistry Key Payload) :=
  some ((calls event).elim registry registry.call)

/-- Whether a call adds a key or removes it. -/
def touches (key : Key) : SlotCall Key Payload → Option Bool
  | .add named _ => if named = key then some true else none
  | .remove named => if named = key then some false else none

/-- What the last call that touches a key does to it. -/
def lastTouch (key : Key) (events : List Event) : Option Bool :=
  EventRun.last (fun event => (calls event).bind (touches key)) events

/-- No registration is outside its slot, and a key that was removed has none. -/
def Tight (before : List Event) (registry : SlotRegistry Key Payload) : Prop :=
  ∀ key, registry.Sole key ∧ (lastTouch calls key before = some false → registry.Silent key)

/-- An addition of a key follows a removal of it, or nothing. -/
def Alternates (before : List Event) (_ : SlotRegistry Key Payload) (event : Event) : Prop :=
  ∀ key payload, calls event = some (.add key payload) → lastTouch calls key before ≠ some true

/-- What the last touch of a key says of any registry. -/
structure Touched (before : List Event) (registry : SlotRegistry Key Payload) : Prop where
  numbered : Numbered registry
  untouched : ∀ key, lastTouch calls key before = none → registry.Silent key
  added : ∀ key, lastTouch calls key before = some true → ¬ registry.Silent key

variable {calls} {before : List Event} {event : Event}

theorem lastTouch_concat (key : Key) :
    lastTouch calls key (before ++ [event]) =
      ((calls event).bind (touches key)).or (lastTouch calls key before) :=
  EventRun.last_concat _ before event

/-- An event keeps the account of what touched the keys. -/
theorem Touched.step (touched : Touched calls before registry) (event : Event) :
    Touched calls (before ++ [event]) ((calls event).elim registry registry.call) := by
  obtain ⟨numbered, untouched, added⟩ := touched
  cases called : calls event with
  | none =>
      refine ⟨numbered, fun key silent => untouched key ?_, fun key adds => added key ?_⟩
      · rwa [lastTouch_concat, called] at silent
      · rwa [lastTouch_concat, called] at adds
  | some slotCall =>
      cases slotCall with
      | add named payload =>
          refine ⟨numbered.add named payload, fun key silent => ?_, fun key adds => ?_⟩
          · rw [lastTouch_concat, called, Option.bind_some, touches] at silent
            split at silent
            · cases silent
            · next different =>
              exact (silent_add_of_ne (Ne.symm different)).mpr (untouched key silent)
          · rw [lastTouch_concat, called, Option.bind_some, touches] at adds
            split at adds
            · next same =>
              subst same
              exact not_silent_add
            · next different =>
              exact fun silent => added key adds
                ((silent_add_of_ne (Ne.symm different)).mp silent)
      | remove named =>
          refine ⟨numbered.remove named, fun key silent => ?_, fun key adds => ?_⟩
          · rw [lastTouch_concat, called, Option.bind_some, touches] at silent
            split at silent
            · cases silent
            · exact (untouched key silent).remove named
          · rw [lastTouch_concat, called, Option.bind_some, touches] at adds
            split at adds
            · cases adds
            · next different =>
              exact fun silent => added key adds
                ((silent_remove_of_ne numbered (Ne.symm different)).mp silent)

/-- A call keeps a tight registry tight exactly if it adds no key twice. -/
theorem tight_step_iff (touched : Touched calls before registry)
    (tight : Tight calls before registry) :
    Tight calls (before ++ [event]) ((calls event).elim registry registry.call) ↔
      Alternates calls before registry event := by
  cases called : calls event with
  | none =>
      refine iff_of_true (fun key => ?_) (fun key payload adds => ?_)
      · rw [lastTouch_concat, called]
        exact tight key
      · rw [called] at adds
        cases adds
  | some slotCall =>
      cases slotCall with
      | remove named =>
          refine iff_of_true (fun key => ⟨(tight key).1.remove named, fun removed => ?_⟩)
            (fun key payload adds => ?_)
          · by_cases same : named = key
            · subst same
              exact (tight named).1.silent_remove
            · rw [lastTouch_concat, called, Option.bind_some, touches, if_neg same] at removed
              exact ((tight key).2 removed).remove named
          · rw [called] at adds
            cases adds
      | add named payload =>
          constructor
          · intro after key other adds twice
            rw [called] at adds
            cases adds
            exact touched.added named twice ((sole_add_iff touched.numbered).mp (after named).1)
          · intro alternates key
            have notTwice := alternates named payload called
            by_cases same : named = key
            · subst same
              refine ⟨(sole_add_iff touched.numbered).mpr ?_, fun removed => ?_⟩
              · cases last : lastTouch calls named before with
                | none => exact touched.untouched named last
                | some adds =>
                    cases adds with
                    | true => exact absurd last notTwice
                    | false => exact (tight named).2 last
              · rw [lastTouch_concat, called, Option.bind_some, touches, if_pos rfl] at removed
                cases removed
            · refine ⟨(sole_add_of_ne (Ne.symm same)).mpr (tight key).1, fun removed => ?_⟩
              rw [lastTouch_concat, called, Option.bind_some, touches, if_neg same] at removed
              exact (silent_add_of_ne (Ne.symm same)).mpr ((tight key).2 removed)

/-- A registry stays tight exactly when no key is added twice without a removal in
between. -/
theorem tight_iff_alternating (events : List Event) :
    EventRun.EachPoint (step calls) (Tight calls) {} events ↔
      EventRun.EachTransition (step calls) (Alternates calls) {} events := by
  have empty : ∀ key, Silent key ({} : SlotRegistry Key Payload) :=
    fun key _ member => absurd member List.not_mem_nil
  have initial : Touched calls [] ({} : SlotRegistry Key Payload) :=
    ⟨numbered_empty, fun key _ => empty key, fun _ adds => by cases adds⟩
  refine EventRun.eachPoint_iff_eachTransition (Touched calls) ?_ initial ?_ ?_
  · exact fun key => ⟨fun _ member => absurd member List.not_mem_nil, fun _ => empty key⟩
  · intro before event registry next _ touched taken
    cases taken
    exact touched.step event
  · intro before event registry next _ touched tight taken
    cases taken
    exact tight_step_iff touched tight

end Runs

end SlotRegistry
