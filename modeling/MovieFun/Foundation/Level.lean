import MovieFun.Foundation.Run

/-!
# Levels that do not fall below zero

Some events raise a level by one and others lower it, but never below zero. How
high it stands in the end is read off the ends of the history: a level is at most
`n` exactly when no end of the history raises it `n + 1` times more than it lowers
it (`level_le_iff`).
-/

namespace Level

variable {Event : Type*} (mark : Event → Option Bool)

/-- The level after one event, which raises it, lowers it or leaves it. -/
def change (level : Nat) (event : Event) : Nat :=
  match mark event with
  | some true => level + 1
  | some false => level - 1
  | none => level

/-- The level after all events, from zero. -/
def level (events : List Event) : Nat := events.foldl (change mark) 0

/-- How often events raise a level. -/
def raises (events : List Event) : Nat := events.countP fun event => mark event = some true

/-- How often events lower a level. -/
def lowers (events : List Event) : Nat := events.countP fun event => mark event = some false

theorem level_concat (events : List Event) (event : Event) :
    level mark (events ++ [event]) = change mark (level mark events) event := by
  rw [level, List.foldl_append, level]
  rfl

theorem raises_concat (events : List Event) (event : Event) :
    raises mark (events ++ [event]) =
      raises mark events + if mark event = some true then 1 else 0 := by
  simp [raises, List.countP_append, List.countP_singleton]

theorem lowers_concat (events : List Event) (event : Event) :
    lowers mark (events ++ [event]) =
      lowers mark events + if mark event = some false then 1 else 0 := by
  simp [lowers, List.countP_append, List.countP_singleton]

variable {mark}

/-- The ends of a longer history are its last event with the ends of what was before
it, and nothing. -/
theorem forall_suffix_concat {holds : List Event → Prop} {events : List Event} {event : Event} :
    (∀ ending, ending <:+ events ++ [event] → holds ending) ↔
      holds [] ∧ ∀ ending, ending <:+ events → holds (ending ++ [event]) := by
  constructor
  · intro always
    refine ⟨always [] List.nil_suffix, fun ending inside => always _ ?_⟩
    exact List.suffix_concat_iff.mpr (.inr ⟨ending, rfl, inside⟩)
  · rintro ⟨nothing, always⟩ ending inside
    rcases List.suffix_concat_iff.mp inside with rfl | ⟨shorter, rfl, shorterInside⟩
    · exact nothing
    · exact always shorter shorterInside

/-- A level is at most `n` exactly when no end of the history outweighs `n`. -/
theorem level_le_iff (events : List Event) (n : Nat) :
    level mark events ≤ n ↔
      ∀ ending, ending <:+ events → raises mark ending ≤ lowers mark ending + n := by
  induction events using List.reverseRecOn generalizing n with
  | nil =>
      apply iff_of_true (Nat.zero_le n)
      intro ending inside
      rw [List.suffix_nil.mp inside]
      exact Nat.zero_le _
  | append_singleton events event ih =>
      have nothing : raises mark ([] : List Event) ≤ lowers mark ([] : List Event) + n :=
        Nat.zero_le _
      rw [level_concat, forall_suffix_concat, and_iff_right nothing]
      simp only [raises_concat, lowers_concat]
      cases isMark : mark event with
      | none =>
          rw [change, isMark]
          exact ih n
      | some raised =>
          rw [change, isMark]
          cases raised with
          | true =>
              cases n with
              | zero =>
                  apply iff_of_false (Nat.not_succ_le_zero _)
                  intro outweighs
                  exact Nat.not_succ_le_zero 0 (outweighs [] List.nil_suffix)
              | succ n =>
                  refine Nat.succ_le_succ_iff.trans ((ih n).trans ?_)
                  exact forall₂_congr fun ending _ => Nat.succ_le_succ_iff.symm
          | false =>
              refine Nat.sub_le_iff_le_add.trans ((ih (n + 1)).trans ?_)
              apply forall₂_congr
              intro ending _
              simp only [Option.some.injEq, Bool.false_eq_true, if_false, if_true]
              omega

/-- A level that was raised last is not zero. -/
theorem level_pos_of_last {events : List Event} (raised : EventRun.last mark events = some true) :
    0 < level mark events := by
  induction events using List.reverseRecOn with
  | nil => cases raised
  | append_singleton events event ih =>
      rw [EventRun.last_concat] at raised
      rw [level_concat, change]
      cases isMark : mark event with
      | none =>
          rw [isMark] at raised
          exact ih raised
      | some isRaise =>
          rw [isMark] at raised
          cases raised
          exact Nat.succ_pos _

end Level
