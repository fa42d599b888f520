import Mathlib.Data.List.Infix

/-!
# Patterns with wildcards

A pattern is a list of tokens: one element with a property, or any run of elements. A run is
matched by trying every suffix of what is left. A pattern between two runs accepts the lists of
which it accepts a part (`accepts_between_runs_iff`), so the elements of a list between two
runs accept exactly the lists that it is a part of, up to the function under which elements are
compared (`accepts_part_iff`).
-/

namespace Wildcard

variable {α β : Type*}

/-- A part of a pattern: one element with a property, or any run of elements. -/
inductive Token (α : Type*)
  | one (property : α → Bool)
  | run

/-- Whether a pattern accepts a list as a whole. -/
def accepts : List (Token α) → List α → Bool
  | [], list => list.isEmpty
  | .one _ :: _, [] => false
  | .one property :: pattern, a :: list => property a && accepts pattern list
  | .run :: pattern, list => list.tails.any (accepts pattern)

/-- The token of one element, compared under a function. -/
def Token.same [DecidableEq β] (f : α → β) (a : α) : Token α := .one fun b => f a = f b

variable {pattern first second : List (Token α)} {list : List α}

/-- The empty pattern accepts the empty list only. -/
theorem accepts_nil_iff : accepts [] list = true ↔ list = [] := List.isEmpty_iff

/-- A pattern that starts with one element accepts an element with the property and a rest. -/
theorem accepts_one_cons_iff {property : α → Bool} :
    accepts (.one property :: pattern) list = true ↔
      ∃ a rest, list = a :: rest ∧ property a = true ∧ accepts pattern rest = true := by
  cases list with
  | nil => exact iff_of_false Bool.false_ne_true fun ⟨_, _, absurd, _⟩ => nomatch absurd
  | cons a rest =>
      rw [accepts, Bool.and_eq_true]
      constructor
      · rintro ⟨holds, later⟩
        exact ⟨a, rest, rfl, holds, later⟩
      · rintro ⟨_, _, ⟨⟩, holds, later⟩
        exact ⟨holds, later⟩

/-- A pattern that starts with a run accepts any front and a rest. -/
theorem accepts_run_cons_iff : accepts (.run :: pattern) list = true ↔
    ∃ front rest, list = front ++ rest ∧ accepts pattern rest = true := by
  rw [accepts, List.any_eq_true]
  constructor
  · rintro ⟨rest, tail, later⟩
    obtain ⟨front, whole⟩ := (List.mem_tails _ _).mp tail
    exact ⟨front, rest, whole.symm, later⟩
  · rintro ⟨front, rest, rfl, later⟩
    exact ⟨rest, (List.mem_tails _ _).mpr (List.suffix_append front rest), later⟩

/-- One pattern after another accepts a list that can be parted between them. -/
theorem accepts_append_iff : accepts (first ++ second) list = true ↔
    ∃ front rest, list = front ++ rest ∧ accepts first front = true ∧
      accepts second rest = true := by
  induction first generalizing list with
  | nil =>
      constructor
      · intro accepted
        exact ⟨[], list, rfl, rfl, accepted⟩
      · rintro ⟨front, rest, rfl, empty, accepted⟩
        rw [accepts_nil_iff.mp empty]
        exact accepted
  | cons token first ih =>
      cases token with
      | one property =>
          rw [List.cons_append, accepts_one_cons_iff]
          constructor
          · rintro ⟨a, tail, rfl, holds, later⟩
            obtain ⟨front, rest, rfl, atFirst, atSecond⟩ := ih.mp later
            exact ⟨a :: front, rest, rfl, accepts_one_cons_iff.mpr ⟨a, front, rfl, holds, atFirst⟩,
              atSecond⟩
          · rintro ⟨_, rest, rfl, accepted, atSecond⟩
            obtain ⟨a, front, rfl, holds, atFirst⟩ := accepts_one_cons_iff.mp accepted
            exact ⟨a, front ++ rest, rfl, holds, ih.mpr ⟨front, rest, rfl, atFirst, atSecond⟩⟩
      | run =>
          rw [List.cons_append, accepts_run_cons_iff]
          constructor
          · rintro ⟨skipped, tail, rfl, later⟩
            obtain ⟨front, rest, rfl, atFirst, atSecond⟩ := ih.mp later
            refine ⟨skipped ++ front, rest, (List.append_assoc _ _ _).symm, ?_, atSecond⟩
            exact accepts_run_cons_iff.mpr ⟨skipped, front, rfl, atFirst⟩
          · rintro ⟨_, rest, rfl, accepted, atSecond⟩
            obtain ⟨skipped, front, rfl, atFirst⟩ := accepts_run_cons_iff.mp accepted
            exact ⟨skipped, front ++ rest, List.append_assoc _ _ _,
              ih.mpr ⟨front, rest, rfl, atFirst, atSecond⟩⟩

/-- A run accepts every list. -/
theorem accepts_run (list : List α) : accepts [.run] list = true :=
  accepts_run_cons_iff.mpr ⟨list, [], (List.append_nil list).symm, rfl⟩

/-- A pattern between two runs accepts the lists of which it accepts a part. -/
theorem accepts_between_runs_iff : accepts (.run :: (pattern ++ [.run])) list = true ↔
    ∃ middle, middle <:+: list ∧ accepts pattern middle = true := by
  rw [accepts_run_cons_iff]
  constructor
  · rintro ⟨front, rest, rfl, later⟩
    obtain ⟨middle, back, rfl, accepted, -⟩ := accepts_append_iff.mp later
    exact ⟨middle, ⟨front, back, List.append_assoc _ _ _⟩, accepted⟩
  · rintro ⟨middle, ⟨front, back, rfl⟩, accepted⟩
    refine ⟨front, middle ++ back, List.append_assoc _ _ _, ?_⟩
    exact accepts_append_iff.mpr ⟨middle, back, rfl, accepted, accepts_run back⟩

section Same

variable [DecidableEq β] {f : α → β} {part : List α}

/-- The elements of a list accept the lists with the same image. -/
theorem accepts_map_same_iff : accepts (part.map (Token.same f)) list = true ↔
    list.map f = part.map f := by
  induction part generalizing list with
  | nil => rw [List.map_nil, List.map_nil, accepts_nil_iff, List.map_eq_nil_iff]
  | cons a part ih =>
      rw [List.map_cons, Token.same, accepts_one_cons_iff]
      constructor
      · rintro ⟨b, rest, rfl, same, later⟩
        rw [List.map_cons, List.map_cons, ih.mp later, of_decide_eq_true same]
      · intro same
        obtain ⟨b, rest, rfl, first, later⟩ := List.map_eq_cons_iff.mp same
        exact ⟨b, rest, rfl, decide_eq_true first.symm, ih.mpr later⟩

/-- The elements of a list between two runs accept the lists that it is a part of. -/
theorem accepts_part_iff :
    accepts (.run :: (part.map (Token.same f) ++ [.run])) list = true ↔
      part.map f <:+: list.map f := by
  rw [accepts_between_runs_iff]
  constructor
  · rintro ⟨middle, inside, accepted⟩
    rw [← accepts_map_same_iff.mp accepted]
    exact inside.map f
  · rintro ⟨front, back, whole⟩
    obtain ⟨start, back, rfl, isStart, rfl⟩ := List.map_eq_append_iff.mp whole.symm
    obtain ⟨front, middle, rfl, rfl, same⟩ := List.map_eq_append_iff.mp isStart
    exact ⟨middle, ⟨front, back, rfl⟩, accepts_map_same_iff.mpr same⟩

end Same

end Wildcard
