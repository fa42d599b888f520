import Mathlib.Data.List.Basic

/-!
# Lists under a partial function

`List.mapM` with a function that may have no value has one exactly when the function
has one at every element.
-/

namespace Traverse

variable {α β : Type*} {f : α → Option β} {l : List α} {images : List β}

/-- When a list with a first element is traversed. -/
theorem mapM_cons_eq_some {a : α} : (a :: l).mapM f = some images ↔
    ∃ b rest, f a = some b ∧ l.mapM f = some rest ∧ images = b :: rest := by
  rw [List.mapM_cons, Option.bind_eq_bind, Option.bind_eq_some_iff]
  constructor
  · rintro ⟨b, atFirst, traversed⟩
    obtain ⟨rest, later, whole⟩ := Option.bind_eq_some_iff.mp traversed
    cases whole
    exact ⟨b, rest, atFirst, later, rfl⟩
  · rintro ⟨b, rest, atFirst, later, rfl⟩
    exact ⟨b, atFirst, by rw [later]; rfl⟩

/-- A list is traversed exactly if each of its elements has an image. -/
theorem isSome_mapM_iff : (l.mapM f).isSome ↔ ∀ a ∈ l, (f a).isSome := by
  induction l with
  | nil => exact iff_of_true rfl fun _ member => absurd member List.not_mem_nil
  | cons a l ih =>
      rw [List.forall_mem_cons, ← ih]
      constructor
      · intro traversed
        obtain ⟨images, traversed⟩ := Option.isSome_iff_exists.mp traversed
        obtain ⟨b, rest, atFirst, later, -⟩ := mapM_cons_eq_some.mp traversed
        exact ⟨Option.isSome_of_mem atFirst, Option.isSome_of_mem later⟩
      · rintro ⟨atFirst, later⟩
        obtain ⟨b, atFirst⟩ := Option.isSome_iff_exists.mp atFirst
        obtain ⟨rest, later⟩ := Option.isSome_iff_exists.mp later
        exact Option.isSome_of_mem (mapM_cons_eq_some.mpr ⟨b, rest, atFirst, later, rfl⟩)

/-- Traversing images that have images of their own. -/
theorem mapM_map_eq_some {γ : Type*} {g : γ → α} {h : γ → β} {l : List γ}
    (valued : ∀ c ∈ l, f (g c) = some (h c)) : (l.map g).mapM f = some (l.map h) := by
  induction l with
  | nil => rfl
  | cons c l ih =>
      have later := ih fun c member => valued c (List.mem_cons_of_mem _ member)
      exact mapM_cons_eq_some.mpr ⟨h c, l.map h, valued c List.mem_cons_self, later, rfl⟩

/-- A traversal keeps the length. -/
theorem length_mapM (traversed : l.mapM f = some images) : images.length = l.length := by
  induction l generalizing images with
  | nil =>
      cases traversed
      rfl
  | cons a l ih =>
      obtain ⟨first, rest, -, later, rfl⟩ := mapM_cons_eq_some.mp traversed
      rw [List.length_cons, List.length_cons, ih later]

/-- The values are those at the elements. -/
theorem mem_mapM (traversed : l.mapM f = some images) {b : β} :
    b ∈ images ↔ ∃ a ∈ l, f a = some b := by
  induction l generalizing images with
  | nil =>
      cases traversed
      simp
  | cons a l ih =>
      obtain ⟨first, rest, atFirst, later, rfl⟩ := mapM_cons_eq_some.mp traversed
      rw [List.mem_cons, ih later, eq_comm]
      simp only [List.mem_cons, or_and_right, exists_or, exists_eq_left, atFirst,
        Option.some.injEq]

end Traverse
