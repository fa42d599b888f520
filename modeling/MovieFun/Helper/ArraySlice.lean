import MovieFun.Foundation.Traverse

/-!
# Slices of arrays

A slice outside of the array traps, and so does a closed range that ends before it starts.
-/

namespace MovieFun

/-- The slice `l[lower..<upper]`, which traps outside of the array. -/
def slice {α : Type*} (l : List α) (lower upper : Int) : Option (List α) :=
  if 0 ≤ lower ∧ lower ≤ upper ∧ upper ≤ l.length then
    some ((l.take upper.toNat).drop lower.toNat)
  else none

/-- The slice `l[lower...upper]`. A range whose end is before its start traps. -/
def closedSlice {α : Type*} (l : List α) (lower upper : Int) : Option (List α) :=
  if lower ≤ upper then slice l lower (upper + 1) else none

variable {α β : Type*} {f : α → Option β} {l : List α} {images : List β}

/-- A slice in range. -/
theorem slice_eq {lower upper : Nat} (order : lower ≤ upper) (inRange : upper ≤ l.length) :
    slice l lower upper = some ((l.take upper).drop lower) := by
  rw [slice, if_pos (by omega), Int.toNat_natCast, Int.toNat_natCast]

/-- A closed range within the list is sliced. -/
theorem closedSlice_eq {lower upper : Nat} (order : lower ≤ upper) (inRange : upper < l.length) :
    closedSlice l lower upper = some ((l.take (upper + 1)).drop lower) := by
  rw [closedSlice, if_pos (Int.ofNat_le.mpr order)]
  exact slice_eq (Nat.le_succ_of_le order) inRange

/-- A slice that ends past the last element traps. -/
theorem closedSlice_eq_none {lower upper : Int} (outside : (l.length : Int) ≤ upper) :
    closedSlice l lower upper = none := by
  unfold closedSlice
  split
  · rw [slice, if_neg (by omega)]
  · rfl

/-- A slice of a list of values has the slice of the values. -/
theorem mapM_slice (valued : l.map f = images.map some) (lower upper : Nat) :
    ((l.take upper).drop lower).mapM f = some ((images.take upper).drop lower) := by
  have through : ((l.take upper).drop lower).mapM f =
      (((l.take upper).drop lower).map f).mapM id :=
    (List.mapM_map (f := f) (g := id)).symm
  have sliced : (((images.take upper).drop lower).map some).mapM id =
      some (((images.take upper).drop lower).map id) :=
    Traverse.mapM_map_eq_some fun _ _ => rfl
  rw [through, List.map_drop, List.map_take, valued, ← List.map_take, ← List.map_drop, sliced,
    List.map_id]

/-- A window and what is outside of it are the whole list. -/
theorem perm_window {first last : Nat} (order : first ≤ last) :
    ((l.take last).drop first ++ (l.take first ++ l.drop last)).Perm l := by
  have front : l.take first ++ (l.take last).drop first = l.take last := by
    conv_rhs => rw [← List.take_append_drop first (l.take last)]
    rw [List.take_take, Nat.min_eq_left order]
  refine (List.perm_append_comm_assoc _ _ _).trans (List.Perm.of_eq ?_)
  rw [← List.append_assoc, front, List.take_append_drop]

end MovieFun
