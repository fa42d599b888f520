import Mathlib.Data.Rat.Floor

/-!
# CGFloat

Lengths and positions on the screen, computed exactly.
-/

namespace MovieFun

/-- The finite values of a `CGFloat`, computed exactly. -/
abbrev CGFloat := Rat

/-- The conversion `Int(_:)`, which truncates toward zero. -/
def CGFloat.toInt (x : CGFloat) : Int := x.num.tdiv x.den

/-- Truncation is rounding down, at an offset in the content. -/
theorem CGFloat.toInt_eq_floor {x : CGFloat} (nonneg : 0 ≤ x) : x.toInt = ⌊x⌋ := by
  rw [CGFloat.toInt, Rat.floor_def', Int.tdiv_eq_ediv_of_nonneg (Rat.num_nonneg.mpr nonneg)]

end MovieFun
