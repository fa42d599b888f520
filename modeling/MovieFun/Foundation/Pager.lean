import Mathlib.Data.List.Range
import Mathlib.Order.Lattice

/-!
# Pagers

A pager loads the pages of a server one after another: a load is called, waits, asks
for the current page, is answered, and settles. It stops when the current page is the
last one, although the current page is the next one to ask for. What every pager has
asked for when it stops is `asked_of_settled`.
-/

/-- The page to ask for next, the number of pages, whether more are needed, whether a
load is under way and how far it is, and the pages asked for so far. -/
structure Pager where
  current : Nat
  total : Int
  needMore : Bool
  loading : Bool := false
  waiting : Nat := 0
  requested : Nat := 0
  settling : Nat := 0
  asked : List Nat
deriving DecidableEq, Repr

namespace Pager

/-- A page is asked for, its request goes out, the reply comes, and the flag is lowered. -/
inductive Event
  | load
  | ask
  | answer
  | settle
deriving DecidableEq, Repr

/-- Another page is needed while the current one is below the total. -/
def needs (total : Int) (current : Nat) : Bool := decide ((current : Int) < total)

/-- The pager after an event that can happen. -/
def step (pager : Pager) : Event → Option Pager
  | .load =>
      if pager.needMore && !pager.loading then
        some { pager with loading := true, waiting := pager.waiting + 1 }
      else none
  | .ask =>
      if 0 < pager.waiting then
        some { pager with
          waiting := pager.waiting - 1
          requested := pager.requested + 1
          asked := pager.asked ++ [pager.current] }
      else none
  | .answer =>
      if 0 < pager.requested then
        some { pager with
          current := pager.current + 1
          needMore := needs pager.total (pager.current + 1)
          requested := pager.requested - 1
          settling := pager.settling + 1 }
      else none
  | .settle =>
      if 0 < pager.settling then
        some { pager with settling := pager.settling - 1, loading := false }
      else none

/-- One load at a time, for the page after those asked for. -/
structure Sound (pager : Pager) : Prop where
  underWay : pager.waiting + pager.requested + pager.settling = if pager.loading then 1 else 0
  needMore : pager.needMore = needs pager.total pager.current
  lower : 2 ≤ pager.current
  upper : (pager.current : Int) ≤ max 2 pager.total
  below : 0 < pager.waiting + pager.requested → (pager.current : Int) < pager.total
  asked : pager.asked = List.range' 1 (pager.current - 1 + pager.requested)

variable {pager next : Pager} {event : Event}

/-- A pager that has the first page. -/
theorem sound_first (total : Int) :
    Sound { current := 2, total, needMore := needs total 2, asked := [1] } where
  underWay := rfl
  needMore := rfl
  lower := Nat.le_refl 2
  upper := le_max_left 2 total
  below := fun under => absurd under (Nat.lt_irrefl 0)
  asked := rfl

/-- Each step keeps what is sound. -/
theorem Sound.of_step (sound : Sound pager) (taken : step pager event = some next) :
    Sound next := by
  obtain ⟨underWay, needMore, lower, upper, below, asked⟩ := sound
  cases event with
  | load =>
      simp only [step, Bool.and_eq_true, Bool.not_eq_true', Option.ite_none_right_eq_some] at taken
      obtain ⟨⟨needed, quiet⟩, made⟩ := taken
      cases made
      rw [quiet] at underWay
      rw [needMore] at needed
      have nothing : pager.waiting + pager.requested + pager.settling = 0 := underWay
      refine ⟨?_, needMore, lower, upper, fun _ => of_decide_eq_true needed, asked⟩
      change pager.waiting + 1 + pager.requested + pager.settling = 1
      omega
  | ask =>
      simp only [step, Option.ite_none_right_eq_some] at taken
      obtain ⟨waits, made⟩ := taken
      cases made
      have single : pager.waiting + pager.requested + pager.settling ≤ 1 := by
        rw [underWay]
        split <;> omega
      have none : pager.requested = 0 := by omega
      refine ⟨?_, needMore, lower, upper, fun _ => below (by omega), ?_⟩
      · change pager.waiting - 1 + (pager.requested + 1) + pager.settling = _
        rw [← underWay]
        omega
      · change pager.asked ++ [pager.current] = List.range' 1 (pager.current - 1 + (_ + 1))
        have last : 1 + (pager.current - 1) = pager.current := by omega
        rw [asked, none, Nat.add_zero, Nat.zero_add, List.range'_1_concat, last]
  | answer =>
      simp only [step, Option.ite_none_right_eq_some] at taken
      obtain ⟨isRequested, made⟩ := taken
      cases made
      have single : pager.waiting + pager.requested + pager.settling ≤ 1 := by
        rw [underWay]
        split <;> omega
      have isBelow := below (by omega)
      refine ⟨?_, rfl, Nat.le_succ_of_le lower, ?_, fun under => ?_, ?_⟩
      · change pager.waiting + (pager.requested - 1) + (pager.settling + 1) = _
        rw [← underWay]
        omega
      · change ((pager.current + 1 : Nat) : Int) ≤ max 2 pager.total
        omega
      · change 0 < pager.waiting + (pager.requested - 1) at under
        omega
      · change pager.asked = List.range' 1 (pager.current + 1 - 1 + (pager.requested - 1))
        rw [asked]
        congr 1
        omega
  | settle =>
      simp only [step, Option.ite_none_right_eq_some] at taken
      obtain ⟨settles, made⟩ := taken
      cases made
      have single : pager.waiting + pager.requested + pager.settling ≤ 1 := by
        rw [underWay]
        split <;> omega
      refine ⟨?_, needMore, lower, upper, below, asked⟩
      change pager.waiting + pager.requested + (pager.settling - 1) = 0
      omega

/-- A pager that stops has asked for the first page and all further ones but the
last. -/
theorem Sound.asked_of_settled (sound : Sound pager)
    (settled : pager.waiting + pager.requested + pager.settling = 0)
    (stopped : (pager.needMore && !pager.loading) = false) {total : Nat}
    (isTotal : pager.total = total) :
    pager.needMore = false ∧ pager.asked = List.range' 1 (max 1 (total - 1)) := by
  obtain ⟨underWay, needMore, lower, upper, -, asked⟩ := sound
  have quiet : pager.loading = false := by
    rw [settled] at underWay
    cases loading : pager.loading with
    | false => rfl
    | true =>
        rw [loading] at underWay
        cases underWay
  rw [quiet, Bool.not_false, Bool.and_true] at stopped
  refine ⟨stopped, ?_⟩
  rw [needMore, isTotal] at stopped
  have reached : ¬ ((pager.current : Int) < total) := of_decide_eq_false stopped
  rw [isTotal] at upper
  rw [asked]
  congr 1
  omega

end Pager
