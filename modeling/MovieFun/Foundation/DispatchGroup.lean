import Mathlib.Data.List.Basic

/-!
# Dispatch groups

A dispatch group counts the work that entered it and has not left, and holds the
blocks to submit once that balance is zero. A block that is registered while the
balance is zero is submitted at once.
-/

/-- A dispatch group: how often it was entered and not left, and the blocks that wait for it. -/
structure DispatchGroup (Block : Type*) where
  entered : Nat := 0
  waiting : List Block := []
deriving DecidableEq, Repr

namespace DispatchGroup

variable {Block : Type*}

/-- `entered` enters in a row. -/
def enter (entered : Nat) (group : DispatchGroup Block) : DispatchGroup Block :=
  { group with entered := group.entered + entered }

/-- The group after a leave, and the blocks that the leave submits. Leaving more
often than entering traps. -/
def leave (group : DispatchGroup Block) : Option (DispatchGroup Block × List Block) :=
  match group.entered with
  | 0 => none
  | 1 => some ({}, group.waiting)
  | entered + 2 => some ({ group with entered := entered + 1 }, [])

/-- The group after a block is registered, and the blocks that this submits. -/
def notify (block : Block) (group : DispatchGroup Block) : DispatchGroup Block × List Block :=
  if group.entered = 0 then (group, [block])
  else ({ group with waiting := group.waiting ++ [block] }, [])

/-- No block waits for work that is done. -/
def Prompt (group : DispatchGroup Block) : Prop := group.entered = 0 → group.waiting = []

/-- What a leave does to the balance, and to each block: it stays waiting while
work is left, and is submitted when none is. -/
theorem leave_eq_some {group next : DispatchGroup Block} {submitted : List Block}
    (left : group.leave = some (next, submitted)) :
    next.entered + 1 = group.entered ∧
      ((next.entered ≠ 0 ∧ next.waiting = group.waiting ∧ submitted = []) ∨
        (next.entered = 0 ∧ next.waiting = [] ∧ submitted = group.waiting)) := by
  unfold leave at left
  split at left
  · cases left
  · next last =>
    cases left
    exact ⟨last.symm, .inr ⟨rfl, rfl, rfl⟩⟩
  · next entered more =>
    cases left
    exact ⟨more.symm, .inl ⟨Nat.succ_ne_zero _, rfl, rfl⟩⟩

/-- A group that was entered can be left. -/
theorem leave_isSome {group : DispatchGroup Block} (inside : group.entered ≠ 0) :
    group.leave.isSome := by
  unfold leave
  split
  · next none => exact absurd none inside
  · rfl
  · rfl

/-- A block that is registered waits exactly when there is work to wait for. -/
theorem notify_cases (block : Block) (group : DispatchGroup Block) :
    (group.notify block).1.entered = group.entered ∧
      ((group.entered ≠ 0 ∧ (group.notify block).1.waiting = group.waiting ++ [block] ∧
          (group.notify block).2 = []) ∨
        (group.entered = 0 ∧ (group.notify block).1.waiting = group.waiting ∧
          (group.notify block).2 = [block])) := by
  unfold notify
  split
  · next idle => exact ⟨rfl, .inr ⟨idle, rfl, rfl⟩⟩
  · next busy => exact ⟨rfl, .inl ⟨busy, rfl, rfl⟩⟩

/-- A leave loses no block and repeats none. -/
theorem leave_perm {group next : DispatchGroup Block} {submitted : List Block}
    (left : group.leave = some (next, submitted)) (queue : List Block) :
    (next.waiting ++ (queue ++ submitted)).Perm (group.waiting ++ queue) := by
  rcases (leave_eq_some left).2 with ⟨-, waiting, nothing⟩ | ⟨-, waiting, submits⟩
  · rw [waiting, nothing, List.append_nil]
  · rw [waiting, submits, List.nil_append]
    exact List.perm_append_comm

/-- A block that is registered joins the blocks once. -/
theorem notify_perm (block : Block) (group : DispatchGroup Block) (queue : List Block) :
    ((group.notify block).1.waiting ++ (queue ++ (group.notify block).2)).Perm
      (block :: (group.waiting ++ queue)) := by
  obtain ⟨-, ⟨-, waiting, nothing⟩ | ⟨-, waiting, submits⟩⟩ := notify_cases block group
  · rw [waiting, nothing, List.append_nil, List.append_assoc]
    exact List.perm_middle
  · rw [waiting, submits, ← List.append_assoc]
    exact List.perm_append_singleton _ _

/-- A prompt group stays so when it is entered. -/
theorem Prompt.enter {group : DispatchGroup Block} (prompt : group.Prompt) (entered : Nat) :
    (group.enter entered).Prompt := by
  intro idle
  exact prompt (Nat.eq_zero_of_add_eq_zero_right idle)

/-- A group that was left is prompt. -/
theorem Prompt.leave {group next : DispatchGroup Block} {submitted : List Block}
    (left : group.leave = some (next, submitted)) : next.Prompt := by
  intro idle
  rcases (leave_eq_some left).2 with ⟨busy, -, -⟩ | ⟨-, waiting, -⟩
  · exact absurd idle busy
  · exact waiting

/-- A prompt group stays so when a block is registered. -/
theorem Prompt.notify {group : DispatchGroup Block} (prompt : group.Prompt) (block : Block) :
    (group.notify block).1.Prompt := by
  intro idle
  obtain ⟨entered, ⟨busy, -, -⟩ | ⟨nothing, waiting, -⟩⟩ := notify_cases block group
  · rw [entered] at idle
    exact absurd idle busy
  · rw [waiting]
    exact prompt nothing

end DispatchGroup
