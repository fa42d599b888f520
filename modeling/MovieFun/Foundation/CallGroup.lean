import Mathlib.Data.List.Range
import Mathlib.Data.Multiset.Replicate
import MovieFun.Foundation.DispatchGroup
import MovieFun.Foundation.Run

/-!
# Calls that share a dispatch group

Calls are numbered. Each enters the group once for each of its requests and
registers a block of its number; each request that is answered leaves the group, and
the blocks that a leave submits run from a queue. A block runs only when its call has
no request left (`Balanced.answered`), and once everything is answered and run every
block has run once (`Balanced.count_ran`).
-/

/-- The group, the submitted blocks, the calls of the requests without an answer, the
number of calls, and the blocks that ran. -/
structure CallGroup where
  group : DispatchGroup Nat := {}
  queue : List Nat := []
  outstanding : Multiset Nat := 0
  calls : Nat := 0
  ran : List Nat := []

namespace CallGroup

/-- What can happen: a call comes, one of its requests finishes, or its block runs. -/
inductive Move
  | call (requests : Nat)
  | finish (call : Nat)
  | run (call : Nat)

/-- A call with that many requests. -/
def called (requests : Nat) (calls : CallGroup) : CallGroup :=
  let (group, submitted) := (calls.group.enter requests).notify calls.calls
  { calls with
    group
    queue := calls.queue ++ submitted
    outstanding := calls.outstanding + Multiset.replicate requests calls.calls
    calls := calls.calls + 1 }

/-- The group after a move that is possible. -/
def step (calls : CallGroup) : Move → Option CallGroup
  | .call requests => some (calls.called requests)
  | .finish call =>
      if call ∈ calls.outstanding then
        calls.group.leave.map fun (group, submitted) =>
          { calls with
            group
            queue := calls.queue ++ submitted
            outstanding := calls.outstanding.erase call }
      else none
  | .run call =>
      if call ∈ calls.queue then
        some { calls with queue := calls.queue.erase call, ran := calls.ran ++ [call] }
      else none

/-- A call by its number is an older one, or the one that was added. -/
theorem getElem?_concat_eq_some {Call : Type*} {older : List Call} {added call : Call}
    {number : Nat} (isCall : (older ++ [added])[number]? = some call) :
    older[number]? = some call ∨ number = older.length ∧ call = added := by
  by_cases isOlder : number < older.length
  · rw [List.getElem?_append_left isOlder] at isCall
    exact .inl isCall
  · have past : older.length ≤ number := Nat.le_of_not_lt isOlder
    rw [List.getElem?_append_right past, List.getElem?_singleton] at isCall
    split at isCall
    · next isFirst =>
      cases isCall
      exact .inr ⟨Nat.le_antisymm (Nat.sub_eq_zero_iff_le.mp isFirst) past, rfl⟩
    · cases isCall

/-- The blocks, each of which waits, is submitted, or ran. -/
def blocks (calls : CallGroup) : List Nat := (calls.group.waiting ++ calls.queue) ++ calls.ran

/-- The group counts the requests without an answer, a call with one waits, and every
call has one block. -/
structure Balanced (calls : CallGroup) : Prop where
  entered : calls.group.entered = calls.outstanding.card
  prompt : calls.group.Prompt
  waiting : ∀ call ∈ calls.outstanding, call ∈ calls.group.waiting
  once : calls.blocks.Perm (List.range calls.calls)

variable {calls next : CallGroup} {move : Move}

theorem balanced_empty : Balanced {} where
  entered := rfl
  prompt := fun _ => rfl
  waiting := fun _ member => absurd member (Multiset.notMem_zero _)
  once := List.Perm.refl _

/-- A call joins the blocks once. -/
theorem Balanced.called (balanced : Balanced calls) (requests : Nat) :
    Balanced (calls.called requests) := by
  obtain ⟨entered, prompt, waiting, once⟩ := balanced
  have cases := DispatchGroup.notify_cases calls.calls (calls.group.enter requests)
  have count : (calls.group.enter requests).entered = calls.outstanding.card + requests := by
    rw [← entered]
    rfl
  constructor
  · change _ = (calls.outstanding + Multiset.replicate requests calls.calls).card
    rw [Multiset.card_add, Multiset.card_replicate, ← count]
    exact cases.1
  · exact (prompt.enter requests).notify calls.calls
  · intro call member
    change call ∈ (DispatchGroup.notify _ _).1.waiting
    rcases cases.2 with ⟨-, waits, -⟩ | ⟨idle, -, -⟩
    · rw [waits]
      rcases Multiset.mem_add.mp member with older | isNew
      · exact List.mem_append_left _ (waiting call older)
      · rw [Multiset.eq_of_mem_replicate isNew]
        exact List.mem_append_right _ List.mem_cons_self
    · rw [count] at idle
      obtain ⟨noRequest, isZero⟩ := Nat.eq_zero_of_add_eq_zero idle
      subst isZero
      rw [Multiset.card_eq_zero] at noRequest
      rw [CallGroup.called, noRequest] at member
      exact absurd member (Multiset.notMem_zero _)
  · have perm := DispatchGroup.notify_perm calls.calls (calls.group.enter requests) calls.queue
    change ((_ ++ (calls.queue ++ _)) ++ calls.ran).Perm (List.range (calls.calls + 1))
    rw [List.range_succ]
    calc
      List.Perm _ (calls.calls :: calls.blocks) := perm.append_right calls.ran
      List.Perm _ (calls.calls :: List.range calls.calls) := once.cons calls.calls
      List.Perm _ (List.range calls.calls ++ [calls.calls]) :=
        (List.perm_append_singleton _ _).symm

/-- An answer takes its request away, and loses no block. -/
theorem Balanced.finish (balanced : Balanced calls) {call : Nat}
    (isOutstanding : call ∈ calls.outstanding) {group : DispatchGroup Nat} {submitted : List Nat}
    (left : calls.group.leave = some (group, submitted)) :
    Balanced { calls with
      group
      queue := calls.queue ++ submitted
      outstanding := calls.outstanding.erase call } := by
  obtain ⟨entered, prompt, waiting, once⟩ := balanced
  obtain ⟨count, cases⟩ := DispatchGroup.leave_eq_some left
  have fewer : group.entered = (calls.outstanding.erase call).card := by
    rw [Multiset.card_erase_of_mem isOutstanding, ← entered, ← count]
    rfl
  constructor
  · exact fewer
  · exact DispatchGroup.Prompt.leave left
  · intro other member
    rcases cases with ⟨-, waits, -⟩ | ⟨idle, -, -⟩
    · change other ∈ group.waiting
      rw [waits]
      exact waiting other (Multiset.mem_of_mem_erase member)
    · rw [fewer, Multiset.card_eq_zero] at idle
      exact absurd (idle ▸ member) (Multiset.notMem_zero _)
  · exact ((DispatchGroup.leave_perm left calls.queue).append_right calls.ran).trans once

/-- A block that runs moves from the queue to those that ran. -/
theorem Balanced.run (balanced : Balanced calls) {call : Nat} (onQueue : call ∈ calls.queue) :
    Balanced { calls with queue := calls.queue.erase call, ran := calls.ran ++ [call] } := by
  obtain ⟨entered, prompt, waiting, once⟩ := balanced
  refine ⟨entered, prompt, waiting, List.Perm.trans ?_ once⟩
  change ((calls.group.waiting ++ calls.queue.erase call) ++ (calls.ran ++ [call])).Perm
    ((calls.group.waiting ++ calls.queue) ++ calls.ran)
  have moved : (calls.queue.erase call ++ (calls.ran ++ [call])).Perm (calls.queue ++ calls.ran) :=
    calc
      List.Perm _ (calls.queue.erase call ++ call :: calls.ran) :=
        (List.perm_append_singleton call calls.ran).append_left _
      List.Perm _ (call :: calls.queue.erase call ++ calls.ran) := List.perm_middle
      List.Perm _ (calls.queue ++ calls.ran) :=
        (List.perm_cons_erase onQueue).symm.append_right _
  rw [List.append_assoc, List.append_assoc]
  exact moved.append_left _

/-- What an answer does: it takes a request away and leaves the group. -/
theorem step_finish_eq_some {call : Nat} (taken : step calls (.finish call) = some next) :
    call ∈ calls.outstanding ∧ ∃ group submitted,
      calls.group.leave = some (group, submitted) ∧
      next = { calls with
        group
        queue := calls.queue ++ submitted
        outstanding := calls.outstanding.erase call } := by
  simp only [step, Option.ite_none_right_eq_some, Option.map_eq_some_iff] at taken
  obtain ⟨isOutstanding, ⟨group, submitted⟩, left, rfl⟩ := taken
  exact ⟨isOutstanding, group, submitted, left, rfl⟩

/-- Each move keeps the balance. -/
theorem Balanced.of_step (balanced : Balanced calls) (taken : step calls move = some next) :
    Balanced next := by
  cases move with
  | call requests =>
      cases taken
      exact balanced.called requests
  | finish call =>
      obtain ⟨isOutstanding, group, submitted, left, rfl⟩ := step_finish_eq_some taken
      exact balanced.finish isOutstanding left
  | run call =>
      simp only [step, Option.ite_none_right_eq_some] at taken
      obtain ⟨onQueue, made⟩ := taken
      cases made
      exact balanced.run onQueue

/-- After an answer the block of its call is still to come: it waits with other requests, or
it is on the queue. -/
theorem Balanced.awaited_finish (balanced : Balanced calls) {call : Nat}
    (taken : step calls (.finish call) = some next) :
    0 < next.outstanding.card + next.queue.length := by
  have after : Balanced next := balanced.of_step taken
  obtain ⟨isOutstanding, group, submitted, left, rfl⟩ := step_finish_eq_some taken
  rcases (DispatchGroup.leave_eq_some left).2 with ⟨busy, -, -⟩ | ⟨-, -, submits⟩
  · have entered : group.entered = (calls.outstanding.erase call).card := after.entered
    rw [entered] at busy
    exact Nat.add_pos_left (Nat.pos_of_ne_zero busy) _
  · have onQueue : call ∈ calls.queue ++ submitted := by
      rw [submits]
      exact List.mem_append_right _ (balanced.waiting call isOutstanding)
    exact Nat.add_pos_right _ (List.length_pos_of_mem onQueue)

/-- A block that is submitted, or ran, is of a call without a request. -/
theorem Balanced.answered (balanced : Balanced calls) {call : Nat}
    (submitted : call ∈ calls.queue ++ calls.ran) : call ∉ calls.outstanding := by
  intro isOutstanding
  have apart := balanced.once.nodup_iff.mpr List.nodup_range
  rw [blocks, List.append_assoc] at apart
  obtain ⟨-, -, disjoint⟩ := List.nodup_append.mp apart
  exact disjoint call (balanced.waiting call isOutstanding) call submitted rfl

/-- Once every request is answered and every submitted block ran, every block ran
once. -/
theorem Balanced.perm_ran (balanced : Balanced calls) (answered : calls.outstanding = 0)
    (drained : calls.queue = []) : calls.ran.Perm (List.range calls.calls) := by
  have idle : calls.group.waiting = [] := by
    apply balanced.prompt
    rw [balanced.entered, answered, Multiset.card_zero]
  have once := balanced.once
  rwa [blocks, idle, drained] at once

/-- The block of each call then ran exactly once. -/
theorem Balanced.count_ran (balanced : Balanced calls) (answered : calls.outstanding = 0)
    (drained : calls.queue = []) {call : Nat} (made : call < calls.calls) :
    calls.ran.count call = 1 := by
  rw [(balanced.perm_ran answered drained).count_eq]
  exact List.count_eq_one_of_mem List.nodup_range (List.mem_range.mpr made)

/-- No call is forgotten. -/
theorem calls_le_of_step (taken : step calls move = some next) : calls.calls ≤ next.calls := by
  cases move with
  | call requests =>
      cases taken
      exact Nat.le_succ _
  | finish call =>
      simp only [step, Option.ite_none_right_eq_some, Option.map_eq_some_iff] at taken
      obtain ⟨-, -, -, rfl⟩ := taken
      exact Nat.le_refl _
  | run call =>
      simp only [step, Option.ite_none_right_eq_some] at taken
      obtain ⟨-, made⟩ := taken
      cases made
      exact Nat.le_refl _

section MovesLike

variable {State Event : Type*} {systemStep : State → Event → Option State}
  {callGroup : List Event → State → CallGroup}

/-- A system moves like its group when each of its steps is a move of the group, or
changes nothing of it. The group may depend on the events so far. -/
def MovesLike (systemStep : State → Event → Option State)
    (callGroup : List Event → State → CallGroup) : Prop :=
  ∀ before event state next, systemStep state event = some next →
    callGroup (before ++ [event]) next = callGroup before state ∨
      ∃ move, step (callGroup before state) move = some (callGroup (before ++ [event]) next)

variable {start state following last : State} {before events : List Event} {event : Event}

/-- A system that moves like a call group keeps the balance. -/
theorem MovesLike.balanced_of_step (moves : MovesLike systemStep callGroup)
    (balanced : (callGroup before state).Balanced)
    (taken : systemStep state event = some following) :
    (callGroup (before ++ [event]) following).Balanced := by
  rcases moves before event state following taken with same | ⟨move, moved⟩
  · exact same ▸ balanced
  · exact balanced.of_step moved

/-- The group of a system that moves like it stays balanced. -/
theorem MovesLike.balanced (moves : MovesLike systemStep callGroup)
    (idle : (callGroup [] start).Balanced)
    (reached : EventRun.runFrom systemStep start events = some last) :
    (callGroup events last).Balanced := by
  refine EventRun.invariant (fun before state => (callGroup before state).Balanced) idle ?_ reached
  exact fun before event state next _ balanced taken => moves.balanced_of_step balanced taken

/-- The number of calls only grows. -/
theorem MovesLike.calls_le (moves : MovesLike systemStep callGroup)
    (reached : EventRun.runFrom systemStep state events = some last) :
    (callGroup before state).calls ≤ (callGroup (before ++ events) last).calls := by
  refine EventRun.invariant
    (fun later state' =>
      (callGroup before state).calls ≤ (callGroup (before ++ later) state').calls)
    (by rw [List.append_nil]) ?_ reached
  intro later event middle next _ le taken
  rw [← List.append_assoc]
  rcases moves (before ++ later) event middle next taken with same | ⟨move, moved⟩
  · rwa [same]
  · exact le.trans (calls_le_of_step moved)

/-- Once everything is answered and run, the block of each call ran exactly once. -/
theorem MovesLike.count_ran (moves : MovesLike systemStep callGroup)
    (idle : (callGroup [] start).Balanced)
    (reached : EventRun.runFrom systemStep start events = some last)
    (answered : (callGroup events last).outstanding = 0)
    (drained : (callGroup events last).queue = []) (inside : before ++ [event] <+: events)
    (isBefore : EventRun.runFrom systemStep start before = some state)
    (calls : ∀ following, systemStep state event = some following →
      (callGroup before state).calls < (callGroup (before ++ [event]) following).calls) :
    (callGroup events last).ran.count (callGroup before state).calls = 1 := by
  apply (moves.balanced idle reached).count_ran answered drained
  obtain ⟨rest, rfl⟩ := inside
  obtain ⟨following, toFollowing, onward⟩ := EventRun.runFrom_append_eq_some systemStep reached
  obtain ⟨middle, toMiddle, taken⟩ := EventRun.runFrom_concat_eq_some systemStep toFollowing
  rw [isBefore] at toMiddle
  cases toMiddle
  exact (calls following taken).trans_le (moves.calls_le onward)

end MovesLike

end CallGroup
