import Mathlib.Data.List.AList
import Mathlib.Data.List.Perm.Basic
import Mathlib.Data.List.Sort
import Mathlib.Data.List.SplitBy

/-!
# Sorting a list into buckets

`collect` files the elements of a list under their keys, skipping those without
one, and `buckets` lists the files by increasing key, each sorted stably. When
the key follows the order of the elements the buckets, read one after another,
are one sorted list, and they are its maximal runs of equal keys.
-/

namespace Bucket

variable {α κ : Type*}

section Split

variable {r : α → α → Bool} {l : List α} {front : List (List α)} {group : List α}

/-- Appending an element related to the last one extends the last run. -/
theorem splitBy_concat_of_related (split : l.splitBy r = front ++ [group]) {a : α}
    (related : ∀ x ∈ group.getLast?, r x a = true) :
    (l ++ [a]).splitBy r = front ++ [group ++ [a]] := by
  obtain ⟨whole, nonempty, chains, breaks⟩ := List.splitBy_eq_iff.mp split
  have groupNonempty : group ≠ [] := by
    rintro rfl
    exact nonempty (List.mem_append_right _ List.mem_cons_self)
  refine List.splitBy_eq_iff.mpr ⟨?_, ?_, ?_, ?_⟩
  · rw [whole]
    simp only [List.flatten_append, List.flatten_cons, List.flatten_nil, List.append_nil,
      List.append_assoc]
  · intro empty
    rcases List.mem_append.mp empty with inFront | isLast
    · exact nonempty (List.mem_append_left _ inFront)
    · rw [List.mem_singleton] at isLast
      exact List.append_ne_nil_of_right_ne_nil _ (List.cons_ne_nil a []) isLast.symm
  · intro run member
    rcases List.mem_append.mp member with inFront | isLast
    · exact chains run (List.mem_append_left _ inFront)
    · rw [List.mem_singleton.mp isLast]
      have chain := chains group (List.mem_append_right _ List.mem_cons_self)
      refine List.isChain_append.mpr ⟨chain, List.isChain_singleton a, ?_⟩
      rintro x last _ ⟨⟩
      exact related x last
  · obtain ⟨frontBreaks, -, link⟩ := List.isChain_append.mp breaks
    refine List.isChain_append.mpr ⟨frontBreaks, List.isChain_singleton _, ?_⟩
    rintro run last _ ⟨⟩
    obtain ⟨ha, hb, apart⟩ := link run last group rfl
    refine ⟨ha, List.append_ne_nil_of_left_ne_nil groupNonempty [a], ?_⟩
    rw [List.head_append_of_ne_nil groupNonempty]
    exact apart

/-- A run of equal values has one value. -/
theorem eq_of_mem_splitBy {β : Type*} [DecidableEq β] {f : α → β}
    (member : group ∈ l.splitBy fun a b => f a = f b) :
    ∀ a ∈ group, ∀ b ∈ group, f a = f b := by
  have chain := List.isChain_of_mem_splitBy member
  simp only [decide_eq_true_eq] at chain
  have transitive : IsTrans α fun a b => f a = f b := ⟨fun _ _ _ => Eq.trans⟩
  have symmetric : Std.Symm fun a b => f a = f b := ⟨fun _ _ => Eq.symm⟩
  have pairs := List.isChain_iff_pairwise.mp chain
  intro a first b second
  exact List.Pairwise.forall_of_forall (R := fun a b => f a = f b) (fun _ _ => rfl) pairs
    first second

/-- Where two runs of a sorted list meet, the elements are related and apart. -/
theorem isChain_of_pairwise_flatten {order : α → α → Prop} {runs : List (List α)}
    (sorted : runs.flatten.Pairwise order)
    (breaks : runs.IsChain fun first second => ∃ ha hb,
      r (first.getLast ha) (second.head hb) = false) :
    runs.IsChain fun first second => ∃ a ∈ first, ∃ b ∈ second, order a b ∧ r a b = false := by
  induction runs with
  | nil => exact .nil
  | cons first runs ih =>
      cases runs with
      | nil => exact .singleton _
      | cons second runs =>
          obtain ⟨⟨ha, hb, apart⟩, breaks⟩ := List.isChain_cons_cons.mp breaks
          rw [List.flatten_cons, List.pairwise_append] at sorted
          refine List.isChain_cons_cons.mpr ⟨?_, ih sorted.2.1 breaks⟩
          refine ⟨_, List.getLast_mem ha, _, List.head_mem hb, ?_, apart⟩
          apply sorted.2.2 _ (List.getLast_mem ha) _
          exact List.mem_flatten.mpr ⟨second, List.mem_cons_self, List.head_mem hb⟩

/-- The runs of a sorted list are sorted by any transitive relation that follows
from the order of two elements that are apart. -/
theorem pairwise_splitBy {order : α → α → Prop} {before : List α → List α → Prop}
    [IsTrans (List α) before] (sorted : l.Pairwise order)
    (follows : ∀ first ∈ l.splitBy r, ∀ second ∈ l.splitBy r, ∀ a ∈ first, ∀ b ∈ second,
      order a b → r a b = false → before first second) :
    (l.splitBy r).Pairwise before := by
  rw [← List.flatten_splitBy r l] at sorted
  have chain := isChain_of_pairwise_flatten sorted (List.isChain_getLast_head_splitBy r l)
  refine List.isChain_iff_pairwise.mp (chain.imp_of_mem_imp ?_)
  rintro first second inFirst inSecond ⟨a, ha, b, hb, less, apart⟩
  exact follows first inFirst second inSecond a ha b hb less apart

/-- Runs of images are the images of runs. -/
theorem splitBy_map {β : Type*} (f : α → β) (same : β → β → Bool) (l : List α) :
    (l.map f).splitBy same = (l.splitBy fun a b => same (f a) (f b)).map (List.map f) := by
  obtain ⟨whole, nonempty, chains, breaks⟩ :=
    List.splitBy_eq_iff.mp (rfl : l.splitBy (fun a b => same (f a) (f b)) = _)
  refine List.splitBy_eq_iff.mpr ⟨?_, ?_, ?_, ?_⟩
  · rw [← List.map_flatten, ← whole]
  · intro empty
    obtain ⟨run, inside, isNil⟩ := List.mem_map.mp empty
    rw [List.map_eq_nil_iff] at isNil
    exact nonempty (isNil ▸ inside)
  · intro image member
    obtain ⟨run, inside, rfl⟩ := List.mem_map.mp member
    exact (List.isChain_map f).mpr (chains run inside)
  · refine (List.isChain_map (List.map f)).mpr (breaks.imp ?_)
    rintro first second ⟨ha, hb, apart⟩
    refine ⟨mt List.map_eq_nil_iff.mp ha, mt List.map_eq_nil_iff.mp hb, ?_⟩
    rw [List.getLast_map, List.head_map]
    exact apart

end Split

section Stable

variable (r : α → α → Prop) [DecidableRel r]

/-- A stable sort leaves the elements that are all tied with one another in
their original order. -/
theorem filter_insertionSort_of_tied {p : α → Bool} {l : List α}
    (tied : ∀ a b, p a → p b → r a b) : (l.insertionSort r).filter p = l.filter p := by
  have ordered : (l.filter p).Pairwise r :=
    List.pairwise_of_forall_mem_list fun a first b second =>
      tied a b (List.mem_filter.mp first).2 (List.mem_filter.mp second).2
  have inside : (l.filter p).Sublist (l.insertionSort r) :=
    List.sublist_insertionSort ordered List.filter_sublist
  have kept := inside.filter p
  rw [List.filter_filter, List.filter_congr (fun a _ => Bool.and_self (p a))] at kept
  have sameLength : (l.filter p).length = ((l.insertionSort r).filter p).length :=
    ((List.perm_insertionSort r l).filter p).length_eq.symm
  exact (kept.eq_of_length sameLength).symm

/-- Of the elements that none of the others exceeds, the one that comes last. -/
def greatest : List α → Option α
  | [] => none
  | a :: l =>
      match greatest l with
      | none => some a
      | some b => if r a b then some b else some a

/-- A list that is not empty has a greatest element. -/
theorem isSome_greatest {l : List α} (nonempty : l ≠ []) : (greatest r l).isSome := by
  cases l with
  | nil => exact absurd rfl nonempty
  | cons a l =>
      rw [greatest]
      cases greatest r l with
      | none => rfl
      | some b =>
          dsimp only
          split <;> rfl

/-- The greatest element is one of the list. -/
theorem mem_of_greatest {l : List α} {b : α} (isGreatest : greatest r l = some b) : b ∈ l := by
  induction l with
  | nil => cases isGreatest
  | cons a l ih =>
      rw [greatest] at isGreatest
      cases rest : greatest r l with
      | none =>
          rw [rest] at isGreatest
          cases isGreatest
          exact List.mem_cons_self
      | some c =>
          rw [rest] at isGreatest
          dsimp only at isGreatest
          split at isGreatest
          · cases isGreatest
            exact List.mem_cons_of_mem a (ih rest)
          · cases isGreatest
            exact List.mem_cons_self

/-- No element is above the greatest one. -/
theorem le_greatest [Std.Total r] [IsTrans α r] {l : List α} {b : α}
    (isGreatest : greatest r l = some b) : ∀ a ∈ l, r a b := by
  have self : ∀ a : α, r a a := fun a => (total_of r a a).elim id id
  induction l generalizing b with
  | nil => exact fun _ member => absurd member List.not_mem_nil
  | cons a l ih =>
      rw [greatest] at isGreatest
      cases rest : greatest r l with
      | none =>
          rw [rest] at isGreatest
          cases isGreatest
          have empty : l = [] := by
            by_contra nonempty
            have found := isSome_greatest r nonempty
            rw [rest] at found
            cases found
          subst empty
          exact List.forall_mem_singleton.mpr (self _)
      | some c =>
          rw [rest] at isGreatest
          dsimp only at isGreatest
          split at isGreatest
          · next below =>
            cases isGreatest
            exact List.forall_mem_cons.mpr ⟨below, ih rest⟩
          · next above =>
            cases isGreatest
            have less : r c a := (total_of r a c).resolve_left above
            exact List.forall_mem_cons.mpr
              ⟨self a, fun other member => trans_of r (ih rest other member) less⟩

/-- The last element after an insertion is the new one or the one before. -/
theorem getLast?_orderedInsert [IsTrans α r] (a : α) {l : List α} (sorted : l.Pairwise r) :
    (l.orderedInsert r a).getLast? =
      match l.getLast? with
      | none => some a
      | some b => if r a b then some b else some a := by
  induction l with
  | nil => rfl
  | cons b l ih =>
      obtain ⟨below, sorted⟩ := List.pairwise_cons.mp sorted
      rw [List.orderedInsert]
      split
      · next first =>
        -- the new element comes first, so the last one stays and is above it
        rw [List.getLast?_cons_cons]
        cases last : (b :: l).getLast? with
        | none => cases (List.getLast?_eq_none_iff.mp last)
        | some c =>
            have above : r a c := by
              rcases List.mem_cons.mp (List.mem_of_getLast? last) with rfl | member
              · exact first
              · exact trans_of r first (below c member)
            exact (if_pos above).symm
      · next later =>
        cases l with
        | nil => exact (if_neg later).symm
        | cons c l =>
            have nonempty : (c :: l).orderedInsert r a ≠ [] := by
              intro empty
              have member :=
                (List.mem_orderedInsert r (a := a) (b := a) (l := c :: l)).mpr (.inl rfl)
              rw [empty] at member
              exact List.not_mem_nil member
            rw [List.getLast?_cons_cons, ← ih sorted]
            obtain ⟨d, rest, split⟩ := List.exists_cons_of_ne_nil nonempty
            rw [split, List.getLast?_cons_cons]

/-- A stable sort puts the greatest element last. -/
theorem getLast?_insertionSort [Std.Total r] [IsTrans α r] (l : List α) :
    (l.insertionSort r).getLast? = greatest r l := by
  induction l with
  | nil => rfl
  | cons a l ih =>
      rw [List.insertionSort_cons, getLast?_orderedInsert r a (List.pairwise_insertionSort r l), ih,
        greatest]

end Stable

section Collect

variable [DecidableEq κ] (key : α → Option κ)

/-- File one element under its key, opening the file when it is the first. -/
def file (dictionary : AList fun _ : κ => List α) (a : α) : AList fun _ : κ => List α :=
  match key a with
  | none => dictionary
  | some k => dictionary.insert k ((dictionary.lookup k).getD [] ++ [a])

/-- File all elements of a list under their keys, in order. -/
def collect (l : List α) : AList fun _ : κ => List α :=
  l.foldl (file key) ∅

theorem collect_concat (l : List α) (a : α) :
    collect key (l ++ [a]) = file key (collect key l) a := by
  simp only [collect, List.foldl_append, List.foldl_cons, List.foldl_nil]

/-- A bucket has the elements with its key, in their order. -/
theorem collect_getD (l : List α) (k : κ) :
    ((collect key l).lookup k).getD [] = l.filter fun a => key a = some k := by
  induction l using List.reverseRecOn with
  | nil => rfl
  | append_singleton l a ih =>
      rw [collect_concat, file, List.filter_append]
      cases keyed : key a with
      | none => simp [ih, keyed]
      | some own =>
          by_cases same : k = own
          · subst same
            simp [ih, keyed]
          · simp [AList.lookup_insert_ne same, ih, keyed, Ne.symm same]

/-- There is a bucket for each key of an element. -/
theorem mem_collect_keys (l : List α) (k : κ) :
    k ∈ (collect key l).keys ↔ ∃ a ∈ l, key a = some k := by
  induction l using List.reverseRecOn with
  | nil => simp [collect]
  | append_singleton l a ih =>
      rw [collect_concat, file]
      cases keyed : key a with
      | none => simp [ih, keyed]
      | some own =>
          rw [← AList.mem_keys, AList.mem_insert, AList.mem_keys, ih]
          simp only [List.mem_append, List.mem_singleton, or_and_right, exists_or,
            exists_eq_left, keyed, Option.some.injEq]
          rw [or_comm, eq_comm]

/-- What has no key leaves no trace. -/
theorem collect_filter (l : List α) :
    collect key (l.filter fun a => (key a).isSome) = collect key l := by
  induction l using List.reverseRecOn with
  | nil => rfl
  | append_singleton l a ih =>
      rw [List.filter_append, collect_concat]
      cases keyed : key a with
      | none =>
          rw [List.filter_cons_of_neg (by simp [keyed]), List.filter_nil, List.append_nil, ih,
            file, keyed]
      | some k =>
          rw [List.filter_cons_of_pos (by simp [keyed]), List.filter_nil, collect_concat, ih]

end Collect

section Buckets

variable [LinearOrder κ] (key : α → Option κ) (r : α → α → Prop) [DecidableRel r]

/-- The keys in use, in increasing order. -/
def sortedKeys (l : List α) : List κ :=
  (collect key l).keys.insertionSort (· ≤ ·)

/-- The files of a list by increasing key, each sorted by `r`. -/
def buckets (l : List α) : List (List α) :=
  (sortedKeys key l).map fun k => (((collect key l).lookup k).getD []).insertionSort r

/-- The sorted keys are those of the elements. -/
theorem mem_sortedKeys (l : List α) (k : κ) :
    k ∈ sortedKeys key l ↔ ∃ a ∈ l, key a = some k := by
  rw [sortedKeys, (List.perm_insertionSort (· ≤ ·) _).mem_iff, mem_collect_keys]

/-- No key comes twice. -/
theorem sortedKeys_nodup (l : List α) : (sortedKeys key l).Nodup :=
  (List.perm_insertionSort (· ≤ ·) _).nodup_iff.mpr (AList.keys_nodup _)

/-- The sorted keys increase. -/
theorem sortedKeys_strict (l : List α) : (sortedKeys key l).Pairwise (· < ·) :=
  ((List.pairwise_insertionSort (· ≤ ·) _).and (sortedKeys_nodup key l)).imp
    fun both => lt_of_le_of_ne both.1 both.2

/-- There is a bucket for each key, in the order of the keys, with the sorted elements. -/
theorem buckets_eq (l : List α) :
    buckets key r l =
      (sortedKeys key l).map fun k => (l.filter fun a => key a = some k).insertionSort r := by
  simp only [buckets, collect_getD]

/-- Elements without a key are in no bucket. -/
theorem buckets_filter (l : List α) :
    buckets key r (l.filter fun a => (key a).isSome) = buckets key r l := by
  simp only [buckets, sortedKeys, collect_filter]

/-- What is filed under a key carries that key. -/
theorem mem_bucket_iff (l : List α) (k : κ) (a : α) :
    a ∈ (l.filter fun b => key b = some k).insertionSort r ↔ a ∈ l ∧ key a = some k := by
  rw [(List.perm_insertionSort r _).mem_iff, List.mem_filter, decide_eq_true_eq]

/-- Selecting by a duplicate-free list of keys selects each element once. -/
theorem flatten_filter_perm (l : List α) {keys : List κ} (distinct : keys.Nodup) :
    ((keys.map fun k => l.filter fun a => key a = some k).flatten).Perm
      (l.filter fun a => ∃ k ∈ keys, key a = some k) := by
  induction keys with
  | nil => simp
  | cons k keys ih =>
      obtain ⟨fresh, distinct⟩ := List.nodup_cons.mp distinct
      rw [List.map_cons, List.flatten_cons]
      apply ((ih distinct).append_left _).trans
      have parts := List.filter_append_perm (fun a => decide (key a = some k))
        (l.filter fun a => ∃ k' ∈ k :: keys, key a = some k')
      rw [List.filter_filter, List.filter_filter] at parts
      refine List.Perm.trans (List.Perm.of_eq (congrArg₂ _ ?_ ?_)) parts
      · apply List.filter_congr
        intro a _
        by_cases own : key a = some k <;> simp [own]
      · apply List.filter_congr
        intro a _
        by_cases own : key a = some k
        · simp [own, fresh]
        · simp [own]

/-- The buckets hold exactly the elements that have a key. -/
theorem flatten_buckets_perm (l : List α) :
    (buckets key r l).flatten.Perm (l.filter fun a => (key a).isSome) := by
  rw [buckets_eq]
  have unsorted : ((sortedKeys key l).map fun k =>
      (l.filter fun a => key a = some k).insertionSort r).flatten.Perm
        ((sortedKeys key l).map fun k => l.filter fun a => key a = some k).flatten := by
    rw [← List.flatMap_def, ← List.flatMap_def]
    exact List.Perm.flatMap_left _ fun k _ => List.perm_insertionSort r _
  refine unsorted.trans ((flatten_filter_perm key l (sortedKeys_nodup key l)).trans ?_)
  refine List.Perm.of_eq (List.filter_congr fun a member => ?_)
  rw [Bool.eq_iff_iff, decide_eq_true_eq, Option.isSome_iff_exists]
  simp only [mem_sortedKeys]
  constructor
  · rintro ⟨k, -, keyed⟩
    exact ⟨k, keyed⟩
  · rintro ⟨k, keyed⟩
    exact ⟨k, ⟨a, member, keyed⟩, keyed⟩

/-- No bucket is empty. -/
theorem nil_notMem_buckets (l : List α) : [] ∉ buckets key r l := by
  rw [buckets_eq, List.mem_map]
  rintro ⟨k, inUse, empty⟩
  obtain ⟨a, member, keyed⟩ := (mem_sortedKeys key l k).mp inUse
  have filed := (mem_bucket_iff key r l k a).mpr ⟨member, keyed⟩
  rw [empty] at filed
  exact List.not_mem_nil filed

/-- The elements of a bucket share one key. -/
theorem key_eq_of_mem_bucket {l bucket : List α} (inside : bucket ∈ buckets key r l) :
    ∃ k, ∀ a ∈ bucket, key a = some k := by
  rw [buckets_eq, List.mem_map] at inside
  obtain ⟨k, -, rfl⟩ := inside
  exact ⟨k, fun a member => ((mem_bucket_iff key r l k a).mp member).2⟩

/-- Keys increase strictly from bucket to bucket. -/
theorem buckets_key_strict (l : List α) :
    (buckets key r l).Pairwise fun first second =>
      ∀ a ∈ first, ∀ b ∈ second, ∃ i j, key a = some i ∧ key b = some j ∧ i < j := by
  rw [buckets_eq, List.pairwise_map]
  apply (sortedKeys_strict key l).imp
  intro i j less a inFirst b inSecond
  exact ⟨i, j, ((mem_bucket_iff key r l i a).mp inFirst).2,
    ((mem_bucket_iff key r l j b).mp inSecond).2, less⟩

/-- Each bucket is sorted. -/
theorem bucket_sorted [Std.Total r] [IsTrans α r] {l bucket : List α}
    (inside : bucket ∈ buckets key r l) : bucket.Pairwise r := by
  rw [buckets_eq, List.mem_map] at inside
  obtain ⟨k, -, rfl⟩ := inside
  exact List.pairwise_insertionSort r _

/-- When a smaller key means an earlier element, the buckets read one after
another are sorted. -/
theorem flatten_buckets_sorted [Std.Total r] [IsTrans α r] {l : List α}
    (follows : ∀ a b i j, key a = some i → key b = some j → i < j → r a b) :
    (buckets key r l).flatten.Pairwise r := by
  rw [List.pairwise_flatten]
  refine ⟨fun bucket inside => bucket_sorted key r inside, ?_⟩
  apply (buckets_key_strict key r l).imp
  intro first second apart a inFirst b inSecond
  obtain ⟨i, j, keyA, keyB, less⟩ := apart a inFirst b inSecond
  exact follows a b i j keyA keyB less

/-- The buckets are the maximal runs of any relation that holds inside every
bucket and fails between elements of different keys. -/
theorem splitBy_flatten_buckets {same : α → α → Bool} {l : List α}
    (within : ∀ a b k, key a = some k → key b = some k → same a b = true)
    (across : ∀ a b i j, key a = some i → key b = some j → i < j → same a b = false) :
    (buckets key r l).flatten.splitBy same = buckets key r l := by
  refine List.splitBy_flatten (nil_notMem_buckets key r l) (fun bucket inside => ?_) ?_
  · obtain ⟨k, shared⟩ := key_eq_of_mem_bucket key r inside
    exact (List.pairwise_of_forall_mem_list fun a first b second =>
      within a b k (shared a first) (shared b second)).isChain
  · have nonempty : ∀ bucket ∈ buckets key r l, bucket ≠ [] := by
      rintro bucket inside rfl
      exact nil_notMem_buckets key r l inside
    have apart := (buckets_key_strict key r l).imp_of_mem
      (S := fun first second => ∃ ha hb,
        same (first.getLast ha) (second.head hb) = false) ?_
    · exact apart.isChain
    · intro first second inFirst inSecond strict
      refine ⟨nonempty first inFirst, nonempty second inSecond, ?_⟩
      obtain ⟨i, j, keyA, keyB, less⟩ :=
        strict _ (List.getLast_mem (nonempty first inFirst)) _
          (List.head_mem (nonempty second inSecond))
      exact across _ _ i j keyA keyB less

end Buckets

end Bucket
