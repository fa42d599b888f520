import Mathlib.Data.List.Nodup
import Mathlib.Tactic.Linarith
import Mathlib.Tactic.Ring
import MovieFun.Helper.ArraySlice
import MovieFun.Helper.CGFloat
import MovieFun.View.Chat.ChatViewModel

/-!
# The window of cached thumbnails

While the strip of photos is scrolled, `scrollViewDidScroll` caches the photos on screen with
ten more on either side, and stops caching the others. The index of the right end is clamped
with `>` where the last index is one below the count. So the three slices are in range and
part the photos exactly when the window does not end one past the last photo
(`coversAssets_iff`).
-/

namespace MovieFun

/-- A photo of the strip and whether it is selected. -/
structure PHAssetWrapper where
  phAsset : Option PHAsset
  isSelectedAsset : Bool := false
deriving DecidableEq, Repr

/-- What the image manager is told for one scroll event. -/
structure CacheRequest where
  addCacheAssets : List PHAsset
  removeCacheAssets : List PHAsset
deriving DecidableEq, Repr

namespace ChatViewController

/-- The width of a cell of the strip. -/
def WIDTH_OF_IMAGE_COLLECTION_VIEW_CELL : CGFloat := 300

/-- The indices of the two ends of the window. -/
def cacheWindow (count : Nat) (startX width : CGFloat) : Int × Int :=
  let indexStartX := CGFloat.toInt (startX / WIDTH_OF_IMAGE_COLLECTION_VIEW_CELL)
  let endX := startX + width
  let indexEndX := CGFloat.toInt (endX / WIDTH_OF_IMAGE_COLLECTION_VIEW_CELL)
  (if indexStartX - 10 < 0 then 0 else indexStartX - 10,
    if indexEndX + 10 > count then count - 1 else indexEndX + 10)

/-- The requests of a scroll event at an offset of a strip of some width. `none` is a trap. -/
def scrollViewDidScroll (phassets : Option (List PHAssetWrapper)) (startX width : CGFloat) :
    Option (Option CacheRequest) :=
  match phassets with
  | none => some none
  | some phAssets => do
      let (indexStartX, indexEndX) := cacheWindow phAssets.length startX width
      let addCacheAssetWrappers ← closedSlice phAssets indexStartX indexEndX
      let addCacheAssets ← addCacheAssetWrappers.mapM PHAssetWrapper.phAsset
      let before ← (if indexStartX > 0 then
          (slice phAssets 0 indexStartX).bind (List.mapM PHAssetWrapper.phAsset)
        else some [])
      let after ← (if indexEndX < phAssets.length - 1 then
          (slice phAssets (indexEndX + 1) phAssets.length).bind (List.mapM PHAssetWrapper.phAsset)
        else some [])
      return some { addCacheAssets, removeCacheAssets := before ++ after }

end ChatViewController

open ChatViewController

/-- The window is in range, no slice traps, and the two requests part the photos. -/
def CoversAssets (assets : List PHAsset) (phAssets : List PHAssetWrapper)
    (startX width : CGFloat) : Prop :=
  let (indexStartX, indexEndX) := cacheWindow phAssets.length startX width
  (0 ≤ indexStartX ∧ indexStartX ≤ indexEndX ∧ indexEndX ≤ phAssets.length - 1) ∧
    ∃ request, scrollViewDidScroll (some phAssets) startX width = some (some request) ∧
      (request.addCacheAssets ++ request.removeCacheAssets).Perm assets ∧
      (assets.Nodup → request.addCacheAssets.Disjoint request.removeCacheAssets)

section Window

variable {count : Nat} {startX width : CGFloat}

/-- The photo at the left edge is one of the photos, and not right of the one at the right
edge. -/
theorem left_edge (positive : 0 < count) (shown : 0 < width) (nonneg : 0 ≤ startX)
    (inContent : startX ≤ max 0 (300 * count - width)) :
    0 ≤ ⌊startX / 300⌋ ∧ ⌊startX / 300⌋ < count ∧
      ⌊startX / 300⌋ ≤ ⌊(startX + width) / 300⌋ := by
  refine ⟨Int.floor_nonneg.mpr (by linarith), Int.floor_lt.mpr ?_,
    Int.floor_le_floor (by linarith)⟩
  have atLeast : (1 : Rat) ≤ count := by exact_mod_cast positive
  have bound : startX < 300 * count := by
    rcases le_max_iff.mp inContent with atStart | within
    · linarith
    · linarith
  rw [Int.cast_natCast]
  linarith

/-- The photo at the right edge is the tenth before the end of the array. -/
theorem right_edge_iff : ⌊(startX + width) / 300⌋ + 10 = count ↔
    300 * ((count : Rat) - 10) ≤ startX + width ∧ startX + width < 300 * ((count : Rat) - 9) := by
  have shift : ⌊(startX + width) / 300⌋ + 10 = count ↔
      ⌊(startX + width) / 300⌋ = (count : Int) - 10 := by omega
  rw [shift, Int.floor_eq_iff]
  push_cast
  constructor
  · rintro ⟨below, above⟩
    constructor <;> linarith
  · rintro ⟨below, above⟩
    constructor <;> linarith

/-- The ends of the window, from the photos at the two edges. -/
theorem cacheWindow_eq (count : Nat) (shown : 0 < width) (nonneg : 0 ≤ startX) :
    cacheWindow count startX width =
      (if ⌊startX / 300⌋ - 10 < 0 then 0 else ⌊startX / 300⌋ - 10,
        if ⌊(startX + width) / 300⌋ + 10 > count then (count : Int) - 1
        else ⌊(startX + width) / 300⌋ + 10) := by
  have left : CGFloat.toInt (startX / 300) = ⌊startX / 300⌋ :=
    CGFloat.toInt_eq_floor (by linarith)
  have right : CGFloat.toInt ((startX + width) / 300) = ⌊(startX + width) / 300⌋ :=
    CGFloat.toInt_eq_floor (by linarith)
  simp only [cacheWindow, WIDTH_OF_IMAGE_COLLECTION_VIEW_CELL, left, right]

variable {assets : List PHAsset} {phAssets : List PHAssetWrapper}

/-- A window in range is cached, and the rest is not. -/
theorem scrollViewDidScroll_eq (wrapped : phAssets.map PHAssetWrapper.phAsset = assets.map some)
    {first last : Nat} (order : first ≤ last) (inRange : last < phAssets.length)
    (window : cacheWindow phAssets.length startX width = ((first : Int), (last : Int))) :
    scrollViewDidScroll (some phAssets) startX width = some (some
      { addCacheAssets := (assets.take (last + 1)).drop first
        removeCacheAssets := assets.take first ++ assets.drop (last + 1) }) := by
  have sameLength : assets.length = phAssets.length := by
    rw [← List.length_map some, ← wrapped, List.length_map]
  have before : (if (first : Int) > 0 then
      (slice phAssets 0 first).bind (List.mapM PHAssetWrapper.phAsset) else some []) =
        some (assets.take first) := by
    split
    · have taken := mapM_slice wrapped 0 first
      rw [List.drop_zero, List.drop_zero] at taken
      have sliced : slice phAssets 0 first = some (phAssets.take first) :=
        slice_eq (Nat.zero_le first) (by omega)
      rw [sliced, Option.bind_some, taken]
    · rw [show first = 0 by omega, List.take_zero]
  have after : (if (last : Int) < phAssets.length - 1 then
      (slice phAssets (last + 1) phAssets.length).bind (List.mapM PHAssetWrapper.phAsset)
        else some []) = some (assets.drop (last + 1)) := by
    split
    · have taken := mapM_slice wrapped (last + 1) phAssets.length
      rw [List.take_length, List.take_of_length_le sameLength.le] at taken
      have sliced : slice phAssets (last + 1 : Nat) phAssets.length =
          some ((phAssets.take phAssets.length).drop (last + 1)) := slice_eq inRange le_rfl
      rw [Nat.cast_add_one] at sliced
      rw [sliced, List.take_length, Option.bind_some, taken]
    · rw [List.drop_of_length_le (by omega)]
  simp only [scrollViewDidScroll, window, closedSlice_eq order inRange, Option.bind_eq_bind,
    Option.bind_some, mapM_slice wrapped, before, after]
  rfl

/-- A window that ends past the last photo traps. -/
theorem scrollViewDidScroll_eq_none
    (outside : (phAssets.length : Int) ≤ (cacheWindow phAssets.length startX width).2) :
    scrollViewDidScroll (some phAssets) startX width = none := by
  simp only [scrollViewDidScroll, closedSlice_eq_none outside, Option.bind_eq_bind,
    Option.bind_none]

end Window

/-- **The window of cached thumbnails.** At every offset in the content, the window is in range
and the two requests part the photos exactly when the photo at the right edge is not the tenth
before the end of the array. -/
theorem coversAssets_iff {assets : List PHAsset} {phAssets : List PHAssetWrapper}
    (wrapped : phAssets.map PHAssetWrapper.phAsset = assets.map some) (nonempty : assets ≠ [])
    {startX width : CGFloat} (shown : 0 < width) (nonneg : 0 ≤ startX)
    (inContent : startX ≤ max 0 (300 * assets.length - width)) :
    CoversAssets assets phAssets startX width ↔
      ¬ (300 * ((assets.length : Rat) - 10) ≤ startX + width ∧
        startX + width < 300 * ((assets.length : Rat) - 9)) := by
  have sameLength : phAssets.length = assets.length := by
    rw [← List.length_map PHAssetWrapper.phAsset, wrapped, List.length_map]
  obtain ⟨leftNonneg, leftInRange, order⟩ :=
    left_edge (List.length_pos_iff.mpr nonempty) shown nonneg inContent
  have window := cacheWindow_eq phAssets.length shown nonneg
  rw [← right_edge_iff, CoversAssets, window]
  dsimp only
  constructor
  · rintro ⟨⟨-, -, inRange⟩, -⟩ atEnd
    rw [if_neg (by omega)] at inRange
    omega
  · intro inside
    generalize indexStartX :
      (if ⌊startX / 300⌋ - 10 < 0 then 0 else ⌊startX / 300⌋ - 10) = start at window ⊢
    generalize indexEndX : (if ⌊(startX + width) / 300⌋ + 10 > phAssets.length then
      (phAssets.length : Int) - 1 else ⌊(startX + width) / 300⌋ + 10) = stop at window ⊢
    have inRange : 0 ≤ start ∧ start ≤ stop ∧ stop ≤ (phAssets.length : Int) - 1 := by
      split at indexStartX <;> split at indexEndX <;> omega
    refine ⟨inRange, ?_⟩
    obtain ⟨first, rfl⟩ := Int.eq_ofNat_of_zero_le inRange.1
    obtain ⟨last, rfl⟩ := Int.eq_ofNat_of_zero_le (inRange.1.trans inRange.2.1)
    have ordered : first ≤ last := Int.ofNat_le.mp inRange.2.1
    have parted : ((assets.take (last + 1)).drop first ++
        (assets.take first ++ assets.drop (last + 1))).Perm assets :=
      perm_window (Nat.le_succ_of_le ordered)
    refine ⟨_, scrollViewDidScroll_eq wrapped ordered (by omega) window, parted, ?_⟩
    intro distinct
    exact List.disjoint_of_nodup_append (parted.nodup_iff.mpr distinct)

/-- Photos numbered from zero. -/
def numberedPhotos (count : Nat) : List PHAsset :=
  (List.range count).map fun number => ⟨toString number⟩

/-- In a strip of twelve photos on a phone, unscrolled, the first eleven are cached. -/
theorem coversAssets_twelvePhotos :
    CoversAssets (numberedPhotos 12) ((numberedPhotos 12).map fun asset => ⟨some asset, false⟩)
      0 375 :=
  (coversAssets_iff rfl (by decide) (by norm_num) le_rfl (le_max_left _ _)).mpr
    (by norm_num [numberedPhotos])

/-- In a strip of eleven photos the slice ends past the last one, and the app traps. -/
theorem not_coversAssets_elevenPhotos :
    ¬ CoversAssets (numberedPhotos 11) ((numberedPhotos 11).map fun asset => ⟨some asset, false⟩)
      0 375 ∧
    scrollViewDidScroll
      (some ((numberedPhotos 11).map fun asset => ⟨some asset, false⟩)) 0 375 = none := by
  have traps : scrollViewDidScroll
      (some ((numberedPhotos 11).map fun asset => ⟨some asset, false⟩)) 0 375 = none :=
    scrollViewDidScroll_eq_none (by decide +kernel)
  refine ⟨?_, traps⟩
  rintro ⟨-, request, covered, -⟩
  rw [traps] at covered
  cases covered

end MovieFun
