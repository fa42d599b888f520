import Mathlib.Tactic.FieldSimp
import Mathlib.Tactic.Linarith
import MovieFun.Helper.CGFloat
import MovieFun.Helper.DynamicType

/-!
# Tapping a thumbnail of the gallery

The main view and the strip of thumbnails tell each other how far they are scrolled, as a ratio
of the content, and the one that is told makes a section of it. A tap on a thumbnail tells the
ratio of the strip, whichever thumbnail it is. So it brings up the picture at the left edge of
the strip, and no other one (`tap_bringsUp_iff`).
-/

namespace MovieFun

/-- A collection that scrolls horizontally, by its positions and widths. -/
structure UICollectionView where
  contentOffset : CGFloat
  contentSize : CGFloat
  frame : CGFloat

/-- How far the collection is scrolled, as a ratio of its content. -/
def UICollectionView.ratio (collectionView : UICollectionView) : CGFloat :=
  let x := collectionView.contentOffset / collectionView.contentSize
  if x < 0 then x * -1 else x

/-- What hears of a ratio: the view model whose collection is to be scrolled to it. -/
inductive RatioListener
  | subCollectionViewModel
  | mainCollectionViewModel

/-- The strip of thumbnails, with the ratio that it tells. -/
structure SubCollectionViewModel where
  subCollectionView : Option UICollectionView := none
  ratioIndex : DynamicType CGFloat RatioListener := { value := some 0 }

namespace SubCollectionViewModel

/-- The width of a thumbnail. -/
def widthCell : CGFloat := 150

/-- The section that is scrolled to, if there is a collection. -/
def scrollToPosition (ratioIndex : CGFloat) (viewModel : SubCollectionViewModel) : Option Int :=
  viewModel.subCollectionView.map fun subCollectionView =>
    CGFloat.toInt (ratioIndex * subCollectionView.contentSize / widthCell)

/-- A tap on a section, of which only the offset of the collection is looked at. The listener
that is called comes with the ratio. -/
def didSelectItemAt (collectionView : UICollectionView) (_indexPathSection : Nat)
    (viewModel : SubCollectionViewModel) :
    SubCollectionViewModel × Option (RatioListener × CGFloat) :=
  let (ratioIndex, called) := viewModel.ratioIndex.setValue (some collectionView.ratio)
  ({ viewModel with ratioIndex }, called)

end SubCollectionViewModel

/-- The collection of pictures, with the ratio that it tells. -/
structure MainCollectionViewModel where
  mainCollectionView : Option UICollectionView := none
  ratioIndex : DynamicType CGFloat RatioListener := { value := some 0 }

namespace MainCollectionViewModel

/-- The picture that the collection scrolls to at a ratio. -/
def scrollToPosition (ratioIndex : CGFloat) (viewModel : MainCollectionViewModel) : Option Int :=
  viewModel.mainCollectionView.map fun mainCollectionView =>
    CGFloat.toInt (ratioIndex * mainCollectionView.contentSize / mainCollectionView.frame)

/-- The ratio at which the collection is scrolled is told. -/
def scrollViewDidScroll (scrollView : UICollectionView) (viewModel : MainCollectionViewModel) :
    MainCollectionViewModel × Option (RatioListener × CGFloat) :=
  let (ratioIndex, called) := viewModel.ratioIndex.setValue (some scrollView.ratio)
  ({ viewModel with ratioIndex }, called)

end MainCollectionViewModel

/-- The two view models of the gallery, which scroll each other's collections. -/
structure GalleryScrolling where
  subCollectionViewModel : SubCollectionViewModel := {}
  mainCollectionViewModel : MainCollectionViewModel := {}

/-- A collection of the gallery is told to scroll to a section. -/
inductive GalleryScroll
  | subCollectionView (assetIndex : Int)
  | mainCollectionView (assetIndex : Int)
deriving DecidableEq, Repr

namespace GalleryScrolling

/-- The two collections listen to each other. -/
def initBinding (gallery : GalleryScrolling) : GalleryScrolling where
  subCollectionViewModel :=
    { gallery.subCollectionViewModel with
      ratioIndex :=
        gallery.subCollectionViewModel.ratioIndex.listen .mainCollectionViewModel }
  mainCollectionViewModel :=
    { gallery.mainCollectionViewModel with
      ratioIndex :=
        gallery.mainCollectionViewModel.ratioIndex.listen .subCollectionViewModel }

/-- What a listener does with a ratio. -/
def hear (gallery : GalleryScrolling) : RatioListener × CGFloat → Option GalleryScroll
  | (.subCollectionViewModel, ratioIndex) =>
      (gallery.subCollectionViewModel.scrollToPosition ratioIndex).map .subCollectionView
  | (.mainCollectionViewModel, ratioIndex) =>
      (gallery.mainCollectionViewModel.scrollToPosition ratioIndex).map .mainCollectionView

/-- A tap on a thumbnail of the strip. -/
def didSelectItemAt (indexPathSection : Nat) (gallery : GalleryScrolling) :
    GalleryScrolling × Option GalleryScroll :=
  match gallery.subCollectionViewModel.subCollectionView with
  | none => (gallery, none)
  | some collectionView =>
      let (subCollectionViewModel, called) :=
        gallery.subCollectionViewModel.didSelectItemAt collectionView indexPathSection
      let gallery := { gallery with subCollectionViewModel }
      (gallery, called.bind gallery.hear)

/-- The main view was scrolled. -/
def scrollViewDidScroll (gallery : GalleryScrolling) : GalleryScrolling × Option GalleryScroll :=
  match gallery.mainCollectionViewModel.mainCollectionView with
  | none => (gallery, none)
  | some scrollView =>
      let (mainCollectionViewModel, called) :=
        gallery.mainCollectionViewModel.scrollViewDidScroll scrollView
      let gallery := { gallery with mainCollectionViewModel }
      (gallery, called.bind gallery.hear)

end GalleryScrolling

/-- The assets of a gallery on the screen: how many there are, how wide the main view and the
strip are, and an offset at which the strip can rest. -/
structure GalleryLayout where
  count : Nat
  pageWidth : CGFloat
  stripWidth : CGFloat
  offset : CGFloat
  count_pos : 1 ≤ count
  pageWidth_pos : 0 < pageWidth
  stripWidth_pos : 0 < stripWidth
  offset_nonneg : 0 ≤ offset
  offset_le : offset ≤ max 0 (150 * count - stripWidth)

namespace GalleryLayout

variable (layout : GalleryLayout)

/-- The gallery once it is bound and laid out, with its main view at an offset. -/
def scrolling (gallery : GalleryScrolling) (mainOffset : CGFloat) : GalleryScrolling :=
  GalleryScrolling.initBinding
    { subCollectionViewModel :=
        { gallery.subCollectionViewModel with
          subCollectionView := some
            ⟨layout.offset, layout.count * SubCollectionViewModel.widthCell, layout.stripWidth⟩ }
      mainCollectionViewModel :=
        { gallery.mainCollectionViewModel with
          mainCollectionView := some
            ⟨mainOffset, layout.count * layout.pageWidth, layout.pageWidth⟩ } }

/-- Part of a thumbnail is on the screen. -/
structure IsVisible (i : Nat) : Prop where
  inStrip : i < layout.count
  beforeRight : 150 * i < layout.offset + layout.stripWidth
  afterLeft : layout.offset < 150 * (i + 1)

/-- A tap on a thumbnail scrolls the main view to its picture. -/
def BringsUp (gallery : GalleryScrolling) (mainOffset : CGFloat) (i : Nat) : Prop :=
  ((layout.scrolling gallery mainOffset).didSelectItemAt i).2 =
      some (.mainCollectionView i) ∧
    i < layout.count

variable {layout} {gallery : GalleryScrolling}

/-- The ratio of a collection at an offset of its content. -/
theorem ratio_of_nonneg {collectionView : UICollectionView}
    (offset : 0 ≤ collectionView.contentOffset) (size : 0 ≤ collectionView.contentSize) :
    collectionView.ratio = collectionView.contentOffset / collectionView.contentSize := by
  have nonneg : 0 ≤ collectionView.contentOffset / collectionView.contentSize :=
    div_nonneg offset size
  exact if_neg (not_lt.mpr nonneg)

/-- A ratio of cells of one width is the same number of cells of another width. -/
theorem toInt_rescale {count : Nat} {here there offset frame : CGFloat} (nonempty : 1 ≤ count)
    (here_pos : 0 < here) (there_pos : 0 < there) (nonneg : 0 ≤ offset) :
    CGFloat.toInt ((UICollectionView.mk offset (count * here) frame).ratio * (count * there) /
      there) = ⌊offset / here⌋ := by
  have count_pos : (0 : CGFloat) < count := Nat.cast_pos.mpr nonempty
  have content_pos : 0 < count * here := mul_pos count_pos here_pos
  have cells : offset / (count * here) * (count * there) / there = offset / here := by
    field_simp
  rw [ratio_of_nonneg nonneg content_pos.le, cells]
  exact CGFloat.toInt_eq_floor (div_nonneg nonneg here_pos.le)

/-- A tap scrolls the main view to the section at the left edge of the strip. -/
theorem didSelectItemAt_eq (layout : GalleryLayout) (gallery : GalleryScrolling)
    (mainOffset : CGFloat) (i : Nat) :
    ((layout.scrolling gallery mainOffset).didSelectItemAt i).2 =
      some (.mainCollectionView ⌊layout.offset / 150⌋) := by
  have widthCell_pos : 0 < SubCollectionViewModel.widthCell := by decide
  have rescaled : CGFloat.toInt ((UICollectionView.mk layout.offset
      (layout.count * SubCollectionViewModel.widthCell) layout.stripWidth).ratio *
        (layout.count * layout.pageWidth) / layout.pageWidth) = ⌊layout.offset / 150⌋ :=
    toInt_rescale layout.count_pos widthCell_pos layout.pageWidth_pos layout.offset_nonneg
  rw [← rescaled]
  rfl

/-- The section at the left edge is one of the assets. -/
theorem floor_lt_count (layout : GalleryLayout) : ⌊layout.offset / 150⌋ < layout.count := by
  have nonempty : (1 : Rat) ≤ layout.count := Nat.one_le_cast.mpr layout.count_pos
  have inContent : layout.offset < 150 * layout.count := by
    rcases le_max_iff.mp layout.offset_le with atFront | withinContent
    · linarith
    · linarith [layout.stripWidth_pos]
  rw [Int.floor_lt, div_lt_iff₀' (by norm_num)]
  exact_mod_cast inContent

/-- Whatever thumbnail is tapped, the section that the main view scrolls to is there. -/
theorem didSelectItemAt_inRange (layout : GalleryLayout) (gallery : GalleryScrolling)
    (mainOffset : CGFloat) (i : Nat) :
    ∃ assetIndex < layout.count,
      ((layout.scrolling gallery mainOffset).didSelectItemAt i).2 =
        some (.mainCollectionView assetIndex) := by
  have nonneg : 0 ≤ ⌊layout.offset / 150⌋ :=
    Int.floor_nonneg.mpr (div_nonneg layout.offset_nonneg (by norm_num))
  obtain ⟨assetIndex, isIndex⟩ := Int.eq_ofNat_of_zero_le nonneg
  refine ⟨assetIndex, ?_, ?_⟩
  · have inRange := floor_lt_count layout
    rw [isIndex] at inRange
    exact Int.ofNat_lt.mp inRange
  · rw [didSelectItemAt_eq, isIndex]

/-- The strip follows the main view: to the page that this one rests at. -/
theorem scrollViewDidScroll_eq (layout : GalleryLayout) (gallery : GalleryScrolling) (page : Nat) :
    ((layout.scrolling gallery (page * layout.pageWidth)).scrollViewDidScroll).2 =
      some (.subCollectionView page) := by
  have widthCell_pos : 0 < SubCollectionViewModel.widthCell := by decide
  have offset : 0 ≤ page * layout.pageWidth :=
    mul_nonneg (Nat.cast_nonneg page) layout.pageWidth_pos.le
  have rescaled : CGFloat.toInt ((UICollectionView.mk (page * layout.pageWidth)
      (layout.count * layout.pageWidth) layout.pageWidth).ratio *
        (layout.count * SubCollectionViewModel.widthCell) / SubCollectionViewModel.widthCell) =
      ⌊page * layout.pageWidth / layout.pageWidth⌋ :=
    toInt_rescale layout.count_pos layout.pageWidth_pos widthCell_pos offset
  rw [mul_div_cancel_right₀ _ layout.pageWidth_pos.ne', Int.floor_natCast] at rescaled
  rw [← rescaled]
  rfl

/-- **Tapping a thumbnail.** The tap on a thumbnail that can be seen brings up its picture
exactly if the thumbnail begins at the left edge of the strip or before it. -/
theorem tap_bringsUp_iff (layout : GalleryLayout) (gallery : GalleryScrolling)
    (mainOffset : CGFloat) {i : Nat} (visible : layout.IsVisible i) :
    layout.BringsUp gallery mainOffset i ↔ 150 * i ≤ layout.offset := by
  have afterLeft : layout.offset / 150 < i + 1 := by
    rw [div_lt_iff₀' (by norm_num)]
    exact visible.afterLeft
  rw [BringsUp, didSelectItemAt_eq, and_iff_left visible.inStrip]
  simp only [Option.some.injEq, GalleryScroll.mainCollectionView.injEq]
  rw [Int.floor_eq_iff, Int.cast_natCast, and_iff_left afterLeft, le_div_iff₀' (by norm_num)]

/-- A gallery of two assets, both thumbnails of which can be seen. -/
def twoThumbnails : GalleryLayout where
  count := 2
  pageWidth := 375
  stripWidth := 375
  offset := 0
  count_pos := by decide
  pageWidth_pos := by norm_num
  stripWidth_pos := by norm_num
  offset_nonneg := le_rfl
  offset_le := le_max_left _ _

/-- The second one of them brings up the first picture. -/
theorem not_bringsUp_twoThumbnails :
    twoThumbnails.IsVisible 1 ∧ ¬ twoThumbnails.BringsUp {} 0 1 := by
  constructor
  · refine ⟨by decide, ?_, ?_⟩ <;> norm_num [twoThumbnails]
  · rintro ⟨scrolled, -⟩
    rw [didSelectItemAt_eq] at scrolled
    norm_num [twoThumbnails] at scrolled

/-- The first one brings up its own picture. -/
theorem bringsUp_twoThumbnails : twoThumbnails.BringsUp {} 0 0 := by
  have visible : twoThumbnails.IsVisible 0 := by
    refine ⟨by decide, ?_, ?_⟩ <;> norm_num [twoThumbnails]
  refine (tap_bringsUp_iff twoThumbnails {} 0 visible).mpr ?_
  norm_num [twoThumbnails]

end GalleryLayout

end MovieFun
