import MovieFun.View.PhotoGallery.MainCollectionViewCell

/-!
# Image views

An image view with what is laid over it: the spinners that `addSpinnerView` adds and
`removeSpinnerView` takes away, all at once, and other image views.
-/

namespace MovieFun

/-- A view over an image view: a spinner, or one of the image views that were created. -/
inductive Subview
  | spinnerView
  | imageView (number : Nat) (image : Option UIImage)
deriving DecidableEq, Repr

/-- The image of a view over an image view. -/
def Subview.image : Subview → Option UIImage
  | spinnerView => none
  | imageView _ image => image

/-- An image view with the views over it. -/
structure UIImageView where
  image : Option UIImage := none
  subviews : List Subview := []
deriving DecidableEq, Repr

namespace UIImageView

/-- No view is left over the image view. -/
def removeSubviews (view : UIImageView) : UIImageView := { view with subviews := [] }

/-- A spinner is put over the image view. -/
def addSpinnerView (view : UIImageView) : UIImageView :=
  { view with subviews := view.subviews ++ [.spinnerView] }

/-- The spinners over the image view are removed. -/
def removeSpinnerView (view : UIImageView) : UIImageView :=
  { view with subviews := view.subviews.filter (· ≠ .spinnerView) }

variable {view : UIImageView}

/-- There is a spinner after one was added. -/
theorem spinnerView_addSpinnerView : .spinnerView ∈ view.addSpinnerView.subviews :=
  List.mem_append_right _ List.mem_cons_self

/-- There is none after the spinners were removed. -/
theorem spinnerView_removeSpinnerView : .spinnerView ∉ view.removeSpinnerView.subviews := by
  simp [removeSpinnerView]

end UIImageView

end MovieFun
