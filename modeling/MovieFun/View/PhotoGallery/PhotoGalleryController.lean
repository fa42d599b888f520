import MovieFun.View.Chat.ChatViewModel

/-!
# PhotoGalleryController

The gallery is handed a list of assets and the one to open on. It opens on the
first place of that asset, and at the front when the asset is not in the list.
-/

namespace MovieFun

/-- A row of one of the two collections of the gallery. -/
structure PhotoGalleryRowViewModel where
  accountId : Option String
  imageName : Option String
deriving DecidableEq, Repr

/-- The main collection and the sub collection keep the same data. -/
structure PhotoGalleryCollectionViewModel where
  currentAssetIndex : Nat := 0
  sectionViewModels : List (List PhotoGalleryRowViewModel) := []
deriving DecidableEq, Repr

/-- What the gallery is bound to. -/
structure PhotoGalleryViewModel where
  isFetching : Bool := false
  assets : Option (List ChatAsset) := none
  currentAsset : Option ChatAsset := none
  subCollectionViewModel : PhotoGalleryCollectionViewModel := {}
  mainCollectionViewModel : PhotoGalleryCollectionViewModel := {}
deriving DecidableEq, Repr

namespace PhotoGalleryController

/-- One collection after a build. -/
def buildCollection (assets : List ChatAsset) (currentAssetIndex : Nat)
    (collection : PhotoGalleryCollectionViewModel) : PhotoGalleryCollectionViewModel where
  currentAssetIndex
  sectionViewModels := collection.sectionViewModels ++
    [assets.map fun asset => ⟨some asset.accountId, some asset.imageName⟩]

/-- Both collections show the pictures. -/
def buildViewModels (assets : List ChatAsset) (currentAssetIndex : Nat)
    (photoGalleryVM : PhotoGalleryViewModel) : PhotoGalleryViewModel :=
  { photoGalleryVM with
    mainCollectionViewModel :=
      buildCollection assets currentAssetIndex photoGalleryVM.mainCollectionViewModel
    subCollectionViewModel :=
      buildCollection assets currentAssetIndex photoGalleryVM.subCollectionViewModel }

/-- The gallery opens at the picture it was asked for. -/
def start (photoGalleryVM : PhotoGalleryViewModel) : PhotoGalleryViewModel :=
  match photoGalleryVM.assets, photoGalleryVM.currentAsset with
  | some assets, some currentAsset =>
      let index := (assets.findIdx? fun arg =>
        decide (arg.accountId = currentAsset.accountId ∧
          arg.imageName = currentAsset.imageName)).getD 0
      { buildViewModels assets index { photoGalleryVM with isFetching := true } with
        isFetching := false }
  | _, _ => { photoGalleryVM with isFetching := true }

end PhotoGalleryController

/-- The gallery of some assets, asked for one of them, opens on that one. -/
def GalleryOpensOn (assets : List ChatAsset) (asset : ChatAsset) : Prop :=
  let photoGalleryVM := PhotoGalleryController.start
    { assets := some assets, currentAsset := some asset }
  assets[photoGalleryVM.mainCollectionViewModel.currentAssetIndex]? = some asset ∧
    assets[photoGalleryVM.subCollectionViewModel.currentAssetIndex]? = some asset

/-- The gallery opens on an asset exactly when it is in the list. -/
theorem galleryOpensOn_iff {assets : List ChatAsset} {asset : ChatAsset} :
    GalleryOpensOn assets asset ↔ asset ∈ assets := by
  constructor
  · rintro ⟨main, -⟩
    exact List.mem_of_getElem? main
  · intro member
    have inside : assets.any (fun arg => decide (arg.accountId = asset.accountId ∧
        arg.imageName = asset.imageName)) = true :=
      List.any_eq_true.mpr ⟨asset, member, decide_eq_true (And.intro rfl rfl)⟩
    rw [← List.findIdx?_isSome] at inside
    obtain ⟨index, found⟩ := Option.isSome_iff_exists.mp inside
    obtain ⟨bound, same, -⟩ := List.findIdx?_eq_some_iff_getElem.mp found
    have isAsset : assets[index]? = some asset := by
      obtain ⟨sameAccount, sameName⟩ := of_decide_eq_true same
      rw [List.getElem?_eq_getElem bound]
      exact congrArg some (ChatAsset.ext sameAccount sameName)
    simp only [GalleryOpensOn, PhotoGalleryController.start, found, Option.getD_some]
    exact ⟨isAsset, isAsset⟩

end MovieFun
