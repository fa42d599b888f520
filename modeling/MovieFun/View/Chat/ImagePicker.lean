import Mathlib.Logic.Function.Basic
import MovieFun.Foundation.Run
import MovieFun.Helper.DynamicType
import MovieFun.View.Chat.ChatViewModel

/-!
# The strip of photos

A tap on a photo of the strip selects it, and its cell shows the button that sends it. Cells
are reused, and the object of a photo goes on telling the last cell that was set up with it,
which may be at another photo by now. A tap deselects every photo before it selects the one,
so a cell that is told of the wrong photo only ever hides its button, and what is sent is
selected, alone among the photos of the strip if it is still one of them
(`sent_of_selected`). The picture that a cell shows has no such protection
(`ownPhotos_iff_allowed`).
-/

namespace MovieFun

/-- A `PHAssetWrapper` as the object that a cell listens to. -/
structure PHAssetObject (Cell : Type) where
  phAsset : Option PHAsset := none
  isSelectedAsset : DynamicType Bool Cell := { value := some false }

/-- A cell, with the number of the object it was set up with, the photo whose picture it shows,
and how many effect views are over the picture. -/
structure ChatImageCollectionViewCell where
  assetWrapper : Option Nat := none
  image : Option PHAsset := none
  effectViews : Nat := 0
  buttonSendIsHidden : Bool := false

namespace ChatImageCollectionViewCell

/-- The cell of the selected photo shows its button, under one more effect view. -/
def displayButtonSend (cell : ChatImageCollectionViewCell) : ChatImageCollectionViewCell :=
  { cell with effectViews := cell.effectViews + 1, buttonSendIsHidden := false }

/-- The cell hides its button and shows its picture clear. -/
def hideButtonSend (cell : ChatImageCollectionViewCell) : ChatImageCollectionViewCell :=
  { cell with effectViews := 0, buttonSendIsHidden := true }

/-- What a cell does with the selection of an object. -/
def selectionListener (isSelectedAsset : Bool) (cell : ChatImageCollectionViewCell) :
    ChatImageCollectionViewCell :=
  if isSelectedAsset then cell.displayButtonSend else cell.hideButtonSend

/-- The button is shown exactly with an effect view. -/
def Tidy (cell : ChatImageCollectionViewCell) : Prop :=
  cell.buttonSendIsHidden = true ↔ cell.effectViews = 0

variable {cell : ChatImageCollectionViewCell}

@[simp] theorem assetWrapper_selectionListener (isSelectedAsset : Bool) :
    (cell.selectionListener isSelectedAsset).assetWrapper = cell.assetWrapper := by
  cases isSelectedAsset <;> rfl

@[simp] theorem image_selectionListener (isSelectedAsset : Bool) :
    (cell.selectionListener isSelectedAsset).image = cell.image := by
  cases isSelectedAsset <;> rfl

@[simp] theorem buttonSendIsHidden_selectionListener (isSelectedAsset : Bool) :
    (cell.selectionListener isSelectedAsset).buttonSendIsHidden = !isSelectedAsset := by
  cases isSelectedAsset <;> rfl

/-- A cell that is told something is tidy. -/
theorem tidy_selectionListener (isSelectedAsset : Bool) :
    (cell.selectionListener isSelectedAsset).Tidy := by
  cases isSelectedAsset with
  | true => exact iff_of_false Bool.false_ne_true (Nat.succ_ne_zero _)
  | false => exact iff_of_true rfl rfl

end ChatImageCollectionViewCell

/-- The objects of the photos, those of the strip in order, the cells, the pictures that are
asked for with the cells that their closures captured, and the photos sent. -/
structure ImagePicker (Cell : Type) where
  objects : Nat → PHAssetObject Cell := fun _ => {}
  created : Nat := 0
  phassets : List Nat := []
  cells : Cell → ChatImageCollectionViewCell := fun _ => {}
  requests : List (Cell × PHAsset) := []
  sent : List PHAsset := []

/-- What can reach the strip. -/
inductive ImagePickerEvent (Cell : Type)
  | fetchAssetImages (phAssets : List PHAsset)
  | cellForItemAt (cell : Cell) (index : Nat)
  | imageReply (cell : Cell) (phAsset : PHAsset) (hasImage : Bool)
  | didSelectItemAt (index : Nat)
  | sendImage (cell : Cell)

namespace ImagePicker

variable {Cell : Type} [DecidableEq Cell]

/-- New objects for the photos of the library. -/
def fetchAssetImages (phAssets : List PHAsset) (system : ImagePicker Cell) : ImagePicker Cell :=
  { system with
    objects := fun number =>
      if number < system.created then system.objects number
      else { phAsset := phAssets[number - system.created]? }
    created := system.created + phAssets.length
    phassets := List.range' system.created phAssets.length }

/-- The selection of an object. -/
def isSelected (wrapper : Nat) (system : ImagePicker Cell) : Bool :=
  (system.objects wrapper).isSelectedAsset.value.getD false

/-- The cell that an object tells of its selection. -/
def listener (wrapper : Nat) (system : ImagePicker Cell) : Option Cell :=
  (system.objects wrapper).isSelectedAsset.listener

/-- The cell is set up with an object: it listens to it and requests its picture. -/
def setContent (cell : Cell) (wrapper : Nat) (system : ImagePicker Cell) : ImagePicker Cell :=
  let object := system.objects wrapper
  let content := { system.cells cell with assetWrapper := some wrapper, image := none }
  { system with
    objects := Function.update system.objects wrapper
      { object with isSelectedAsset := object.isSelectedAsset.listen cell }
    cells := Function.update system.cells cell
      (content.selectionListener (system.isSelected wrapper))
    requests := system.requests ++ object.phAsset.toList.map (cell, ·) }

/-- An assignment tells the cell that listens to the object. -/
def assign (wrapper : Nat) (value : Bool) (system : ImagePicker Cell) : ImagePicker Cell :=
  let (isSelectedAsset, called) := (system.objects wrapper).isSelectedAsset.setValue (some value)
  { system with
    objects := Function.update system.objects wrapper
      { system.objects wrapper with isSelectedAsset }
    cells :=
      match called with
      | none => system.cells
      | some (cell, isSelectedAsset) =>
          Function.update system.cells cell
            ((system.cells cell).selectionListener isSelectedAsset) }

/-- The objects are deselected, one after another. -/
def deselect (wrappers : List Nat) (system : ImagePicker Cell) : ImagePicker Cell :=
  wrappers.foldl (fun system item => system.assign item false) system

/-- A tap on a photo: all are deselected, and the one is selected. -/
def didSelectItemAt (wrapper : Nat) (system : ImagePicker Cell) : ImagePicker Cell :=
  (system.deselect system.phassets).assign wrapper true

/-- The cell is at the object, and no other cell was set up with it since. -/
def OnDisplay (system : ImagePicker Cell) (cell : Cell) (wrapper : Nat) : Prop :=
  (system.cells cell).assetWrapper = some wrapper ∧ system.listener wrapper = some cell

/-- A tap on an item reaches the cell that was set up with it last, if one was. -/
def Tappable (system : ImagePicker Cell) (wrapper : Nat) : Prop :=
  ∀ cell ∈ system.listener wrapper, (system.cells cell).assetWrapper = some wrapper

instance (system : ImagePicker Cell) (wrapper : Nat) : Decidable (system.Tappable wrapper) :=
  inferInstanceAs (Decidable (∀ cell ∈ system.listener wrapper,
    (system.cells cell).assetWrapper = some wrapper))

/-- The strip after an event that can happen. -/
def step (system : ImagePicker Cell) : ImagePickerEvent Cell → Option (ImagePicker Cell)
  | .fetchAssetImages phAssets => some (system.fetchAssetImages phAssets)
  | .cellForItemAt cell index =>
      (system.phassets[index]?).map fun wrapper => system.setContent cell wrapper
  | .imageReply cell phAsset hasImage =>
      if (cell, phAsset) ∈ system.requests then
        some { system with
          cells := Function.update system.cells cell
            { system.cells cell with image := if hasImage then some phAsset else none }
          requests := system.requests.erase (cell, phAsset) }
      else none
  | .didSelectItemAt index => do
      let wrapper ← system.phassets[index]?
      if system.Tappable wrapper then some (system.didSelectItemAt wrapper) else none
  | .sendImage cell => do
      let wrapper ← (system.cells cell).assetWrapper
      if system.listener wrapper = some cell ∧ (system.cells cell).buttonSendIsHidden = false then
        some { system with sent := system.sent ++ (system.objects wrapper).phAsset.toList }
      else none

variable {system next : ImagePicker Cell} {event : ImagePickerEvent Cell} {cell other : Cell}
  {wrapper item : Nat} {value : Bool}

@[simp] theorem listener_assign :
    (system.assign item value).listener wrapper = system.listener wrapper := by
  by_cases same : wrapper = item
  · subst same
    simp only [assign, listener, Function.update_self, DynamicType.setValue]
  · simp only [assign, listener, Function.update_of_ne same]

theorem isSelected_assign : (system.assign item value).isSelected wrapper =
    if wrapper = item then value else system.isSelected wrapper := by
  by_cases same : wrapper = item
  · subst same
    simp only [assign, isSelected, Function.update_self, DynamicType.setValue, if_true,
      Option.getD_some]
  · simp only [assign, isSelected, Function.update_of_ne same, if_neg same]

theorem phAsset_assign : ((system.assign item value).objects wrapper).phAsset =
    (system.objects wrapper).phAsset := by
  by_cases same : wrapper = item
  · subst same
    simp only [assign, Function.update_self]
  · simp only [assign, Function.update_of_ne same]

/-- An assignment reaches the cell that listens. -/
theorem cells_assign : (system.assign item value).cells cell =
    if system.listener item = some cell then (system.cells cell).selectionListener value
    else system.cells cell := by
  unfold assign listener
  cases listens : (system.objects item).isSelectedAsset.listener with
  | none => simp only [DynamicType.setValue, listens, reduceCtorEq, if_false]
  | some told =>
      simp only [DynamicType.setValue, listens, Option.some.injEq]
      by_cases same : told = cell
      · subst same
        rw [Function.update_self, if_pos rfl]
      · rw [Function.update_of_ne (Ne.symm same), if_neg same]

theorem listener_setContent : (system.setContent cell wrapper).listener item =
    if item = wrapper then some cell else system.listener item := by
  by_cases same : item = wrapper
  · subst same
    simp only [setContent, listener, Function.update_self, DynamicType.listen, if_true]
  · simp only [setContent, listener, Function.update_of_ne same, if_neg same]

theorem isSelected_setContent :
    (system.setContent cell wrapper).isSelected item = system.isSelected item := by
  by_cases same : item = wrapper
  · subst same
    simp only [setContent, isSelected, Function.update_self, DynamicType.listen]
  · simp only [setContent, isSelected, Function.update_of_ne same]

theorem phAsset_setContent : ((system.setContent cell wrapper).objects item).phAsset =
    (system.objects item).phAsset := by
  by_cases same : item = wrapper
  · subst same
    simp only [setContent, Function.update_self]
  · simp only [setContent, Function.update_of_ne same]

/-- The cell that was set up is at the object and without a picture. -/
theorem cells_setContent_self : (system.setContent cell wrapper).cells cell =
    ({ system.cells cell with assetWrapper := some wrapper, image := none } :
      ChatImageCollectionViewCell).selectionListener (system.isSelected wrapper) :=
  Function.update_self _ _ _

theorem cells_setContent_of_ne (different : other ≠ cell) :
    (system.setContent cell wrapper).cells other = system.cells other :=
  Function.update_of_ne different _ _

/-- Another cell on display was on display before. -/
theorem onDisplay_of_setContent (different : other ≠ cell)
    (shown : (system.setContent cell wrapper).OnDisplay other item) :
    system.OnDisplay other item := by
  obtain ⟨isAt, hears⟩ := shown
  rw [cells_setContent_of_ne different] at isAt
  rw [listener_setContent] at hears
  split at hears
  · exact absurd (Option.some.inj hears).symm different
  · exact ⟨isAt, hears⟩

theorem deselect_cons (items : List Nat) :
    system.deselect (item :: items) = (system.assign item false).deselect items := rfl

@[simp] theorem listener_deselect (items : List Nat) :
    (system.deselect items).listener wrapper = system.listener wrapper := by
  induction items generalizing system with
  | nil => rfl
  | cons item items ih => rw [deselect_cons, ih, listener_assign]

theorem isSelected_deselect (items : List Nat) : (system.deselect items).isSelected wrapper =
    if wrapper ∈ items then false else system.isSelected wrapper := by
  induction items generalizing system with
  | nil => exact (if_neg List.not_mem_nil).symm
  | cons item items ih =>
      rw [deselect_cons, ih, isSelected_assign]
      by_cases same : wrapper = item
      · simp only [same, List.mem_cons, true_or, if_true, ite_self]
      · simp only [same, List.mem_cons, false_or, if_false]

theorem phAsset_deselect (items : List Nat) :
    ((system.deselect items).objects wrapper).phAsset = (system.objects wrapper).phAsset := by
  induction items generalizing system with
  | nil => rfl
  | cons item items ih => rw [deselect_cons, ih, phAsset_assign]

/-- Deselecting all photos of the strip hides the button of each cell that is told. -/
theorem cells_deselect (items : List Nat) : (system.deselect items).cells cell =
    if ∃ item ∈ items, system.listener item = some cell then
      (system.cells cell).selectionListener false
    else system.cells cell := by
  induction items generalizing system with
  | nil => exact (if_neg fun ⟨_, member, _⟩ => List.not_mem_nil member).symm
  | cons item items ih =>
      rw [deselect_cons, ih, cells_assign]
      simp only [listener_assign, List.mem_cons, exists_eq_or_imp]
      by_cases told : system.listener item = some cell
      · simp only [told, true_or, if_true]
        split <;> rfl
      · simp only [told, false_or, if_false]

theorem created_deselect (items : List Nat) :
    (system.deselect items).created = system.created := by
  induction items generalizing system with
  | nil => rfl
  | cons item items ih => exact ih

theorem phassets_deselect (items : List Nat) :
    (system.deselect items).phassets = system.phassets := by
  induction items generalizing system with
  | nil => rfl
  | cons item items ih => exact ih

/-- What holds of the strip in every state. -/
structure Sound (system : ImagePicker Cell) : Prop where
  numbered : ∀ wrapper ∈ system.phassets, wrapper < system.created
  heard : ∀ wrapper cell, system.listener wrapper = some cell → wrapper < system.created
  current : ∀ wrapper ∈ system.phassets, ∀ cell, system.listener wrapper = some cell →
    ∃ own ∈ system.phassets, (system.cells cell).assetWrapper = some own
  button : ∀ cell wrapper, system.OnDisplay cell wrapper →
    (system.cells cell).buttonSendIsHidden = !system.isSelected wrapper
  tidy : ∀ cell wrapper, system.OnDisplay cell wrapper → (system.cells cell).Tidy
  one : ∀ first ∈ system.phassets, ∀ second ∈ system.phassets, system.isSelected first = true →
    system.isSelected second = true → first = second

omit [DecidableEq Cell] in
theorem sound_initial : (ImagePicker.mk (fun _ => {}) 0 [] (fun _ => {}) [] [] :
    ImagePicker Cell).Sound where
  numbered := fun _ member => by cases member
  heard := fun _ _ listens => by cases listens
  current := fun _ member => by cases member
  button := fun _ _ shown => by cases shown.1
  tidy := fun _ _ shown => by cases shown.1
  one := fun _ member => by cases member

omit [DecidableEq Cell] in
/-- New objects tell no cell, and none of them is selected. -/
theorem Sound.fetchAssetImages (sound : system.Sound) (phAssets : List PHAsset) :
    (system.fetchAssetImages phAssets).Sound := by
  have old : ∀ wrapper cell,
      (system.fetchAssetImages phAssets).listener wrapper = some cell →
        wrapper < system.created ∧ system.listener wrapper = some cell := by
    intro wrapper cell listens
    simp only [ImagePicker.fetchAssetImages, ImagePicker.listener] at listens
    split at listens
    · next inside => exact ⟨inside, listens⟩
    · cases listens
  have stays : ∀ wrapper < system.created,
      (system.fetchAssetImages phAssets).isSelected wrapper = system.isSelected wrapper := by
    intro wrapper inside
    simp only [ImagePicker.fetchAssetImages, ImagePicker.isSelected, if_pos inside]
  have unselected : ∀ wrapper ∈ (system.fetchAssetImages phAssets).phassets,
      (system.fetchAssetImages phAssets).isSelected wrapper = false := by
    intro wrapper member
    have isNew : ¬ wrapper < system.created := Nat.not_lt.mpr (List.mem_range'_1.mp member).1
    simp only [ImagePicker.fetchAssetImages, ImagePicker.isSelected, if_neg isNew,
      Option.getD_some]
  constructor
  · exact fun wrapper member => (List.mem_range'_1.mp member).2
  · exact fun wrapper cell listens => Nat.lt_of_lt_of_le (old wrapper cell listens).1
      (Nat.le_add_right _ _)
  · intro wrapper member cell listens
    exact absurd (old wrapper cell listens).1 (Nat.not_lt.mpr (List.mem_range'_1.mp member).1)
  · rintro cell wrapper ⟨isAt, listens⟩
    obtain ⟨inside, before⟩ := old wrapper cell listens
    rw [stays wrapper inside]
    exact sound.button cell wrapper ⟨isAt, before⟩
  · rintro cell wrapper ⟨isAt, listens⟩
    exact sound.tidy cell wrapper ⟨isAt, (old wrapper cell listens).2⟩
  · intro first member second _ selected
    rw [unselected first member] at selected
    cases selected

/-- A cell that is set up shows the button of its own object. -/
theorem Sound.setContent (sound : system.Sound) (member : wrapper ∈ system.phassets)
    (cell : Cell) : (system.setContent cell wrapper).Sound := by
  have atOwn : ((system.setContent cell wrapper).cells cell).assetWrapper = some wrapper := by
    rw [cells_setContent_self, ChatImageCollectionViewCell.assetWrapper_selectionListener]
  constructor
  · exact sound.numbered
  · intro other told hears
    rw [listener_setContent] at hears
    split at hears
    · next same => exact same ▸ sound.numbered wrapper member
    · exact sound.heard other told hears
  · intro other inside told hears
    by_cases same : told = cell
    · exact ⟨wrapper, member, same ▸ atOwn⟩
    · rw [listener_setContent] at hears
      split at hears
      · exact absurd (Option.some.inj hears).symm same
      · rw [cells_setContent_of_ne same]
        exact sound.current other inside told hears
  · intro told other shown
    rw [isSelected_setContent]
    by_cases same : told = cell
    · subst same
      have isOwn : other = wrapper := Option.some.inj (shown.1.symm.trans atOwn)
      rw [cells_setContent_self,
        ChatImageCollectionViewCell.buttonSendIsHidden_selectionListener, isOwn]
    · rw [cells_setContent_of_ne same]
      exact sound.button told other (onDisplay_of_setContent same shown)
  · intro told other shown
    by_cases same : told = cell
    · subst same
      rw [cells_setContent_self]
      exact ChatImageCollectionViewCell.tidy_selectionListener _
    · rw [cells_setContent_of_ne same]
      exact sound.tidy told other (onDisplay_of_setContent same shown)
  · intro first firstIn second secondIn firstSelected secondSelected
    rw [isSelected_setContent] at firstSelected secondSelected
    exact sound.one first firstIn second secondIn firstSelected secondSelected

/-- A tap leaves one photo of the strip selected, and its button shown. -/
theorem Sound.didSelectItemAt (sound : system.Sound) (member : wrapper ∈ system.phassets)
    (tappable : system.Tappable wrapper) : (system.didSelectItemAt wrapper).Sound := by
  have listens : ∀ other, (system.didSelectItemAt wrapper).listener other =
      system.listener other := fun other => listener_assign.trans (listener_deselect _)
  have isSelected : ∀ other ∈ system.phassets,
      (system.didSelectItemAt wrapper).isSelected other = decide (other = wrapper) := by
    intro other inside
    rw [ImagePicker.didSelectItemAt, isSelected_assign, isSelected_deselect, if_pos inside]
    by_cases same : other = wrapper <;> simp [same]
  have stays : ∀ other, other ∉ system.phassets →
      (system.didSelectItemAt wrapper).isSelected other = system.isSelected other := by
    intro other outside
    have different : other ≠ wrapper := fun same => outside (same ▸ member)
    rw [ImagePicker.didSelectItemAt, isSelected_assign, if_neg different, isSelected_deselect,
      if_neg outside]
  have cell_eq : ∀ cell, (system.didSelectItemAt wrapper).cells cell =
      if system.listener wrapper = some cell then
        ((system.deselect system.phassets).cells cell).selectionListener true
      else (system.deselect system.phassets).cells cell := by
    intro cell
    rw [ImagePicker.didSelectItemAt, cells_assign, listener_deselect]
  have isAt : ∀ cell, ((system.didSelectItemAt wrapper).cells cell).assetWrapper =
      (system.cells cell).assetWrapper := by
    intro cell
    rw [cell_eq, cells_deselect]
    split <;> split <;>
      simp only [ChatImageCollectionViewCell.assetWrapper_selectionListener]
  have samePhassets : (system.didSelectItemAt wrapper).phassets = system.phassets :=
    phassets_deselect _
  have sameCreated : (system.didSelectItemAt wrapper).created = system.created :=
    created_deselect _
  have before : ∀ cell other, (system.didSelectItemAt wrapper).OnDisplay cell other →
      system.OnDisplay cell other := by
    rintro cell other ⟨atOther, hears⟩
    rw [isAt] at atOther
    rw [listens] at hears
    exact ⟨atOther, hears⟩
  -- A cell on display is told of its own photo of the strip, or of none.
  have untold : ∀ cell other, system.OnDisplay cell other → other ∉ system.phassets →
      ¬ ∃ item ∈ system.phassets, system.listener item = some cell := by
    rintro cell other ⟨atOther, -⟩ outside ⟨item, inside, hears⟩
    obtain ⟨own, ownIn, atOwn⟩ := sound.current item inside cell hears
    exact outside (Option.some.inj (atOther.symm.trans atOwn) ▸ ownIn)
  constructor
  · rw [samePhassets, sameCreated]
    exact sound.numbered
  · intro other cell hears
    rw [sameCreated]
    exact sound.heard other cell (listens other ▸ hears)
  · intro other inside cell hears
    rw [samePhassets] at inside ⊢
    rw [isAt]
    exact sound.current other inside cell (listens other ▸ hears)
  · intro cell other shown
    have was := before cell other shown
    by_cases inside : other ∈ system.phassets
    · rw [isSelected other inside, cell_eq]
      by_cases same : other = wrapper
      · subst same
        rw [if_pos was.2, ChatImageCollectionViewCell.buttonSendIsHidden_selectionListener]
        simp
      · have notTold : system.listener wrapper ≠ some cell := fun hears =>
          same (Option.some.inj (was.1.symm.trans (tappable cell hears)))
        rw [if_neg notTold, cells_deselect, if_pos ⟨other, inside, was.2⟩,
          ChatImageCollectionViewCell.buttonSendIsHidden_selectionListener]
        simp [same]
    · have silent := untold cell other was inside
      rw [stays other inside, cell_eq, if_neg fun hears => silent ⟨wrapper, member, hears⟩,
        cells_deselect, if_neg silent]
      exact sound.button cell other was
  · intro cell other shown
    have was := before cell other shown
    rw [cell_eq, cells_deselect]
    split
    · exact ChatImageCollectionViewCell.tidy_selectionListener _
    · split
      · exact ChatImageCollectionViewCell.tidy_selectionListener _
      · exact sound.tidy cell other was
  · intro first firstIn second secondIn firstSelected secondSelected
    rw [samePhassets] at firstIn secondIn
    rw [isSelected first firstIn] at firstSelected
    rw [isSelected second secondIn] at secondSelected
    exact (of_decide_eq_true firstSelected).trans (of_decide_eq_true secondSelected).symm

/-- A picture changes nothing but what a cell shows. -/
theorem Sound.imageReply (sound : system.Sound) (image : Option PHAsset)
    (requests : List (Cell × PHAsset)) :
    Sound { system with
      cells := Function.update system.cells cell { system.cells cell with image }
      requests } := by
  have same : ∀ told : Cell,
      ((Function.update system.cells cell { system.cells cell with image }) told).assetWrapper =
          (system.cells told).assetWrapper ∧
        ((Function.update system.cells cell { system.cells cell with image }) told).effectViews =
          (system.cells told).effectViews ∧
        ((Function.update system.cells cell
            { system.cells cell with image }) told).buttonSendIsHidden =
          (system.cells told).buttonSendIsHidden := by
    intro told
    by_cases isCell : told = cell
    · subst isCell
      simp only [Function.update_self, and_self]
    · simp only [Function.update_of_ne isCell, and_self]
  constructor
  · exact sound.numbered
  · exact sound.heard
  · intro wrapper inside told hears
    obtain ⟨own, ownIn, atOwn⟩ := sound.current wrapper inside told hears
    exact ⟨own, ownIn, (same told).1.trans atOwn⟩
  · rintro told wrapper ⟨atWrapper, hears⟩
    exact (same told).2.2.trans
      (sound.button told wrapper ⟨(same told).1.symm.trans atWrapper, hears⟩)
  · rintro told wrapper ⟨atWrapper, hears⟩
    have tidy := sound.tidy told wrapper ⟨(same told).1.symm.trans atWrapper, hears⟩
    rw [ChatImageCollectionViewCell.Tidy, (same told).2.1, (same told).2.2]
    exact tidy
  · exact sound.one

/-- Every step keeps the strip sound. -/
theorem Sound.of_step (sound : system.Sound) (taken : step system event = some next) :
    next.Sound := by
  cases event with
  | fetchAssetImages phAssets =>
      cases taken
      exact sound.fetchAssetImages phAssets
  | cellForItemAt cell index =>
      obtain ⟨wrapper, found, rfl⟩ := Option.map_eq_some_iff.mp taken
      exact sound.setContent (List.mem_of_getElem? found) cell
  | imageReply cell phAsset hasImage =>
      simp only [step] at taken
      split at taken
      · cases taken
        exact sound.imageReply _ _
      · cases taken
  | didSelectItemAt index =>
      simp only [step, Option.bind_eq_bind, Option.bind_eq_some_iff] at taken
      obtain ⟨wrapper, found, taken⟩ := taken
      split at taken
      · next tappable =>
        cases taken
        exact sound.didSelectItemAt (List.mem_of_getElem? found) tappable
      · cases taken
  | sendImage cell =>
      simp only [step, Option.bind_eq_bind, Option.bind_eq_some_iff] at taken
      obtain ⟨wrapper, -, taken⟩ := taken
      split at taken
      · cases taken
        exact ⟨sound.numbered, sound.heard, sound.current, sound.button, sound.tidy, sound.one⟩
      · cases taken

variable {events : List (ImagePickerEvent Cell)}

/-- The strip is sound in every run. -/
theorem sound_of_run (reached : EventRun.runFrom step {} events = some system) : system.Sound :=
  EventRun.invariant_state Sound sound_initial
    (fun _ _ _ sound taken => sound.of_step taken) reached

/-- **What is sent is what is selected.** A photo is only sent while it is selected, and if it is
still of the strip, it is the only one of the strip that is. -/
theorem sent_of_selected (reached : EventRun.runFrom step {} events = some system)
    (sends : step system (.sendImage cell) = some next) :
    ∃ wrapper, system.OnDisplay cell wrapper ∧ system.isSelected wrapper = true ∧
      next.sent = system.sent ++ (system.objects wrapper).phAsset.toList ∧
      (wrapper ∈ system.phassets → ∀ other ∈ system.phassets, system.isSelected other = true →
        other = wrapper) := by
  have sound := sound_of_run reached
  simp only [step, Option.bind_eq_bind, Option.bind_eq_some_iff] at sends
  obtain ⟨wrapper, isAt, sends⟩ := sends
  split at sends
  · next shown =>
    cases sends
    have onDisplay : system.OnDisplay cell wrapper := ⟨isAt, shown.1⟩
    have selected : system.isSelected wrapper = true := by
      have button := sound.button cell wrapper onDisplay
      rw [shown.2] at button
      exact (Bool.not_eq_false _).mp fun unselected => by rw [unselected] at button; cases button
    exact ⟨wrapper, onDisplay, selected, rfl, fun member other inside isSelected =>
      sound.one other inside wrapper member isSelected selected⟩
  · cases sends

/-- Two photos on two cells, the first of which is reused for the second photo. -/
def reusedCell : List (ImagePickerEvent Nat) :=
  [.fetchAssetImages [⟨"a"⟩, ⟨"b"⟩], .cellForItemAt 0 0, .cellForItemAt 1 1, .didSelectItemAt 0,
    .cellForItemAt 0 1, .didSelectItemAt 1]

/-- The photo that a reused cell displays is sent. -/
theorem sent_reusedCell : ∃ system next : ImagePicker Nat,
    EventRun.runFrom step {} reusedCell = some system ∧
      step system (.sendImage 0) = some next ∧
      ∃ wrapper, system.OnDisplay 0 wrapper ∧ system.isSelected wrapper = true ∧
        next.sent = system.sent ++ (system.objects wrapper).phAsset.toList ∧
        (wrapper ∈ system.phassets → ∀ other ∈ system.phassets, system.isSelected other = true →
          other = wrapper) := by
  have runs : ∃ system next : ImagePicker Nat, EventRun.runFrom step {} reusedCell = some system ∧
      step system (.sendImage 0) = some next := ⟨_, _, rfl, rfl⟩
  obtain ⟨system, next, reached, sends⟩ := runs
  exact ⟨system, next, reached, sends, sent_of_selected reached sends⟩

/-! ## The pictures -/

/-- Each cell on display shows no picture or that of the photo it would send. -/
def OwnPhotos (system : ImagePicker Cell) : Prop :=
  ∀ cell wrapper, system.OnDisplay cell wrapper →
    ∀ phAsset ∈ (system.cells cell).image, (system.objects wrapper).phAsset = some phAsset

/-- A picture reaches a cell that is still at its photo, or on display no more. -/
def Allowed (system : ImagePicker Cell) : ImagePickerEvent Cell → Prop
  | .imageReply cell phAsset true =>
      ∀ wrapper, system.OnDisplay cell wrapper →
        (system.objects wrapper).phAsset = some phAsset
  | _ => True

omit [DecidableEq Cell] in
/-- Cells on display that showed their own photos still do, where neither changed. -/
theorem OwnPhotos.of_same (own : system.OwnPhotos)
    (same : ∀ cell wrapper, next.OnDisplay cell wrapper → system.OnDisplay cell wrapper ∧
      ((next.cells cell).image = (system.cells cell).image ∨ (next.cells cell).image = none) ∧
      (next.objects wrapper).phAsset = (system.objects wrapper).phAsset) : next.OwnPhotos := by
  intro cell wrapper shown phAsset isImage
  obtain ⟨before, image | empty, sameAsset⟩ := same cell wrapper shown
  · rw [sameAsset]
    exact own cell wrapper before phAsset (image ▸ isImage)
  · rw [empty] at isImage
    cases isImage

/-- A step keeps the own photos on display exactly if it is allowed. -/
theorem ownPhotos_step_iff (own : system.OwnPhotos)
    (taken : step system event = some next) : next.OwnPhotos ↔ system.Allowed event := by
  cases event with
  | fetchAssetImages phAssets =>
      cases taken
      refine iff_of_true (own.of_same ?_) trivial
      rintro cell wrapper ⟨isAt, listens⟩
      simp only [ImagePicker.fetchAssetImages, ImagePicker.listener] at listens
      split at listens
      · next inside =>
        refine ⟨⟨isAt, listens⟩, .inl rfl, ?_⟩
        simp only [ImagePicker.fetchAssetImages, if_pos inside]
      · cases listens
  | cellForItemAt cell index =>
      obtain ⟨wrapper, found, rfl⟩ := Option.map_eq_some_iff.mp taken
      refine iff_of_true ?_ trivial
      intro told other shown phAsset isImage
      by_cases same : told = cell
      · subst same
        rw [cells_setContent_self, ChatImageCollectionViewCell.image_selectionListener] at isImage
        cases isImage
      · rw [cells_setContent_of_ne same] at isImage
        rw [phAsset_setContent]
        exact own told other (onDisplay_of_setContent same shown) phAsset isImage
  | imageReply cell phAsset hasImage =>
      simp only [step] at taken
      split at taken
      · cases taken
        have onDisplay : ∀ told wrapper, OnDisplay { system with
            cells := Function.update system.cells cell
              { system.cells cell with image := if hasImage then some phAsset else none }
            requests := system.requests.erase (cell, phAsset) } told wrapper ↔
              system.OnDisplay told wrapper := by
          intro told wrapper
          by_cases same : told = cell
          · subst same
            simp only [OnDisplay, Function.update_self]
            exact Iff.rfl
          · simp only [OnDisplay, Function.update_of_ne same]
            exact Iff.rfl
        cases hasImage with
        | false =>
            refine iff_of_true (own.of_same fun told wrapper shown => ?_) trivial
            refine ⟨(onDisplay told wrapper).mp shown, ?_, rfl⟩
            by_cases same : told = cell
            · subst same
              exact .inr (by simp only [Function.update_self]; rfl)
            · exact .inl (by simp only [Function.update_of_ne same])
        | true =>
            constructor
            · intro after wrapper shown
              refine after cell wrapper ((onDisplay cell wrapper).mpr shown) phAsset ?_
              simp only [Function.update_self, if_true]
              rfl
            · intro allowed told wrapper shown image isImage
              have before := (onDisplay told wrapper).mp shown
              by_cases same : told = cell
              · subst same
                simp only [Function.update_self, if_true, Option.mem_def, Option.some.injEq]
                  at isImage
                exact isImage ▸ allowed wrapper before
              · simp only [Function.update_of_ne same] at isImage
                exact own told wrapper before image isImage
      · cases taken
  | didSelectItemAt index =>
      simp only [step, Option.bind_eq_bind, Option.bind_eq_some_iff] at taken
      obtain ⟨wrapper, -, taken⟩ := taken
      split at taken
      · cases taken
        refine iff_of_true (own.of_same ?_) trivial
        rintro cell other ⟨isAt, listens⟩
        have shown : ((system.didSelectItemAt wrapper).cells cell).assetWrapper =
            (system.cells cell).assetWrapper ∧
              ((system.didSelectItemAt wrapper).cells cell).image = (system.cells cell).image := by
          rw [ImagePicker.didSelectItemAt, cells_assign, cells_deselect]
          split <;> split <;>
            simp only [ChatImageCollectionViewCell.assetWrapper_selectionListener,
              ChatImageCollectionViewCell.image_selectionListener, and_self]
        rw [shown.1] at isAt
        rw [ImagePicker.didSelectItemAt, listener_assign, listener_deselect] at listens
        exact ⟨⟨isAt, listens⟩, .inl shown.2, phAsset_assign.trans (phAsset_deselect _)⟩
      · cases taken
  | sendImage cell =>
      simp only [step, Option.bind_eq_bind, Option.bind_eq_some_iff] at taken
      obtain ⟨wrapper, -, taken⟩ := taken
      split at taken
      · cases taken
        exact iff_of_true own trivial
      · cases taken

/-- **The pictures of the strip.** In every run, the cells on display show their own photos in
every state exactly if each picture reaches a cell that is still at its photo. -/
theorem ownPhotos_iff_allowed (events : List (ImagePickerEvent Cell)) :
    EventRun.EachState step OwnPhotos {} events ↔ EventRun.EachStep step Allowed {} events := by
  refine EventRun.eachState_iff_eachStep (fun _ _ => True) ?_ trivial
    (fun _ _ _ _ _ _ _ => trivial) ?_
  · intro cell wrapper shown
    cases shown.1
  · exact fun _ _ _ _ _ _ own taken => ownPhotos_step_iff own taken

end ImagePicker

end MovieFun
