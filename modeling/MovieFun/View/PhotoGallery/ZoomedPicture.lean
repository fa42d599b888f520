import MovieFun.View.PhotoGallery.MainCollectionViewCell

/-!
# The picture that is zoomed into

The cell presents the image that it holds. A row whose picture is not cached leaves it holding
the image of an earlier row, and the download for an earlier row gives it that row's image
again. So, whatever is selected, the cell presents nothing but the picture of its row exactly
when neither of the two happens (`zoomsIntoOwn_iff_allowed`).
-/

namespace MovieFun

namespace GalleryCellSystem

/-- The cell holds no image, or the one of its row. -/
def HoldsOwn (system : GalleryCellSystem) : Prop :=
  ∀ image ∈ system.cell.image, system.currentPath = some image.path

/-- Where the button can be tapped, a tap presents nothing, or the picture of the row. -/
def ZoomsIntoOwn (system : GalleryCellSystem) : Prop :=
  system.cell.zoomInButtonIsHidden = false →
    ∀ image ∈ system.cell.zoomInClicked, system.currentPath = some image.path

/-- A row whose picture is not cached finds no image of another row in the cell, and a download
brings the picture of the row that the cell is at. -/
def Allowed (system : GalleryCellSystem) : GalleryCellEvent → Prop
  | .setUp number =>
      (system.rows[number]?.bind fun viewModel => viewModel.path.bind system.cache) = none →
        ∀ image ∈ system.cell.image,
          system.rows[number]?.bind PhotoGalleryRowViewModel.path = some image.path
  | .downloadReply path data error =>
      error = none → data.isSome → system.currentPath = some path
  | _ => True

/-- What holds of the cell and the cache in every run. -/
structure Sound (system : GalleryCellSystem) : Prop where
  cached : ∀ path image, system.cache path = some image → image.path = path
  current : ∀ number, system.cell.viewModel = some number →
    number < system.rows.length ∧ system.listening number = true
  blank : system.cell.viewModel = none → system.cell.image = none ∧ system.downloads = []

/-- The gallery before a cell is shown, with nothing cached. -/
def initial (rows : List PhotoGalleryRowViewModel) : GalleryCellSystem := { rows }

variable {system next : GalleryCellSystem} {event : GalleryCellEvent}

theorem sound_initial (rows : List PhotoGalleryRowViewModel) : (initial rows).Sound where
  cached _ _ held := nomatch held
  current _ isCurrent := nomatch isCurrent
  blank _ := ⟨rfl, rfl⟩

/-- What is put in the cache, or taken out of it, is under its own path. -/
theorem cached_update {cache : ImageCache} {path : String} {stored : Option UIImage}
    (cached : ∀ path image, cache path = some image → image.path = path)
    (own : ∀ image ∈ stored, image.path = path) :
    ∀ other image, Function.update cache path stored other = some image → image.path = other := by
  intro other image held
  by_cases same : other = path
  · subst same
    rw [Function.update_self] at held
    exact own image held
  · rw [Function.update_of_ne same] at held
    exact cached other image held

/-- The image of a path is under it. -/
theorem path_of_mem {path : String} : ∀ image ∈ some (UIImage.mk path), image.path = path := by
  rintro _ ⟨⟩
  rfl

/-- A cell that was set up is at a row, and listens to it. -/
theorem current_setUp {number : Nat} {viewModel : PhotoGalleryRowViewModel}
    (isRow : system.rows[number]? = some viewModel) :
    ∀ other, some number = some other → other < system.rows.length ∧
      Function.update system.listening number true other = true := by
  rintro _ ⟨⟩
  exact ⟨(List.getElem?_eq_some_iff.mp isRow).1, Function.update_self ..⟩

/-- Each step keeps what is sound. -/
theorem sound_of_step (sound : system.Sound) (taken : system.step event = some next) :
    next.Sound := by
  cases taken_of_step taken with
  | reused isRow named held isNext =>
      subst isNext
      exact ⟨sound.cached, current_setUp isRow, nofun⟩
  | kept isRow absent isNext =>
      subst isNext
      exact ⟨sound.cached, current_setUp isRow, nofun⟩
  | selected inRange shown isNext =>
      subst isNext
      exact ⟨sound.cached, sound.current, sound.blank⟩
  | failed nothing isNext =>
      subst isNext
      refine ⟨sound.cached, sound.current, fun blank => ?_⟩
      obtain ⟨noImage, noDownload⟩ := sound.blank blank
      refine ⟨noImage, ?_⟩
      dsimp only
      rw [noDownload]
      rfl
  | downloaded waits isNext =>
      subst isNext
      refine ⟨cached_update sound.cached path_of_mem, sound.current, fun blank => ?_⟩
      rw [(sound.blank blank).2] at waits
      exact absurd waits List.not_mem_nil
  | cached isNext =>
      subst isNext
      exact ⟨cached_update sound.cached path_of_mem, sound.current, sound.blank⟩
  | evicted isNext =>
      subst isNext
      exact ⟨cached_update sound.cached nofun, sound.current, sound.blank⟩

/-- A step leaves the cell with nothing but its own picture exactly when it is allowed. -/
theorem holdsOwn_step_iff (sound : system.Sound) (own : system.HoldsOwn)
    (taken : system.step event = some next) : next.HoldsOwn ↔ system.Allowed event := by
  cases taken_of_step taken with
  | @reused number viewModel path image isRow named held isNext =>
      subst isNext
      refine iff_of_true ?_ fun absent => ?_
      · rintro _ ⟨⟩
        simp only [currentPath, Option.bind_eq_bind, Option.bind_some, isRow, named]
        rw [sound.cached path image held]
      · rw [isRow, Option.bind_some, named, Option.bind_some, held] at absent
        cases absent
  | @kept number viewModel isRow absent isNext =>
      subst isNext
      have none : (system.rows[number]?.bind fun viewModel => viewModel.path.bind system.cache) =
          Option.none := by rw [isRow, Option.bind_some, absent]
      exact ⟨fun holds _ => holds, fun allowed => allowed none⟩
  | selected inRange shown isNext =>
      subst isNext
      exact iff_of_true own trivial
  | failed nothing isNext =>
      subst isNext
      exact iff_of_true own fun succeeded brought => absurd ⟨succeeded, brought⟩ nothing
  | @downloaded path data waits isNext =>
      subst isNext
      constructor
      · exact fun holds _ _ => holds ⟨path⟩ rfl
      · rintro allowed _ ⟨⟩
        exact allowed rfl rfl
  | cached isNext =>
      subst isNext
      exact iff_of_true own trivial
  | evicted isNext =>
      subst isNext
      exact iff_of_true own trivial

/-- A cell that holds only its own picture presents only that. -/
theorem zoomsIntoOwn_of_holdsOwn (own : system.HoldsOwn) : system.ZoomsIntoOwn := by
  intro _ image presented
  obtain ⟨held, isHeld, rest⟩ := Option.bind_eq_some_iff.mp presented
  obtain ⟨number, isCurrent, isImage⟩ := Option.bind_eq_some_iff.mp rest
  cases isImage
  exact own _ isHeld

/-- The selection of the row of the cell shows what the cell holds. -/
theorem holdsOwn_of_selected (sound : system.Sound)
    (zooms : ∀ number next, system.step (.didSelectItemAt number) = some next →
      next.ZoomsIntoOwn) : system.HoldsOwn := by
  intro image held
  cases isCurrent : system.cell.viewModel with
  | none =>
      rw [(sound.blank isCurrent).1] at held
      cases held
  | some number =>
      obtain ⟨inRange, listens⟩ := sound.current number isCurrent
      have accepted : (system.step (.didSelectItemAt number)).isSome := by
        have free : system.enabled (.didSelectItemAt number) = true := rfl
        rw [step, if_pos free, handle, List.getElem?_eq_getElem inRange]
        rfl
      obtain ⟨next, taken⟩ := Option.isSome_iff_exists.mp accepted
      have zoomsNext := zooms number next taken
      cases taken_of_step taken with
      | selected _ shown isNext =>
          subst isNext
          apply zoomsNext (shown listens) image
          change (system.cell.image.bind fun image => system.cell.viewModel.bind fun _ =>
            some image) = some image
          rw [held, isCurrent]
          rfl

/-- In every run the cell holds nothing but its own picture exactly when every step is
allowed. -/
theorem holdsOwn_iff_allowed (rows : List PhotoGalleryRowViewModel)
    (events : List GalleryCellEvent) :
    EventRun.EachState step HoldsOwn (initial rows) events ↔
      EventRun.EachStep step Allowed (initial rows) events := by
  refine EventRun.eachState_iff_eachStep (fun _ => Sound) nofun (sound_initial rows) ?_ ?_
  · exact fun _ _ _ _ _ sound taken => sound_of_step sound taken
  · exact fun _ _ _ _ _ sound own taken => holdsOwn_step_iff sound own taken

/-- **The picture that is zoomed into.** For rows of any pictures and in every run, the cell
presents nothing but the picture of its row at every point and after every selection from
there, exactly when every step is allowed. -/
theorem zoomsIntoOwn_iff_allowed (rows : List PhotoGalleryRowViewModel)
    (events : List GalleryCellEvent) :
    (∀ before, before <+: events → ∀ number,
      EventRun.EachState step ZoomsIntoOwn (initial rows) (before ++ [.didSelectItemAt number])) ↔
        EventRun.EachStep step Allowed (initial rows) events := by
  rw [← holdsOwn_iff_allowed]
  constructor
  · intro zooms before inside system reached
    have sound : system.Sound := EventRun.invariant_state Sound (sound_initial rows)
      (fun _ _ _ sound taken => sound_of_step sound taken) reached
    apply holdsOwn_of_selected sound
    intro number next taken
    apply zooms before inside number _ List.prefix_rfl next
    rw [EventRun.runFrom_concat, reached, Option.bind_some, taken]
  · intro holds before inside number earlier within system reached
    apply zoomsIntoOwn_of_holdsOwn
    rcases List.prefix_concat_iff.mp within with rfl | within
    · obtain ⟨middle, run, taken⟩ := EventRun.runFrom_concat_eq_some step reached
      have sound : middle.Sound := EventRun.invariant_state Sound (sound_initial rows)
        (fun _ _ _ sound taken => sound_of_step sound taken) run
      exact (holdsOwn_step_iff sound (holds before inside middle run) taken).mpr trivial
    · exact holds earlier (within.trans inside) system reached

/-- Two pictures of an account, of which the second one is shown before its download is over,
and selected. -/
def secondBeforeDownload : List GalleryCellEvent :=
  [.setUp 0, .downloadReply "an/1" (some ⟨true⟩) none, .setUp 1, .didSelectItemAt 1]

/-- Two pictures of an account, where the download for the first one is over after that for the
second one. -/
def firstDownloadLate : List GalleryCellEvent :=
  [.setUp 0, .setUp 1, .downloadReply "an/2" (some ⟨true⟩) none,
    .downloadReply "an/1" (some ⟨true⟩) none, .didSelectItemAt 1]

/-- Either time the first picture is presented for the second one. -/
theorem not_zoomsIntoOwn_secondRow :
    (¬ EventRun.EachState step ZoomsIntoOwn
      (initial [⟨some "an", some "1"⟩, ⟨some "an", some "2"⟩]) secondBeforeDownload) ∧
    ¬ EventRun.EachState step ZoomsIntoOwn
      (initial [⟨some "an", some "1"⟩, ⟨some "an", some "2"⟩]) firstDownloadLate := by
  constructor
  · intro zooms
    have presented := zooms _ List.prefix_rfl _ rfl rfl ⟨"an/1"⟩ rfl
    exact absurd presented (by decide +kernel)
  · intro zooms
    have presented := zooms _ List.prefix_rfl _ rfl rfl ⟨"an/1"⟩ rfl
    exact absurd presented (by decide +kernel)

end GalleryCellSystem

end MovieFun
