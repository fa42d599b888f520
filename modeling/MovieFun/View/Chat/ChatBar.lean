import Mathlib.Tactic.Linarith
import MovieFun.Helper.CGFloat
import MovieFun.Helper.MFTextView
import MovieFun.Helper.Utils

/-!
# The bar with the message box

The bar at the bottom of the chat has the message box, which grows with its text, and below it
the strip of photos or room for the keyboard. Its height is set in one piece when the keyboard
or the strip comes or goes, and moved by the difference when the box grows or shrinks. The
keyboard may also hide on its own, and the box may be edited without one on the screen (with a
hardware keyboard, or one that floats). What keeps the box within its bounds, clear of the
keyboard and the strip, with its text in reach and one placeholder or none, is exactly that
nothing of three kinds happens (`laidOut_iff_allowed`): an empty text is emptied, the keyboard
hides over a strip that is too high for the room it leaves, or the strip is asked for while the
box is edited without a keyboard. A message that is sent puts everything away
(`putAway_of_sendMessage`).
-/

namespace MovieFun

/-- The message box, the three heights of the bar, and what they are computed from. Whether a
keyboard takes up room on the screen is not kept by the source; the system knows it. -/
structure ChatBar where
  messageTextView : MFTextView := MFTextView.initial "Send your comment ..."
  isScrollEnabled : Bool := true
  isFirstResponder : Bool := false
  keyboardIsShown : Bool := false
  heightMessageTextView : CGFloat := 40
  heightChatTextView : CGFloat := 60
  heightImageCollectionView : CGFloat := 0
  maxHeightCollectionView : CGFloat := 0
  isSelectingImage : Bool := false

/-- What can reach the bar. The keyboard has a height, some of which is below the safe area.
When it hides on its own, the box may go on being edited. -/
inductive ChatBarEvent
  | edit (text : String)
  | becomeFirstResponder
  | showKeyboard (height safeAreaInsetBottom : CGFloat)
  | keyboardWillHide (resigns : Bool)
  | hideKeyboard
  | showImageCollection
  | sendMessage
  | sendImage

namespace ChatBar

/-- The height of a box of one line. -/
def defaultHeightMessageTextView : CGFloat := 40

/-- The height from which on the box scrolls. -/
def maxHeightMessageTextView : CGFloat := 160

variable (sizeThatFits : String → CGFloat)

/-- The box gets the height of its text within the bounds, and the bar follows. -/
def textViewDidChange (bar : ChatBar) : ChatBar :=
  let previousHeight := bar.heightMessageTextView
  let estimatedHeight := sizeThatFits bar.messageTextView.text
  let resized : ChatBar :=
    if estimatedHeight > defaultHeightMessageTextView ∧
        estimatedHeight ≤ maxHeightMessageTextView then
      { bar with heightMessageTextView := estimatedHeight, isScrollEnabled := false }
    else if estimatedHeight > maxHeightMessageTextView then
      { bar with isScrollEnabled := true }
    else { bar with heightMessageTextView := defaultHeightMessageTextView }
  { resized with
    heightChatTextView :=
      resized.heightChatTextView + (resized.heightMessageTextView - previousHeight) }

/-- The box at one line, and no strip. -/
def resetMessageTextView (bar : ChatBar) : ChatBar :=
  { bar with
    heightMessageTextView := defaultHeightMessageTextView
    isScrollEnabled := true
    heightChatTextView := 10 + defaultHeightMessageTextView + 10
    heightImageCollectionView := 0
    isSelectingImage := false }

/-- The keyboard comes, for the box, and the bar leaves it room. -/
def showKeyboard (height safeAreaInsetBottom : CGFloat) (bar : ChatBar) : ChatBar :=
  { bar with
    isFirstResponder := true
    keyboardIsShown := true
    maxHeightCollectionView := height - safeAreaInsetBottom
    heightChatTextView :=
      10 + bar.heightMessageTextView + 10 + height - safeAreaInsetBottom }

/-- What the bar does when it is told that the keyboard goes. -/
def willHideKeyboard (bar : ChatBar) : ChatBar :=
  if bar.isSelectingImage then bar else bar.resetMessageTextView

/-- The keyboard goes, and the bar is told. -/
def keyboardWillHide (bar : ChatBar) : ChatBar :=
  willHideKeyboard { bar with keyboardIsShown := false }

/-- The box is edited no more, and a keyboard goes with it. -/
def resignFirstResponder (bar : ChatBar) : ChatBar :=
  let resigned := { bar with isFirstResponder := false }
  if bar.keyboardIsShown then resigned.keyboardWillHide else resigned

/-- What a tap on the table does, and a message or photo that is sent does last. -/
def hideKeyboard (bar : ChatBar) : ChatBar :=
  let bar := if bar.isFirstResponder then bar.resignFirstResponder else bar
  if bar.isSelectingImage then bar.resetMessageTextView else bar

/-- The strip takes the place of the keyboard, or comes where there was none. -/
def showImageCollection (bar : ChatBar) : ChatBar :=
  let bar := { bar with isSelectingImage := true }
  if bar.isFirstResponder then
    { bar.resignFirstResponder with heightImageCollectionView := bar.maxHeightCollectionView }
  else
    { bar with
      heightImageCollectionView := bar.maxHeightCollectionView
      heightChatTextView :=
        10 + bar.heightMessageTextView + 8 + bar.maxHeightCollectionView }

/-- A text that is not blank is sent, and the box is emptied. -/
def sendMessage (bar : ChatBar) : ChatBar :=
  let text := Utils.trim bar.messageTextView.text
  let emptied :=
    if text ≠ "" then { bar with messageTextView := bar.messageTextView.setText (some "") }
    else bar
  emptied.hideKeyboard

/-- A photo that is sent changes nothing else of the bar. -/
def sendImage (bar : ChatBar) : ChatBar := bar.hideKeyboard

/-- Only a box that is first responder is edited, and a keyboard hides once. -/
def enabled (bar : ChatBar) : ChatBarEvent → Bool
  | .edit _ => bar.isFirstResponder
  | .keyboardWillHide _ => bar.keyboardIsShown
  | _ => true

/-- What an event does to the bar. -/
def handle (bar : ChatBar) : ChatBarEvent → ChatBar
  | .edit text =>
      textViewDidChange sizeThatFits
        { bar with messageTextView := bar.messageTextView.edit text }
  | .becomeFirstResponder => { bar with isFirstResponder := true }
  | .showKeyboard height safeAreaInsetBottom => bar.showKeyboard height safeAreaInsetBottom
  | .keyboardWillHide resigns =>
      keyboardWillHide { bar with isFirstResponder := bar.isFirstResponder && !resigns }
  | .hideKeyboard => bar.hideKeyboard
  | .showImageCollection => bar.showImageCollection
  | .sendMessage => bar.sendMessage
  | .sendImage => bar.sendImage

/-- The bar after an event that can happen. -/
def step (bar : ChatBar) (event : ChatBarEvent) : Option ChatBar :=
  if bar.enabled event then some (handle sizeThatFits bar event) else none

/-- The bar has room for the box and nothing else. -/
structure Closed (bar : ChatBar) : Prop where
  whole : bar.heightChatTextView = 10 + bar.heightMessageTextView + 10
  strip : bar.heightImageCollectionView = 0

/-- The box is within its bounds and shows its text or scrolls, what is below it has its room,
and it has one placeholder or none. -/
structure LaidOut (bar : ChatBar) : Prop where
  bounds : 40 ≤ bar.heightMessageTextView ∧ bar.heightMessageTextView ≤ 160
  reachable : bar.messageTextView.text = "" ∨
    sizeThatFits bar.messageTextView.text ≤ bar.heightMessageTextView ∨
      bar.isScrollEnabled = true
  keyboard : bar.keyboardIsShown = true → bar.heightChatTextView =
    10 + bar.heightMessageTextView + 10 + bar.maxHeightCollectionView
  strip : bar.keyboardIsShown = false → bar.isSelectingImage = true →
    10 + bar.heightMessageTextView + 8 + bar.heightImageCollectionView ≤ bar.heightChatTextView
  closed : bar.keyboardIsShown = false → bar.isSelectingImage = false → bar.Closed
  placeholder : bar.messageTextView.OnePlaceholder

/-- No empty text is emptied, a keyboard that hides on its own leaves the strip enough room, and
so does a box that is edited without a keyboard when the strip is asked for. -/
def Allowed (bar : ChatBar) : ChatBarEvent → Prop
  | .edit text => bar.messageTextView.FitsText text
  | .keyboardWillHide _ => bar.isSelectingImage = true →
      bar.heightImageCollectionView ≤ bar.maxHeightCollectionView + 2
  | .showImageCollection => bar.isFirstResponder = true → bar.keyboardIsShown = false →
      10 + bar.heightMessageTextView + 8 + bar.maxHeightCollectionView ≤ bar.heightChatTextView
  | _ => True

/-- The bar as the storyboard has it. -/
structure AtRest (bar : ChatBar) : Prop where
  box : bar.heightMessageTextView = 40
  whole : bar.heightChatTextView = 60
  strip : bar.heightImageCollectionView = 0
  scrolls : bar.isScrollEnabled = true

/-- There is neither a keyboard nor the strip, and the bar has no room for them. -/
structure PutAway (bar : ChatBar) : Prop extends bar.Closed where
  notEdited : bar.isFirstResponder = false
  noKeyboard : bar.keyboardIsShown = false
  noStrip : bar.isSelectingImage = false

variable {sizeThatFits} {bar next : ChatBar} {event : ChatBarEvent}

/-- A bar with the same heights has the same room. -/
theorem Closed.of_same (closed : bar.Closed)
    (box : next.heightMessageTextView = bar.heightMessageTextView)
    (whole : next.heightChatTextView = bar.heightChatTextView)
    (strip : next.heightImageCollectionView = bar.heightImageCollectionView) : next.Closed := by
  refine ⟨?_, strip.trans closed.strip⟩
  rw [whole, box]
  exact closed.whole

/-- Whether a bar is at rest is a matter of its heights and its box. -/
theorem atRest_congr (box : next.heightMessageTextView = bar.heightMessageTextView)
    (whole : next.heightChatTextView = bar.heightChatTextView)
    (strip : next.heightImageCollectionView = bar.heightImageCollectionView)
    (scrolls : next.isScrollEnabled = bar.isScrollEnabled) : next.AtRest ↔ bar.AtRest := by
  constructor
  · exact fun atRest => ⟨box ▸ atRest.box, whole ▸ atRest.whole, strip ▸ atRest.strip,
      scrolls ▸ atRest.scrolls⟩
  · exact fun atRest => ⟨box ▸ atRest.box, whole ▸ atRest.whole, strip ▸ atRest.strip,
      scrolls ▸ atRest.scrolls⟩

/-- A bar that was reset has no room for anything but its box. -/
theorem closed_resetMessageTextView : bar.resetMessageTextView.Closed := ⟨rfl, rfl⟩

/-- A bar that was reset is as it was at first. -/
theorem atRest_resetMessageTextView : bar.resetMessageTextView.AtRest := by
  refine ⟨rfl, ?_, rfl, rfl⟩
  change (10 : CGFloat) + 40 + 10 = 60
  norm_num

/-- A bar without a keyboard that was reset is laid out if the placeholder is. -/
theorem laidOut_resetMessageTextView (noKeyboard : bar.keyboardIsShown = false)
    (one : bar.messageTextView.OnePlaceholder) :
    bar.resetMessageTextView.LaidOut sizeThatFits where
  bounds := by
    change (40 : CGFloat) ≤ 40 ∧ (40 : CGFloat) ≤ 160
    norm_num
  reachable := .inr (.inr rfl)
  keyboard := fun shown => by
    change bar.keyboardIsShown = true at shown
    rw [noKeyboard] at shown
    cases shown
  strip := fun _ selecting => by cases selecting
  closed := fun _ _ => closed_resetMessageTextView
  placeholder := one

/-- What holds of the bar whatever happens: a keyboard is there for the box, without it and the
strip there is no room for them, and the box has a placeholder to show. -/
structure Sound (bar : ChatBar) : Prop where
  holder : bar.keyboardIsShown = true → bar.isFirstResponder = true
  closed : bar.keyboardIsShown = false → bar.isSelectingImage = false → bar.Closed
  named : bar.messageTextView.placeholder.isSome

/-- A bar whose keyboard went was reset, unless the strip is selected. -/
theorem keyboardWillHide_cases (bar : ChatBar) :
    (bar.isSelectingImage = true ∧ bar.keyboardWillHide = { bar with keyboardIsShown := false }) ∨
      (bar.isSelectingImage = false ∧
        bar.keyboardWillHide = { bar with keyboardIsShown := false }.resetMessageTextView) := by
  cases strip : bar.isSelectingImage with
  | true => exact .inl ⟨rfl, by simp [keyboardWillHide, willHideKeyboard, strip]⟩
  | false => exact .inr ⟨rfl, by simp [keyboardWillHide, willHideKeyboard, strip]⟩

/-- The keyboard and the strip are put away, if one of them is there. -/
theorem hideKeyboard_cases (holder : bar.keyboardIsShown = true → bar.isFirstResponder = true) :
    ((bar.keyboardIsShown = true ∨ bar.isSelectingImage = true) ∧ bar.hideKeyboard =
        { bar with isFirstResponder := false, keyboardIsShown := false }.resetMessageTextView) ∨
      (bar.keyboardIsShown = false ∧ bar.isSelectingImage = false ∧
        bar.hideKeyboard = { bar with isFirstResponder := false }) := by
  cases keyboard : bar.keyboardIsShown with
  | true =>
      refine .inl ⟨.inl rfl, ?_⟩
      have edited := holder keyboard
      cases strip : bar.isSelectingImage <;>
        simp [hideKeyboard, resignFirstResponder, keyboardWillHide, willHideKeyboard, edited,
          keyboard, strip, resetMessageTextView]
  | false =>
      have resigned : (if bar.isFirstResponder then bar.resignFirstResponder else bar) =
          { bar with isFirstResponder := false } := by
        cases edited : bar.isFirstResponder with
        | true => simp [resignFirstResponder, keyboard]
        | false =>
            rw [← edited]
            exact if_neg (by rw [edited]; decide)
      cases strip : bar.isSelectingImage with
      | true =>
          refine .inl ⟨.inr rfl, ?_⟩
          simp [hideKeyboard, resigned, keyboard, strip, resetMessageTextView]
      | false =>
          refine .inr ⟨rfl, rfl, ?_⟩
          simp [hideKeyboard, resigned, keyboard, strip]

/-- Whatever was there is put away, and the text is left. -/
theorem Sound.hideKeyboard (sound : bar.Sound) :
    bar.hideKeyboard.PutAway ∧ bar.hideKeyboard.messageTextView = bar.messageTextView ∧
      (bar.hideKeyboard.AtRest ↔
        bar.keyboardIsShown = true ∨ bar.isSelectingImage = true ∨ bar.AtRest) := by
  rcases hideKeyboard_cases sound.holder with ⟨there, gone⟩ | ⟨noKeyboard, noStrip, same⟩
  · rw [gone]
    refine ⟨⟨closed_resetMessageTextView, rfl, rfl, rfl⟩, rfl,
      iff_of_true atRest_resetMessageTextView ?_⟩
    exact there.elim .inl fun strip => .inr (.inl strip)
  · have closed := sound.closed noKeyboard noStrip
    have atRest : bar.hideKeyboard.AtRest ↔ bar.AtRest := by
      rw [same]
      exact atRest_congr rfl rfl rfl rfl
    refine ⟨?_, by rw [same], ?_⟩
    · rw [same]
      exact ⟨closed.of_same rfl rfl rfl, rfl, noKeyboard, noStrip⟩
    · rw [atRest, noKeyboard, noStrip]
      simp only [Bool.false_eq_true, false_or]

/-- What was laid out is so when everything was put away. -/
theorem LaidOut.hideKeyboard (laidOut : bar.LaidOut sizeThatFits) (sound : bar.Sound) :
    bar.hideKeyboard.LaidOut sizeThatFits := by
  rcases hideKeyboard_cases sound.holder with ⟨-, gone⟩ | ⟨noKeyboard, noStrip, same⟩
  · rw [gone]
    exact laidOut_resetMessageTextView rfl laidOut.placeholder
  · rw [same]
    exact ⟨laidOut.bounds, laidOut.reachable, laidOut.keyboard, laidOut.strip,
      fun noKeyboard noStrip => (laidOut.closed noKeyboard noStrip).of_same rfl rfl rfl,
      laidOut.placeholder⟩

/-- What a change of the text does: the box stays within its bounds, shows the text or scrolls,
and the bar grows as it does. -/
theorem textViewDidChange_spec (sizeThatFits : String → CGFloat) (bar : ChatBar) :
    ∃ heightMessageTextView isScrollEnabled, textViewDidChange sizeThatFits bar =
        { bar with
          heightMessageTextView
          isScrollEnabled
          heightChatTextView :=
            bar.heightChatTextView + (heightMessageTextView - bar.heightMessageTextView) } ∧
      (40 ≤ bar.heightMessageTextView ∧ bar.heightMessageTextView ≤ 160 →
        40 ≤ heightMessageTextView ∧ heightMessageTextView ≤ 160) ∧
      (sizeThatFits bar.messageTextView.text ≤ heightMessageTextView ∨
        isScrollEnabled = true) := by
  unfold textViewDidChange defaultHeightMessageTextView maxHeightMessageTextView
  by_cases grows : sizeThatFits bar.messageTextView.text > 40 ∧
      sizeThatFits bar.messageTextView.text ≤ 160
  · refine ⟨sizeThatFits bar.messageTextView.text, false, ?_,
      fun _ => ⟨le_of_lt grows.1, grows.2⟩, .inl le_rfl⟩
    simp only [grows, and_self, if_true]
  · by_cases tall : sizeThatFits bar.messageTextView.text > 160
    · refine ⟨bar.heightMessageTextView, true, ?_, id, .inr rfl⟩
      simp only [grows, tall, if_false, if_true]
    · have low : sizeThatFits bar.messageTextView.text ≤ 40 := by
        by_contra high
        exact grows ⟨lt_of_not_ge high, le_of_not_gt tall⟩
      refine ⟨40, bar.isScrollEnabled, ?_, fun _ => by norm_num, .inl low⟩
      simp only [grows, tall, if_false]

/-- The strip where a keyboard may have been, and where none was. -/
theorem showImageCollection_cases
    (holder : bar.keyboardIsShown = true → bar.isFirstResponder = true) :
    (bar.isFirstResponder = true ∧ bar.showImageCollection =
        { bar with
          isSelectingImage := true
          isFirstResponder := false
          keyboardIsShown := false
          heightImageCollectionView := bar.maxHeightCollectionView }) ∨
      (bar.isFirstResponder = false ∧ bar.keyboardIsShown = false ∧ bar.showImageCollection =
        { bar with
          isSelectingImage := true
          heightImageCollectionView := bar.maxHeightCollectionView
          heightChatTextView :=
            10 + bar.heightMessageTextView + 8 + bar.maxHeightCollectionView }) := by
  cases edited : bar.isFirstResponder with
  | true =>
      refine .inl ⟨rfl, ?_⟩
      cases keyboard : bar.keyboardIsShown <;>
        simp [showImageCollection, resignFirstResponder, keyboardWillHide, willHideKeyboard,
          edited, keyboard]
  | false =>
      have noKeyboard : bar.keyboardIsShown = false := by
        by_contra shown
        rw [holder (eq_true_of_ne_false shown)] at edited
        cases edited
      exact .inr ⟨rfl, noKeyboard, by simp [showImageCollection, edited]⟩

/-- An assignment of the text does not change the placeholder. -/
theorem placeholder_setText (text : Option String) (view : MFTextView) :
    (view.setText text).placeholder = view.placeholder := by
  simp only [MFTextView.setText]
  split
  · unfold MFTextView.addPlaceholder
    split <;> rfl
  · unfold MFTextView.removePlaceholder
    split <;> rfl

/-- An edit does not change the placeholder. -/
theorem placeholder_edit (text : String) (view : MFTextView) :
    (view.edit text).placeholder = view.placeholder := by
  have kept := placeholder_setText (some text) view
  cases isOwn : view.delegateIsSelf with
  | true =>
      rw [MFTextView.edit_eq_setText isOwn]
      exact kept
  | false => simp only [MFTextView.edit, isOwn, Bool.false_eq_true, if_false]

theorem trim_empty : Utils.trim "" = "" := rfl

/-- The message box after a message was sent, which is empty or as it was. -/
theorem sendMessage_cases (bar : ChatBar) :
    (Utils.trim bar.messageTextView.text = "" ∧ bar.sendMessage = bar.hideKeyboard) ∨
      (bar.messageTextView.text ≠ "" ∧ bar.sendMessage = ChatBar.hideKeyboard
        { bar with messageTextView := bar.messageTextView.setText (some "") }) := by
  by_cases blank : Utils.trim bar.messageTextView.text = ""
  · refine .inl ⟨blank, ?_⟩
    simp only [sendMessage, blank, ne_eq, not_true_eq_false, if_false]
  · refine .inr ⟨fun isEmpty => blank (by rw [isEmpty]; exact trim_empty), ?_⟩
    simp only [sendMessage, blank, ne_eq, not_false_eq_true, if_true]

/-- A sound bar stays so when the text of its box is assigned. -/
theorem Sound.setText (sound : bar.Sound) (text : Option String) :
    { bar with messageTextView := bar.messageTextView.setText text }.Sound where
  holder := sound.holder
  closed noKeyboard noStrip := (sound.closed noKeyboard noStrip).of_same rfl rfl rfl
  named := by
    rw [placeholder_setText]
    exact sound.named

/-- A bar on which everything was put away is sound. -/
theorem Sound.of_putAway (putAway : bar.PutAway)
    (named : bar.messageTextView.placeholder.isSome) : bar.Sound where
  holder shown := by
    rw [putAway.noKeyboard] at shown
    cases shown
  closed _ _ := putAway.toClosed
  named := named

/-- Whatever happens, the bar stays sound. -/
theorem Sound.of_step (sound : bar.Sound) (taken : step sizeThatFits bar event = some next) :
    next.Sound := by
  have hidden : ∀ {bar : ChatBar}, bar.Sound → bar.hideKeyboard.Sound := by
    intro bar sound
    obtain ⟨putAway, same, -⟩ := sound.hideKeyboard
    exact .of_putAway putAway (same ▸ sound.named)
  simp only [step, Option.ite_none_right_eq_some, Option.some.injEq] at taken
  obtain ⟨possible, rfl⟩ := taken
  cases event with
  | edit text =>
      obtain ⟨height, scrolls, same, -, -⟩ := textViewDidChange_spec sizeThatFits
        { bar with messageTextView := bar.messageTextView.edit text }
      rw [handle, same]
      refine ⟨sound.holder, fun noKeyboard noStrip => ⟨?_, ?_⟩, ?_⟩
      · have whole := (sound.closed noKeyboard noStrip).whole
        change bar.heightChatTextView + (height - bar.heightMessageTextView) = 10 + height + 10
        linarith
      · exact (sound.closed noKeyboard noStrip).strip
      · change (bar.messageTextView.edit text).placeholder.isSome
        rw [placeholder_edit]
        exact sound.named
  | becomeFirstResponder =>
      exact ⟨fun _ => rfl, fun noKeyboard noStrip =>
        (sound.closed noKeyboard noStrip).of_same rfl rfl rfl, sound.named⟩
  | showKeyboard height safeAreaInsetBottom =>
      exact ⟨fun _ => rfl, (fun noKeyboard => by cases noKeyboard), sound.named⟩
  | keyboardWillHide resigns =>
      rw [handle]
      rcases keyboardWillHide_cases
        { bar with isFirstResponder := bar.isFirstResponder && !resigns } with
        ⟨strip, same⟩ | ⟨-, reset⟩
      · rw [same]
        refine ⟨(fun shown => by cases shown), fun _ noStrip => ?_, sound.named⟩
        change bar.isSelectingImage = false at noStrip
        change bar.isSelectingImage = true at strip
        rw [strip] at noStrip
        cases noStrip
      · rw [reset]
        exact ⟨(fun shown => by cases shown), fun _ _ => closed_resetMessageTextView,
          sound.named⟩
  | hideKeyboard => exact hidden sound
  | showImageCollection =>
      rcases showImageCollection_cases sound.holder with ⟨-, shown⟩ | ⟨-, -, shown⟩
      · rw [handle, shown]
        exact ⟨(fun has => by cases has), (fun _ noStrip => by cases noStrip), sound.named⟩
      · rw [handle, shown]
        exact ⟨sound.holder, (fun _ noStrip => by cases noStrip), sound.named⟩
  | sendMessage =>
      rw [handle]
      rcases sendMessage_cases bar with ⟨-, sent⟩ | ⟨-, sent⟩
      · rw [sent]
        exact hidden sound
      · rw [sent]
        exact hidden (sound.setText (some ""))
  | sendImage => exact hidden sound

/-- What is kept along a run that stays laid out. -/
structure Kept (sizeThatFits : String → CGFloat) (bar : ChatBar) : Prop extends
    bar.Sound, bar.LaidOut sizeThatFits where
  tidy : bar.messageTextView.Tidy

/-- A text that fits is edited as it should be, and no other one is. -/
theorem Kept.edit (kept : bar.Kept sizeThatFits) (text : String) :
    ((handle sizeThatFits bar (.edit text)).LaidOut sizeThatFits ↔
      bar.messageTextView.FitsText text) ∧
    (bar.messageTextView.FitsText text →
      (handle sizeThatFits bar (.edit text)).messageTextView.Tidy) := by
  have edited : bar.messageTextView.edit text = bar.messageTextView.setText (some text) :=
    MFTextView.edit_eq_setText kept.tidy.isOwn text
  obtain ⟨height, scrolls, same, bounds, reachable⟩ := textViewDidChange_spec sizeThatFits
    { bar with messageTextView := bar.messageTextView.edit text }
  rw [handle, same]
  refine ⟨⟨fun laidOut => ?_, fun fits => ?_⟩, fun fits => ?_⟩
  · have one := laidOut.placeholder
    rw [edited] at one
    exact (kept.tidy.onePlaceholder_setText_iff (some text)).mp one
  · constructor
    · exact bounds kept.bounds
    · exact .inr reachable
    · intro shown
      have before := kept.keyboard shown
      change bar.heightChatTextView + (height - bar.heightMessageTextView) =
        10 + height + 10 + bar.maxHeightCollectionView
      linarith
    · intro noKeyboard selecting
      have before := kept.strip noKeyboard selecting
      change 10 + height + 8 + bar.heightImageCollectionView ≤
        bar.heightChatTextView + (height - bar.heightMessageTextView)
      linarith
    · intro noKeyboard noStrip
      refine ⟨?_, (kept.toSound.closed noKeyboard noStrip).strip⟩
      have whole := (kept.toSound.closed noKeyboard noStrip).whole
      change bar.heightChatTextView + (height - bar.heightMessageTextView) = 10 + height + 10
      linarith
    · rw [edited]
      exact (kept.tidy.onePlaceholder_setText_iff (some text)).mpr fits
  · rw [edited]
    exact kept.tidy.setText fits

/-- A keyboard that hides on its own leaves the strip room if the strip is low enough. -/
theorem Kept.keyboardWillHide_iff (kept : bar.Kept sizeThatFits) (resigns : Bool)
    (shown : bar.keyboardIsShown = true) :
    (handle sizeThatFits bar (.keyboardWillHide resigns)).LaidOut sizeThatFits ↔
      (bar.isSelectingImage = true →
        bar.heightImageCollectionView ≤ bar.maxHeightCollectionView + 2) := by
  have room := kept.keyboard shown
  rw [handle]
  rcases keyboardWillHide_cases
    { bar with isFirstResponder := bar.isFirstResponder && !resigns } with
    ⟨strip, same⟩ | ⟨noStrip, reset⟩
  · rw [same]
    constructor
    · intro laidOut selecting
      have fits : 10 + bar.heightMessageTextView + 8 + bar.heightImageCollectionView ≤
          bar.heightChatTextView := laidOut.strip rfl selecting
      linarith
    · intro low
      refine ⟨kept.bounds, kept.reachable, (fun has => by cases has), fun _ selecting => ?_,
        fun _ none => ?_, kept.placeholder⟩
      · have fits := low selecting
        change 10 + bar.heightMessageTextView + 8 + bar.heightImageCollectionView ≤
          bar.heightChatTextView
        linarith
      · change bar.isSelectingImage = false at none
        change bar.isSelectingImage = true at strip
        rw [strip] at none
        cases none
  · rw [reset]
    refine iff_of_true (laidOut_resetMessageTextView rfl kept.placeholder) fun selecting => ?_
    change bar.isSelectingImage = false at noStrip
    rw [noStrip] at selecting
    cases selecting

/-- The strip has its room where the keyboard was, or where nothing was. -/
theorem Kept.showImageCollection_iff (kept : bar.Kept sizeThatFits) :
    bar.showImageCollection.LaidOut sizeThatFits ↔
      (bar.isFirstResponder = true → bar.keyboardIsShown = false →
        10 + bar.heightMessageTextView + 8 + bar.maxHeightCollectionView ≤
          bar.heightChatTextView) := by
  rcases showImageCollection_cases kept.holder with ⟨edited, shown⟩ | ⟨notEdited, -, shown⟩
  · rw [shown]
    constructor
    · exact fun laidOut _ _ => laidOut.strip rfl rfl
    · intro fits
      refine ⟨kept.bounds, kept.reachable, (fun has => by cases has), fun _ _ => ?_,
        (fun _ none => by cases none), kept.placeholder⟩
      change 10 + bar.heightMessageTextView + 8 + bar.maxHeightCollectionView ≤
        bar.heightChatTextView
      cases keyboard : bar.keyboardIsShown with
      | true =>
          have room := kept.keyboard keyboard
          linarith
      | false => exact fits edited keyboard
  · rw [shown]
    refine iff_of_true ⟨kept.bounds, kept.reachable, fun has => ?_, fun _ _ => le_rfl,
      (fun _ none => by cases none), kept.placeholder⟩ fun edited => ?_
    · change bar.keyboardIsShown = true at has
      rw [kept.holder has] at notEdited
      cases notEdited
    · rw [notEdited] at edited
      cases edited

/-- A message that is sent leaves the bar laid out, and its box tidy. -/
theorem Kept.sendMessage (kept : bar.Kept sizeThatFits) :
    bar.sendMessage.LaidOut sizeThatFits ∧ bar.sendMessage.messageTextView.Tidy := by
  rcases sendMessage_cases bar with ⟨-, sent⟩ | ⟨written, sent⟩
  · rw [sent]
    exact ⟨kept.toLaidOut.hideKeyboard kept.toSound, kept.toSound.hideKeyboard.2.1 ▸ kept.tidy⟩
  · have tidy : (bar.messageTextView.setText (some "")).Tidy :=
      kept.tidy.setText fun _ => iff_of_true written kept.named
    have emptied : (bar.messageTextView.setText (some "")).text = "" := by
      simp only [MFTextView.setText, Option.getD_some, if_true, MFTextView.text_addPlaceholder]
    have laidOut : ({ bar with
        messageTextView := bar.messageTextView.setText (some "") } : ChatBar).LaidOut
          sizeThatFits :=
      ⟨kept.bounds, .inl emptied, kept.keyboard, kept.strip,
        (kept.toSound.setText (some "")).closed, tidy.onePlaceholder⟩
    have sound := kept.toSound.setText (some "")
    rw [sent]
    exact ⟨laidOut.hideKeyboard sound, sound.hideKeyboard.2.1 ▸ tidy⟩

/-- Where a bar is laid out, it stays so exactly if what happens is allowed, and its box stays
tidy with it. -/
theorem Kept.step_iff (kept : bar.Kept sizeThatFits)
    (taken : step sizeThatFits bar event = some next) :
    (next.LaidOut sizeThatFits ↔ bar.Allowed event) ∧
      (bar.Allowed event → next.messageTextView.Tidy) := by
  have hidden : bar.hideKeyboard.LaidOut sizeThatFits ∧ bar.hideKeyboard.messageTextView.Tidy :=
    ⟨kept.toLaidOut.hideKeyboard kept.toSound, kept.toSound.hideKeyboard.2.1 ▸ kept.tidy⟩
  simp only [step, Option.ite_none_right_eq_some, Option.some.injEq] at taken
  obtain ⟨possible, rfl⟩ := taken
  cases event with
  | edit text => exact kept.edit text
  | becomeFirstResponder =>
      exact ⟨iff_of_true ⟨kept.bounds, kept.reachable, kept.keyboard, kept.strip,
        fun noKeyboard noStrip => (kept.toSound.closed noKeyboard noStrip).of_same rfl rfl rfl,
        kept.placeholder⟩ trivial, fun _ => kept.tidy⟩
  | showKeyboard height safeAreaInsetBottom =>
      refine ⟨iff_of_true ⟨kept.bounds, kept.reachable, fun _ => ?_,
        (fun noKeyboard => by cases noKeyboard), (fun noKeyboard => by cases noKeyboard),
        kept.placeholder⟩ trivial, fun _ => kept.tidy⟩
      change 10 + bar.heightMessageTextView + 10 + height - safeAreaInsetBottom =
        10 + bar.heightMessageTextView + 10 + (height - safeAreaInsetBottom)
      ring
  | keyboardWillHide resigns =>
      refine ⟨kept.keyboardWillHide_iff resigns possible, fun _ => ?_⟩
      rw [handle]
      rcases keyboardWillHide_cases
        { bar with isFirstResponder := bar.isFirstResponder && !resigns } with
        ⟨-, same⟩ | ⟨-, reset⟩
      · rw [same]
        exact kept.tidy
      · rw [reset]
        exact kept.tidy
  | hideKeyboard => exact ⟨iff_of_true hidden.1 trivial, fun _ => hidden.2⟩
  | showImageCollection =>
      refine ⟨kept.showImageCollection_iff, fun _ => ?_⟩
      rw [handle]
      rcases showImageCollection_cases kept.holder with ⟨-, shown⟩ | ⟨-, -, shown⟩
      · rw [shown]
        exact kept.tidy
      · rw [shown]
        exact kept.tidy
  | sendMessage => exact ⟨iff_of_true kept.sendMessage.1 trivial, fun _ => kept.sendMessage.2⟩
  | sendImage => exact ⟨iff_of_true hidden.1 trivial, fun _ => hidden.2⟩

theorem sound_initial : (ChatBar.mk (MFTextView.initial "Send your comment ...") true false false 40
    60 0 0 false).Sound where
  holder := fun shown => by cases shown
  closed := fun _ _ => ⟨by norm_num, rfl⟩
  named := rfl

theorem kept_initial : (ChatBar.mk (MFTextView.initial "Send your comment ...") true false false 40
    60 0 0 false).Kept sizeThatFits where
  toSound := sound_initial
  bounds := by norm_num
  reachable := .inl rfl
  keyboard := fun shown => by cases shown
  strip := fun _ selecting => by cases selecting
  placeholder := rfl
  tidy := ⟨rfl, rfl, rfl⟩

variable {events : List ChatBarEvent}

/-- **The bar is laid out.** In every run of typing, keyboards, photos and messages, the bar is
laid out in every state exactly if each event is allowed. -/
theorem laidOut_iff_allowed (sizeThatFits : String → CGFloat) (events : List ChatBarEvent) :
    EventRun.EachState (step sizeThatFits) (LaidOut sizeThatFits) {} events ↔
      EventRun.EachStep (step sizeThatFits) Allowed {} events := by
  refine EventRun.eachState_iff_eachStep_of_strong (@kept_initial sizeThatFits)
    (fun _ kept => kept.toLaidOut) ?_ fun _ _ _ kept taken => (kept.step_iff taken).1
  intro bar event next kept taken laidOut
  have allowed := (kept.step_iff taken).1.mp laidOut
  exact { kept.toSound.of_step taken, laidOut with tidy := (kept.step_iff taken).2 allowed }

/-- **A message that is sent puts everything away**, and leaves nothing but blanks in the box.
The bar is as it was at first, unless its box had grown without a keyboard and the strip. -/
theorem putAway_of_sendMessage
    (reached : EventRun.runFrom (step sizeThatFits) {} events = some bar)
    (taken : step sizeThatFits bar .sendMessage = some next) :
    next.PutAway ∧ Utils.trim next.messageTextView.text = "" ∧
      (next.AtRest ↔ bar.keyboardIsShown = true ∨ bar.isSelectingImage = true ∨ bar.AtRest) := by
  have sound : bar.Sound :=
    EventRun.invariant_state Sound sound_initial (fun _ _ _ sound taken => sound.of_step taken)
      reached
  cases taken
  rw [handle]
  rcases sendMessage_cases bar with ⟨blank, sent⟩ | ⟨-, sent⟩
  · obtain ⟨putAway, same, atRest⟩ := sound.hideKeyboard
    rw [sent]
    exact ⟨putAway, same ▸ blank, atRest⟩
  · obtain ⟨putAway, same, atRest⟩ := (sound.setText (some "")).hideKeyboard
    have emptied : (bar.messageTextView.setText (some "")).text = "" := by
      simp only [MFTextView.setText, Option.getD_some, if_true, MFTextView.text_addPlaceholder]
    rw [sent]
    refine ⟨putAway, ?_, atRest.trans ?_⟩
    · rw [same, emptied]
      exact trim_empty
    · exact or_congr Iff.rfl (or_congr Iff.rfl (atRest_congr rfl rfl rfl rfl))

/-- A text of three lines is written, and a photo is looked for before the text is sent. -/
def threeLines : List ChatBarEvent :=
  [.showKeyboard 336 34, .edit "one", .edit "one two three", .showImageCollection]

/-- Lines of five letters. -/
def narrow (text : String) : CGFloat := 16 + 20 * ((text.length + 4) / 5 : Nat)

/-- The text of three lines is sent. -/
theorem putAway_threeLines : ∃ bar next,
    EventRun.runFrom (step narrow) {} threeLines = some bar ∧
      step narrow bar .sendMessage = some next ∧ next.PutAway ∧
      Utils.trim next.messageTextView.text = "" ∧
      (next.AtRest ↔ bar.keyboardIsShown = true ∨ bar.isSelectingImage = true ∨ bar.AtRest) := by
  have runs : (EventRun.runFrom (step narrow) {} threeLines).isSome := by decide +kernel
  obtain ⟨bar, reached⟩ := Option.isSome_iff_exists.mp runs
  exact ⟨bar, _, reached, rfl, putAway_of_sendMessage reached rfl⟩

end ChatBar

end MovieFun
