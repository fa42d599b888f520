import MovieFun.Foundation.Run

/-!
# The placeholder of the message box

A text view adds a label for its placeholder when the placeholder is assigned and whenever its
text is found empty, and takes the label away when the text is found not to be. Only the label
that was added last is remembered. So there is one label over an empty text and none over
another exactly as long as no placeholder is assigned and the text comes to be empty only when
it was not (`onePlaceholder_iff_allowed`).
-/

namespace MovieFun

/-- A label, which is told from others by its number. -/
structure UILabel where
  number : Nat
  text : String
deriving DecidableEq, Repr

/-- A text view, with the placeholder labels among its subviews and how many were created. -/
structure MFTextView where
  placeholder : Option String := none
  text : String := ""
  delegateIsSelf : Bool := false
  placeholderLabel : Option UILabel := none
  subviews : List UILabel := []
  created : Nat := 0
deriving DecidableEq, Repr

/-- An assignment of the placeholder or of the text, or an edit by the user. -/
inductive MFTextViewEvent
  | placeholder (placeholder : Option String)
  | text (text : Option String)
  | edit (text : String)

namespace MFTextView

/-- A new label with the placeholder is added, whatever labels are there. -/
def addPlaceholder (view : MFTextView) : MFTextView :=
  match view.placeholder with
  | none => view
  | some placeholderText =>
      let label : UILabel := ⟨view.created, placeholderText⟩
      { view with
        placeholderLabel := some label
        subviews := view.subviews ++ [label]
        created := view.created + 1 }

/-- The label that was added last is removed. -/
def removePlaceholder (view : MFTextView) : MFTextView :=
  match view.placeholderLabel with
  | none => view
  | some label =>
      { view with subviews := view.subviews.filter fun subview => subview.number ≠ label.number }

/-- The placeholder is assigned: its label is added and the view becomes its own delegate. -/
def setPlaceholder (placeholder : Option String) (view : MFTextView) : MFTextView :=
  { ({ view with placeholder } : MFTextView).addPlaceholder with delegateIsSelf := true }

/-- The text is assigned. One that is `nil` reads as an empty one. -/
def setText (text : Option String) (view : MFTextView) : MFTextView :=
  let view := { view with text := text.getD "" }
  if view.text = "" then view.addPlaceholder else view.removePlaceholder

/-- The label comes and goes with the text. -/
def textViewDidChange (view : MFTextView) : MFTextView :=
  if view.text ≠ "" then view.removePlaceholder else view.addPlaceholder

/-- The user edits the text, which the delegate is told. -/
def edit (text : String) (view : MFTextView) : MFTextView :=
  let view := { view with text }
  if view.delegateIsSelf then view.textViewDidChange else view

/-- The view after an assignment or an edit. -/
def step (view : MFTextView) : MFTextViewEvent → Option MFTextView
  | .placeholder placeholder => some (view.setPlaceholder placeholder)
  | .text text => some (view.setText text)
  | .edit text => some (view.edit text)

/-- There is one label over an empty text, and none over another. -/
def OnePlaceholder (view : MFTextView) : Prop :=
  view.subviews.length = if view.text = "" then 1 else 0

/-- An empty text fits a view whose text is another one, and that will add a label then. -/
def FitsText (text : String) (view : MFTextView) : Prop :=
  text = "" → (view.text ≠ "" ↔ view.placeholder.isSome)

/-- The placeholder is taken away only, and the text fits. -/
def Allowed (view : MFTextView) : MFTextViewEvent → Prop
  | .placeholder placeholder => placeholder = none
  | .text text => view.FitsText (text.getD "")
  | .edit text => view.FitsText text

/-- An empty text view that was given its placeholder. -/
def initial (placeholder : String) : MFTextView := setPlaceholder (some placeholder) {}

/-- The view hears of edits, and shows the label that it remembers over an empty text only. -/
structure Tidy (view : MFTextView) : Prop where
  isOwn : view.delegateIsSelf = true
  labelled : view.placeholderLabel.isSome
  shows : view.subviews = if view.text = "" then view.placeholderLabel.toList else []

variable {view : MFTextView}

/-- Without a placeholder no label is added. -/
theorem addPlaceholder_none (nothing : view.placeholder = none) : view.addPlaceholder = view := by
  rw [addPlaceholder, nothing]

/-- A placeholder is added as a new label. -/
theorem addPlaceholder_some {placeholderText : String}
    (given : view.placeholder = some placeholderText) : view.addPlaceholder =
      { view with
        placeholderLabel := some ⟨view.created, placeholderText⟩
        subviews := view.subviews ++ [⟨view.created, placeholderText⟩]
        created := view.created + 1 } := by
  rw [addPlaceholder, given]

@[simp] theorem text_addPlaceholder : view.addPlaceholder.text = view.text := by
  unfold addPlaceholder
  split <;> rfl

/-- A placeholder is one label more. -/
theorem length_addPlaceholder : view.addPlaceholder.subviews.length =
    view.subviews.length + if view.placeholder.isSome then 1 else 0 := by
  cases given : view.placeholder with
  | none =>
      rw [addPlaceholder_none given]
      rfl
  | some placeholderText =>
      rw [addPlaceholder_some given, List.length_append]
      rfl

/-- A label is added to a view that shows one or none, and the count is right afterwards exactly
if the empty text fits. -/
theorem onePlaceholder_empty_iff (one : view.OnePlaceholder) :
    ({ view with text := "" } : MFTextView).addPlaceholder.OnePlaceholder ↔
      (view.text ≠ "" ↔ view.placeholder.isSome) := by
  rw [OnePlaceholder] at one
  rw [OnePlaceholder, text_addPlaceholder, length_addPlaceholder, one, if_pos rfl]
  by_cases isEmpty : view.text = ""
  · cases view.placeholder <;> simp [isEmpty]
  · cases view.placeholder <;> simp [isEmpty]

/-- An assignment of a placeholder keeps one placeholder exactly if it assigns none. -/
theorem onePlaceholder_setPlaceholder_iff (one : view.OnePlaceholder)
    (placeholder : Option String) :
    (view.setPlaceholder placeholder).OnePlaceholder ↔ placeholder = none := by
  rw [OnePlaceholder] at one
  rw [OnePlaceholder, setPlaceholder, text_addPlaceholder, length_addPlaceholder, one]
  cases placeholder <;> simp

/-- The two ways to change the text do the same, once the view is its own delegate. -/
theorem edit_eq_setText (isOwn : view.delegateIsSelf = true) (text : String) :
    view.edit text = view.setText (some text) := by
  simp only [edit, setText, textViewDidChange, isOwn, if_true, Option.getD_some, ite_not]

namespace Tidy

/-- A tidy view has one placeholder or none. -/
theorem onePlaceholder (tidy : view.Tidy) : view.OnePlaceholder := by
  obtain ⟨label, isLabel⟩ := Option.isSome_iff_exists.mp tidy.labelled
  rw [OnePlaceholder, tidy.shows, isLabel]
  split <;> rfl

/-- The label is taken away if it is there. -/
theorem write (tidy : view.Tidy) {text : String} (written : text ≠ "") :
    ({ view with text } : MFTextView).removePlaceholder.Tidy := by
  obtain ⟨label, isLabel⟩ := Option.isSome_iff_exists.mp tidy.labelled
  have none : view.subviews.filter (fun subview => subview.number ≠ label.number) = [] := by
    rw [tidy.shows, isLabel]
    split <;> simp
  simp only [removePlaceholder, isLabel, none]
  exact ⟨tidy.isOwn, rfl, (if_neg written).symm⟩

/-- A label is added where there is none, or none where there is one. -/
theorem empty (tidy : view.Tidy) (fits : view.text ≠ "" ↔ view.placeholder.isSome) :
    ({ view with text := "" } : MFTextView).addPlaceholder.Tidy := by
  rcases Option.eq_none_or_eq_some view.placeholder with nothing | ⟨placeholderText, given⟩
  · have isEmpty : view.text = "" := by simpa [nothing] using fits
    have same : ({ view with text := "" } : MFTextView).addPlaceholder =
        { view with text := "" } := addPlaceholder_none nothing
    rw [same]
    refine ⟨tidy.isOwn, tidy.labelled, ?_⟩
    rw [if_pos rfl, tidy.shows, if_pos isEmpty]
  · have notEmpty : view.text ≠ "" := by simpa [given] using fits
    have added : ({ view with text := "" } : MFTextView).addPlaceholder = _ :=
      addPlaceholder_some given
    rw [added]
    refine ⟨tidy.isOwn, rfl, ?_⟩
    rw [if_pos rfl, tidy.shows, if_neg notEmpty]
    rfl

/-- A tidy view stays so with a text that fits. -/
theorem setText (tidy : view.Tidy) {text : Option String} (fits : view.FitsText (text.getD "")) :
    (view.setText text).Tidy := by
  unfold MFTextView.setText
  by_cases isEmpty : text.getD "" = ""
  · simp only [isEmpty, if_true]
    exact tidy.empty (fits isEmpty)
  · simp only [isEmpty, if_false]
    exact tidy.write isEmpty

/-- The view has one placeholder or none after an assignment exactly if the text fits. -/
theorem onePlaceholder_setText_iff (tidy : view.Tidy) (text : Option String) :
    (view.setText text).OnePlaceholder ↔ view.FitsText (text.getD "") := by
  by_cases isEmpty : text.getD "" = ""
  · simp only [MFTextView.setText, FitsText, isEmpty, if_true, true_imp_iff]
    exact onePlaceholder_empty_iff tidy.onePlaceholder
  · have fits : view.FitsText (text.getD "") := fun empty => absurd empty isEmpty
    exact iff_of_true (tidy.setText fits).onePlaceholder fits

/-- A step keeps the view tidy if it is allowed. -/
theorem step (tidy : view.Tidy) {event : MFTextViewEvent} (allowed : view.Allowed event)
    {next : MFTextView} (taken : view.step event = some next) : next.Tidy := by
  cases event with
  | placeholder placeholder =>
      cases taken
      cases allowed
      exact ⟨rfl, tidy.labelled, tidy.shows⟩
  | text text =>
      cases taken
      exact tidy.setText allowed
  | edit text =>
      cases taken
      rw [edit_eq_setText tidy.isOwn]
      exact tidy.setText allowed

/-- A step of a tidy view leaves it one placeholder or none exactly if it is allowed. -/
theorem onePlaceholder_step_iff (tidy : view.Tidy) {event : MFTextViewEvent} {next : MFTextView}
    (taken : view.step event = some next) : next.OnePlaceholder ↔ view.Allowed event := by
  cases event with
  | placeholder placeholder =>
      cases taken
      exact onePlaceholder_setPlaceholder_iff tidy.onePlaceholder placeholder
  | text text =>
      cases taken
      exact tidy.onePlaceholder_setText_iff text
  | edit text =>
      cases taken
      rw [edit_eq_setText tidy.isOwn]
      exact tidy.onePlaceholder_setText_iff (some text)

end Tidy

/-- **One placeholder or none.** In every run of assignments and edits, the placeholder labels
of a text view are right after each event exactly if each event is allowed. -/
theorem onePlaceholder_iff_allowed (placeholder : String) (events : List MFTextViewEvent) :
    EventRun.EachState step OnePlaceholder (initial placeholder) events ↔
      EventRun.EachStep step Allowed (initial placeholder) events := by
  have first : (initial placeholder).Tidy := ⟨rfl, rfl, rfl⟩
  refine EventRun.eachState_iff_eachStep_of_strong first (fun _ => Tidy.onePlaceholder) ?_
    fun _ _ _ tidy => tidy.onePlaceholder_step_iff
  intro view event next tidy taken one
  exact tidy.step ((tidy.onePlaceholder_step_iff taken).mp one) taken

/-- The message box is cleared although it is empty, and has two labels then. -/
theorem not_onePlaceholder_clearedEmpty :
    ¬ EventRun.EachState step OnePlaceholder (initial "Send your comment ...")
      [.text (some "")] := by
  intro always
  have one := always [.text (some "")] List.prefix_rfl _ rfl
  cases one

end MFTextView

end MovieFun
