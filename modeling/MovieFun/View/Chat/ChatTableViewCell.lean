import Mathlib.Data.List.Nodup
import MovieFun.Foundation.Display
import MovieFun.Foundation.Run
import MovieFun.Helper.CGFloat
import MovieFun.Helper.DynamicType
import MovieFun.Network.Firestore

/-!
# The error icons of reused cells

A right-hand row of the chat holds one flag for the state of its send, and the cell that was
set up with the row last listens to it. A set-up hides the icon whatever the flag is, and a
reused cell still listens to its former rows. So the icons tell the failed sends exactly as long
as no failed row is set up again and each acknowledgement finds its row where it was set up last
(`tellsFailures_iff_allowed`).
-/

namespace MovieFun

/-- A right-hand row as the object that cells listen to. Of its message only the text matters
here. -/
structure ChatRightRowViewModel (Cell : Type) where
  content : Option String
  addMessagesSuccess : DynamicType Bool Cell := { value := some true }

/-- A cell for right-hand rows, with the number of the row it was last set up with. -/
structure ChatTableViewCell where
  chatViewModel : Option Nat := none
  messageLabel : Option String := none
  errorIconIsHidden : Bool := false
  marginRightMessageView : CGFloat := -16
  marginRightMessImageView : CGFloat := -16
deriving DecidableEq, Repr

namespace ChatTableViewCell

/-- The cell is at a row of the own account, and hides the error icon. -/
def setUpChatRight (number : Nat) (content : Option String) (cell : ChatTableViewCell) :
    ChatTableViewCell :=
  { cell with chatViewModel := some number, messageLabel := content, errorIconIsHidden := true }

/-- What the cell does with the flag of a row that it listens to. -/
def successListener (success : Bool) (cell : ChatTableViewCell) : ChatTableViewCell :=
  if success then
    { cell with
      errorIconIsHidden := true
      marginRightMessageView := -16
      marginRightMessImageView := -16 }
  else
    { cell with
      errorIconIsHidden := false
      marginRightMessageView := 10
      marginRightMessImageView := 10 }

end ChatTableViewCell

/-- The rows by their numbers in the order of creation, the rows whose send has no
acknowledgement, and the cells. -/
structure ErrorIcons (Cell : Type) where
  movieId : Option String
  rows : Nat → ChatRightRowViewModel Cell := fun _ => { content := none }
  created : Nat := 0
  sending : List Nat := []
  cells : Cell → ChatTableViewCell

/-- A message is sent, received or acknowledged, or a cell is set up. -/
inductive ErrorIconEvent (Cell : Type)
  | addMessage (text : String)
  | received (content : Option String)
  | acknowledge (row : Nat) (messageId : Option String) (error : Option NSError)
  | setUp (cell : Cell) (row : Nat)

variable {Cell : Type} [DecidableEq Cell]

namespace ErrorIconEvent

/-- An acknowledgement of success names the document. -/
def succeeds (messageId : Option String) (error : Option NSError) : Bool :=
  error.isNone && messageId.isSome

/-- The event reports that the send of the row failed. -/
def failsSend (row : Nat) : ErrorIconEvent Cell → Bool
  | acknowledge sent messageId error => sent == row && !succeeds messageId error
  | _ => false

/-- The row that the event sets up on a cell. -/
def rowOn (cell : Cell) : ErrorIconEvent Cell → Option Nat
  | setUp reached row => if reached = cell then some row else none
  | _ => none

end ErrorIconEvent

namespace ErrorIcons

/-- The send of the row was acknowledged as failed. -/
def failed (before : List (ErrorIconEvent Cell)) (row : Nat) : Bool :=
  before.any (ErrorIconEvent.failsSend row)

/-- The row was set up last on the cell. -/
def IsAt (before : List (ErrorIconEvent Cell)) (cell : Cell) (row : Nat) : Prop :=
  EventRun.last (ErrorIconEvent.rowOn cell) before = some row

/-- Show a message of this device, and send it to the chat of the movie. -/
def addMessage (text : String) (system : ErrorIcons Cell) : ErrorIcons Cell :=
  { system with
    rows := Function.update system.rows system.created
      { content := some text, addMessagesSuccess := { value := some false } }
    created := system.created + 1
    sending :=
      if system.movieId.isSome then system.sending ++ [system.created] else system.sending }

/-- A message of the session that came from the store. -/
def received (content : Option String) (system : ErrorIcons Cell) : ErrorIcons Cell :=
  { system with
    rows := Function.update system.rows system.created { content }
    created := system.created + 1 }

/-- The completion of a send. -/
def acknowledge (row : Nat) (success : Bool) (system : ErrorIcons Cell) : ErrorIcons Cell :=
  let (addMessagesSuccess, called) :=
    (system.rows row).addMessagesSuccess.setValue (some success)
  { system with
    rows := Function.update system.rows row { system.rows row with addMessagesSuccess }
    sending := system.sending.erase row
    cells :=
      match called with
      | none => system.cells
      | some (cell, success) =>
          Function.update system.cells cell ((system.cells cell).successListener success) }

/-- The cell becomes the listener of a row and shows it. -/
def setUp (cell : Cell) (row : Nat) (system : ErrorIcons Cell) : ErrorIcons Cell :=
  let viewModel := system.rows row
  { system with
    rows := Function.update system.rows row
      { viewModel with addMessagesSuccess := viewModel.addMessagesSuccess.listen cell }
    cells := Function.update system.cells cell
      ((system.cells cell).setUpChatRight row viewModel.content) }

/-- A send is acknowledged once, and a cell is set up with a row there is. -/
def step (system : ErrorIcons Cell) : ErrorIconEvent Cell → Option (ErrorIcons Cell)
  | .addMessage text => some (system.addMessage text)
  | .received content => some (system.received content)
  | .acknowledge row messageId error =>
      if row ∈ system.sending then
        some (system.acknowledge row (ErrorIconEvent.succeeds messageId error))
      else none
  | .setUp cell row => if row < system.created then some (system.setUp cell row) else none

/-- The cell shows the error icon. -/
def showsIcon (system : ErrorIcons Cell) (cell : Cell) : Bool :=
  !(system.cells cell).errorIconIsHidden

/-- A cell shows the icon exactly if the send of its row was acknowledged as failed. -/
def TellsFailures (before : List (ErrorIconEvent Cell)) (system : ErrorIcons Cell) : Prop :=
  ∀ cell row, IsAt before cell row → system.showsIcon cell = failed before row

/-- A row that is set up has not failed. An acknowledgement reaches a cell that is at its row,
or at one that is in the same state, and a failure leaves no other cell at its row. -/
def Allowed (before : List (ErrorIconEvent Cell)) (system : ErrorIcons Cell) :
    ErrorIconEvent Cell → Prop
  | .setUp _ row => failed before row = false
  | .acknowledge row messageId error => ∀ cell other, IsAt before cell other →
      if (system.rows row).addMessagesSuccess.listener = some cell then
        other = row ∨ failed before other = !ErrorIconEvent.succeeds messageId error
      else other = row → ErrorIconEvent.succeeds messageId error
  | _ => True

/-- A chat without rows, and with cells that were not set up. -/
def initial (movieId : Option String) (cells : Cell → ChatTableViewCell) : ErrorIcons Cell where
  movieId
  cells

/-- Sends without an acknowledgement have not failed, and those that failed are of rows there
are. -/
structure Sound (before : List (ErrorIconEvent Cell)) (system : ErrorIcons Cell) : Prop where
  nodup : system.sending.Nodup
  pending : ∀ row ∈ system.sending, failed before row = false ∧ row < system.created
  past : ∀ row, failed before row = true → row < system.created

variable {system next : ErrorIcons Cell} {event : ErrorIconEvent Cell}
  {before : List (ErrorIconEvent Cell)} {cell : Cell} {row : Nat}

omit [DecidableEq Cell] in
theorem failed_concat (event : ErrorIconEvent Cell) (row : Nat) :
    failed (before ++ [event]) row = (failed before row || event.failsSend row) := by
  rw [failed, List.any_append, List.any_cons, List.any_nil, Bool.or_false]
  rfl

omit [DecidableEq Cell] in
/-- Only acknowledgements fail sends. -/
theorem failed_concat_of_silent (silent : ∀ row, event.failsSend row = false) :
    failed (before ++ [event]) = failed before := by
  funext row
  rw [failed_concat, silent row, Bool.or_false]

omit [DecidableEq Cell] in
/-- The first acknowledgement of a message decides whether it failed. -/
theorem failed_acknowledge {messageId : Option String} {error : Option NSError}
    (pending : failed before row = false) :
    failed (before ++ [.acknowledge row messageId error]) =
      Function.update (failed before) row (!ErrorIconEvent.succeeds messageId error) := by
  funext other
  rw [failed_concat, ErrorIconEvent.failsSend]
  by_cases same : other = row
  · subst same
    rw [Function.update_self, pending, Bool.false_or, beq_self_eq_true, Bool.true_and]
  · have different : (row == other) = false := beq_false_of_ne (Ne.symm same)
    rw [Function.update_of_ne same, different, Bool.false_and, Bool.or_false]

theorem isAt_setUp : IsAt (before ++ [.setUp cell row]) cell row := by
  simp only [IsAt, EventRun.last_concat, ErrorIconEvent.rowOn, if_true, Option.some_or]

theorem eq_of_isAt_setUp {other : Nat} (isAt : IsAt (before ++ [.setUp cell row]) cell other) :
    other = row := by
  simp only [IsAt, EventRun.last_concat, ErrorIconEvent.rowOn, if_true, Option.some_or,
    Option.some.injEq] at isAt
  exact isAt.symm

theorem isAt_of_setUp {reached : Cell} {other : Nat} (different : reached ≠ cell)
    (isAt : IsAt (before ++ [.setUp cell row]) reached other) : IsAt before reached other := by
  simp only [IsAt, EventRun.last_concat, ErrorIconEvent.rowOn] at isAt
  rwa [if_neg (Ne.symm different), Option.none_or] at isAt

/-- Only set-ups move cells. -/
theorem isAt_concat_of_silent (silent : ∀ cell, event.rowOn cell = none) :
    IsAt (before ++ [event]) = IsAt before := by
  funext cell row
  simp only [IsAt, EventRun.last_concat, silent cell, Option.none_or]

theorem showsIcon_setUp : (system.setUp cell row).showsIcon =
    Function.update system.showsIcon cell false := by
  funext other
  by_cases same : other = cell
  · subst same
    simp only [showsIcon, setUp, Function.update_self]
    rfl
  · simp only [showsIcon, setUp, Function.update_of_ne same]

/-- An acknowledgement reaches the cell that listens to the row. -/
theorem showsIcon_acknowledge (success : Bool) : (system.acknowledge row success).showsIcon =
    Display.report (system.rows row).addMessagesSuccess.listener (!success) system.showsIcon := by
  cases listens : (system.rows row).addMessagesSuccess.listener with
  | none =>
      simp only [acknowledge, DynamicType.setValue, listens]
      rfl
  | some cell =>
      funext other
      by_cases same : other = cell
      · subst same
        simp only [showsIcon, acknowledge, DynamicType.setValue, listens, Display.report,
          Function.update_self]
        cases success <;> rfl
      · simp only [showsIcon, acknowledge, DynamicType.setValue, listens, Display.report,
          Function.update_of_ne same]

omit [DecidableEq Cell] in
/-- A new row has no acknowledgement yet. -/
theorem Sound.created (sound : Sound before system) : failed before system.created = false := by
  cases known : failed before system.created with
  | false => rfl
  | true => exact absurd (sound.past _ known) (Nat.lt_irrefl _)

omit [DecidableEq Cell] in
/-- An event that fails no send leaves the failures, and what else waits afterwards has not
failed. -/
theorem Sound.of_silent (sound : Sound before system) (silent : ∀ row, event.failsSend row = false)
    (created : system.created ≤ next.created) (nodup : next.sending.Nodup)
    (waiting : ∀ row ∈ next.sending, row ∈ system.sending ∨
      failed before row = false ∧ row < next.created) :
    Sound (before ++ [event]) next := by
  refine ⟨nodup, fun row waits => ?_, fun row hasFailed => ?_⟩
  · rw [failed_concat_of_silent silent]
    rcases waiting row waits with earlier | isNew
    · exact ⟨(sound.pending row earlier).1, (sound.pending row earlier).2.trans_le created⟩
    · exact isNew
  · rw [failed_concat_of_silent silent] at hasFailed
    exact (sound.past row hasFailed).trans_le created

omit [DecidableEq Cell] in
/-- A message of this device gets a new row, which waits if there is a chat. -/
theorem Sound.addMessage (sound : Sound before system) (text : String) :
    Sound (before ++ [.addMessage text]) (system.addMessage text) := by
  have isNew : system.created ∉ system.sending := fun waits =>
    Nat.lt_irrefl _ (sound.pending _ waits).2
  cases chat : system.movieId with
  | none =>
      have same : (system.addMessage text).sending = system.sending := by
        simp only [ErrorIcons.addMessage, chat, Option.isSome_none, Bool.false_eq_true, if_false]
      apply sound.of_silent (fun _ => rfl) (Nat.le_succ _)
      · rw [same]
        exact sound.nodup
      · intro row waits
        rw [same] at waits
        exact .inl waits
  | some movieId =>
      have sent : (system.addMessage text).sending = system.sending ++ [system.created] := by
        simp only [ErrorIcons.addMessage, chat, Option.isSome_some, if_true]
      apply sound.of_silent (fun _ => rfl) (Nat.le_succ _)
      · rw [sent, ← List.concat_eq_append, List.nodup_concat]
        exact ⟨isNew, sound.nodup⟩
      · intro row waits
        rw [sent] at waits
        rcases List.mem_append.mp waits with earlier | own
        · exact .inl earlier
        · rw [List.mem_singleton.mp own]
          exact .inr ⟨sound.created, Nat.lt_succ_self _⟩

/-- An acknowledgement takes its row from those that wait, and fails no other. -/
theorem Sound.acknowledge (sound : Sound before system) (waited : row ∈ system.sending)
    (messageId : Option String) (error : Option NSError) :
    Sound (before ++ [.acknowledge row messageId error])
      (system.acknowledge row (ErrorIconEvent.succeeds messageId error)) := by
  have now : failed (before ++ [.acknowledge row messageId error]) =
      Function.update (failed before) row (!ErrorIconEvent.succeeds messageId error) :=
    failed_acknowledge (sound.pending row waited).1
  refine ⟨sound.nodup.erase row, fun other waits => ?_, fun other hasFailed => ?_⟩
  · obtain ⟨different, earlier⟩ := (sound.nodup.mem_erase_iff).mp waits
    rw [now, Function.update_of_ne different]
    exact sound.pending other earlier
  · by_cases same : other = row
    · subst same
      exact (sound.pending other waited).2
    · rw [now, Function.update_of_ne same] at hasFailed
      exact sound.past other hasFailed

/-- Each step keeps what is sound. -/
theorem Sound.step (sound : Sound before system) (taken : system.step event = some next) :
    Sound (before ++ [event]) next := by
  cases event with
  | addMessage text =>
      cases taken
      exact sound.addMessage text
  | received content =>
      cases taken
      exact sound.of_silent (fun _ => rfl) (Nat.le_succ _) sound.nodup fun _ waits => .inl waits
  | acknowledge sent messageId error =>
      rw [ErrorIcons.step] at taken
      split at taken
      · next waited =>
        cases taken
        exact sound.acknowledge waited messageId error
      · cases taken
  | setUp cell number =>
      rw [ErrorIcons.step] at taken
      split at taken
      · cases taken
        exact sound.of_silent (fun _ => rfl) le_rfl sound.nodup fun _ waits => .inl waits
      · cases taken

/-- A step keeps the icons right exactly if it is allowed. -/
theorem tellsFailures_step_iff (sound : Sound before system)
    (tells : system.TellsFailures before) (taken : system.step event = some next) :
    next.TellsFailures (before ++ [event]) ↔ system.Allowed before event := by
  unfold TellsFailures
  cases event with
  | addMessage text =>
      cases taken
      rw [isAt_concat_of_silent fun _ => rfl, failed_concat_of_silent fun _ => rfl]
      exact iff_of_true tells trivial
  | received content =>
      cases taken
      rw [isAt_concat_of_silent fun _ => rfl, failed_concat_of_silent fun _ => rfl]
      exact iff_of_true tells trivial
  | acknowledge row messageId error =>
      rw [step] at taken
      split at taken
      · next waited =>
        cases taken
        have pending := (sound.pending row waited).1
        rw [isAt_concat_of_silent fun _ => rfl, showsIcon_acknowledge, failed_acknowledge pending]
        apply (Display.shows_report_iff tells _).trans
        unfold Display.Fits Allowed
        simp only [pending, Bool.false_eq, Bool.not_eq_false']
      · cases taken
  | setUp cell row =>
      rw [step] at taken
      split at taken
      · cases taken
        have now : IsAt (before ++ [.setUp cell row]) cell row := isAt_setUp
        rw [showsIcon_setUp, failed_concat_of_silent fun _ => rfl]
        apply (Display.shows_turn_iff tells now (fun _ => eq_of_isAt_setUp)
          fun _ _ => isAt_of_setUp).trans
        exact eq_comm
      · cases taken

/-- **A failed send stays visible.** In every run of messages, acknowledgements and set-ups, the
icons tell the failed sends at every point exactly if each step is allowed. -/
theorem tellsFailures_iff_allowed (movieId : Option String) (cells : Cell → ChatTableViewCell)
    (events : List (ErrorIconEvent Cell)) :
    EventRun.EachPoint step TellsFailures (initial movieId cells) events ↔
      EventRun.EachTransition step Allowed (initial movieId cells) events := by
  refine EventRun.eachPoint_iff_eachTransition Sound ?_ ?_
    (fun _ _ _ _ _ sound => sound.step) (fun _ _ _ _ _ => tellsFailures_step_iff)
  · intro cell row never
    cases never
  · exact ⟨List.nodup_nil, fun _ none => absurd none List.not_mem_nil, nofun⟩

/-- A send fails, and its row comes back on the screen. -/
def failedAndScrolled : List (ErrorIconEvent Nat) :=
  [.addMessage "hello", .setUp 0 0, .acknowledge 0 none (some ⟨"offline"⟩), .setUp 0 0]

/-- The icon is hidden then. -/
theorem not_tellsFailures_failedAndScrolled :
    ¬ EventRun.EachPoint step TellsFailures (initial (some "1") fun _ : Nat => {})
      failedAndScrolled := by
  intro always
  have tells := always failedAndScrolled List.prefix_rfl _ rfl 0 0 rfl
  cases tells

end ErrorIcons

end MovieFun
