import MovieFun.Foundation.Run
import MovieFun.View.AccountMovie.AccountController

/-!
# When profile edits are not lost

Every update writes the whole document from the object that the view model refers to,
and acknowledgements and snapshots keep changing which object that is. The document
ends with the last value submitted for each field exactly when every update is made
on an object that has what was last written (`nothingLost_iff_upToDate`).
-/

namespace MovieFun

/-- The screen of one user with the stored document, the writes without an
acknowledgement in the order they were issued, each with the object its completion
captured, and the snapshots that the listener has not delivered. -/
structure ProfileSystem where
  screen : AccountScreen
  document : Dictionary
  writes : List (Nat × Account) := []
  snapshots : List Dictionary

/-- What can reach the screen: updates, the acknowledgement of the first write that
has none, and one of the snapshots. -/
inductive ProfileEvent
  | updateUsername (username : String)
  | updateAddress (address : String)
  | updateDateOfBirth (date : Date)
  | acknowledge
  | snapshot (now : Date) (index : Nat)

namespace ProfileEvent

/-- What the event submits. -/
def edit : ProfileEvent → Account → Account
  | updateUsername username, account => { account with username }
  | updateAddress address, account => { account with address }
  | updateDateOfBirth date, account => { account with dateOfBirth := date }
  | acknowledge, account => account
  | snapshot .., account => account

/-- The event processes a callback. -/
def IsCallback : ProfileEvent → Prop
  | acknowledge => True
  | snapshot .. => True
  | _ => False

end ProfileEvent

/-- The three fields that the screen edits are the same. -/
structure SameProfile (first second : Account) : Prop where
  username : first.username = second.username
  address : first.address = second.address
  dateOfBirth : first.dateOfBirth = second.dateOfBirth

namespace SameProfile

/-- The same edit of the same profile. -/
theorem edit {first second : Account} (same : SameProfile first second) (event : ProfileEvent) :
    SameProfile (event.edit first) (event.edit second) := by
  obtain ⟨username, address, dateOfBirth⟩ := same
  cases event with
  | updateUsername _ => exact ⟨rfl, address, dateOfBirth⟩
  | updateAddress _ => exact ⟨username, rfl, dateOfBirth⟩
  | updateDateOfBirth _ => exact ⟨username, address, rfl⟩
  | acknowledge => exact ⟨username, address, dateOfBirth⟩
  | snapshot => exact ⟨username, address, dateOfBirth⟩

theorem symm {first second : Account} (same : SameProfile first second) :
    SameProfile second first :=
  ⟨same.username.symm, same.address.symm, same.dateOfBirth.symm⟩

theorem trans {first second third : Account} (same : SameProfile first second)
    (same' : SameProfile second third) : SameProfile first third :=
  ⟨same.username.trans same'.username, same.address.trans same'.address,
    same.dateOfBirth.trans same'.dateOfBirth⟩

end SameProfile

/-- The account with the last values submitted. -/
def submitted (account : Account) (events : List ProfileEvent) : Account :=
  events.foldl (fun account event => event.edit account) account

namespace ProfileSystem

/-- The screen after its fetch, whose listener has the document to deliver. -/
def initial (account : Account) : ProfileSystem where
  screen :=
    AccountScreen.fetchCompletion account.dateOfBirth
      (some (AccountService.accountDictionary account).stored) none
      { objects := fun _ => account, created := 0, account := none }
  document := (AccountService.accountDictionary account).stored
  snapshots := [(AccountService.accountDictionary account).stored]

/-- A write is sent, and will be echoed as it was written. -/
def issue (system : ProfileSystem) (updated : AccountScreen × Option (Nat × Account)) :
    ProfileSystem :=
  match updated with
  | (screen, none) => { system with screen }
  | (screen, some (reference, account)) =>
      { system with
        screen
        writes := system.writes ++ [(reference, account)]
        snapshots := system.snapshots ++ [(AccountService.accountDictionary account).stored] }

/-- The system after an edit, an acknowledgement or a snapshot that can happen. -/
def step (system : ProfileSystem) : ProfileEvent → Option ProfileSystem
  | .updateUsername username => some (system.issue (system.screen.updateUsername username))
  | .updateAddress address => some (system.issue (system.screen.updateAddress address))
  | .updateDateOfBirth date => some (system.issue (system.screen.updateDateOfBirth date))
  | .acknowledge =>
      match system.writes with
      | [] => none
      | (reference, account) :: writes =>
          some { system with
            screen := system.screen.updateCompletion reference none
            document := (AccountService.accountDictionary account).stored
            writes }
  | .snapshot now index =>
      match system.snapshots[index]? with
      | none => none
      | some document =>
          some { system with
            screen := system.screen.listenerCompletion now (some document) none
            snapshots := system.snapshots.eraseIdx index }

/-- The document as the writes so far leave it. -/
def written (system : ProfileSystem) : Dictionary :=
  match system.writes.getLast? with
  | none => system.document
  | some (_, account) => (AccountService.accountDictionary account).stored

/-- Every callback has been processed. -/
def Idle (system : ProfileSystem) : Prop := system.writes = [] ∧ system.snapshots = []

/-- The document has the last value submitted for each field. -/
def Holds (account : Account) (before : List ProfileEvent) (document : Dictionary) : Prop :=
  ∃ stored, (∀ now, AccountService.decodeAccount now document = some stored) ∧
    SameProfile stored (submitted account before)

/-- Whenever the callbacks that are left at a point of the run are processed, the
document has the last value submitted for each field. -/
def NothingLost (account : Account) (events : List ProfileEvent) : Prop :=
  ∀ before, before <+: events → ∀ callbacks : List ProfileEvent,
    (∀ event ∈ callbacks, event.IsCallback) → ∀ system,
      EventRun.runFrom step (initial account) (before ++ callbacks) = some system →
        system.Idle → Holds account before system.document

/-- An update is made on an object that has what was last written in the fields that
the update does not set. -/
def UpToDate (system : ProfileSystem) (event : ProfileEvent) : Prop :=
  ¬ event.IsCallback → ∀ reference ∈ system.screen.accountViewModel.account, ∀ now account,
    AccountService.decodeAccount now system.written = some account →
      SameProfile (event.edit (system.screen.objects reference)) (event.edit account)

/-- The view model refers to an account, and the document was written by the app. -/
structure Loaded (system : ProfileSystem) : Prop where
  refers : system.screen.accountViewModel.account.isSome
  wrote : ∃ account, system.written = (AccountService.accountDictionary account).stored

variable {system next : ProfileSystem} {event : ProfileEvent} {account : Account}

theorem submitted_concat (account : Account) (before : List ProfileEvent) (event : ProfileEvent) :
    submitted account (before ++ [event]) = event.edit (submitted account before) := by
  rw [submitted, List.foldl_append, submitted]
  rfl

/-- A callback edits nothing. -/
theorem edit_of_isCallback (isCallback : event.IsCallback) (account : Account) :
    event.edit account = account := by
  cases event with
  | acknowledge => rfl
  | snapshot => rfl
  | _ => exact isCallback.elim

/-- A document that the app wrote holds what was submitted when its account does. -/
theorem holds_stored_iff {before : List ProfileEvent} {stored : Account} :
    Holds account before (AccountService.accountDictionary stored).stored ↔
      SameProfile stored (submitted account before) := by
  constructor
  · rintro ⟨read, decoded, same⟩
    have isStored := decoded stored.dateOfBirth
    rw [AccountService.decodeAccount_stored, Option.some.injEq] at isStored
    exact isStored ▸ same
  · intro same
    exact ⟨stored, fun now => AccountService.decodeAccount_stored now stored, same⟩

/-- An update writes the edited object. -/
theorem step_update (isUpdate : ¬ event.IsCallback) :
    step system event = some (system.issue (system.screen.update event.edit)) := by
  cases event with
  | acknowledge => exact absurd trivial isUpdate
  | snapshot => exact absurd trivial isUpdate
  | _ => rfl

/-- What is written is the account that was submitted. -/
theorem written_issue (screen : AccountScreen) (reference : Nat) (written : Account) :
    (system.issue (screen, some (reference, written))).written =
      (AccountService.accountDictionary written).stored := by
  rw [ProfileSystem.written, issue, List.getLast?_concat]

/-- What an update leaves written. -/
theorem written_of_update {reference : Nat} (isUpdate : ¬ event.IsCallback)
    (refers : system.screen.accountViewModel.account = some reference)
    (taken : step system event = some next) :
    next.screen.accountViewModel.account = some reference ∧
      next.written =
        (AccountService.accountDictionary
          (event.edit (system.screen.objects reference))).stored := by
  obtain ⟨screen, updated, stillRefers⟩ := AccountScreen.update_eq refers event.edit
  rw [step_update isUpdate, updated, Option.some.injEq] at taken
  subst taken
  exact ⟨stillRefers, written_issue screen reference _⟩

/-- A callback writes nothing new. -/
theorem written_of_callback (isCallback : event.IsCallback)
    (taken : step system event = some next) : next.written = system.written := by
  cases event with
  | acknowledge =>
      simp only [step] at taken
      split at taken
      · cases taken
      · next reference account writes isWrites =>
        cases taken
        cases writes with
        | nil => simp only [written, isWrites, List.getLast?_nil, List.getLast?_singleton]
        | cons write writes =>
            simp only [written, isWrites, List.getLast?_cons_cons]
            rw [List.getLast?_eq_some_getLast (List.cons_ne_nil write writes)]
  | snapshot now index =>
      simp only [step] at taken
      split at taken
      · cases taken
      · cases taken
        rfl
  | _ => exact isCallback.elim

/-- A callback leaves an account in the view model. -/
theorem refers_of_callback (isCallback : event.IsCallback)
    (refers : system.screen.accountViewModel.account.isSome)
    (taken : step system event = some next) :
    next.screen.accountViewModel.account.isSome := by
  cases event with
  | acknowledge =>
      simp only [step] at taken
      split at taken
      · cases taken
      · cases taken
        rfl
  | snapshot now index =>
      simp only [step] at taken
      split at taken
      · cases taken
      · cases taken
        exact AccountScreen.isSome_listenerCompletion refers now _ none
  | _ => exact isCallback.elim

/-- A loaded account stays loaded. -/
theorem loaded_of_step (loaded : Loaded system) (taken : step system event = some next) :
    Loaded next := by
  obtain ⟨refers, account, wrote⟩ := loaded
  by_cases isCallback : event.IsCallback
  · refine ⟨refers_of_callback isCallback refers taken, account, ?_⟩
    rw [written_of_callback isCallback taken, wrote]
  · obtain ⟨reference, isReference⟩ := Option.isSome_iff_exists.mp refers
    obtain ⟨stillRefers, nowWritten⟩ := written_of_update isCallback isReference taken
    exact ⟨Option.isSome_of_mem stillRefers, _, nowWritten⟩

/-- One step from a document that has the values submitted. -/
theorem holds_step_iff {before : List ProfileEvent} (loaded : Loaded system)
    (holds : Holds account before system.written) (taken : step system event = some next) :
    Holds account (before ++ [event]) next.written ↔ UpToDate system event := by
  obtain ⟨refers, stored, wrote⟩ := loaded
  by_cases isCallback : event.IsCallback
  · refine iff_of_true ?_ fun isUpdate => absurd isCallback isUpdate
    rw [written_of_callback isCallback taken]
    obtain ⟨read, decoded, same⟩ := holds
    refine ⟨read, decoded, ?_⟩
    rwa [submitted_concat, edit_of_isCallback isCallback]
  · obtain ⟨reference, isReference⟩ := Option.isSome_iff_exists.mp refers
    obtain ⟨-, nowWritten⟩ := written_of_update isCallback isReference taken
    rw [wrote, holds_stored_iff] at holds
    rw [nowWritten, holds_stored_iff, submitted_concat]
    constructor
    · intro same _ reference' isIt now account' decoded
      rw [isReference] at isIt
      rw [wrote, AccountService.decodeAccount_stored] at decoded
      cases isIt
      cases decoded
      exact same.trans (holds.edit event).symm
    · intro upToDate
      have same := upToDate isCallback reference isReference stored.dateOfBirth stored
        (by rw [wrote, AccountService.decodeAccount_stored])
      exact same.trans (holds.edit event)

/-- How many callbacks are left. -/
def left (system : ProfileSystem) : Nat := system.writes.length + system.snapshots.length

/-- A callback that is left can be processed. -/
theorem exists_callback {count : Nat} (some' : system.left = count + 1) :
    ∃ event : ProfileEvent, event.IsCallback ∧ ∃ next,
      step system event = some next ∧ next.left = count := by
  cases isWrites : system.writes with
  | cons write writes =>
      rw [left, isWrites, List.length_cons] at some'
      refine ⟨.acknowledge, trivial, _, by rw [step, isWrites], ?_⟩
      change writes.length + system.snapshots.length = count
      omega
  | nil =>
      rw [left, isWrites, List.length_nil, Nat.zero_add] at some'
      have inside : 0 < system.snapshots.length := by omega
      refine ⟨.snapshot ⟨0⟩ 0, trivial, _, by rw [step, List.getElem?_eq_getElem inside], ?_⟩
      change system.writes.length + (system.snapshots.eraseIdx 0).length = count
      rw [isWrites, List.length_nil, List.length_eraseIdx_of_lt inside]
      omega

/-- The callbacks that are left can be processed. -/
theorem exists_callbacks (system : ProfileSystem) :
    ∃ callbacks : List ProfileEvent, (∀ event ∈ callbacks, event.IsCallback) ∧
      ∃ last, EventRun.runFrom step system callbacks = some last ∧ last.Idle := by
  generalize isLeft : system.left = count
  induction count generalizing system with
  | zero =>
      obtain ⟨noWrites, noSnapshots⟩ := Nat.eq_zero_of_add_eq_zero isLeft
      exact ⟨[], fun _ member => absurd member List.not_mem_nil, system, rfl,
        List.eq_nil_of_length_eq_zero noWrites, List.eq_nil_of_length_eq_zero noSnapshots⟩
  | succ count ih =>
      obtain ⟨event, isCallback, next, taken, fewer⟩ := exists_callback isLeft
      obtain ⟨callbacks, areCallbacks, last, reached, idle⟩ := ih next fewer
      refine ⟨event :: callbacks, List.forall_mem_cons.mpr ⟨isCallback, areCallbacks⟩, last, ?_,
        idle⟩
      rw [EventRun.runFrom, taken]
      exact reached

/-- Processing callbacks writes nothing new, and in the end the document is what was
last written. -/
theorem document_of_callbacks {callbacks : List ProfileEvent}
    (areCallbacks : ∀ event ∈ callbacks, event.IsCallback) {last : ProfileSystem}
    (reached : EventRun.runFrom step system callbacks = some last) (idle : last.Idle) :
    last.document = system.written := by
  induction callbacks generalizing system with
  | nil =>
      cases reached
      rw [written, idle.1]
      rfl
  | cons event callbacks ih =>
      obtain ⟨isCallback, areLater⟩ := List.forall_mem_cons.mp areCallbacks
      obtain ⟨middle, taken, rest⟩ := EventRun.runFrom_cons_eq_some _ reached
      rw [ih areLater rest, written_of_callback isCallback taken]

theorem loaded_initial (account : Account) : Loaded (initial account) := ⟨rfl, account, rfl⟩

/-- Nothing is lost exactly when at every point what was last written has the values
submitted. -/
theorem nothingLost_iff_eachPoint (account : Account) (events : List ProfileEvent) :
    NothingLost account events ↔
      EventRun.EachPoint step (fun before system => Holds account before system.written)
        (initial account) events := by
  constructor
  · intro nothingLost before inside system reached
    obtain ⟨callbacks, areCallbacks, last, rest, idle⟩ := exists_callbacks system
    have whole : EventRun.runFrom step (initial account) (before ++ callbacks) = some last := by
      rw [EventRun.runFrom_append, reached]
      exact rest
    rw [← document_of_callbacks areCallbacks rest idle]
    exact nothingLost before inside callbacks areCallbacks last whole idle
  · intro always before inside callbacks areCallbacks last whole idle
    obtain ⟨system, reached, rest⟩ := EventRun.runFrom_append_eq_some _ whole
    rw [document_of_callbacks areCallbacks rest idle]
    exact always before inside system reached

/-- **When profile edits are not lost.** In every interleaving of updates,
acknowledgements and snapshots the document ends with the last value submitted for
each field exactly when every update is made on an up-to-date object. -/
theorem nothingLost_iff_upToDate (account : Account) (events : List ProfileEvent) :
    NothingLost account events ↔ EventRun.EachStep step UpToDate (initial account) events := by
  rw [nothingLost_iff_eachPoint]
  have points : EventRun.EachPoint step
      (fun before system => Holds account before system.written) (initial account) events ↔
        EventRun.EachTransition step (fun _ => UpToDate) (initial account) events := by
    refine EventRun.eachPoint_iff_eachTransition (fun _ => Loaded) ?_ (loaded_initial account)
      ?_ ?_
    · exact holds_stored_iff.mpr ⟨rfl, rfl, rfl⟩
    · exact fun before event state next _ loaded taken => loaded_of_step loaded taken
    · exact fun before event state next _ loaded holds taken => holds_step_iff loaded holds taken
  exact points

/-- The acknowledgement of the new name comes after the new address was written, and
before the new date. -/
def staleObject : List ProfileEvent :=
  [.snapshot ⟨0⟩ 0,
    .updateUsername "Binh",
    .snapshot ⟨0⟩ 0,
    .updateAddress "Hue",
    .acknowledge,
    .updateDateOfBirth ⟨1⟩]

/-- It brings back the object without the new address, and the last update writes
that. -/
theorem lost_staleObject : ¬ NothingLost ⟨"an", "An", "an@mail", "", ⟨0⟩⟩ staleObject := by
  intro nothingLost
  have ends : (EventRun.runFrom step (initial ⟨"an", "An", "an@mail", "", ⟨0⟩⟩)
      (staleObject ++ [.snapshot ⟨0⟩ 0, .snapshot ⟨0⟩ 0, .acknowledge, .acknowledge])).map
        (fun system => (decide (system.writes.length + system.snapshots.length = 0),
          (AccountService.decodeAccount ⟨0⟩ system.document).map Account.address)) =
          some (true, some "") := by decide +kernel
  obtain ⟨system, reached, same⟩ := Option.map_eq_some_iff.mp ends
  obtain ⟨isIdle, isAddress⟩ := Prod.mk.inj same
  obtain ⟨noWrites, noSnapshots⟩ := Nat.eq_zero_of_add_eq_zero (of_decide_eq_true isIdle)
  obtain ⟨stored, decoded, holds⟩ := nothingLost staleObject List.prefix_rfl _
    (by simp [ProfileEvent.IsCallback]) system reached
    ⟨List.eq_nil_of_length_eq_zero noWrites, List.eq_nil_of_length_eq_zero noSnapshots⟩
  rw [decoded ⟨0⟩, Option.map_some, Option.some.injEq, holds.address] at isAddress
  exact absurd isAddress (by decide)

end ProfileSystem

end MovieFun
