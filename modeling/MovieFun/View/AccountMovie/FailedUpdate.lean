import MovieFun.View.AccountMovie.ProfileEdits

/-!
# A failed update

An update changes the object of the view model, and the one of the service, before it is
written, and the completion of a write that failed does not change them back. So a failed
update leaves the account as it was exactly when it changed nothing
(`unharmed_iff_changesNothing`).
-/

namespace MovieFun

/-- The updates of the account screen, with their new values. -/
inductive AccountUpdate
  | updateUsername (username : String)
  | updateAddress (address : String)
  | updateDateOfBirth (date : Date)

namespace AccountUpdate

/-- What the update does to an account. -/
def change : AccountUpdate → Account → Account
  | .updateUsername username, account => { account with username }
  | .updateAddress address, account => { account with address }
  | .updateDateOfBirth date, account => { account with dateOfBirth := date }

/-- What the update does to the screen, and what it writes. -/
def apply : AccountUpdate → AccountScreen → AccountScreen × Option (Nat × Account)
  | .updateUsername username => AccountScreen.updateUsername username
  | .updateAddress address => AccountScreen.updateAddress address
  | .updateDateOfBirth date => AccountScreen.updateDateOfBirth date

/-- The account that an update writes. -/
def written (update : AccountUpdate) (screen : AccountScreen) : Option Account :=
  (update.apply screen).2.map Prod.snd

/-- An update whose write completes with an error. -/
def failed (update : AccountUpdate) (error : NSError) (screen : AccountScreen) : AccountScreen :=
  match update.apply screen with
  | (next, none) => next
  | (next, some (reference, _)) => next.updateCompletion reference (some error)

end AccountUpdate

/-- The accounts of the view model and of the service, and the rows, are the same. -/
structure SameAccounts (first second : AccountScreen) : Prop where
  viewModel : first.accountViewModel.account.map first.objects =
    second.accountViewModel.account.map second.objects
  service : first.account.map first.objects = second.account.map second.objects
  username : first.accountViewModel.username = second.accountViewModel.username
  email : first.accountViewModel.email = second.accountViewModel.email
  rows : first.accountViewModel.accountSectionViewModels =
    second.accountViewModel.accountSectionViewModels

/-- The failed update leaves the account as it was, and every later one writes what it
would have written without it. -/
def Unharmed (update : AccountUpdate) (error : NSError) (screen : AccountScreen) : Prop :=
  SameAccounts (update.failed error screen) screen ∧
    ∀ later : AccountUpdate, later.written (update.failed error screen) = later.written screen

/-- The account of the view model has the new value already, and the account of the service
has the fields of it. -/
def ChangesNothing (update : AccountUpdate) (screen : AccountScreen) : Prop :=
  ∀ reference ∈ screen.accountViewModel.account,
    update.change (screen.objects reference) = screen.objects reference ∧
      ∀ own ∈ screen.account, SameProfile (screen.objects own) (screen.objects reference)

variable {update : AccountUpdate} {error : NSError} {screen : AccountScreen} {reference : Nat}

/-- The three updates change the account and do the same otherwise. -/
theorem apply_eq (update : AccountUpdate) (screen : AccountScreen) :
    update.apply screen = screen.update update.change := by
  cases update <;> rfl

/-- Without an account an update does nothing. -/
theorem failed_of_none (none : screen.accountViewModel.account = none) :
    update.failed error screen = screen := by
  rw [AccountUpdate.failed, apply_eq, AccountScreen.update, none]

/-- An update writes the changed object of the view model. -/
theorem written_eq (update : AccountUpdate) (screen : AccountScreen) :
    update.written screen =
      (screen.accountViewModel.account.map screen.objects).map update.change := by
  rw [AccountUpdate.written, apply_eq]
  cases refers : screen.accountViewModel.account with
  | none =>
      rw [AccountScreen.update, refers]
      rfl
  | some reference =>
      obtain ⟨next, updated, -⟩ := AccountScreen.update_eq refers update.change
      rw [updated]
      rfl

/-- The screen once an update was called. -/
def updatedScreen (update : AccountUpdate) (reference : Nat) (screen : AccountScreen) :
    AccountScreen :=
  AccountScreen.copyToService reference
    { screen with
      accountViewModel := { screen.accountViewModel with isFetching := true }
      objects := Function.update screen.objects reference
        (update.change (screen.objects reference)) }

/-- The completion of a failed update lowers the flags only. -/
theorem failed_of_some (refers : screen.accountViewModel.account = some reference) :
    update.failed error screen =
      { updatedScreen update reference screen with
        accountViewModel :=
          { screen.accountViewModel with isUpdate := false, isFetching := false } } := by
  rw [AccountUpdate.failed, apply_eq, AccountScreen.update, refers]
  change { updatedScreen update reference screen with
    accountViewModel :=
      { (updatedScreen update reference screen).accountViewModel with
        isUpdate := false
        isFetching := false } } = _
  rw [updatedScreen, AccountScreen.accountViewModel_copyToService]

/-- The object of the view model keeps the change. -/
theorem objects_failed (refers : screen.accountViewModel.account = some reference) :
    (update.failed error screen).objects reference = update.change (screen.objects reference) := by
  rw [failed_of_some refers]
  exact (AccountScreen.objects_copyToService reference _).trans (Function.update_self _ _ _)

/-- The object of the service has the fields of it. -/
theorem objects_failed_own (refers : screen.accountViewModel.account = some reference) {own : Nat}
    (isOwn : screen.account = some own) :
    (update.failed error screen).objects own =
      { Function.update screen.objects reference
          (update.change (screen.objects reference)) own with
        username := (update.change (screen.objects reference)).username
        address := (update.change (screen.objects reference)).address
        dateOfBirth := (update.change (screen.objects reference)).dateOfBirth } := by
  rw [failed_of_some refers]
  change (updatedScreen update reference screen).objects own = _
  rw [updatedScreen, AccountScreen.objects_copyToService_own (by exact isOwn)]
  simp only [Function.update_self]

/-- A failed update is harmless exactly if it changes neither account. -/
theorem sameAccounts_failed_iff (refers : screen.accountViewModel.account = some reference) :
    SameAccounts (update.failed error screen) screen ↔
      update.change (screen.objects reference) = screen.objects reference ∧
        ∀ own ∈ screen.account, SameProfile (screen.objects own) (screen.objects reference) := by
  have viewModel : (update.failed error screen).accountViewModel.account.map
      (update.failed error screen).objects =
        some (update.change (screen.objects reference)) := by
    rw [← objects_failed refers, failed_of_some refers, refers]
    rfl
  have service : (update.failed error screen).account = screen.account := by
    rw [failed_of_some refers]
    exact AccountScreen.account_copyToService reference _
  constructor
  · rintro ⟨same, sameService, -⟩
    rw [viewModel, refers, Option.map_some, Option.some.injEq] at same
    refine ⟨same, fun own isOwn => ?_⟩
    rw [service, isOwn, Option.map_some, Option.map_some, Option.some.injEq,
      objects_failed_own refers isOwn, same] at sameService
    rw [← sameService]
    exact ⟨rfl, rfl, rfl⟩
  · rintro ⟨same, sameProfile⟩
    refine ⟨by rw [viewModel, refers, same]; rfl, ?_, ?_, ?_, ?_⟩
    · rw [service]
      apply Option.map_congr
      intro own isOwn
      obtain ⟨username, address, dateOfBirth⟩ := sameProfile own isOwn
      rw [objects_failed_own refers isOwn, same, Function.update_eq_self, ← username, ← address,
        ← dateOfBirth]
    · rw [failed_of_some refers]
    · rw [failed_of_some refers]
    · rw [failed_of_some refers]

/-- **A failed update leaves the account as it was exactly if it changes nothing.** For
every screen, whether or not the view model and the service refer to one object, and
every new value. -/
theorem unharmed_iff_changesNothing (update : AccountUpdate) (error : NSError)
    (screen : AccountScreen) :
    Unharmed update error screen ↔ ChangesNothing update screen := by
  cases refers : screen.accountViewModel.account with
  | none =>
      refine iff_of_true ⟨?_, fun later => ?_⟩ fun reference isReference => ?_
      · rw [failed_of_none refers]
        exact ⟨rfl, rfl, rfl, rfl, rfl⟩
      · rw [failed_of_none refers]
      · rw [refers] at isReference
        cases isReference
  | some reference =>
      have only : ChangesNothing update screen ↔
          update.change (screen.objects reference) = screen.objects reference ∧
            ∀ own ∈ screen.account,
              SameProfile (screen.objects own) (screen.objects reference) := by
        rw [ChangesNothing, refers]
        exact ⟨fun each => each reference rfl, fun one _ isReference => by
          cases isReference
          exact one⟩
      rw [only, ← sameAccounts_failed_iff refers]
      refine ⟨And.left, fun same => ⟨same, fun later => ?_⟩⟩
      rw [written_eq, written_eq, same.viewModel]

/-- The name is rejected, and the next update writes it. -/
theorem not_unharmed_rejectedName :
    ¬ Unharmed (.updateUsername "Binh") ⟨"offline"⟩
      { objects := fun _ => ⟨"an", "An", "an@mail", "", ⟨0⟩⟩
        created := 1
        account := some 0
        accountViewModel := { account := some 0 } } := by
  rintro ⟨-, later⟩
  exact absurd (later (.updateAddress "Hue")) (by decide)

end MovieFun
