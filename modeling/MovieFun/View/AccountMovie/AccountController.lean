import Mathlib.Logic.Function.Basic
import MovieFun.Network.AccountService

/-!
# AccountController

The account screen. An `Account` is an object that the service, the view model and
the completions of writes refer to, so the screen has a heap of them: a reference is
the number of an object in the order of creation.
-/

namespace MovieFun

/-- The rows of the screen, each with what it shows. -/
inductive AccountRowViewModel
  | username (username : String)
  | email (email : String)
  | address (address : String)
  | dateOfBirth (dateOfBirth : Date)
deriving DecidableEq, Repr

/-- What the account page shows, with its flags. -/
structure AccountViewModel where
  haveChangeAccountInfo : Bool := false
  isUpdate : Bool := false
  isFetching : Bool := false
  username : String := ""
  email : String := ""
  accountSectionViewModels : List (List AccountRowViewModel) := []
  account : Option Nat := none
deriving DecidableEq, Repr

/-- The controller of the screen, the account of the shared service, and the objects
that both refer to. -/
structure AccountScreen where
  objects : Nat → Account
  created : Nat
  account : Option Nat
  accountViewModel : AccountViewModel := {}
  didStart : Bool := false

namespace AccountScreen

/-- The view model refers to the object and shows its fields. -/
def buildViewModel (reference : Nat) (screen : AccountScreen) : AccountScreen :=
  let account := screen.objects reference
  { screen with
    accountViewModel :=
      { screen.accountViewModel with
        account := some reference
        username := account.username
        email := account.email
        accountSectionViewModels :=
          [[.username account.username, .email account.email, .address account.address,
            .dateOfBirth account.dateOfBirth]] } }

/-- The account service copies three fields of the object to its own account, which
may be another object. -/
def copyToService (reference : Nat) (screen : AccountScreen) : AccountScreen :=
  match screen.account with
  | none => screen
  | some own =>
      let account := screen.objects reference
      { screen with
        objects := Function.update screen.objects own
          { screen.objects own with
            username := account.username
            address := account.address
            dateOfBirth := account.dateOfBirth } }

/-- The body that the three updates share: change the object of the view model, and
write it. The result has the object that the completion captures, with the fields
written. -/
def update (change : Account → Account) (screen : AccountScreen) :
    AccountScreen × Option (Nat × Account) :=
  match screen.accountViewModel.account with
  | none => (screen, none)
  | some reference =>
      let changed : AccountScreen :=
        { screen with
          accountViewModel := { screen.accountViewModel with isFetching := true }
          objects :=
            Function.update screen.objects reference (change (screen.objects reference)) }
      let copied := changed.copyToService reference
      (copied, some (reference, copied.objects reference))

/-- The user has edited the name. -/
def updateUsername (username : String) (screen : AccountScreen) :
    AccountScreen × Option (Nat × Account) :=
  screen.update fun account => { account with username }

/-- The user has edited the address. -/
def updateAddress (address : String) (screen : AccountScreen) :
    AccountScreen × Option (Nat × Account) :=
  screen.update fun account => { account with address }

/-- The user has picked a date of birth. -/
def updateDateOfBirth (date : Date) (screen : AccountScreen) :
    AccountScreen × Option (Nat × Account) :=
  screen.update fun account => { account with dateOfBirth := date }

/-- The completion of a write shows the object that was written. -/
def updateCompletion (reference : Nat) (error : Option NSError) (screen : AccountScreen) :
    AccountScreen :=
  let shown : AccountScreen :=
    match error with
    | none => screen.buildViewModel reference
    | some _ => screen
  { shown with
    accountViewModel :=
      { shown.accountViewModel with isUpdate := error.isNone, isFetching := false } }

/-- The account of a document as a new object, which becomes the one of the
service. -/
def receive (account : Account) (screen : AccountScreen) : AccountScreen :=
  { screen with
    objects := Function.update screen.objects screen.created account
    created := screen.created + 1
    account := some screen.created }

/-- The completion of the fetch that starts the screen, up to `addListener`. -/
def fetchCompletion (now : Date) (data : Option Dictionary) (error : Option NSError)
    (screen : AccountScreen) : AccountScreen :=
  match (AccountService.receivedAccount now data error).1 with
  | none => screen
  | some account => (screen.receive account).buildViewModel screen.created

/-- A snapshot of the account's document. Of the first one the controller only sets
the flag, but the service takes its account. -/
def listenerCompletion (now : Date) (data : Option Dictionary) (error : Option NSError)
    (screen : AccountScreen) : AccountScreen :=
  match (AccountService.receivedAccount now data error).1 with
  | none => { screen with didStart := true }
  | some account =>
      let received := screen.receive account
      if screen.didStart then
        let built := received.buildViewModel screen.created
        { built with
          accountViewModel := { built.accountViewModel with haveChangeAccountInfo := true } }
      else { received with didStart := true }

/-- An object that was just changed has the change, whatever the service refers
to. -/
theorem objects_copyToService (reference : Nat) (screen : AccountScreen) :
    (screen.copyToService reference).objects reference = screen.objects reference := by
  unfold copyToService
  split
  · rfl
  · next own _ =>
    by_cases same : reference = own
    · subst same
      exact Function.update_self _ _ _
    · exact Function.update_of_ne same _ _

@[simp] theorem accountViewModel_copyToService (reference : Nat) (screen : AccountScreen) :
    (screen.copyToService reference).accountViewModel = screen.accountViewModel := by
  unfold copyToService
  split <;> rfl

@[simp] theorem account_copyToService (reference : Nat) (screen : AccountScreen) :
    (screen.copyToService reference).account = screen.account := by
  unfold copyToService
  split <;> rfl

/-- The account of the service has the three fields after the copy. -/
theorem objects_copyToService_own {screen : AccountScreen} {own : Nat}
    (isOwn : screen.account = some own) (reference : Nat) :
    (screen.copyToService reference).objects own =
      { screen.objects own with
        username := (screen.objects reference).username
        address := (screen.objects reference).address
        dateOfBirth := (screen.objects reference).dateOfBirth } := by
  rw [copyToService, isOwn]
  exact Function.update_self _ _ _

/-- An update writes the changed fields of the object that the view model refers
to. -/
theorem update_eq {screen : AccountScreen} {reference : Nat}
    (refers : screen.accountViewModel.account = some reference) (change : Account → Account) :
    ∃ next, screen.update change = (next, some (reference, change (screen.objects reference))) ∧
      next.accountViewModel.account = some reference := by
  rw [update, refers]
  refine ⟨_, Prod.ext rfl ?_, ?_⟩
  · exact congrArg (fun account => some (reference, account))
      ((objects_copyToService reference _).trans (Function.update_self _ _ _))
  · rw [accountViewModel_copyToService]
    exact refers

/-- The view model goes on referring to an account. -/
theorem isSome_listenerCompletion {screen : AccountScreen}
    (refers : screen.accountViewModel.account.isSome) (now : Date) (data : Option Dictionary)
    (error : Option NSError) :
    (screen.listenerCompletion now data error).accountViewModel.account.isSome := by
  unfold listenerCompletion
  split
  · exact refers
  · simp only
    split
    · rfl
    · exact refers

end AccountScreen

end MovieFun
