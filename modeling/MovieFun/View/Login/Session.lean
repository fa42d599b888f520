import MovieFun.Foundation.Run
import MovieFun.View.Login.LoginController

/-!
# One user, and a logout that is final

The session as an event system: logins, registrations and logouts, and the replies
that write the account or the saved id, whenever they arrive. None of the replies
looks at what happened since its request, so the session stays that of one user, and
stays closed after a logout, exactly when the replies arrive in the session that
they are for (`oneUser_iff_inSession`).
-/

namespace MovieFun

/-- A live listener to a document of the collection `account`. -/
structure AccountRegistration where
  number : Nat
  documentID : String
deriving DecidableEq, Repr

/-- The account service with its listener slot, the login screen, and the calls
without a reply. -/
structure SessionSystem where
  share : AccountService
  listener : Option AccountRegistration := none
  loginViewModel : LoginViewModel := {}
  logins : Nat := 0
  registers : Nat := 0
  adds : List Account := []
  fetches : List String := []
  live : List AccountRegistration := []
  registered : Nat := 0

/-- What can reach the session. -/
inductive SessionEvent
  | login
  | loginReply (user : Option User) (error : Option NSError)
  | register
  | registerReply (now : Date) (user : Option User) (error : Option NSError)
  | addAccountReply (account : Account) (error : Option NSError)
  | fetchAccount
  | fetchAccountReply (userId : String) (now : Date) (data : Option Dictionary)
      (error : Option NSError)
  | addListener
  | removeListener
  | snapshot (registration : AccountRegistration) (now : Date) (data : Option Dictionary)
      (error : Option NSError)
  | logout

/-- Whether the event opens the session or closes it. -/
def SessionEvent.opens : SessionEvent → Option Bool
  | login => some true
  | register => some true
  | logout => some false
  | _ => none

namespace SessionSystem

/-- The app after a launch, with the id that was saved. -/
def initial (userLogin : Option String) : SessionSystem where
  share := { account := none, userLogin }

/-- A reply answers a call without a reply, and a snapshot comes to a live
listener. -/
def enabled (system : SessionSystem) : SessionEvent → Bool
  | .loginReply .. => 0 < system.logins
  | .registerReply .. => 0 < system.registers
  | .addAccountReply account _ => account ∈ system.adds
  | .fetchAccountReply userId .. => userId ∈ system.fetches
  | .snapshot registration .. => registration ∈ system.live
  | _ => true

/-- What an event does to the login view and the session. -/
def handle (system : SessionSystem) : SessionEvent → Option SessionSystem
  | .login =>
      some { system with
        loginViewModel := LoginController.load system.loginViewModel
        logins := system.logins + 1 }
  | .loginReply user error =>
      let (loginViewModel, share) :=
        LoginController.loginCompletion user error system.loginViewModel system.share
      some { system with share, loginViewModel, logins := system.logins - 1 }
  | .register =>
      some { system with
        loginViewModel := LoginController.load system.loginViewModel
        registers := system.registers + 1 }
  | .registerReply now user error => do
      let (loginViewModel, added) ←
        LoginController.registerCompletion now user error system.loginViewModel
      return { system with
        loginViewModel
        registers := system.registers - 1
        adds := system.adds ++ added.toList }
  | .addAccountReply account error =>
      some { system with
        share := system.share.addAccountCompletion account error
        loginViewModel := LoginController.addAccountCompletion error system.loginViewModel
        adds := system.adds.erase account }
  | .fetchAccount =>
      some { system with fetches := system.fetches ++ system.share.getAccountId.toList }
  | .fetchAccountReply userId now data error =>
      some { system with
        share := system.share.fetchAccountCompletion now data error
        fetches := system.fetches.erase userId }
  | .addListener =>
      match system.share.account with
      | none => some system
      | some account =>
          let registration := { number := system.registered, documentID := account.accountId }
          some { system with
            listener := some registration
            live := system.live ++ [registration]
            registered := system.registered + 1 }
  | .removeListener =>
      match system.listener with
      | none => some system
      | some registration => some { system with live := system.live.erase registration }
  | .snapshot _ now data error =>
      some { system with share := system.share.listenerCompletion now data error }
  | .logout => some { system with share := system.share.logout }

/-- The login view and the session after an event that can happen. -/
def step (system : SessionSystem) (event : SessionEvent) : Option SessionSystem :=
  if system.enabled event then handle system event else none

/-- A logout came after every login and registration. -/
def LoggedOut (before : List SessionEvent) : Prop :=
  EventRun.last SessionEvent.opens before = some false

/-- A loaded account is the one whose id is saved, and after a logout nobody is
known until the next login or registration. -/
structure OneUser (before : List SessionEvent) (system : SessionSystem) : Prop where
  belongs : ∀ account ∈ system.share.account, system.share.userLogin = some account.accountId
  final : LoggedOut before → system.share.isLogin = false ∧ system.share.getAccountId = none

/-- The account that the reply brings is the one whose id is saved. -/
def IsOfSession (system : SessionSystem) (now : Date) (data : Option Dictionary) : Prop :=
  ∀ account, data.bind (AccountService.decodeAccount now) = some account →
    system.share.userLogin = some account.accountId

/-- What the event brings is of the session it arrives in: a user while nobody is
logged out, and nobody else is loaded; an account of the saved id. -/
def InSession (before : List SessionEvent) (system : SessionSystem) : SessionEvent → Prop
  | .loginReply (some user) none =>
      ¬ LoggedOut before ∧ ∀ account ∈ system.share.account, account.accountId = user.uid
  | .addAccountReply _ none => ¬ LoggedOut before
  | .fetchAccountReply _ now data none => IsOfSession system now data
  | .snapshot _ now data none => IsOfSession system now data
  | _ => True

variable {system next : SessionSystem} {event : SessionEvent} {before : List SessionEvent}

theorem step_eq_some (taken : step system event = some next) :
    handle system event = some next := by
  unfold step at taken
  split at taken
  · exact taken
  · cases taken

/-- An event that neither opens nor closes the session and leaves the service keeps it
that of one user. -/
theorem OneUser.of_same (oneUser : OneUser before system) (open' : event.opens.getD true = true)
    (same : next.share = system.share) : OneUser (before ++ [event]) next where
  belongs := by
    rw [same]
    exact oneUser.belongs
  final loggedOut := by
    rw [LoggedOut, EventRun.last_concat] at loggedOut
    rw [same]
    cases opens : event.opens with
    | none =>
        rw [opens] at loggedOut
        exact oneUser.final loggedOut
    | some opened =>
        rw [opens] at loggedOut open'
        cases loggedOut
        cases open'

/-- A reply that brings an account keeps the session that of one user exactly when
the account is the one whose id is saved. -/
theorem oneUser_receive_iff (oneUser : OneUser before system) {now : Date}
    {data : Option Dictionary} (silent : event.opens = none)
    (received : next.share = system.share.receive now data none) :
    OneUser (before ++ [event]) next ↔ IsOfSession system now data := by
  cases brought : data.bind (AccountService.decodeAccount now) with
  | none =>
      rw [AccountService.receive, AccountService.receivedAccount, brought] at received
      apply iff_of_true (oneUser.of_same (by rw [silent]; rfl) received)
      intro account isIt
      rw [brought] at isIt
      cases isIt
  | some account =>
      rw [AccountService.receive, AccountService.receivedAccount, brought] at received
      constructor
      · intro after account' isIt
        rw [brought] at isIt
        cases isIt
        have belongs := after.belongs account (by rw [received]; rfl)
        rwa [received] at belongs
      · intro isOfSession
        have saved := isOfSession account brought
        constructor
        · intro loaded isLoaded
          rw [received] at isLoaded ⊢
          cases isLoaded
          exact saved
        · intro loggedOut
          rw [LoggedOut, EventRun.last_concat, silent, Option.none_or] at loggedOut
          have nobody := (AccountService.signedOut_iff.mp (oneUser.final loggedOut)).2
          rw [nobody] at saved
          cases saved

/-- A login that is answered keeps the session that of one user exactly when nobody
logged out meanwhile and nobody else is loaded. -/
theorem oneUser_saved_iff {accountId : String} (silent : event.opens = none)
    (saved : next.share = system.share.saveAccountId accountId) :
    OneUser (before ++ [event]) next ↔
      ¬ LoggedOut before ∧ ∀ account ∈ system.share.account, account.accountId = accountId := by
  have logged : LoggedOut (before ++ [event]) ↔ LoggedOut before := by
    rw [LoggedOut, EventRun.last_concat, silent, Option.none_or, LoggedOut]
  constructor
  · intro after
    constructor
    · intro loggedOut
      have nobody := (AccountService.signedOut_iff.mp (after.final (logged.mpr loggedOut))).2
      rw [saved] at nobody
      cases nobody
    · intro account loaded
      have belongs := after.belongs account (by rw [saved]; exact loaded)
      rw [saved] at belongs
      exact (Option.some.inj belongs).symm
  · rintro ⟨loggedIn, same⟩
    constructor
    · intro account loaded
      rw [saved] at loaded ⊢
      exact congrArg some (same account loaded).symm
    · intro loggedOut
      exact absurd (logged.mp loggedOut) loggedIn

/-- An account that was added keeps the session that of one user exactly when nobody
logged out meanwhile. -/
theorem oneUser_added_iff {account : Account} (silent : event.opens = none)
    (added : next.share = system.share.addAccountCompletion account none) :
    OneUser (before ++ [event]) next ↔ ¬ LoggedOut before := by
  have logged : LoggedOut (before ++ [event]) ↔ LoggedOut before := by
    rw [LoggedOut, EventRun.last_concat, silent, Option.none_or, LoggedOut]
  constructor
  · intro after loggedOut
    have nobody := (after.final (logged.mpr loggedOut)).1
    rw [added] at nobody
    cases nobody
  · intro loggedIn
    constructor
    · intro loaded isLoaded
      rw [added] at isLoaded ⊢
      cases isLoaded
      rfl
    · intro loggedOut
      exact absurd (logged.mp loggedOut) loggedIn

/-- One step from a session of one user. -/
theorem oneUser_step_iff (oneUser : OneUser before system)
    (taken : step system event = some next) :
    OneUser (before ++ [event]) next ↔ InSession before system event := by
  have handled := step_eq_some taken
  cases event with
  | login =>
      cases handled
      exact iff_of_true (oneUser.of_same rfl rfl) trivial
  | loginReply user error =>
      cases user with
      | none =>
          cases error <;> cases handled <;> exact iff_of_true (oneUser.of_same rfl rfl) trivial
      | some user =>
          cases error with
          | none =>
              cases handled
              exact oneUser_saved_iff rfl rfl
          | some error =>
              cases handled
              exact iff_of_true (oneUser.of_same rfl rfl) trivial
  | register =>
      cases handled
      exact iff_of_true (oneUser.of_same rfl rfl) trivial
  | registerReply now user error =>
      obtain ⟨⟨loginViewModel, added⟩, -, made⟩ := Option.bind_eq_some_iff.mp handled
      cases made
      exact iff_of_true (oneUser.of_same rfl rfl) trivial
  | addAccountReply account error =>
      cases handled
      cases error with
      | some error => exact iff_of_true (oneUser.of_same rfl rfl) trivial
      | none => exact oneUser_added_iff rfl rfl
  | fetchAccount =>
      cases handled
      exact iff_of_true (oneUser.of_same rfl rfl) trivial
  | fetchAccountReply userId now data error =>
      cases handled
      cases error with
      | none => exact oneUser_receive_iff oneUser rfl rfl
      | some error => exact iff_of_true (oneUser.of_same rfl rfl) trivial
  | addListener =>
      simp only [handle] at handled
      split at handled
      · cases handled
        exact iff_of_true (oneUser.of_same rfl rfl) trivial
      · cases handled
        exact iff_of_true (oneUser.of_same rfl rfl) trivial
  | removeListener =>
      simp only [handle] at handled
      split at handled
      · cases handled
        exact iff_of_true (oneUser.of_same rfl rfl) trivial
      · cases handled
        exact iff_of_true (oneUser.of_same rfl rfl) trivial
  | snapshot registration now data error =>
      cases handled
      cases error with
      | none => exact oneUser_receive_iff oneUser rfl rfl
      | some error => exact iff_of_true (oneUser.of_same rfl rfl) trivial
  | logout =>
      cases handled
      refine iff_of_true ⟨fun account loaded => ?_, fun _ => ⟨rfl, rfl⟩⟩ trivial
      cases loaded

/-- **When a session is that of one user and a logout is final.** In every
interleaving both hold throughout exactly when every reply that writes the account or
the saved id arrives in the session that it is for. -/
theorem oneUser_iff_inSession (userLogin : Option String) (events : List SessionEvent) :
    EventRun.EachPoint step OneUser (initial userLogin) events ↔
      EventRun.EachTransition step InSession (initial userLogin) events := by
  have launched : OneUser [] (initial userLogin) := by
    constructor
    · intro account loaded
      cases loaded
    · intro loggedOut
      cases loggedOut
  refine EventRun.eachPoint_iff_eachTransition (fun _ _ => True) launched trivial ?_ ?_
  · exact fun _ _ _ _ _ _ _ => trivial
  · exact fun before event state next _ _ oneUser taken => oneUser_step_iff oneUser taken

/-- "an" logs out while the account is on its way. -/
def lateAccount : List SessionEvent :=
  [.fetchAccount,
    .logout,
    .fetchAccountReply "an" ⟨0⟩
      (some (AccountService.accountDictionary ⟨"an", "An", "an@mail", "", ⟨0⟩⟩).stored) none]

/-- The account arrives after the logout, and "an" is logged in again. -/
theorem not_oneUser_lateAccount :
    ¬ EventRun.EachPoint step OneUser (initial (some "an")) lateAccount := by
  intro always
  have back : (EventRun.runFrom step (initial (some "an")) lateAccount).map (fun system =>
      system.share.isLogin) = some true := by decide +kernel
  obtain ⟨system, reached, login⟩ := Option.map_eq_some_iff.mp back
  have nobody := ((always lateAccount List.prefix_rfl system reached).final rfl).1
  rw [login] at nobody
  cases nobody

end SessionSystem

end MovieFun
