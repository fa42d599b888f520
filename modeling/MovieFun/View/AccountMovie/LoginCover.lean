import MovieFun.View.Login.Session

/-!
# The login views over the account page

`AccountViewController` covers itself with a login view when it loads without an account
and after each logout, and takes a login view away when that view hears of its success.
Logouts are delayed, and the account is loaded by calls that nobody cancels. So exactly
one login view covers the page while nobody is known, and none while somebody is,
exactly when no account comes to a covered page by another way and no logout is repeated
(`covered_iff_expected`). Login views pile up only where the logout button is tapped
while a logout is delayed (`oneCover_iff_oneLogout`).
-/

namespace MovieFun

/-- A login view on the account page. -/
structure LoginView where
  number : Nat
  loginViewModel : LoginViewModel := {}
deriving DecidableEq, Repr

/-- The account page with its login views, the session, and what is on its way: logouts,
calls of the login views, and fetches of the account, for the page or for the tab bar. -/
structure AccountPage where
  share : AccountService
  loaded : Bool := false
  children : List LoginView := []
  added : Nat := 0
  logoutButton : Bool := true
  delayed : Nat := 0
  logins : List Nat := []
  registers : List Nat := []
  adds : List (Nat × Account) := []
  fetches : List (String × Bool) := []
  listener : Option AccountRegistration := none
  live : List AccountRegistration := []
  registered : Nat := 0

/-- What can reach the page. A call is of a login view, by its number. -/
inductive AccountPageEvent
  | viewDidLoad
  | logout
  | logoutDeadline
  | login (view : Nat)
  | loginReply (view : Nat) (user : Option User) (error : Option NSError)
  | register (view : Nat)
  | registerReply (view : Nat) (now : Date) (user : Option User) (error : Option NSError)
  | addAccountReply (view : Nat) (account : Account) (error : Option NSError)
  | fetchAccountReply (userId : String) (forPage : Bool) (now : Date) (data : Option Dictionary)
      (error : Option NSError)
  | snapshot (registration : AccountRegistration) (now : Date) (data : Option Dictionary)
      (error : Option NSError)

/-- The account id that the event makes known. -/
def AccountPageEvent.brings : AccountPageEvent → Option String
  | .loginReply _ (some user) none => some user.uid
  | .addAccountReply _ account none => some account.accountId
  | .fetchAccountReply _ _ now data error | .snapshot _ now data error =>
      (AccountService.receivedAccount now data error).1.map Account.accountId
  | _ => none

/-- The login view that the event is told to. -/
def AccountPageEvent.tells : AccountPageEvent → Option Nat
  | .loginReply view _ _ => some view
  | .addAccountReply view _ _ => some view
  | _ => none

namespace AccountPage

/-- The app after a launch: the tab bar fetches the account whose id was saved. -/
def initial (userLogin : Option String) : AccountPage where
  share := { account := none, userLogin }
  fetches := userLogin.toList.map fun userId => (userId, false)

/-- A login view is put over the page. -/
def addLoginViewController (page : AccountPage) : AccountPage :=
  { page with
    children := page.children ++ [{ number := page.added }]
    added := page.added + 1
    logoutButton := false }

/-- The registration that the page knows of is removed. -/
def removeListener (page : AccountPage) : AccountPage :=
  match page.listener with
  | none => page
  | some registration => { page with live := page.live.erase registration }

/-- A listener for the account of the session is registered. -/
def addListener (page : AccountPage) : AccountPage :=
  match page.share.account with
  | none => page
  | some account =>
      let registration := { number := page.registered, documentID := account.accountId }
      { page with
        listener := some registration
        live := page.live ++ [registration]
        registered := page.registered + 1 }

/-- `AccountController.start`, as far as the session is concerned. -/
def start (page : AccountPage) : AccountPage :=
  match page.share.getAccountId with
  | none => page
  | some accountId =>
      let page := page.removeListener
      { page with fetches := page.fetches ++ [(accountId, true)] }

/-- The numbers of the login views on the page. -/
def views (page : AccountPage) : List Nat := page.children.map LoginView.number

/-- A change of the view model of one login view. -/
def updateViewModel (view : Nat) (change : LoginViewModel → LoginViewModel)
    (children : List LoginView) : List LoginView :=
  children.map fun child =>
    if child.number = view then { child with loginViewModel := change child.loginViewModel }
    else child

/-- The view model of a login view after the reply to a login. -/
def loginReplied (user : Option User) (error : Option NSError) (share : AccountService)
    (loginViewModel : LoginViewModel) : LoginViewModel :=
  (LoginController.loginCompletion user error loginViewModel share).1

/-- The view model of a login view after the reply to a registration. -/
def registerReplied (now : Date) (user : Option User) (error : Option NSError)
    (loginViewModel : LoginViewModel) : LoginViewModel :=
  ((LoginController.registerCompletion now user error loginViewModel).map Prod.fst).getD
    loginViewModel

/-- A login view that is still on the page hears of its success and is taken away. -/
def dismissFromParent (view : Nat) (page : AccountPage) : AccountPage :=
  if view ∈ page.views then
    let page := { page with children := page.children.filter fun child => child.number ≠ view }
    { page.start with logoutButton := true }
  else page

/-- What is tapped is on the screen, and a reply comes to what is awaited. -/
def enabled (page : AccountPage) : AccountPageEvent → Bool
  | .viewDidLoad => !page.loaded
  | .logout => page.loaded && page.logoutButton
  | .logoutDeadline => 0 < page.delayed
  | .login view | .register view =>
      page.children.any fun child => child.number = view ∧ ¬ child.loginViewModel.isLoading
  | .loginReply view .. => view ∈ page.logins
  | .registerReply view .. => view ∈ page.registers
  | .addAccountReply view account _ => (view, account) ∈ page.adds
  | .fetchAccountReply userId forPage .. => (userId, forPage) ∈ page.fetches
  | .snapshot registration .. => registration ∈ page.live

/-- What an event does to the page. -/
def handle (page : AccountPage) : AccountPageEvent → Option AccountPage
  | .viewDidLoad =>
      let page := { page with loaded := true }
      some (if page.share.isLogin then page.start else page.addLoginViewController)
  | .logout => some { page with delayed := page.delayed + 1 }
  | .logoutDeadline =>
      some { page with
        share := page.share.logout
        delayed := page.delayed - 1 }.addLoginViewController
  | .login view =>
      some { page with
        children := updateViewModel view LoginController.load page.children
        logins := page.logins ++ [view] }
  | .loginReply view user error =>
      let page :=
        { page with
          share := (LoginController.loginCompletion user error {} page.share).2
          children := updateViewModel view (loginReplied user error page.share) page.children
          logins := page.logins.erase view }
      some (if error = none ∧ user.isSome then page.dismissFromParent view else page)
  | .register view =>
      some { page with
        children := updateViewModel view LoginController.load page.children
        registers := page.registers ++ [view] }
  | .registerReply view now user error => do
      let (_, added) ← LoginController.registerCompletion now user error {}
      return { page with
        children := updateViewModel view (registerReplied now user error) page.children
        registers := page.registers.erase view
        adds := page.adds ++ added.toList.map fun account => (view, account) }
  | .addAccountReply view account error =>
      let page :=
        { page with
          share := page.share.addAccountCompletion account error
          children :=
            updateViewModel view (LoginController.addAccountCompletion error) page.children
          adds := page.adds.erase (view, account) }
      some (if error = none then page.dismissFromParent view else page)
  | .fetchAccountReply userId forPage now data error =>
      let received := AccountService.receivedAccount now data error
      let page :=
        { page with
          share := page.share.fetchAccountCompletion now data error
          fetches := page.fetches.erase (userId, forPage) }
      some (if forPage ∧ received.2 = none ∧ received.1.isSome then page.addListener else page)
  | .snapshot _ now data error =>
      some { page with share := page.share.listenerCompletion now data error }

/-- The page after an event that can happen. -/
def step (page : AccountPage) (event : AccountPageEvent) : Option AccountPage :=
  if page.enabled event then handle page event else none

/-- What a step does to the login views, the session and the delayed logouts. -/
inductive Effect (page next : AccountPage) (event : AccountPageEvent) : Prop
  | loads (isLoad : event = .viewDidLoad) (unloaded : page.loaded = false)
      (loaded : next.loaded = true) (share : next.share = page.share)
      (delayed : next.delayed = page.delayed)
      (views : next.views =
        if page.share.isLogin then page.views else page.views ++ [page.added])
      (button : page.share.isLogin = true ∨ next.logoutButton = false)
  | taps (isTap : event = .logout) (loaded : page.loaded = true)
      (button : page.logoutButton = true)
      (same : next = { page with delayed := page.delayed + 1 })
  | logsOut (isLogout : event = .logoutDeadline) (loaded : next.loaded = page.loaded)
      (share : next.share = page.share.logout) (delayed : next.delayed + 1 = page.delayed)
      (views : next.views = page.views ++ [page.added]) (button : next.logoutButton = false)
  | stays (quiet : event.brings = none) (other : event ≠ .viewDidLoad ∧ event ≠ .logoutDeadline)
      (untapped : event ≠ .logout) (loaded : next.loaded = page.loaded)
      (known : next.share.getAccountId = page.share.getAccountId)
      (delayed : next.delayed = page.delayed) (views : next.views = page.views)
      (button : next.logoutButton = page.logoutButton)
  | learns (brings : event.brings.isSome) (unheard : ∀ view ∈ event.tells, view ∉ page.views)
      (loaded : next.loaded = page.loaded) (known : next.share.getAccountId.isSome)
      (delayed : next.delayed = page.delayed) (views : next.views = page.views)
      (button : next.logoutButton = page.logoutButton)
  | dismisses (brings : event.brings.isSome) (view : Nat) (tells : event.tells = some view)
      (heard : view ∈ page.views) (loaded : next.loaded = page.loaded)
      (known : next.share.getAccountId.isSome) (delayed : next.delayed = page.delayed)
      (views : next.views = page.views.filter fun other => other ≠ view)
      (button : next.logoutButton = true)

section Steps

variable {page next : AccountPage} {event : AccountPageEvent}

/-- The login views stay when a view model changes. -/
theorem views_of_update {view : Nat} {change : LoginViewModel → LoginViewModel}
    (changed : next.children = updateViewModel view change page.children) :
    next.views = page.views := by
  rw [views, changed, updateViewModel, List.map_map]
  refine List.map_congr_left fun child _ => ?_
  rw [Function.comp_apply]
  split <;> rfl

/-- `start` changes the listeners and the fetches only. -/
theorem start_eq (page : AccountPage) :
    ∃ live fetches, page.start = { page with live, fetches } := by
  unfold start removeListener
  split
  · exact ⟨_, _, rfl⟩
  · split <;> exact ⟨_, _, rfl⟩

/-- `addListener` changes the listeners only. -/
theorem addListener_eq (page : AccountPage) :
    ∃ listener live registered, page.addListener = { page with listener, live, registered } := by
  unfold addListener
  split <;> exact ⟨_, _, _, rfl⟩

/-- An account that comes in is known from then on. -/
theorem getAccountId_receive {share : AccountService} {now : Date} {data : Option Dictionary}
    {error : Option NSError} :
    ((AccountService.receivedAccount now data error).1.map Account.accountId = none ∧
        share.receive now data error = share) ∨
      (((AccountService.receivedAccount now data error).1.map Account.accountId).isSome ∧
        (share.receive now data error).getAccountId.isSome) := by
  rw [AccountService.receive]
  cases (AccountService.receivedAccount now data error).1 with
  | none => exact .inl ⟨rfl, rfl⟩
  | some account => exact .inr ⟨rfl, rfl⟩

/-- A saved id is known. -/
theorem isSome_getAccountId_saveAccountId (accountId : String) (share : AccountService) :
    (share.saveAccountId accountId).getAccountId.isSome := by
  obtain ⟨account, userLogin⟩ := share
  cases account <;> rfl

/-- A success that is told takes the login view away that hears of it. -/
theorem effect_dismissFromParent {view : Nat} (brings : event.brings.isSome)
    (tells : event.tells = some view) {told : AccountPage} (loaded : told.loaded = page.loaded)
    (known : told.share.getAccountId.isSome) (delayed : told.delayed = page.delayed)
    (views' : told.views = page.views) (button : told.logoutButton = page.logoutButton) :
    Effect page (told.dismissFromParent view) event := by
  by_cases heard : view ∈ told.views
  · rw [dismissFromParent, if_pos heard]
    obtain ⟨live, fetches, started⟩ := start_eq
      { told with children := told.children.filter fun child => child.number ≠ view }
    simp only [started]
    refine .dismisses brings view tells (views' ▸ heard) loaded known delayed ?_ rfl
    rw [← views', views, views, List.filter_map]
    rfl
  · rw [dismissFromParent, if_neg heard]
    refine .learns brings (fun other isTold => ?_) loaded known delayed views' button
    rw [tells] at isTold
    cases isTold
    exact views' ▸ heard

/-- What a step does to the views and to who is known. -/
theorem effect_of_step (taken : step page event = some next) : Effect page next event := by
  unfold step at taken
  split at taken
  swap
  · cases taken
  next enabled =>
  cases event with
  | viewDidLoad =>
      have unloaded : page.loaded = false := by simpa [AccountPage.enabled] using enabled
      cases taken
      by_cases login : page.share.isLogin = true
      · rw [if_pos login]
        obtain ⟨live, fetches, started⟩ := start_eq { page with loaded := true }
        rw [started]
        exact .loads rfl unloaded rfl rfl rfl (if_pos login).symm (.inl login)
      · rw [if_neg login]
        refine .loads rfl unloaded rfl rfl rfl ?_ (.inr rfl)
        rw [if_neg login]
        exact List.map_append
  | logout =>
      cases taken
      obtain ⟨loaded, button⟩ := Bool.and_eq_true_iff.mp enabled
      exact .taps rfl loaded button rfl
  | logoutDeadline =>
      cases taken
      have delayed : 0 < page.delayed := of_decide_eq_true enabled
      exact .logsOut rfl rfl rfl (Nat.sub_add_cancel delayed) List.map_append rfl
  | login view =>
      cases taken
      exact .stays rfl ⟨nofun, nofun⟩ nofun rfl rfl rfl (views_of_update rfl) rfl
  | loginReply view user error =>
      cases taken
      cases user with
      | none =>
          rw [if_neg (fun told => by cases told.2)]
          cases error <;>
            exact .stays rfl ⟨nofun, nofun⟩ nofun rfl rfl rfl (views_of_update rfl) rfl
      | some user =>
          cases error with
          | none =>
              rw [if_pos ⟨rfl, rfl⟩]
              exact effect_dismissFromParent rfl rfl rfl
                (isSome_getAccountId_saveAccountId user.uid page.share) rfl
                (views_of_update rfl) rfl
          | some failure =>
              rw [if_neg (fun told => by cases told.1)]
              exact .stays rfl ⟨nofun, nofun⟩ nofun rfl rfl rfl (views_of_update rfl) rfl
  | register view =>
      cases taken
      exact .stays rfl ⟨nofun, nofun⟩ nofun rfl rfl rfl (views_of_update rfl) rfl
  | registerReply view now user error =>
      obtain ⟨⟨loginViewModel, added⟩, -, made⟩ := Option.bind_eq_some_iff.mp taken
      cases made
      exact .stays rfl ⟨nofun, nofun⟩ nofun rfl rfl rfl (views_of_update rfl) rfl
  | addAccountReply view account error =>
      cases taken
      cases error with
      | none =>
          rw [if_pos rfl]
          exact effect_dismissFromParent rfl rfl rfl rfl rfl (views_of_update rfl) rfl
      | some failure =>
          rw [if_neg (fun told => by cases told)]
          exact .stays rfl ⟨nofun, nofun⟩ nofun rfl rfl rfl (views_of_update rfl) rfl
  | fetchAccountReply userId forPage now data error =>
      have received (fetches listener live registered) : Effect page
          { page with
            share := page.share.fetchAccountCompletion now data error
            fetches, listener, live, registered }
          (.fetchAccountReply userId forPage now data error) := by
        rcases getAccountId_receive with ⟨nothing, same⟩ | ⟨brings, known⟩
        · exact .stays nothing ⟨nofun, nofun⟩ nofun rfl (congrArg _ same) rfl rfl rfl
        · exact .learns brings (fun _ isTold => by cases isTold) rfl known rfl rfl rfl
      cases taken
      by_cases listens : forPage ∧ (AccountService.receivedAccount now data error).2 = none ∧
          (AccountService.receivedAccount now data error).1.isSome
      · rw [if_pos listens]
        obtain ⟨listener, live, registered, added⟩ := addListener_eq
          { page with
            share := page.share.fetchAccountCompletion now data error
            fetches := page.fetches.erase (userId, forPage) }
        rw [added]
        exact received _ _ _ _
      · rw [if_neg listens]
        exact received _ _ _ _
  | snapshot registration now data error =>
      cases taken
      rcases getAccountId_receive with ⟨nothing, same⟩ | ⟨brings, known⟩
      · exact .stays nothing ⟨nofun, nofun⟩ nofun rfl (congrArg _ same) rfl rfl rfl
      · exact .learns brings (fun _ isTold => by cases isTold) rfl known rfl rfl rfl

end Steps

/-- Where one number is the only one, taking it away leaves nothing. -/
theorem filter_ne_eq_nil {views : List Nat} {view : Nat} (one : views.length ≤ 1)
    (heard : view ∈ views) : (views.filter fun other => other ≠ view) = [] := by
  match views, one with
  | [only], _ =>
      cases List.mem_singleton.mp heard
      exact List.filter_cons_of_neg (by simp)

/-- Exactly one login view covers the page while nobody is known, and none while somebody
is. -/
def Covered (page : AccountPage) : Prop :=
  page.loaded = true → page.views.length = if page.share.getAccountId.isNone then 1 else 0

/-- The page loads without a saved id whose account is still to come, somebody is known
when a logout is carried out, and an account becomes known where somebody is already or a
login view hears of it. -/
structure Expected (page : AccountPage) (event : AccountPageEvent) : Prop where
  load : event = .viewDidLoad → page.share.isLogin = true ∨ page.share.getAccountId = none
  logout : event = .logoutDeadline → page.share.getAccountId.isSome
  account : event.brings.isSome → page.loaded = true →
    page.share.getAccountId.isSome ∨ ∃ view ∈ event.tells, view ∈ page.views

/-- Nothing happens on the page before it loads. -/
def Unvisited (page : AccountPage) : Prop :=
  page.loaded = false → page.views = [] ∧ page.delayed = 0

section Runs

variable {page next : AccountPage} {event : AccountPageEvent}

/-- A step keeps the page unvisited until it loads. -/
theorem unvisited_of_step (unvisited : Unvisited page) (taken : step page event = some next) :
    Unvisited next := by
  intro notLoaded
  cases effect_of_step taken with
  | loads _ _ loaded =>
      rw [loaded] at notLoaded
      cases notLoaded
  | taps _ loaded _ same =>
      rw [same] at notLoaded
      cases loaded.symm.trans notLoaded
  | logsOut _ loaded _ delayed =>
      have none := (unvisited (loaded.symm.trans notLoaded)).2
      omega
  | stays _ _ _ loaded _ delayed views =>
      rw [views, delayed]
      exact unvisited (loaded.symm.trans notLoaded)
  | learns _ _ loaded _ delayed views =>
      rw [views, delayed]
      exact unvisited (loaded.symm.trans notLoaded)
  | dismisses _ view _ heard loaded =>
      rw [(unvisited (loaded.symm.trans notLoaded)).1] at heard
      cases heard

/-- A covered page is without a login view exactly if somebody is known. -/
theorem Covered.views_eq_nil_iff (covered : Covered page) (loaded : page.loaded = true) :
    page.views = [] ↔ page.share.getAccountId.isSome := by
  rw [← List.length_eq_zero_iff, covered loaded]
  cases page.share.getAccountId with
  | none => exact iff_of_false (by decide) (by decide)
  | some accountId => exact iff_of_true rfl rfl

/-- No view covers a page whose account is known. -/
theorem covered_iff_of_known (known : page.share.getAccountId.isSome) :
    Covered page ↔ (page.loaded = true → page.views = []) := by
  obtain ⟨accountId, isKnown⟩ := Option.isSome_iff_exists.mp known
  rw [Covered, isKnown]
  exact forall_congr' fun _ => List.length_eq_zero_iff

/-- One view covers a page whose account is not known. -/
theorem covered_iff_of_unknown (unknown : page.share.getAccountId = none) :
    Covered page ↔ (page.loaded = true → page.views.length = 1) := by
  rw [Covered, unknown]
  exact Iff.rfl

/-- A step keeps the page covered as it should be exactly if it is expected. -/
theorem covered_step_iff (unvisited : Unvisited page) (covered : Covered page)
    (taken : step page event = some next) : Covered next ↔ Expected page event := by
  cases effect_of_step taken with
  | loads isLoad unloaded loaded share _ views =>
      subst isLoad
      obtain ⟨noViews, -⟩ := unvisited unloaded
      by_cases login : page.share.isLogin = true
      · rw [if_pos login, noViews] at views
        obtain ⟨accountId, session⟩ := AccountService.getAccountId_of_isLogin login
        have known : next.share.getAccountId.isSome := by rw [share, session]; rfl
        rw [covered_iff_of_known known]
        exact iff_of_true (fun _ => views) ⟨fun _ => .inl login, nofun, nofun⟩
      · rw [if_neg login, noViews] at views
        cases session : page.share.getAccountId with
        | none =>
            rw [covered_iff_of_unknown (by rw [share, session]), views]
            exact iff_of_true (fun _ => rfl) ⟨fun _ => .inr session, nofun, nofun⟩
        | some accountId =>
            rw [covered_iff_of_known (by rw [share, session]; rfl), views]
            refine iff_of_false (fun none => by cases none loaded) fun expected => ?_
            rcases expected.load rfl with isLogin | isNone
            · exact login isLogin
            · cases session.symm.trans isNone
  | taps isTap loaded button same =>
      subst isTap same
      exact iff_of_true covered ⟨nofun, nofun, nofun⟩
  | logsOut isLogout loaded share delayed views =>
      subst isLogout
      have isLoaded : page.loaded = true := by
        by_contra notLoaded
        have none := (unvisited (Bool.eq_false_of_not_eq_true notLoaded)).2
        omega
      rw [covered_iff_of_unknown (by rw [share]; rfl), views, loaded, List.length_append,
        List.length_singleton, Nat.add_eq_right, List.length_eq_zero_iff,
        covered.views_eq_nil_iff isLoaded]
      exact ⟨fun known => ⟨nofun, fun _ => known isLoaded, nofun⟩,
        fun expected _ => expected.logout rfl⟩
  | stays quiet other untapped loaded known delayed views =>
      have same : Covered next := by
        rw [Covered, loaded, views, known]
        exact covered
      refine iff_of_true same ⟨fun isLoad => absurd isLoad other.1,
        fun isLogout => absurd isLogout other.2, fun brings => ?_⟩
      rw [quiet] at brings
      cases brings
  | learns brings unheard loaded known delayed views =>
      rw [covered_iff_of_known known, loaded, views]
      constructor
      · intro uncovered
        refine ⟨?_, ?_, fun _ isLoaded => .inl ?_⟩
        · rintro rfl
          cases brings
        · rintro rfl
          cases brings
        · exact (covered.views_eq_nil_iff isLoaded).mp (uncovered isLoaded)
      · intro expected isLoaded
        rcases expected.account brings isLoaded with isKnown | ⟨view, tells, heard⟩
        · exact (covered.views_eq_nil_iff isLoaded).mpr isKnown
        · exact absurd heard (unheard view tells)
  | dismisses brings view tells heard loaded known delayed views =>
      rw [covered_iff_of_known known, loaded, views]
      refine iff_of_true (fun isLoaded => ?_) ⟨?_, ?_, fun _ _ => .inr ⟨view, tells, heard⟩⟩
      · have one : page.views.length ≤ 1 := by
          rw [covered isLoaded]
          split <;> omega
        exact filter_ne_eq_nil one heard
      · rintro rfl
        cases brings
      · rintro rfl
        cases brings

/-- The page has no view before it loads. -/
theorem unvisited_initial (userLogin : Option String) : Unvisited (initial userLogin) :=
  fun _ => ⟨rfl, rfl⟩

/-- **One login view while nobody is known, and none while somebody is.** In every run this
holds throughout exactly when every step is expected: the page loads without an id whose
account is still to come, no logout is repeated, and an account becomes known only where
somebody is or a login view hears of it. -/
theorem covered_iff_expected (userLogin : Option String) (events : List AccountPageEvent) :
    EventRun.EachState step Covered (initial userLogin) events ↔
      EventRun.EachStep step Expected (initial userLogin) events := by
  refine EventRun.eachState_iff_eachStep (fun _ => Unvisited) (fun loaded => by cases loaded)
    (unvisited_initial userLogin) ?_ ?_
  · exact fun before event state next _ unvisited taken => unvisited_of_step unvisited taken
  · exact fun before event state next _ unvisited covered taken =>
      covered_step_iff unvisited covered taken

/-- At most one login view is on the page or about to be. -/
def OneCover (page : AccountPage) : Prop := page.views.length + page.delayed ≤ 1

/-- Besides, the logout button works only where no login view covers the page. -/
structure Operable (page : AccountPage) : Prop where
  unvisited : Unvisited page
  oneCover : OneCover page
  button : page.loaded = true → page.logoutButton = true → page.views = []

/-- A step leaves one login view at most exactly if it is no logout while one is delayed. -/
theorem oneCover_step_iff (operable : Operable page) (taken : step page event = some next) :
    OneCover next ↔ (event = .logout → page.delayed = 0) := by
  have oneCover : page.views.length + page.delayed ≤ 1 := operable.oneCover
  cases effect_of_step taken with
  | loads isLoad unloaded loaded share delayed views =>
      subst isLoad
      refine iff_of_true ?_ nofun
      obtain ⟨noViews, noDelay⟩ := operable.unvisited unloaded
      rw [OneCover, views, delayed, noViews, noDelay]
      split
      · exact Nat.zero_le 1
      · exact le_rfl
  | taps isTap loaded button same =>
      subst isTap same
      have noViews : page.views.length = 0 := by rw [operable.button loaded button]; rfl
      change page.views.length + (page.delayed + 1) ≤ 1 ↔ _
      constructor
      · intro one _
        omega
      · intro first
        have noDelay := first rfl
        omega
  | logsOut isLogout loaded share delayed views =>
      subst isLogout
      refine iff_of_true ?_ nofun
      rw [OneCover, views, List.length_append, List.length_singleton]
      omega
  | stays quiet other untapped loaded known delayed views =>
      refine iff_of_true ?_ fun isTap => absurd isTap untapped
      rw [OneCover, views, delayed]
      exact oneCover
  | learns brings unheard loaded known delayed views =>
      refine iff_of_true ?_ ?_
      · rw [OneCover, views, delayed]
        exact oneCover
      · rintro rfl
        cases brings
  | dismisses brings view tells heard loaded known delayed views =>
      refine iff_of_true ?_ ?_
      · have fewer := List.length_filter_le (fun other => other ≠ view) page.views
        rw [OneCover, views, delayed]
        omega
      · rintro rfl
        cases brings

/-- A step that leaves one login view at most keeps the logout button from working under it. -/
theorem operable_of_step (operable : Operable page) (taken : step page event = some next)
    (oneCover : OneCover next) : Operable next := by
  refine ⟨unvisited_of_step operable.unvisited taken, oneCover, fun isLoaded isEnabled => ?_⟩
  cases effect_of_step taken with
  | loads isLoad unloaded loaded share delayed views button =>
      rcases button with login | disabled
      · rw [views, if_pos login]
        exact (operable.unvisited unloaded).1
      · cases disabled.symm.trans isEnabled
  | taps isTap loaded button same =>
      rw [same]
      exact operable.button loaded button
  | logsOut isLogout loaded share delayed views button => cases button.symm.trans isEnabled
  | stays quiet other untapped loaded known delayed views button =>
      rw [views]
      exact operable.button (loaded.symm.trans isLoaded) (button.symm.trans isEnabled)
  | learns brings unheard loaded known delayed views button =>
      rw [views]
      exact operable.button (loaded.symm.trans isLoaded) (button.symm.trans isEnabled)
  | dismisses brings view tells heard loaded known delayed views =>
      have one : page.views.length + page.delayed ≤ 1 := operable.oneCover
      rw [views]
      exact filter_ne_eq_nil (by omega) heard

/-- **Login views do not pile up** in a run exactly when the logout button is never tapped
while a logout is delayed. -/
theorem oneCover_iff_oneLogout (userLogin : Option String) (events : List AccountPageEvent) :
    EventRun.EachState step OneCover (initial userLogin) events ↔
      EventRun.EachStep step (fun page event => event = .logout → page.delayed = 0)
        (initial userLogin) events := by
  have first : Operable (initial userLogin) :=
    ⟨unvisited_initial userLogin, Nat.zero_le 1, fun _ _ => rfl⟩
  refine EventRun.eachState_iff_eachStep_of_strong first (fun _ operable => operable.oneCover) ?_ ?_
  · exact fun page event next operable taken oneCover =>
      operable_of_step operable taken oneCover
  · exact fun page event next operable taken => oneCover_step_iff operable taken

end Runs

end AccountPage

end MovieFun
