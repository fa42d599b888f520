import MovieFun.Network.AccountService

/-!
# LoginController

The completions of the login screen. A login saves the id of its user, and a
registration adds an account first.
-/

namespace MovieFun

/-- A user of the authentication service. -/
structure User where
  uid : String
  email : Option String
deriving DecidableEq, Repr

/-- What the login view is bound to. -/
structure LoginViewModel where
  isLoading : Bool := false
  isLoginSuccess : Bool := false
  isRegisterSuccess : Bool := false
deriving DecidableEq, Repr

namespace LoginController

/-- Both `login` and `register` first show that they are under way. -/
def load (loginViewModel : LoginViewModel) : LoginViewModel :=
  { loginViewModel with isLoading := true }

/-- The reply to a login: the id of the user is saved. -/
def loginCompletion (user : Option User) (error : Option NSError)
    (loginViewModel : LoginViewModel) (share : AccountService) :
    LoginViewModel × AccountService :=
  match error, user with
  | none, some user =>
      ({ loginViewModel with isLoading := false, isLoginSuccess := true },
        share.saveAccountId user.uid)
  | _, _ => ({ loginViewModel with isLoading := false, isLoginSuccess := false }, share)

/-- The completion of a registration, and the account that it adds. It traps when the
user has no email. -/
def registerCompletion (now : Date) (user : Option User) (error : Option NSError)
    (loginViewModel : LoginViewModel) : Option (LoginViewModel × Option Account) :=
  match error, user with
  | none, some user => do
      let email ← user.email
      return ({ loginViewModel with isLoading := false },
        some { Account.initial now with accountId := user.uid, email })
  | none, none => some ({ loginViewModel with isLoading := false }, none)
  | some _, _ =>
      some ({ loginViewModel with isLoading := false, isRegisterSuccess := false }, none)

/-- The reply to the write of the new account. -/
def addAccountCompletion (error : Option NSError) (loginViewModel : LoginViewModel) :
    LoginViewModel :=
  { loginViewModel with isRegisterSuccess := error.isNone }

end LoginController

end MovieFun
