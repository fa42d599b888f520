import MovieFun.Model.Message
import MovieFun.Network.Firestore

/-!
# The session

`AccountService` holds the loaded account and the account id saved under
`userLogin`. The id alone survives a relaunch, so a session can have an id
without an account.
-/

namespace MovieFun

/-- The shared account service: its account, and the saved `userLogin`. -/
structure AccountService where
  account : Option Account
  userLogin : Option String
deriving DecidableEq, Repr

namespace AccountService

/-- The name of the loaded account. -/
def getAccountName (share : AccountService) : Option String :=
  share.account.map Account.username

/-- The id of the loaded account, or else the saved one. -/
def getAccountId (share : AccountService) : Option String :=
  match share.account with
  | none => share.userLogin
  | some account => some account.accountId

/-- Whether an account is loaded. -/
def isLogin (share : AccountService) : Bool := share.account.isSome

/-- Save the id of an account. -/
def saveAccountId (accountId : String) (share : AccountService) : AccountService :=
  { share with userLogin := some accountId }

/-- Forget the account and the saved id. -/
def logout (_ : AccountService) : AccountService where
  account := none
  userLogin := none

/-- The dictionary that `addAccount` and `updateAccount` write. -/
def accountDictionary (account : Account) : Dictionary :=
  [("accountId", .string account.accountId),
    ("username", .string account.username),
    ("email", .string account.email),
    ("address", .string account.address),
    ("dateOfBirth", .date account.dateOfBirth)]

/-- The account of a document that has an account id, `now` being the date at the
call. -/
def decodeAccount (now : Date) (document : Dictionary) : Option Account :=
  ((document.get "accountId").bind Value.asString).map fun accountId => {
    accountId
    username := ((document.get "username").bind Value.asString).getD ""
    email := ((document.get "email").bind Value.asString).getD "email@gmail.com"
    address := ((document.get "address").bind Value.asString).getD ""
    dateOfBirth := ((document.get "dateOfBirth").bind Value.asTimestamp).getD now }

/-- What the completions of `fetchAccount` and of the listener make of a document:
what they hand on. -/
def receivedAccount (now : Date) (data : Option Dictionary) (error : Option NSError) :
    Option Account × Option NSError :=
  match error with
  | some error => (none, some error)
  | none => (data.bind (decodeAccount now), none)

/-- The account that a reply brings becomes the account of the session. -/
def receive (now : Date) (data : Option Dictionary) (error : Option NSError)
    (share : AccountService) : AccountService :=
  match (receivedAccount now data error).1 with
  | none => share
  | some account => { share with account := some account }

/-- What the reply to `fetchAccount` does to the session. -/
def fetchAccountCompletion (now : Date) (data : Option Dictionary) (error : Option NSError)
    (share : AccountService) : AccountService :=
  share.receive now data error

/-- What a snapshot of the account does to the session. -/
def listenerCompletion (now : Date) (data : Option Dictionary) (error : Option NSError)
    (share : AccountService) : AccountService :=
  share.receive now data error

/-- What the reply to `addAccount` does to the session. -/
def addAccountCompletion (account : Account) (error : Option NSError) (share : AccountService) :
    AccountService :=
  match error with
  | some _ => share
  | none => { share with account := some account }.saveAccountId account.accountId

/-- A loaded account names the session. -/
theorem getAccountId_of_isLogin {share : AccountService} (login : share.isLogin) :
    ∃ accountId, share.getAccountId = some accountId := by
  obtain ⟨account, loaded⟩ := Option.isSome_iff_exists.mp login
  exact ⟨account.accountId, by rw [getAccountId, loaded]⟩

/-- Nobody is known to a session without an account and a saved id. -/
theorem signedOut_iff {share : AccountService} :
    share.isLogin = false ∧ share.getAccountId = none ↔
      share.account = none ∧ share.userLogin = none := by
  cases loaded : share.account with
  | none => simp only [isLogin, getAccountId, loaded, Option.isSome_none, true_and]
  | some account => simp only [isLogin, getAccountId, loaded, Option.isSome_some, reduceCtorEq,
      false_and]

/-- An account that was written is read back, its date as the same instant. -/
theorem decodeAccount_stored (now : Date) (account : Account) :
    decodeAccount now (accountDictionary account).stored = some account := rfl

end AccountService

end MovieFun
