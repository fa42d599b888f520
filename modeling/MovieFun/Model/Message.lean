import MovieFun.Helper.DateFormatter

/-! # Messages and accounts -/

namespace MovieFun

/-- A chat message. Every field is optional: a message sent from this device has
no id, and a decoded one has the fields its document had. -/
structure Message where
  isMessageImage : Option Bool := none
  imageName : Option String := none
  messageId : Option String := none
  accountId : Option String := none
  accountName : Option String := none
  sendDate : Option Date := none
  content : Option String := none
deriving DecidableEq, Repr

/-- An account as the source has it. -/
structure Account where
  accountId : String
  username : String
  email : String
  address : String
  dateOfBirth : Date
deriving DecidableEq, Repr

/-- An account as `init` makes it, `now` being the date at the call. -/
def Account.initial (now : Date) : Account where
  accountId := "AccountId"
  username := "Username"
  email := "Email"
  address := "Address"
  dateOfBirth := now

end MovieFun
