import ChatNotify.Id
import ChatNotify.Time.Instant
import ChatNotify.Chat.Preferences

namespace ChatNotify

/-- How the names of users are shown. -/
inductive NameFormat where
  | username
  | fullName
  | nicknameFullName
  deriving Repr, DecidableEq, Inhabited

/-- A user. -/
structure User where
  id : Id
  username : String
  firstName : String := ""
  lastName : String := ""
  nickname : String := ""
  isBot : Bool := false
  deletedAt : Option Instant := none
  preferences : UserPreferences := {}
  deriving Repr

/-- The format of that name. -/
def NameFormat.ofText? : String → Option NameFormat
  | "username" => some .username
  | "full_name" => some .fullName
  | "nickname_full_name" => some .nicknameFullName
  | _ => none

/-- The name of the format. -/
def NameFormat.text : NameFormat → String
  | .username => "username"
  | .fullName => "full_name"
  | .nicknameFullName => "nickname_full_name"

namespace User

/-- Holds unless the user has been deleted. -/
def isActive (user : User) : Bool :=
  user.deletedAt.isNone

/-- The first and the last name, as far as they are known. -/
def fullName (user : User) : String :=
  if user.firstName = "" then user.lastName
  else if user.lastName = "" then user.firstName
  else user.firstName ++ " " ++ user.lastName

/-- The name to show; the username stands in for one that is not known. -/
def displayName (user : User) (format : NameFormat) : String :=
  let name :=
    match format with
    | .username => ""
    | .fullName => user.fullName
    | .nicknameFullName => if user.nickname = "" then user.fullName else user.nickname
  if name = "" then user.username else name

end User

end ChatNotify
