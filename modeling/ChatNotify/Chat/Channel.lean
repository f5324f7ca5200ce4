import ChatNotify.Id
import ChatNotify.Time.Instant
import ChatNotify.Chat.Preferences

namespace ChatNotify

/-- The kinds of channels: for all, for those who were let in, for two users, for a few users. -/
inductive ChannelKind where
  | publicRoom
  | privateRoom
  | direct
  | group
  deriving Repr, DecidableEq, Inhabited

namespace ChannelKind

/-- The written form. -/
def text : ChannelKind → String
  | .publicRoom => "O"
  | .privateRoom => "P"
  | .direct => "D"
  | .group => "G"

/-- The kind with that written form. -/
def ofText? : String → Option ChannelKind
  | "O" => some .publicRoom
  | "P" => some .privateRoom
  | "D" => some .direct
  | "G" => some .group
  | _ => none

/-- Holds of conversations, whose members are fixed. -/
def isConversation : ChannelKind → Bool
  | .direct | .group => true
  | _ => false

end ChannelKind

/-- A channel. -/
structure Channel where
  id : Id
  team : Option Id := none
  name : String := ""
  displayName : String := ""
  kind : ChannelKind := .publicRoom
  /-- Whether the channel is reserved for the members of certain groups. -/
  groupConstrained : Bool := false
  deriving Repr

/-- A user's membership in a channel. -/
structure Member where
  channel : Id
  user : Id
  lastViewedAt : Instant
  preferences : ChannelPreferences := {}
  deriving Repr

end ChatNotify
