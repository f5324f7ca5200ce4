import ChatNotify.Chat.Channel
import ChatNotify.Chat.Presence
import ChatNotify.Chat.User
import ChatNotify.Mention.Kind

namespace ChatNotify

/-- The state of a channel at the time of a post. Members without a presence count as offline, and
members without preferences have the default ones. -/
structure Snapshot where
  channel : Channel
  profiles : Table Id User := ∅
  preferences : Table Id ChannelPreferences := ∅
  presence : Table Id Presence := ∅
  memberCount : Nat := 0

namespace Snapshot

/-- Holds of the members of the channel. -/
def isMember (snapshot : Snapshot) (user : Id) : Bool :=
  snapshot.profiles.contains user

/-- The presence of a user. -/
def presenceOf (snapshot : Snapshot) (user : Id) : Presence :=
  (snapshot.presence.get? user).getD .offline

/-- The preferences of a user for the channel. -/
def preferencesOf (snapshot : Snapshot) (user : Id) : ChannelPreferences :=
  (snapshot.preferences.get? user).getD {}

end Snapshot

/-- The thread that a reply belongs to. -/
structure Thread where
  rootAuthor : Option Id := none
  /-- The authors of the root and of the earlier replies. -/
  participants : List Id := []
  followers : List Id := []

/-- A user to notify. -/
structure Recipient where
  user : Id
  kind : MentionKind
  email : Bool
  push : Bool
  deriving Repr, DecidableEq

/-- Users outside the channel who were named. -/
structure Suggestions where
  /-- Those who could be asked in. -/
  outOfChannel : List User := []
  /-- Those who belong to none of the groups of the channel. -/
  outOfGroup : List User := []

/-- Who is notified of a post. -/
structure Plan where
  recipients : List Recipient := []
  suggestions : Suggestions := {}
  channelMentioned : Bool := false
  allMentioned : Bool := false
  hereMentioned : Bool := false

namespace Plan

/-- The recipient who is the user. -/
def recipient? (plan : Plan) (user : Id) : Option Recipient :=
  plan.recipients.find? (·.user = user)

/-- The number of emails. -/
def emailCount (plan : Plan) : Nat :=
  plan.recipients.countP (·.email)

/-- The number of push notifications. -/
def pushCount (plan : Plan) : Nat :=
  plan.recipients.countP (·.push)

end Plan

end ChatNotify
