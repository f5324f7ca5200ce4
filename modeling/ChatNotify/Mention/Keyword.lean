import ChatNotify.Id
import ChatNotify.Table
import ChatNotify.Chat.Presence
import ChatNotify.Chat.User

namespace ChatNotify

namespace Reserved

/-- Addresses all members. -/
def channel : String := "@channel"

/-- Addresses all members. -/
def all : String := "@all"

/-- Addresses the members who are online. -/
def here : String := "@here"

end Reserved

/-- Holds of the words that address the whole channel, in any ASCII letter case. -/
def isReserved (word : List Char) : Bool :=
  [Reserved.channel, Reserved.all, Reserved.here].any fun reserved =>
    reserved.toList = word.map Char.toLower

/-- For every keyword the users that it belongs to, in the order in which they were added and with
repetitions. -/
structure KeywordIndex where
  table : Table String (List Id) := ∅
  deriving Inhabited

namespace KeywordIndex

/-- Adds a user to a keyword. -/
def add (index : KeywordIndex) (keyword : String) (user : Id) : KeywordIndex :=
  ⟨index.table.insert keyword ((index.table.get? keyword).getD [] ++ [user])⟩

/-- The users of a keyword. -/
def get? (index : KeywordIndex) (keyword : String) : Option (List Id) :=
  index.table.get? keyword

/-- The keywords with their users. -/
def entries (index : KeywordIndex) : List (String × List Id) :=
  index.table.entries

/-- The number of keywords. -/
def size (index : KeywordIndex) : Nat :=
  index.table.size

/-- The index of a list of keywords and users. -/
def ofList (pairs : List (String × Id)) : KeywordIndex :=
  pairs.foldl (fun index pair => index.add pair.1 pair.2) {}

/-- The keywords that belong to one member. Mentions of the channel address a member who wants them
in general and does not ignore them in the channel. -/
def ofMember (user : User) (preferences : Option ChannelPreferences) (presence : Option Presence)
    (allowChannel : Bool) : List String :=
  let ignores := preferences.any (·.ignoreChannelMentions = .on)
  ["@" ++ Text.lowercase user.username] ++ user.preferences.mentionKeys
    ++ (if user.preferences.firstName && user.firstName ≠ "" then [user.firstName] else [])
    ++ (if allowChannel && user.preferences.channelMentions && !ignores then
          [Reserved.channel, Reserved.all]
            ++ (if presence = some .online then [Reserved.here] else [])
        else [])

/-- The members in the order of their identifiers. -/
def inOrder (profiles : Table Id User) : List User :=
  profiles.values.mergeSort fun a b => a.id ≤ b.id

/-- The index of the members of a channel: for every keyword the members that it belongs to, in the
order of their identifiers, each as often as it belongs to them. -/
def build (profiles : Table Id User) (allowChannel : Bool)
    (preferences : Table Id ChannelPreferences) (presence : Table Id Presence) : KeywordIndex :=
  ofList ((inOrder profiles).flatMap fun user =>
    (ofMember user (preferences.get? user.id) (presence.get? user.id) allowChannel).map (·, user.id))

end KeywordIndex

end ChatNotify
