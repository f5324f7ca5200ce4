import ChatNotify.Id
import ChatNotify.Table
import ChatNotify.Mention.Kind

namespace ChatNotify

/-- The mentions found in a post. -/
structure Mentions where
  kinds : Table Id MentionKind := ∅
  channel : Bool := false
  all : Bool := false
  here : Bool := false
  /-- Names behind an at sign that belong to no keyword, in lower case and in order of first
  appearance. -/
  potential : List String := []
  deriving Inhabited

namespace Mentions

/-- Why a user is mentioned. -/
def kind? (mentions : Mentions) (user : Id) : Option MentionKind :=
  mentions.kinds.get? user

/-- Adds a mention, unless the user is mentioned with a higher tier. -/
def add (mentions : Mentions) (user : Id) (kind : MentionKind) : Mentions :=
  if (mentions.kind? user).any (kind.tier < ·.tier) then mentions
  else { mentions with kinds := mentions.kinds.insert user kind }

/-- Adds a mention of every user. -/
def addAll (mentions : Mentions) (users : List Id) (kind : MentionKind) : Mentions :=
  users.foldl (fun mentions user => mentions.add user kind) mentions

/-- Holds when the channel, all, or those here are addressed. -/
def isChannelWide (mentions : Mentions) : Bool :=
  mentions.channel || mentions.all || mentions.here

/-- Takes back what addresses the whole channel; other mentions stay. -/
def strip (mentions : Mentions) : Mentions :=
  { mentions with
    kinds := mentions.kinds.filter fun _ kind => kind ≠ .channel
    channel := false
    all := false
    here := false }

end Mentions

end ChatNotify
