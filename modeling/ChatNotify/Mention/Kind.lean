namespace ChatNotify

/-- Why a user is notified of a post. -/
inductive MentionKind where
  /-- The user follows the thread. -/
  | thread
  | directMessage
  /-- The user takes part in the thread, or began it. -/
  | comment
  /-- A name or keyword of the user occurs. -/
  | keyword
  /-- The whole channel is addressed. -/
  | channel
  deriving Repr, DecidableEq, Inhabited

namespace MentionKind

/-- The rank of a kind. A kind of higher tier takes the place of one of lower tier; keywords and
mentions of the channel share the highest one. -/
def tier : MentionKind → Nat
  | .thread => 0
  | .directMessage => 1
  | .comment => 2
  | .keyword | .channel => 3

/-- Holds when the user is addressed, and does not merely follow. -/
def isExplicit (kind : MentionKind) : Bool :=
  tier .directMessage ≤ kind.tier

/-- The written form. -/
def text : MentionKind → String
  | .thread => "thread"
  | .directMessage => "direct_message"
  | .comment => "comment"
  | .keyword => "keyword"
  | .channel => "channel"

/-- The kind with that written form. -/
def ofText? : String → Option MentionKind
  | "thread" => some .thread
  | "direct_message" => some .directMessage
  | "comment" => some .comment
  | "keyword" => some .keyword
  | "channel" => some .channel
  | _ => none

end MentionKind

end ChatNotify
