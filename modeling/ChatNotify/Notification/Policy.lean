import ChatNotify.Mention.Keyword
import ChatNotify.Mention.Mentions
import ChatNotify.Notification.Eligibility
import ChatNotify.Notification.Suggestion

namespace ChatNotify

/-- The rules of notification. -/
structure Policy where
  /-- The largest channel that may be mentioned as a whole. -/
  maxMembers : Nat := 1000

namespace Policy

/-- Holds if mentions of the whole channel count in a post of that kind. -/
def allowsChannelMentions (policy : Policy) (kind : PostKind) (memberCount : Nat)
    (permitted : Bool) : Bool :=
  kind ≠ .headerChange && kind ≠ .purposeChange && permitted && memberCount ≤ policy.maxMembers

end Policy

/-- Takes back mentions of the whole channel if they do not count, and else lets `@here` mention
those who are here. -/
def settleChannelMentions (mentions : Mentions) (allowed : Bool) (keywords : KeywordIndex) : Mentions :=
  if !allowed then mentions.strip
  else if mentions.here then mentions.addAll ((keywords.get? Reserved.here).getD []) .channel
  else mentions

/-- Adds the other side of a direct conversation. -/
def addConversation (mentions : Mentions) (snapshot : Snapshot) (author : Id) : Mentions :=
  if snapshot.channel.kind = .direct then
    mentions.addAll (snapshot.profiles.keys.filter (· ≠ author)) .directMessage
  else mentions

/-- Holds of the participants of a thread who want to know of replies. -/
def wantsReplies (snapshot : Snapshot) (thread : Thread) (user : Id) : Bool :=
  (snapshot.profiles.get? user).any fun profile =>
    match profile.preferences.comments with
    | .any => true
    | .root => thread.rootAuthor = some user
    | .never => false

/-- Adds those who take part in the thread of a reply, and those who follow it. -/
def addThread (mentions : Mentions) (snapshot : Snapshot) (post : Post) (thread : Option Thread) :
    Mentions :=
  match thread, post.root with
  | some thread, some _ =>
    (mentions.addAll (thread.participants.filter (wantsReplies snapshot thread)) .comment).addAll
      thread.followers .thread
  | _, _ => mentions

/-- All mentions that count for a post. -/
def settledMentions (snapshot : Snapshot) (post : Post) (thread : Option Thread)
    (keywords : KeywordIndex) (allowed : Bool) (mentions : Mentions) : Mentions :=
  let mentions := settleChannelMentions mentions allowed keywords
  let mentions := addConversation mentions snapshot post.user
  addThread mentions snapshot post thread

/-- The recipient that a member mentioned in that way is. -/
def recipientOf (snapshot : Snapshot) (post : Post) (user : User) (id : Id) (kind : MentionKind) :
    Recipient :=
  let presence := snapshot.presenceOf id
  let preferences := snapshot.preferencesOf id
  { user := id
    kind := kind
    email := allowsEmail user presence preferences post.kind kind.isExplicit
    push := allowsPush user presence preferences kind }

/-- The recipients of a post: the mentioned members, except its author. -/
def recipientsOf (snapshot : Snapshot) (post : Post) (mentions : Mentions) : List Recipient :=
  (mentions.kinds.entries.filterMap fun (id, kind) =>
    if id = post.user then none
    else (snapshot.profiles.get? id).map fun user => recipientOf snapshot post user id kind).mergeSort
      fun a b => a.user ≤ b.user

/-- The plan for a post with the mentions found in it. -/
def Plan.make (directory : Directory) (snapshot : Snapshot) (post : Post) (thread : Option Thread)
    (keywords : KeywordIndex) (allowed : Bool) (mentions : Mentions) : Logged Plan := do
  let suggestions ← Suggestions.find directory snapshot post mentions.potential
  let settled := settledMentions snapshot post thread keywords allowed mentions
  return {
    recipients := recipientsOf snapshot post settled
    suggestions := suggestions
    channelMentioned := settled.channel
    allMentioned := settled.all
    hereMentioned := settled.here }

end ChatNotify
