import ChatNotify.Chat.Post
import ChatNotify.Chat.Presence
import ChatNotify.Chat.User
import ChatNotify.Mention.Kind

namespace ChatNotify

/-- Holds if a post of that kind may be sent to the user by email: the user is neither online nor wants
to be left alone, has email switched on, in the channel or else in general, and the post is no
automatic reply. A channel that only mentions make unread needs a mention. -/
def allowsEmail (user : User) (presence : Presence) (channel : ChannelPreferences)
    (kind : PostKind) (isMention : Bool) : Bool :=
  let reachable :=
    match presence with
    | .online | .doNotDisturb | .outOfOffice => false
    | .away | .offline => true
  let wanted :=
    match channel.email with
    | .on => true
    | .off => false
    | .inherit => user.preferences.email
  reachable && wanted && (channel.markUnread = .all || isMention) && kind ≠ .autoResponder

/-- Holds if the presence is not too high for a push notification. -/
def PushPresence.admits : PushPresence → Presence → Bool
  | .online, _ => true
  | .away, presence => presence ≠ .online
  | .offline, presence => presence = .offline

/-- Holds if the user may get a push notification because of a mention of that kind. -/
def allowsPush (user : User) (presence : Presence) (channel : ChannelPreferences)
    (kind : MentionKind) : Bool :=
  let reachable := presence ≠ .doNotDisturb && presence ≠ .outOfOffice
  let wanted :=
    match channel.push.getD user.preferences.push with
    | .all => true
    | .mention => kind.isExplicit
    | .none => false
  reachable && wanted && user.preferences.pushPresence.admits presence

end ChatNotify
