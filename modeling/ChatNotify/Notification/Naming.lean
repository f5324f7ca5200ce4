import ChatNotify.Chat.Channel
import ChatNotify.Chat.Post
import ChatNotify.Chat.User

namespace ChatNotify

/-- What stands for the sender of the posts of the system. -/
def systemSenderName : String := "System"

/-- A user's name, with an at sign in front of a username. -/
def User.label (user : User) (format : NameFormat) : String :=
  match format with
  | .username => "@" ++ user.username
  | .fullName | .nicknameFullName => user.displayName format

/-- A post with what is needed to name its channel and its sender. -/
structure Announcement where
  post : Post
  channel : Channel
  sender : User
  profiles : Table Id User := ∅

namespace Announcement

/-- The name of the channel, as the recipient sees it: a direct conversation bears the name of the
sender, and a group the names of the others in alphabetical order. -/
def channelName (announcement : Announcement) (format : NameFormat) (recipient : Id) : String :=
  match announcement.channel.kind with
  | .direct => announcement.sender.label format
  | .group =>
    let others := announcement.profiles.values.filter (·.id ≠ recipient)
    ", ".intercalate ((others.map (·.displayName format)).mergeSort fun a b => a ≤ b)
  | .publicRoom | .privateRoom => announcement.channel.displayName

/-- The name of the sender. Posts of other programs may come under a name of their own, except in
direct conversations. -/
def senderName (announcement : Announcement) (format : NameFormat) (allowOverrides : Bool) : String :=
  let properties := announcement.post.properties
  let override := properties.overrideUsername.getD ""
  if announcement.post.kind.isSystem then systemSenderName
  else if allowOverrides && announcement.channel.kind ≠ .direct && properties.fromWebhook
      && override ≠ "" then override
  else announcement.sender.label format

end Announcement

end ChatNotify
