import ChatNotify.Table
import ChatNotify.Text.Blank
import ChatNotify.Text.Lowercase

namespace ChatNotify

/-- Which posts cause a push notification. -/
inductive PushLevel where
  | all
  | mention
  | none
  deriving Repr, DecidableEq

/-- How present a user may be and still get push notifications. -/
inductive PushPresence where
  | online
  | away
  | offline
  deriving Repr, DecidableEq

/-- Which threads count as addressed to the user: none, those the user began, or those in which the
user takes part. -/
inductive CommentLevel where
  | never
  | root
  | any
  deriving Repr, DecidableEq

/-- A setting of a channel that may leave the matter to the user's general preference. -/
inductive Override where
  | inherit
  | on
  | off
  deriving Repr, DecidableEq

/-- Which posts make a channel unread. -/
inductive UnreadLevel where
  | all
  | mention
  deriving Repr, DecidableEq

/-- A user's preferences. -/
structure UserPreferences where
  email : Bool := true
  push : PushLevel := .mention
  pushPresence : PushPresence := .away
  /-- Whether mentions of the whole channel address the user. -/
  channelMentions : Bool := true
  /-- Whether the first name addresses the user. -/
  firstName : Bool := false
  /-- Words that address the user, in lower case. -/
  mentionKeys : List String := []
  comments : CommentLevel := .never
  deriving Repr, DecidableEq

/-- A user's preferences for one channel. -/
structure ChannelPreferences where
  email : Override := .inherit
  /-- `none` leaves the matter to the user's general preference. -/
  push : Option PushLevel := none
  markUnread : UnreadLevel := .all
  ignoreChannelMentions : Override := .inherit
  deriving Repr, DecidableEq

/-- The level of that name. -/
def PushLevel.ofText? : String → Option PushLevel
  | "all" => some .all
  | "mention" => some .mention
  | "none" => some .none
  | _ => Option.none

/-- The words of a list separated by commas, without white space around them and in lower case. -/
def readMentionKeys (text : String) : List String :=
  ((text.toList.splitOn ',').map (Text.trimBy Char.isBlank)).filterMap fun word =>
    if word.isEmpty then none else some (String.ofList (Text.lowercaseChars word))

/-- Reads a user's preferences. Keys that are not known are ignored, and a value that is not known
counts as the default. -/
def UserPreferences.read (settings : Table String String) : UserPreferences :=
  { email := settings.get? "email" ≠ some "false"
    push := ((settings.get? "push").bind PushLevel.ofText?).getD .mention
    pushPresence :=
      match settings.get? "push_status" with
      | some "online" => .online
      | some "offline" => .offline
      | _ => .away
    channelMentions := (settings.get? "channel").all (· = "true")
    firstName := settings.get? "first_name" = some "true"
    mentionKeys := ((settings.get? "mention_keys").map readMentionKeys).getD []
    comments :=
      match settings.get? "comments" with
      | some "root" => .root
      | some "any" => .any
      | _ => .never }

/-- Reads a user's preferences for a channel. -/
def ChannelPreferences.read (settings : Table String String) : ChannelPreferences :=
  { email :=
      match settings.get? "email" with
      | some "true" => .on
      | some "false" => .off
      | _ => .inherit
    push := (settings.get? "push").bind PushLevel.ofText?
    markUnread := if settings.get? "mark_unread" = some "mention" then .mention else .all
    ignoreChannelMentions :=
      match settings.get? "ignore_channel_mentions" with
      | some "on" => .on
      | some "off" => .off
      | _ => .inherit }

end ChatNotify
