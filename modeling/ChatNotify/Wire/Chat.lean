import ChatNotify.Mention.Keyword
import ChatNotify.Mention.Mentions
import ChatNotify.Notification.Plan
import ChatNotify.Chat.Post
import ChatNotify.Failure
import ChatNotify.Wire.Reading

namespace ChatNotify.Wire

/-- The preferences of a user. -/
def userPreferences : Reader UserPreferences := fun json =>
  UserPreferences.read <$> accept "NotifyProps" json.texts?

/-- The preferences of a member. -/
def channelPreferences : Reader ChannelPreferences := fun json =>
  ChannelPreferences.read <$> accept "NotifyProps" json.texts?

/-- A presence. -/
def presence : Reader Presence := fun json => accept "PresenceStatus" (Json.name? Presence.ofText? json)

/-- A kind of mention. -/
def mentionKind : Reader MentionKind := fun json =>
  accept "MentionKind" (Json.name? MentionKind.ofText? json)

/-- A kind of channel. -/
def channelKind : Reader ChannelKind := fun json =>
  accept "ChannelType" (Json.name? ChannelKind.ofText? json)

/-- A kind of post. -/
def postKind : Reader PostKind := fun json => accept "PostType" (json.text?.map PostKind.ofText)

/-- The properties of a post. -/
def postProperties : Reader PostProperties := fun json =>
  accept "PostProps" (PostProperties.ofJson? json)

/-- A user. -/
def user : Reader User := fun json =>
  return {
    id := ← required json "id" id
    username := ← required json "username" text
    firstName := ← defaulted json "first_name" "" text
    lastName := ← defaulted json "last_name" "" text
    nickname := ← defaulted json "nickname" "" text
    isBot := ← defaulted json "is_bot" false bool
    deletedAt := ← optional json "deleted_at" instant
    preferences := ← defaulted json "notify_props" {} userPreferences }

/-- A channel. -/
def channel : Reader Channel := fun json =>
  return {
    id := ← required json "id" id
    team := ← optional json "team_id" id
    name := ← defaulted json "name" "" text
    displayName := ← defaulted json "display_name" "" text
    kind := ← defaulted json "type" .publicRoom channelKind
    groupConstrained := ← defaulted json "group_constrained" false bool }

/-- A post, which belongs to the given channel if it does not say to which. -/
def post (channel : Id) : Reader Post := fun json => do
  let createAt ← defaulted json "create_at" .epoch instant
  return {
    id := ← defaulted json "id" .nil id
    channel := ← defaulted json "channel_id" channel id
    user := ← defaulted json "user_id" .nil id
    root := ← optional json "root_id" id
    message := ← defaulted json "message" "" text
    kind := ← defaulted json "type" .regular postKind
    properties := ← defaulted json "props" {} postProperties
    createAt := createAt
    updateAt := ← defaulted json "update_at" createAt instant }

/-- A member, of the given channel if it does not say of which. -/
def member (channel : Id) : Reader Member := fun json =>
  return {
    channel := ← defaulted json "channel_id" channel id
    user := ← required json "user_id" id
    lastViewedAt := ← defaulted json "last_viewed_at" .epoch instant
    preferences := ← defaulted json "notify_props" {} channelPreferences }

/-- A file. -/
def file : Reader File := fun json =>
  return {
    id := ← required json "id" id
    post := ← optional json "post_id" id
    name := ← defaulted json "name" "" text
    size := ← defaulted json "size" 0 nat
    deletedAt := ← optional json "deleted_at" instant }

/-- A thread. -/
def thread : Reader Thread := fun json =>
  return {
    rootAuthor := ← optional json "root_author" id
    participants := ← defaulted json "participants" [] (list id)
    followers := ← defaulted json "followers" [] (list id) }

/-- Keywords with their users. -/
def keywords : Reader KeywordIndex := fun json =>
  KeywordIndex.ofList <$> list (pair text id) json

/-- An error of a store. -/
def storeError : Reader StoreError := fun json => do
  let message ← defaulted json "message" "" text
  match ← required json "kind" text with
  | "persistence" => return .persistence message
  | "not_found" => return .notFound
  | "invalid_input" => return .invalidInput message
  | "timeout" => return .timeout
  | _ => .error .malformed

/-- A list. -/
def writeList {α : Type} (write : α → Json) (values : List α) : Json :=
  .array (values.map write)

/-- A value that may be missing. -/
def writeOption {α : Type} (write : α → Json) (value : Option α) : Json :=
  (value.map write).getD .null

/-- Values by identifiers. -/
def writeById {α : Type} (write : α → Json) (entries : List (Id × α)) : Json :=
  .object (entries.map fun entry => (entry.1.text, write entry.2))

/-- A number. -/
def writeNat (value : Nat) : Json := .integer value

/-- An identifier. -/
def writeId (id : Id) : Json := .string id.text

/-- An instant. -/
def writeInstant (instant : Instant) : Json := .string (toString instant.nanos)

/-- A list of posts: the order, and of every post its message and its latest change. -/
def writePosts (posts : PostList) : Json :=
  .object [("order", writeList writeId posts.order),
    ("posts", writeById (fun post => .array [.string post.message, writeInstant post.updateAt])
      posts.posts.entries),
    ("len", writeNat posts.size), ("empty", .bool posts.isEmpty),
    ("latest", writeOption writeInstant posts.latestUpdate?)]

/-- Files. -/
def writeFiles : List File → Json :=
  writeList fun file =>
    .array [writeId file.id, .string file.name, writeNat file.size,
      writeOption writeInstant file.deletedAt]

/-- Members. -/
def writeMembers : List Member → Json :=
  writeList fun member =>
    .array [writeId member.channel, writeId member.user, writeInstant member.lastViewedAt]

/-- Mentions. -/
def writeMentions (mentions : Mentions) : Json :=
  .object [("mentions", writeById (fun kind => .string kind.text) mentions.kinds.entries),
    ("channel", .bool mentions.channel), ("all", .bool mentions.all), ("here", .bool mentions.here),
    ("channel_wide", .bool mentions.isChannelWide),
    ("potential", writeList .string mentions.potential)]

/-- A plan. -/
def writePlan (plan : Plan) : Json :=
  .object [
    ("recipients", writeList (fun recipient => .object [("user", writeId recipient.user),
      ("kind", .string recipient.kind.text), ("email", .bool recipient.email),
      ("push", .bool recipient.push),
      ("found", .bool (plan.recipient? recipient.user = some recipient))]) plan.recipients),
    ("out_of_channel", writeList (fun user => writeId user.id) plan.suggestions.outOfChannel),
    ("out_of_group", writeList (fun user => writeId user.id) plan.suggestions.outOfGroup),
    ("channel", .bool plan.channelMentioned), ("all", .bool plan.allMentioned),
    ("here", .bool plan.hereMentioned), ("emails", writeNat plan.emailCount),
    ("pushes", writeNat plan.pushCount)]

/-- The name of the kind of an error. -/
def storeErrorKind : StoreError → String
  | .persistence _ => "Persistence"
  | .notFound => "NotFound"
  | .invalidInput _ => "InvalidInput"
  | .timeout => "Timeout"

/-- An error: its kind and its message. -/
def writeError : ServiceError → Json
  | .store error =>
    .object [("error", .string (storeErrorKind error)), ("message", .string error.message)]
  | .cluster error => .object [("error", .string "Unavailable"), ("message", .string error.message)]
  | .validation message =>
    .object [("error", .string "Validation"),
      ("message", .string (ServiceError.validation message).message)]

end ChatNotify.Wire
