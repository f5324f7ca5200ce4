import ChatNotify.Cache.Together
import ChatNotify.Wire.Chat

namespace ChatNotify.Wire

open Cache

/-- A kind of event. -/
def eventKind : Reader EventKind := fun json => do
  match ← text json with
  | "post_created" => return .postCreated
  | "posts_changed" => return .postsChanged
  | "file_infos_changed" => return .fileInfosChanged
  | "channel_members_changed" => return .channelMembersChanged
  | "clear_all" => return .clearAll
  | _ => .error .malformed

/-- An event. -/
def event : Reader Event := fun json => do
  match ← required json "type" eventKind with
  | .postCreated =>
    return .postCreated (← required json "channel_id" id) (← defaulted json "post_id" .nil id)
  | .postsChanged => return .postsChanged (← required json "channel_id" id)
  | .fileInfosChanged => return .fileInfosChanged (← required json "post_id" id)
  | .channelMembersChanged => return .channelMembersChanged (← required json "channel_id" id)
  | .clearAll => return .clearAll

/-- A namespace. -/
def space : Reader Namespace := fun json => do expect (Namespace.ofText? (← text json))

/-- A target, whose identifier may be that of an event. -/
def targetOf : Reader (Event → Target) := fun json => do
  let subject : Event → Id ← match field? json "id" with
    | some (.string "@event") => pure Event.subject
    | some value => (fun fixed _ => fixed) <$> id value
    | none => pure fun _ => .nil
  match ← required json "type" text with
  | "last_post_time" => return fun event => .lastPostTime (subject event)
  | "posts" => return fun event => .posts (subject event)
  | "member_count" => return fun event => .memberCount (subject event)
  | "file_infos" =>
    let withDeleted ← defaulted json "include_deleted" false bool
    return fun event => .fileInfos (subject event) withDeleted
  | "all" => (fun space _ => .all space) <$> required json "namespace" space
  | _ => .error .malformed

/-- A target. -/
def target : Reader Target := fun json => return (← targetOf json) .clearAll

/-- A rule. -/
def rule : Reader Hook := fun json => do
  let kind ← required json "event" eventKind
  let targets ← required json "keys" (list targetOf)
  return { kind, targets := fun event => targets.map (· event) }

/-- Rules: the standard ones or none, and more after them. -/
def hooks : Reader Hooks := fun json => do
  let first ← match ← defaulted json "hooks" "default" text with
    | "default" | "with_defaults" => pure Hooks.standard
    | "empty" => pure {}
    | _ => .error .malformed
  let more ← defaulted json "extra_hooks" [] (list rule)
  return ⟨first.rules ++ more⟩

/-- The settings of the cache. -/
def cacheSettings : Reader Cache.Settings := fun json =>
  accept "CacheConfig" (Cache.Settings.ofJson? json)

/-- What to look up. -/
def lookup : Reader Lookup := fun json => do
  let key ← required json "id" id
  match ← required json "namespace" space with
  | .lastPostTime => return ⟨.lastPostTime, key⟩
  | .posts => return ⟨.posts, (key, ← defaulted json "per_page" 60 nat)⟩
  | .fileInfos => return ⟨.fileInfos, (key, ← defaulted json "include_deleted" false bool)⟩
  | .memberCounts => return ⟨.memberCounts, key⟩

/-- A value to put on a shelf; lists are empty. -/
def value (json : Json) : (space : Namespace) → Reading space.Value
  | .lastPostTime => required json "value" instant
  | .posts => pure {}
  | .fileInfos => pure []
  | .memberCounts => required json "value" nat

/-- A request. -/
def request (json : Json) : String → Reading (Option Request)
  | "last_post_time" => return some (.lastPostTime (← channelId) (← fromCache))
  | "etag" => return some (.etag (← channelId) (← fromCache))
  | "posts_since" =>
    return some (.postsSince (← channelId) (← required json "since" instant) (← fromCache))
  | "get_posts" =>
    return some (.postsPage (← channelId) (← defaulted json "page" 0 nat)
      (← defaulted json "per_page" 60 nat) (← fromCache))
  | "files" =>
    return some (.files (← required json "post" id) (← defaulted json "deleted" false bool)
      (← fromCache))
  | "member_count" => return some (.memberCount (← channelId) (← fromCache))
  | "members" => return some (.members (← channelId))
  | "members_for_user" =>
    return some (.membersOfUser (← defaulted json "team" "team" text) (← required json "user" id))
  | "save_post" => return some (.savePost (← required json "post" (post .nil)))
  | "save_file" => return some (.saveFile (← required json "file" file))
  | "delete_files" => return some (.deleteFiles (← required json "post" id))
  | "update_member" => return some (.updateMember (← required json "member" (member .nil)))
  | _ => return none
where
  channelId : Reading Id := required json "channel" id
  fromCache : Reading Bool := defaulted json "cache" true bool

/-- A cached value. -/
def writeValue : (space : Namespace) → space.Value → Json
  | .lastPostTime, time => writeInstant time
  | .posts, posts => writePosts posts
  | .fileInfos, files => writeFiles files
  | .memberCounts, count => writeNat count

/-- A reply. -/
def writeReply : Reply → Json
  | .value space value => writeValue space value
  | .etag tag => .string tag
  | .posts posts => writePosts posts
  | .savedPost post => writeId post.id
  | .savedFile file => writeId file.id
  | .deletedFiles _ => .null
  | .members members => writeMembers members
  | .updatedMember member => writeMembers [member]

/-- Targets. -/
def writeTargets : List Target → Json :=
  writeList fun target => .string target.text

/-- How many values the shelves hold, and their epochs. -/
def writeShelves (shelves : Shelves) : List (String × Json) :=
  [("sizes", writeList (fun space => writeNat (shelves.shelf space).size) Namespace.all),
    ("epochs", writeList (fun space => writeNat (shelves.shelf space).epoch) Namespace.all)]

end ChatNotify.Wire
