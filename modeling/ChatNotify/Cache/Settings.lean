import ChatNotify.Cache.Key
import ChatNotify.Json.Record

namespace ChatNotify.Cache

/-- The settings of the cache. -/
structure Settings where
  enabled : Bool := true
  lastPostTimeLimit : Nat := 25000
  postsLimit : Nat := 2000
  fileInfoLimit : Nat := 25000
  memberCountLimit : Nat := 20000
  /-- After how many seconds a member count is too old; zero stands for never. -/
  memberCountTtl : Option Nat := some 1800
  /-- How many events are dealt with at a time. -/
  batchLimit : Nat := 100
  deriving Repr, DecidableEq

namespace Settings

/-- The limit that is set for a namespace. -/
def limit (settings : Settings) : Namespace → Nat
  | .lastPostTime => settings.lastPostTimeLimit
  | .posts => settings.postsLimit
  | .fileInfos => settings.fileInfoLimit
  | .memberCounts => settings.memberCountLimit

/-- The room of a namespace, which is never less than for one value. -/
def capacity (settings : Settings) (space : Namespace) : Nat :=
  max 1 (settings.limit space)

theorem capacity_pos (settings : Settings) (space : Namespace) : 0 < settings.capacity space :=
  Nat.lt_of_lt_of_le Nat.one_pos (Nat.le_max_left _ _)

/-- The time after which a value of a namespace is too old. -/
def ttl (settings : Settings) : Namespace → Option Span
  | .memberCounts => (settings.memberCountTtl.filter (0 < ·)).map Span.ofSeconds
  | .lastPostTime | .posts | .fileInfos => none

/-- How many events are dealt with at a time. -/
def batchSize (settings : Settings) : Nat :=
  max 1 settings.batchLimit

/-- The names of the settings. -/
def names : List String :=
  ["enable", "last_post_time_limit", "posts_limit", "file_info_limit", "member_count_limit",
    "member_count_ttl_secs", "consume_batch_limit"]

/-- The settings as they are written. -/
def toJson (settings : Settings) : Json :=
  .object [("enable", .bool settings.enabled),
    ("last_post_time_limit", .integer settings.lastPostTimeLimit),
    ("posts_limit", .integer settings.postsLimit),
    ("file_info_limit", .integer settings.fileInfoLimit),
    ("member_count_limit", .integer settings.memberCountLimit),
    ("member_count_ttl_secs", (settings.memberCountTtl.map fun ttl => .integer ttl).getD .null),
    ("consume_batch_limit", .integer settings.batchLimit)]

/-- Reads settings, all of which may be missing. -/
def ofJson? (json : Json) : Option Settings := do
  let fields ← json.record? names
  let default : Settings := {}
  let limit (name : String) (default : Nat) : Option Nat :=
    Json.defaulted fields name default Json.nat?
  some
    { enabled := ← Json.defaulted fields "enable" default.enabled Json.bool?
      lastPostTimeLimit := ← limit "last_post_time_limit" default.lastPostTimeLimit
      postsLimit := ← limit "posts_limit" default.postsLimit
      fileInfoLimit := ← limit "file_info_limit" default.fileInfoLimit
      memberCountLimit := ← limit "member_count_limit" default.memberCountLimit
      memberCountTtl :=
        ← Json.defaulted fields "member_count_ttl_secs" default.memberCountTtl
          (Json.optional? Json.nat?)
      batchLimit := ← limit "consume_batch_limit" default.batchLimit }

end Settings

end ChatNotify.Cache
