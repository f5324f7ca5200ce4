import ChatNotify.Cache.Settings
import ChatNotify.Settings.Value

namespace ChatNotify.Settings

/-- Settings as they were read, most of which may be missing. Spans are in seconds. -/
structure Draft where
  logLevel : Option String := none
  logsJson : Option Bool := none
  cache : Cache.Settings := {}
  maxMembers : Option Nat := none
  digestInterval : Option Nat := none
  digestCadence : Option Nat := none
  digestContent : Option String := none
  watchPeriod : Option Nat := none
  longestBusy : Option Nat := none
  deriving Repr, DecidableEq

namespace Draft

open Value

/-- Reads the settings of the cache. -/
def readCache? (value : Value) : Option Cache.Settings := do
  let fields ← value.record? Cache.Settings.names
  let default : Cache.Settings := {}
  some
    { enabled := ← defaulted fields "enable" default.enabled bool?
      lastPostTimeLimit :=
        ← defaulted fields "last_post_time_limit" default.lastPostTimeLimit count?
      postsLimit := ← defaulted fields "posts_limit" default.postsLimit count?
      fileInfoLimit := ← defaulted fields "file_info_limit" default.fileInfoLimit count?
      memberCountLimit := ← defaulted fields "member_count_limit" default.memberCountLimit count?
      memberCountTtl :=
        ← defaulted fields "member_count_ttl_secs" default.memberCountTtl (optional? count?)
      batchLimit := ← defaulted fields "consume_batch_limit" default.batchLimit count? }

/-- Reads settings. Keys that are no settings do not matter. -/
def ofValue? (value : Value) : Option Draft := do
  let sections := value.members
  let fields (name : String) (names : List String) : Option (List (String × Value)) :=
    defaulted sections name [] (record? names)
  let setting {α : Type} (fields : List (String × Value)) (name : String)
      (read : Value → Option α) : Option (Option α) :=
    defaulted fields name none (optional? read)
  let logging ← fields "logging" ["level", "json"]
  let notifications ← fields "notifications"
    ["max_notifications_per_channel", "email_batching_interval_seconds",
      "email_batching_cadence_seconds", "email_content"]
  let cluster ← fields "cluster" ["busy_watcher_period_seconds", "max_busy_duration_seconds"]
  some
    { logLevel := ← setting logging "level" text?
      logsJson := ← setting logging "json" bool?
      cache := ← defaulted sections "cache" {} readCache?
      maxMembers := ← setting notifications "max_notifications_per_channel" count?
      digestInterval := ← setting notifications "email_batching_interval_seconds" count?
      digestCadence := ← setting notifications "email_batching_cadence_seconds" count?
      digestContent := ← setting notifications "email_content" text?
      watchPeriod := ← setting cluster "busy_watcher_period_seconds" count?
      longestBusy := ← setting cluster "max_busy_duration_seconds" count? }

end Draft

end ChatNotify.Settings
