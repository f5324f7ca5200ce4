import ChatNotify.Cluster.BusyFlag
import ChatNotify.Digest.Entry
import ChatNotify.Digest.Verdict
import ChatNotify.Notification.Policy
import ChatNotify.Settings.Draft
import ChatNotify.Settings.Source
import ChatNotify.Telemetry.Level

namespace ChatNotify

/-- The settings of the program. -/
structure Settings where
  logLevel : LogLevel
  logsJson : Bool
  cache : Cache.Settings
  /-- The number of members up to which everyone in a channel can be mentioned at once. -/
  maxMembers : Nat
  /-- How long posts wait for a digest, for users who have not set it. -/
  digestInterval : Span
  /-- How often digests are looked after. -/
  digestCadence : Span
  digestContent : Digest.Content
  /-- How often it is noticed that a busy period is over. -/
  watchPeriod : Span
  longestBusy : Span
  deriving Repr, DecidableEq

namespace Settings

/-- The settings that are checked, in the order in which they are. -/
inductive Key where
  | logLevel
  | lastPostTimeLimit
  | postsLimit
  | fileInfoLimit
  | memberCountLimit
  | batchLimit
  | maxMembers
  | digestInterval
  | digestCadence
  | digestContent
  | longestBusy
  | watchPeriod
  deriving Repr, DecidableEq

/-- The name of a setting. -/
def Key.text : Key → String
  | .logLevel => "logging.level"
  | .lastPostTimeLimit => "cache.last_post_time_limit"
  | .postsLimit => "cache.posts_limit"
  | .fileInfoLimit => "cache.file_info_limit"
  | .memberCountLimit => "cache.member_count_limit"
  | .batchLimit => "cache.consume_batch_limit"
  | .maxMembers => "notifications.max_notifications_per_channel"
  | .digestInterval => "notifications.email_batching_interval_seconds"
  | .digestCadence => "notifications.email_batching_cadence_seconds"
  | .digestContent => "notifications.email_content"
  | .longestBusy => "cluster.max_busy_duration_seconds"
  | .watchPeriod => "cluster.busy_watcher_period_seconds"

/-- What is wrong with a setting. -/
inductive Reason where
  | unknownLevel
  | zero
  | zeroWhileCaching
  /-- The setting is neither of the two contents. -/
  | unknownContent (text : String)
  | tooLong
  deriving Repr, DecidableEq

/-- The text of a reason. -/
def Reason.text : Reason → String
  | .unknownLevel =>
    "failed to parse: error parsing level filter: expected one of \"off\", \"error\", \"warn\", "
      ++ "\"info\", \"debug\", \"trace\", or a number 0-5"
  | .zero => "must be greater than zero"
  | .zeroWhileCaching => "must be greater than zero while the cache is enabled"
  | .unknownContent text => "expected `full` or `generic`, got `" ++ text ++ "`"
  | .tooLong => "must not exceed " ++ Text.padded 1 BusyFlag.limit.seconds

/-- A setting that cannot be used. -/
structure Fault where
  key : Key
  reason : Reason
  deriving Repr, DecidableEq

/-- The report of a fault. -/
def Fault.message (fault : Fault) : String :=
  "invalid configuration for `" ++ fault.key.text ++ "`: " ++ fault.reason.text

namespace Draft

/-- Accepts a number that is not zero. -/
def positive (key : Key) (value : Nat) (reason : Reason) : Except Fault Nat :=
  if value = 0 then .error ⟨key, reason⟩ else .ok value

/-- Checks the level. -/
def checkLevel (draft : Draft) : Except Fault LogLevel :=
  match draft.logLevel with
  | none => .ok .info
  | some text =>
    match LogLevel.ofText? text with
    | some level => .ok level
    | none => .error ⟨.logLevel, .unknownLevel⟩

/-- Checks the limits of the cache, which do not matter while it is not enabled. -/
def checkCache (draft : Draft) : Except Fault Cache.Settings := do
  let cache := draft.cache
  if cache.enabled then
    let _ ← positive .lastPostTimeLimit cache.lastPostTimeLimit .zeroWhileCaching
    let _ ← positive .postsLimit cache.postsLimit .zeroWhileCaching
    let _ ← positive .fileInfoLimit cache.fileInfoLimit .zeroWhileCaching
    let _ ← positive .memberCountLimit cache.memberCountLimit .zeroWhileCaching
    let _ ← positive .batchLimit cache.batchLimit .zeroWhileCaching
  return cache

/-- Checks the content of digests, around which white space does not matter. -/
def checkContent (draft : Draft) : Except Fault Digest.Content :=
  match draft.digestContent.map Text.trimmed with
  | none => .ok .full
  | some text =>
    match Digest.Content.ofText? text with
    | some content => .ok content
    | none => .error ⟨.digestContent, .unknownContent text⟩

/-- Checks the longest busy period. -/
def checkLongestBusy (draft : Draft) : Except Fault Span := do
  let seconds ←
    positive .longestBusy (draft.longestBusy.getD BusyFlag.defaultLongest.seconds) .zero
  if BusyFlag.limit < .ofSeconds seconds then .error ⟨.longestBusy, .tooLong⟩
  else return .ofSeconds seconds

/-- The settings of a draft, or the first of them that cannot be used. What is accepted can be used
as it is, so that nothing adjusts it later. -/
def check (draft : Draft) : Except Fault Settings := do
  let logLevel ← draft.checkLevel
  let cache ← draft.checkCache
  let policy : Policy := {}
  let maxMembers ← positive .maxMembers (draft.maxMembers.getD policy.maxMembers) .zero
  let digestInterval ←
    positive .digestInterval (draft.digestInterval.getD Digest.standardInterval.seconds) .zero
  let digestCadence ← positive .digestCadence (draft.digestCadence.getD 30) .zero
  let digestContent ← draft.checkContent
  let longestBusy ← draft.checkLongestBusy
  let watchPeriod ← positive .watchPeriod (draft.watchPeriod.getD 60) .zero
  return {
    logLevel
    logsJson := draft.logsJson.getD false
    cache
    maxMembers
    digestInterval := .ofSeconds digestInterval
    digestCadence := .ofSeconds digestCadence
    digestContent
    watchPeriod := .ofSeconds watchPeriod
    longestBusy }

end Draft

/-- Why there are no settings. -/
inductive LoadError where
  /-- A source cannot be read, or a value is not what its setting asks for. -/
  | unreadable
  | invalid (fault : Fault)
  deriving Repr, DecidableEq

/-- Loads the settings. -/
def load (sources : Sources) : Except LoadError Settings :=
  match sources.read?.bind Draft.ofValue? with
  | none => .error .unreadable
  | some draft => draft.check.mapError .invalid

end Settings

end ChatNotify
