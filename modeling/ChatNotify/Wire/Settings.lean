import ChatNotify.Telemetry.Startup
import ChatNotify.Wire.Reading

namespace ChatNotify.Wire

/-- Reads the name of a format. -/
def documentFormat : Reader Settings.Format := fun json => do
  match ← text json with
  | "json" => return .json
  | "toml" => return .toml
  | _ => .error .malformed

/-- Reads a document with settings. -/
def settingsDocument : Reader Settings.Document := fun json => do
  return { format := ← defaulted json "ext" .json documentFormat, text := ← defaulted json "text" "" text }

/-- Reads what settings come from. -/
def settingsSources : Reader Settings.Sources := fun json => do
  let isMissing ← defaulted json "explicit_missing" false bool
  let requested ← optional json "explicit" settingsDocument
  return {
    defaults := ← optional json "default" settingsDocument
    localFile := ← optional json "local" settingsDocument
    requested := if isMissing then .missing else requested.elim .nothing .document
    environment := ← defaulted json "env" [] (byName text) }

/-- Writes a span in whole seconds. -/
def writeSeconds (span : Span) : Json := .integer span.seconds

/-- Writes settings. -/
def writeSettings (settings : Settings) : Json :=
  .object [
    ("logging", .object [("level", .string settings.logLevel.text), ("json", .bool settings.logsJson)]),
    ("cache", settings.cache.toJson),
    ("notifications", .object [
      ("max_notifications_per_channel", .integer settings.maxMembers),
      ("email_batching_interval", writeSeconds settings.digestInterval),
      ("email_batching_cadence", writeSeconds settings.digestCadence),
      ("email_content", .string settings.digestContent.text)]),
    ("cluster", .object [
      ("busy_watcher_period", writeSeconds settings.watchPeriod),
      ("max_busy_duration", writeSeconds settings.longestBusy)])]

/-- Writes why there are no settings. -/
def writeLoadError : Settings.LoadError → Json
  | .unreadable => .object [("error", .string "Build")]
  | .invalid fault => .object [
    ("error", .string "Invalid"),
    ("key", .string fault.key.text),
    ("reason", .string fault.reason.text),
    ("message", .string fault.message),
    ("bootstrap", .string (StartupError.configuration fault).message)]

end ChatNotify.Wire
