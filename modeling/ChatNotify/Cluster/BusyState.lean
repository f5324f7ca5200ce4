import ChatNotify.Json.Reader
import ChatNotify.Json.Record
import ChatNotify.Json.Writer
import ChatNotify.Time.Timestamp

namespace ChatNotify

/-- What a node tells the others. The end of the period is written twice: as text, and as whole
seconds for readers that cannot make sense of the text. -/
structure BusyState where
  busy : Bool
  /-- The end of the period in seconds since 1970; zero when the server is not busy. -/
  expires : Int
  /-- The end of the period as text; the start of 1970 when the server is not busy. -/
  expiresText : String
  deriving Repr, DecidableEq

namespace BusyState

/-- The message about a busy period that ends then, or about its absence. -/
def ofExpiry (expiry : Option LocalTime) : BusyState :=
  { busy := expiry.isSome
    expires := (expiry.map fun time => time.instant.unixSeconds).getD 0
    expiresText := (expiry.getD { instant := .epoch }).text?.getD "" }

/-- The time that the message names: that of the text, or else that of the seconds. -/
def time? (state : BusyState) : Option LocalTime :=
  match LocalTime.ofText? state.expiresText with
  | some time => some time
  | none =>
    let instant : Instant := ⟨state.expires * nanosPerSecond⟩
    if instant.isInCalendar then some { instant := instant } else none

/-- The end of the busy period that the message tells of, if there is one. -/
def expiry? (state : BusyState) : Option LocalTime :=
  if state.busy then state.time? else none

/-- The message as JSON. -/
def toJson (state : BusyState) : Json :=
  .object [("busy", .bool state.busy), ("expires", .integer state.expires),
    ("expires_ts", .string state.expiresText)]

/-- The message that a JSON value is. -/
def ofJson? (json : Json) : Option BusyState := do
  let fields ← json.record? ["busy", "expires", "expires_ts"]
  some
    { busy := ← Json.required fields "busy" Json.bool?
      expires := ← Json.required fields "expires" Json.int?
      expiresText := ← Json.required fields "expires_ts" Json.text? }

/-- The message as it is sent. -/
def encode (state : BusyState) : String :=
  state.toJson.render

/-- The message that was sent, if the payload is one. -/
def decode? (payload : String) : Option BusyState :=
  (Json.parse? payload).bind ofJson?

end BusyState

end ChatNotify
