import ChatNotify.Cluster.BusyState
import ChatNotify.Journal

namespace ChatNotify

/-- The busy flag of a node. -/
structure BusyFlag where
  /-- The longest busy period. -/
  longest : Span
  /-- The end of the busy period, which may have passed without having been noticed. -/
  expiry : Option LocalTime := none

/-- What a transition of a flag leads to. -/
structure BusyFlag.Transition where
  flag : BusyFlag
  /-- What is to be told to the other nodes. -/
  broadcast : Option BusyState := none
  warnings : List Warning := []

namespace BusyFlag

/-- No busy period is longer than this, whatever the settings say. -/
def limit : Span := .ofSeconds (365 * 24 * 60 * 60)

/-- The longest busy period when the settings do not say. -/
def defaultLongest : Span := .ofSeconds (24 * 60 * 60)

/-- A flag that is not set. -/
def create (longest : Span) : BusyFlag :=
  { longest := longest.shortest limit }

/-- Takes the flag back, and tells so even if it was not set. -/
def clear (flag : BusyFlag) : Transition :=
  { flag := { flag with expiry := none }
    broadcast := some (.ofExpiry none) }

/-- Sets the flag for a span of time, which is cut to the longest one. No time at all takes the flag
back, and so does one that leads out of the calendar. -/
def set (flag : BusyFlag) (now : Instant) (span : Span) : Transition :=
  if span.nanos = 0 then flag.clear
  else
    let expiry : LocalTime := { instant := now.after (span.shortest flag.longest) }
    if expiry.instant.isInCalendar then
      { flag := { flag with expiry := some expiry }
        broadcast := some (.ofExpiry (some expiry)) }
    else { flag.clear with warnings := [.busyPeriodOutOfRange] }

/-- Notices that the busy period is over, and tells so. -/
def expire (flag : BusyFlag) (now : Instant) : Transition :=
  match flag.expiry with
  | some expiry => if expiry.instant ≤ now then flag.clear else { flag := flag }
  | none => { flag := flag }

/-- Takes over what another node tells. -/
def adopt (flag : BusyFlag) (state : BusyState) : BusyFlag :=
  { flag with expiry := state.expiry? }

/-- Takes over the message of another node, if the payload is one, without passing it on. -/
def receive (flag : BusyFlag) (payload : String) : Transition :=
  match BusyState.decode? payload with
  | some state => { flag := flag.adopt state }
  | none => { flag := flag, warnings := [.malformedBusyState] }

/-- What the node would tell now. It holds of a flag that has noticed what is over. -/
def state (flag : BusyFlag) : BusyState :=
  .ofExpiry flag.expiry

end BusyFlag

end ChatNotify
