namespace ChatNotify

/-- Names a request for a gate. -/
abbrev Ticket := Nat

/-- A gate with those who hold it or wait for it. Passing it on happens in two steps, as those who
wait do not run at every moment: it belongs to the first of the waiting when the holder leaves, and
that one enters when it is next looked after. -/
structure Gate where
  /-- The request that the gate belongs to. -/
  owner : Option Ticket := none
  /-- Whether the owner has entered. -/
  entered : Bool := false
  /-- The other requests, in the order in which they were made. -/
  waiting : List Ticket := []
  deriving Repr, DecidableEq

namespace Gate

/-- Asks for the gate, and enters at once if it is free. -/
def ask (gate : Gate) (ticket : Ticket) : Gate :=
  match gate.owner with
  | none => { gate with owner := some ticket, entered := true }
  | some _ => { gate with waiting := gate.waiting ++ [ticket] }

/-- Lets the owner enter. -/
def enter (gate : Gate) (ticket : Ticket) : Gate :=
  if gate.owner = some ticket then { gate with entered := true } else gate

/-- Holds of the request that has entered. -/
def isHeldBy (gate : Gate) (ticket : Ticket) : Bool :=
  gate.owner = some ticket && gate.entered

/-- Passes the gate on to the first of the waiting. -/
def passOn (gate : Gate) : Gate :=
  match gate.waiting with
  | [] => { owner := none, entered := false, waiting := [] }
  | next :: rest => { owner := some next, entered := false, waiting := rest }

/-- Takes a request back, whether it holds the gate, has it without having entered, or waits. -/
def leave (gate : Gate) (ticket : Ticket) : Gate :=
  if gate.owner = some ticket then gate.passOn
  else { gate with waiting := gate.waiting.erase ticket }

/-- Holds when nobody has the gate and nobody waits for it. -/
def isDeserted (gate : Gate) : Bool :=
  gate.owner.isNone && gate.waiting.isEmpty

end Gate

end ChatNotify
