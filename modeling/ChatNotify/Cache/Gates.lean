import ChatNotify.Gate
import ChatNotify.Table

namespace ChatNotify.Cache

/-- The gates that somebody has asked for. A gate is made when it is first asked for, and taken away
when its holder leaves it to nobody. -/
structure Gates (κ : Type) where
  table : Table κ Gate := ∅

namespace Gates

variable {κ : Type} [DecidableEq κ]

instance : Inhabited (Gates κ) := ⟨{}⟩

/-- The gate of a key; one that is not there is free. -/
def gate (gates : Gates κ) (key : κ) : Gate :=
  (gates.table.get? key).getD {}

omit [DecidableEq κ] in
/-- The number of gates. -/
def size (gates : Gates κ) : Nat :=
  gates.table.size

/-- Asks for the gate of a key. -/
def ask (gates : Gates κ) (key : κ) (ticket : Ticket) : Gates κ :=
  ⟨gates.table.insert key ((gates.gate key).ask ticket)⟩

/-- Lets a request enter if the gate belongs to it. -/
def enter (gates : Gates κ) (key : κ) (ticket : Ticket) : Gates κ :=
  match gates.table.get? key with
  | some gate => ⟨gates.table.insert key (gate.enter ticket)⟩
  | none => gates

/-- Holds of the request that has entered the gate of a key. -/
def isHeldBy (gates : Gates κ) (key : κ) (ticket : Ticket) : Bool :=
  (gates.gate key).isHeldBy ticket

/-- Ends a request. If it held the gate and leaves it to nobody, the gate is taken away; a request
that only waited leaves the gate where it is. -/
def leave (gates : Gates κ) (key : κ) (ticket : Ticket) : Gates κ :=
  match gates.table.get? key with
  | none => gates
  | some gate =>
    let left := gate.leave ticket
    if gate.isHeldBy ticket && left.isDeserted then ⟨gates.table.erase key⟩
    else ⟨gates.table.insert key left⟩

end Gates

end ChatNotify.Cache
