namespace ChatNotify

/-- Whether a user can be reached. -/
inductive Presence where
  | online
  | away
  | offline
  | doNotDisturb
  | outOfOffice
  deriving Repr, DecidableEq, Inhabited

namespace Presence

/-- The written form. -/
def text : Presence → String
  | .online => "online"
  | .away => "away"
  | .offline => "offline"
  | .doNotDisturb => "dnd"
  | .outOfOffice => "ooo"

/-- The presence with that written form. -/
def ofText? : String → Option Presence
  | "online" => some .online
  | "away" => some .away
  | "offline" => some .offline
  | "dnd" => some .doNotDisturb
  | "ooo" => some .outOfOffice
  | _ => none

end Presence

end ChatNotify
