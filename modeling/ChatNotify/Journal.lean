namespace ChatNotify

/-- The questions to collaborators. -/
inductive Question where
  | savePost
  | lastPostTime
  | postsSince
  | posts
  | saveFile
  | files
  | deleteFiles
  | memberCount
  | members
  | membersOfUser
  | updateMember
  | resolveNames
  | presence
  | profiles
  | groupMembers
  | permission
  | emailInterval
  deriving Repr, DecidableEq

/-- What is worth a warning. -/
inductive Warning where
  | namesNotResolved
  | groupsNotLoaded
  | presenceUnknown
  | membershipsNotLoaded
  | intervalNotRead
  | digestNotDelivered
  | storeCallFailed
  | malformedBusyState
  | busyStateNotBroadcast
  | busyPeriodOutOfRange
  deriving Repr, DecidableEq

/-- The text of a warning. -/
def Warning.text : Warning → String
  | .namesNotResolved => "Failed to resolve potential out-of-channel mentions"
  | .groupsNotLoaded => "Failed to load group members for constrained channel"
  | .presenceUnknown => "Status lookup failed; assuming offline"
  | .membershipsNotLoaded => "Failed to load memberships for email digest"
  | .intervalNotRead => "Failed to read email interval preference"
  | .digestNotDelivered => "Failed to deliver email digest"
  | .storeCallFailed => "Store call failed"
  | .malformedBusyState => "Ignoring malformed busy state from peer"
  | .busyStateNotBroadcast => "Failed to broadcast busy state"
  | .busyPeriodOutOfRange => "Busy duration out of range; clearing instead"

/-- A value, the questions asked on the way to it, and the warnings given, in order. -/
structure Logged (α : Type) where
  value : α
  questions : List Question := []
  warnings : List Warning := []

namespace Logged

variable {α β : Type}

/-- One piece of work after another. -/
def andThen (first : Logged α) (next : α → Logged β) : Logged β :=
  let second := next first.value
  { value := second.value
    questions := first.questions ++ second.questions
    warnings := first.warnings ++ second.warnings }

instance : Monad Logged where
  pure value := { value }
  bind := andThen

/-- The answer to a question. No other way leads to the answer of a collaborator, so that the
account names every question. -/
def ask (question : Question) (answer : α) : Logged α :=
  { value := answer, questions := [question] }

/-- Gives a warning. -/
def warn (warning : Warning) : Logged Unit :=
  { value := (), warnings := [warning] }

end Logged

end ChatNotify
