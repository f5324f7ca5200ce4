import ChatNotify.Id

namespace ChatNotify.Cache

/-- What has changed. -/
inductive Event where
  | postCreated (channel post : Id)
  | postsChanged (channel : Id)
  | fileInfosChanged (post : Id)
  | channelMembersChanged (channel : Id)
  /-- Everything may have changed. -/
  | clearAll
  deriving Repr, DecidableEq

/-- The kinds of events. -/
inductive EventKind where
  | postCreated
  | postsChanged
  | fileInfosChanged
  | channelMembersChanged
  | clearAll
  deriving Repr, DecidableEq

/-- The kind of an event. -/
def Event.kind : Event → EventKind
  | .postCreated .. => .postCreated
  | .postsChanged _ => .postsChanged
  | .fileInfosChanged _ => .fileInfosChanged
  | .channelMembersChanged _ => .channelMembersChanged
  | .clearAll => .clearAll

/-- The channel or post that has changed, if it is one. -/
def Event.subject : Event → Id
  | .postCreated channel _ => channel
  | .postsChanged channel => channel
  | .fileInfosChanged post => post
  | .channelMembersChanged channel => channel
  | .clearAll => .nil

/-- An event that has been published. -/
structure Published where
  /-- Tells the event from all others, also if it arrives twice. -/
  id : Id
  /-- The place of the event among those published. -/
  sequence : Nat
  event : Event
  deriving Repr, DecidableEq

/-- The events that wait, in the order in which they were published. -/
structure EventQueue where
  pending : List Published := []
  /-- The number of events published so far. -/
  published : Nat := 0
  /-- Whether the length of the queue has been reported. -/
  reported : Bool := false

namespace EventQueue

/-- The number of events that wait. -/
def size (queue : EventQueue) : Nat :=
  queue.pending.length

/-- Publishes an event. -/
def publish (queue : EventQueue) (event : Event) : EventQueue :=
  { pending := queue.pending ++ [{ id := ⟨queue.published⟩, sequence := queue.published, event }]
    published := queue.published + 1
    reported := true }

/-- Takes the first events out of the queue, up to a limit. -/
def drain (queue : EventQueue) (limit : Nat) : EventQueue × List Published :=
  ({ queue with pending := queue.pending.drop limit, reported := true }, queue.pending.take limit)

/-- The length that was reported last. -/
def reportedSize? (queue : EventQueue) : Option Nat :=
  if queue.reported then some queue.size else none

end EventQueue

end ChatNotify.Cache
