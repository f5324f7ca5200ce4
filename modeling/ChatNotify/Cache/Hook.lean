import ChatNotify.Cache.Event
import ChatNotify.Cache.Key

namespace ChatNotify.Cache

/-- A rule for the events of one kind. -/
structure Hook where
  kind : EventKind
  targets : Event → List Target

/-- The rules, in the order in which they were registered. -/
structure Hooks where
  rules : List Hook := []

namespace Hooks

/-- Adds a rule after the others. -/
def register (hooks : Hooks) (kind : EventKind) (targets : Event → List Target) : Hooks :=
  ⟨hooks.rules ++ [⟨kind, targets⟩]⟩

/-- The rules for the events of a kind. -/
def ofKind (hooks : Hooks) (kind : EventKind) : List Hook :=
  hooks.rules.filter (·.kind = kind)

/-- What to drop after an event. -/
def targets (hooks : Hooks) (event : Event) : List Target :=
  (hooks.ofKind event.kind).flatMap (·.targets event)

/-- What an event makes out of date in a cache of a chat. -/
def standardTargets : Event → List Target
  | .postCreated channel _ | .postsChanged channel => [.lastPostTime channel, .posts channel]
  | .fileInfosChanged post => Target.fileInfosOf post
  | .channelMembersChanged channel => [.memberCount channel]
  | .clearAll => Namespace.all.map Target.all

/-- One rule for every kind of event. -/
def standard : Hooks :=
  ⟨[EventKind.postCreated, .postsChanged, .fileInfosChanged, .channelMembersChanged, .clearAll].map
    fun kind => { kind := kind, targets := standardTargets }⟩

end Hooks

end ChatNotify.Cache
