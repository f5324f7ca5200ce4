import ChatNotify.Cache.Hook

namespace ChatNotify.Cache

/-- What to drop after several events. -/
structure InvalidationPlan where
  /-- The namespaces to clear. -/
  cleared : List Namespace := []
  /-- What to drop outside of these namespaces, each target once. -/
  targets : List Target := []
  /-- The number of different events. -/
  eventCount : Nat := 0
  deriving Repr, DecidableEq

/-- The events, each of them once, where it comes first. -/
def distinctEvents (events : List Published) : List Published :=
  events.foldl (fun seen event => if seen.any (·.id = event.id) then seen else seen ++ [event]) []

/-- The namespace that a target clears. -/
def clearedBy? : Target → Option Namespace
  | .all space => some space
  | _ => none

namespace InvalidationPlan

/-- The plan for events under the rules. -/
def ofEvents (hooks : Hooks) (events : List Published) : InvalidationPlan :=
  let events := distinctEvents events
  let targets := (events.flatMap fun event => hooks.targets event.event).eraseDups
  let cleared := targets.filterMap clearedBy?
  { cleared := cleared
    targets := targets.filter fun target => target.space ∉ cleared
    eventCount := events.length }

/-- Holds when there is nothing to drop. -/
def isEmpty (plan : InvalidationPlan) : Bool :=
  plan.cleared.isEmpty && plan.targets.isEmpty

/-- The summary of a plan. -/
def text (plan : InvalidationPlan) : String :=
  "InvalidationPlan \x7b events: " ++ toString plan.eventCount ++ ", cleared: ["
    ++ ", ".intercalate (plan.cleared.map Namespace.text) ++ "], targets: "
    ++ toString plan.targets.length ++ " \x7d"

end InvalidationPlan

end ChatNotify.Cache
