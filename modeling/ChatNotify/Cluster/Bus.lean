import ChatNotify.Cluster.BusyFlag

namespace ChatNotify

/-- A node of the cluster. -/
structure ClusterNode where
  flag : BusyFlag
  /-- Whether the node is connected to the bus. -/
  connected : Bool := true
  /-- Whether the node's messages fail to get out. -/
  down : Bool := false
  /-- Whether the node is there at all. -/
  present : Bool := true

/-- The nodes of a cluster, and what has happened between them. -/
structure Cluster where
  nodes : List ClusterNode := []
  /-- The messages that got out, with the numbers of their senders. -/
  sent : List (Nat × BusyState) := []
  /-- The number of messages that did not get out. -/
  failures : Nat := 0
  warnings : List Warning := []

namespace Cluster

/-- Hands a payload to a node. -/
def deliver (payload : String) (node : ClusterNode) : ClusterNode × List Warning :=
  if node.connected && node.present then
    let transition := node.flag.receive payload
    ({ node with flag := transition.flag }, transition.warnings)
  else (node, [])

/-- Hands a payload to the node of that number. -/
def receive (cluster : Cluster) (number : Nat) (payload : String) : Cluster :=
  match cluster.nodes[number]? with
  | none => cluster
  | some node =>
    let (node, warnings) := deliver payload node
    { cluster with
      nodes := cluster.nodes.set number node
      warnings := cluster.warnings ++ warnings }

/-- Hands a payload to all nodes but one, in their order. -/
def spread (cluster : Cluster) (sender : Nat) (payload : String) : Cluster :=
  (List.range cluster.nodes.length).foldl (fun cluster number =>
    if number = sender then cluster else cluster.receive number payload) cluster

/-- Carries out a transition of a node and tells the others. -/
def transit (cluster : Cluster) (number : Nat) (node : ClusterNode)
    (transition : BusyFlag.Transition) : Cluster :=
  let cluster :=
    { cluster with
      nodes := cluster.nodes.set number { node with flag := transition.flag }
      warnings := cluster.warnings ++ transition.warnings }
  match transition.broadcast with
  | none => cluster
  | some state =>
    if !node.connected then cluster
    else if node.down then
      { cluster with
        failures := cluster.failures + 1
        warnings := cluster.warnings ++ [.busyStateNotBroadcast] }
    else { cluster with sent := cluster.sent ++ [(number, state)] }.spread number state.encode

/-- Lets a node act. -/
def act (cluster : Cluster) (number : Nat) (action : BusyFlag → BusyFlag.Transition) : Cluster :=
  match cluster.nodes[number]? with
  | some node => if node.present then cluster.transit number node (action node.flag) else cluster
  | none => cluster

/-- The end of the busy period as a node knows it after it has looked at the time. -/
def expiryOf (cluster : Cluster) (number : Nat) (now : Instant) : Cluster × Option LocalTime :=
  let cluster := cluster.act number (·.expire now)
  (cluster, cluster.nodes[number]?.bind (·.flag.expiry))

end Cluster

end ChatNotify
