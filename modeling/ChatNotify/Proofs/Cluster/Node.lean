import ChatNotify.Cluster.Bus

namespace ChatNotify.Cluster

variable {cluster : Cluster} {number sender : Nat} {payload : String}

theorem broadcast_receive (flag : BusyFlag) (payload : String) : (flag.receive payload).broadcast = none := by
  unfold BusyFlag.receive
  split <;> rfl

theorem nodes_receive_of_ne (cluster : Cluster) (payload : String) (hne : number ≠ sender) :
    (cluster.receive number payload).nodes[sender]? = cluster.nodes[sender]? := by
  unfold receive
  cases cluster.nodes[number]? with
  | none => rfl
  | some node => exact List.getElem?_set_ne hne

theorem sent_receive (cluster : Cluster) (number : Nat) (payload : String) :
    (cluster.receive number payload).sent = cluster.sent := by
  unfold receive
  cases cluster.nodes[number]? <;> rfl

theorem failures_receive (cluster : Cluster) (number : Nat) (payload : String) :
    (cluster.receive number payload).failures = cluster.failures := by
  unfold receive
  cases cluster.nodes[number]? <;> rfl

/-- A property that no node but the sender can change by receiving is kept when a message spreads. -/
theorem spread_induction {P : Cluster → Prop} (hcluster : P cluster)
    (hreceive : ∀ cluster number, number ≠ sender → P cluster → P (cluster.receive number payload)) :
    P (cluster.spread sender payload) := by
  unfold spread
  generalize List.range cluster.nodes.length = numbers
  induction numbers generalizing cluster with
  | nil => exact hcluster
  | cons number numbers ih =>
    rw [List.foldl_cons]
    refine ih ?_
    split
    · exact hcluster
    · next hne => exact hreceive cluster number hne hcluster

theorem nodes_spread (cluster : Cluster) (sender : Nat) (payload : String) :
    (cluster.spread sender payload).nodes[sender]? = cluster.nodes[sender]? :=
  spread_induction (P := fun after => after.nodes[sender]? = cluster.nodes[sender]?) rfl
    fun after _ hne hsame => (nodes_receive_of_ne after payload hne).trans hsame

theorem sent_spread (cluster : Cluster) (sender : Nat) (payload : String) :
    (cluster.spread sender payload).sent = cluster.sent :=
  spread_induction (P := fun after => after.sent = cluster.sent) rfl
    fun after number _ hsame => (sent_receive after number payload).trans hsame

theorem failures_spread (cluster : Cluster) (sender : Nat) (payload : String) :
    (cluster.spread sender payload).failures = cluster.failures :=
  spread_induction (P := fun after => after.failures = cluster.failures) rfl
    fun after number _ hsame => (failures_receive after number payload).trans hsame

/-- A transition of a node with a transport has come about: the flag is what the transition has made of
it, and the message, if there is one, got out or counts as a failure. -/
structure Carries (cluster : Cluster) (number : Nat) (node : ClusterNode) (transition : BusyFlag.Transition)
    (after : Cluster) : Prop where
  nodes : after.nodes[number]? = some { node with flag := transition.flag }
  sent : after.sent =
    cluster.sent ++ if node.down then [] else transition.broadcast.toList.map (number, ·)
  failures : after.failures = cluster.failures + if node.down then transition.broadcast.toList.length else 0

variable {node : ClusterNode}

theorem carries_transit (hnode : cluster.nodes[number]? = some node) (hconnected : node.connected = true)
    (transition : BusyFlag.Transition) :
    cluster.Carries number node transition (cluster.transit number node transition) := by
  obtain ⟨hlt, -⟩ := List.getElem?_eq_some_iff.1 hnode
  have hset : (cluster.nodes.set number { node with flag := transition.flag })[number]? =
      some { node with flag := transition.flag } := List.getElem?_set_self hlt
  unfold transit
  cases hbroadcast : transition.broadcast with
  | none =>
    refine ⟨hset, ?_, ?_⟩
    · rw [hbroadcast]
      cases node.down <;> exact (List.append_nil _).symm
    · rw [hbroadcast]
      cases node.down <;> rfl
  | some state =>
    dsimp only
    rw [if_neg (by simp [hconnected])]
    by_cases hdown : node.down = true
    · rw [if_pos hdown]
      refine ⟨hset, ?_, ?_⟩
      · rw [if_pos hdown]
        exact (List.append_nil _).symm
      · rw [if_pos hdown, hbroadcast]
        rfl
    · rw [if_neg hdown]
      refine ⟨(nodes_spread ..).trans hset, ?_, ?_⟩
      · rw [sent_spread, if_neg hdown, hbroadcast]
        rfl
      · rw [failures_spread, if_neg hdown]
        rfl

theorem carries_act (hnode : cluster.nodes[number]? = some node) (hconnected : node.connected = true)
    (hpresent : node.present = true) (action : BusyFlag → BusyFlag.Transition) :
    cluster.Carries number node (action node.flag) (cluster.act number action) := by
  have hact : cluster.act number action = cluster.transit number node (action node.flag) := by
    rw [act, hnode]
    exact if_pos hpresent
  rw [hact]
  exact carries_transit hnode hconnected _

theorem carries_receive (hnode : cluster.nodes[number]? = some node) (hconnected : node.connected = true)
    (hpresent : node.present = true) (payload : String) :
    cluster.Carries number node (node.flag.receive payload) (cluster.receive number payload) := by
  obtain ⟨hlt, -⟩ := List.getElem?_eq_some_iff.1 hnode
  have hdeliver : deliver payload node =
      ({ node with flag := (node.flag.receive payload).flag }, (node.flag.receive payload).warnings) := by
    rw [deliver]
    exact if_pos (by rw [hconnected, hpresent]; rfl)
  refine ⟨?_, ?_, ?_⟩
  · rw [receive, hnode]
    dsimp only
    rw [hdeliver]
    exact List.getElem?_set_self hlt
  · rw [sent_receive, broadcast_receive]
    cases node.down <;> exact (List.append_nil _).symm
  · rw [failures_receive, broadcast_receive]
    cases node.down <;> rfl

end ChatNotify.Cluster
