import ChatNotify.Proofs.Cluster.TimedFlag
import ChatNotify.Proofs.Cluster.Wire

namespace ChatNotify.BusyFlag

/-- The busy flags of some nodes, and the messages between them. No message gets lost in a channel or passes another,
but any time may go by before it arrives. -/
structure Network (count : Nat) where
  flag : Fin count → BusyFlag
  /-- What is on the way from a node to another, the first to arrive in front. -/
  channel : Fin count → Fin count → List String

/-- What nodes do of their own accord. -/
inductive Event.IsOwn : Event → Prop
  | set (span : Span) : IsOwn (.set span)
  | clear : IsOwn .clear
  | query : IsOwn .query

/-- What happens in a network, and the end of the busy period that a node holds after it. -/
inductive Happening (count : Nat) where
  /-- A node sets or clears its flag, or notices that the busy period is over, and tells the others. -/
  | changed (node : Fin count) (expiry : Option LocalTime)
  /-- The message of a node arrives at another. -/
  | delivered (sender receiver : Fin count) (expiry : Option LocalTime)

variable {count : Nat}

namespace Network

/-- Nodes with new flags. -/
def create (longest : Fin count → Span) : Network count :=
  { flag := fun node => .create (longest node), channel := fun _ _ => [] }

/-- A transition comes about at a node, and its message, if there is one, sets out for all the others. -/
def act (network : Network count) (node : Fin count) (transition : Transition) : Network count :=
  { flag := fun other => if other = node then transition.flag else network.flag other
    channel := fun sender receiver =>
      network.channel sender receiver ++
        if sender = node ∧ receiver ≠ node then transition.broadcast.toList.map BusyState.encode else [] }

/-- The first message on the way from a node to another arrives. -/
def deliver (network : Network count) (sender receiver : Fin count) : Network count :=
  match network.channel sender receiver with
  | [] => network
  | payload :: waiting =>
    { flag := fun node =>
        if node = receiver then ((network.flag receiver).receive payload).flag else network.flag node
      channel := fun first second =>
        if first = sender ∧ second = receiver then waiting else network.channel first second }

/-- No message is on the way. -/
def IsQuiet (network : Network count) : Prop :=
  ∀ sender receiver, network.channel sender receiver = []

end Network

/-- The logs of all that may happen to new nodes, in any order. A look at a flag that notices nothing
leaves nothing in the log. -/
inductive Runs (longest : Fin count → Span) : List (Happening count) → Network count → Prop
  | start : Runs longest [] (.create longest)
  | change {log : List (Happening count)} {network : Network count} {event : Event} {state : BusyState}
      (hruns : Runs longest log network) (node : Fin count) (now : Instant) (hown : event.IsOwn)
      (htold : (event.transition (network.flag node) now).broadcast = some state) :
      Runs longest (log ++ [.changed node (event.transition (network.flag node) now).flag.expiry])
        (network.act node (event.transition (network.flag node) now))
  | look {log : List (Happening count)} {network : Network count} {event : Event}
      (hruns : Runs longest log network) (node : Fin count) (now : Instant) (hown : event.IsOwn)
      (htold : (event.transition (network.flag node) now).broadcast = none) :
      Runs longest log (network.act node (event.transition (network.flag node) now))
  | deliver {log : List (Happening count)} {network : Network count} {sender receiver : Fin count}
      {payload : String} {waiting : List String} (hruns : Runs longest log network)
      (hfirst : network.channel sender receiver = payload :: waiting) :
      Runs longest
        (log ++ [.delivered sender receiver ((network.deliver sender receiver).flag receiver).expiry])
        (network.deliver sender receiver)

namespace Happening

/-- What a node is given to hold. -/
def given? (node : Fin count) : Happening count → Option (Option LocalTime)
  | .changed actor expiry => if actor = node then some expiry else none
  | .delivered _ receiver expiry => if receiver = node then some expiry else none

/-- What sets out from a node to another. -/
def told? (sender receiver : Fin count) : Happening count → Option (Option LocalTime)
  | .changed actor expiry => if sender = actor ∧ receiver ≠ actor then some expiry else none
  | .delivered .. => none

/-- What arrives from a node at another. -/
def heard? (sender receiver : Fin count) : Happening count → Option (Option LocalTime)
  | .changed .. => none
  | .delivered first second expiry => if first = sender ∧ second = receiver then some expiry else none

end Happening

/-- The end of the busy period that a node holds. -/
def held (node : Fin count) (log : List (Happening count)) : Option LocalTime :=
  log.foldl (fun held happening => (happening.given? node).getD held) none

/-- All that a node has sent to another. -/
def told (sender receiver : Fin count) (log : List (Happening count)) : List (Option LocalTime) :=
  log.filterMap (·.told? sender receiver)

/-- All that has arrived from a node at another. -/
def heard (sender receiver : Fin count) (log : List (Happening count)) : List (Option LocalTime) :=
  log.filterMap (·.heard? sender receiver)

section

variable {node sender receiver : Fin count} {log : List (Happening count)} {expiry : Option LocalTime}

theorem held_concat (node : Fin count) (log : List (Happening count)) (happening : Happening count) :
    held node (log ++ [happening]) = (happening.given? node).getD (held node log) := by
  rw [held, List.foldl_append]
  rfl

theorem told_append (sender receiver : Fin count) (before after : List (Happening count)) :
    told sender receiver (before ++ after) = told sender receiver before ++ told sender receiver after :=
  List.filterMap_append

theorem heard_append (sender receiver : Fin count) (before after : List (Happening count)) :
    heard sender receiver (before ++ after) = heard sender receiver before ++ heard sender receiver after :=
  List.filterMap_append

theorem told_singleton (sender receiver : Fin count) (happening : Happening count) :
    told sender receiver [happening] = (happening.told? sender receiver).toList := by
  cases hhere : happening.told? sender receiver <;> simp [told, hhere]

theorem heard_singleton (sender receiver : Fin count) (happening : Happening count) :
    heard sender receiver [happening] = (happening.heard? sender receiver).toList := by
  cases hhere : happening.heard? sender receiver <;> simp [heard, hhere]

theorem mem_told (hmem : expiry ∈ told sender receiver log) :
    receiver ≠ sender ∧ .changed sender expiry ∈ log := by
  obtain ⟨happening, hhappening, htold⟩ := List.mem_filterMap.1 hmem
  cases happening with
  | changed actor other =>
    obtain ⟨⟨rfl, hne⟩, hsame⟩ := Option.ite_none_right_eq_some.1 htold
    cases hsame
    exact ⟨hne, hhappening⟩
  | delivered first second other => cases htold

theorem mem_heard : expiry ∈ heard sender receiver log ↔ .delivered sender receiver expiry ∈ log := by
  constructor
  · intro hmem
    obtain ⟨happening, hhappening, hheard⟩ := List.mem_filterMap.1 hmem
    cases happening with
    | changed actor other => cases hheard
    | delivered first second other =>
      obtain ⟨⟨hfirst, hsecond⟩, hsame⟩ := Option.ite_none_right_eq_some.1 hheard
      cases hsame
      rwa [← hfirst, ← hsecond]
  · intro hmem
    exact List.mem_filterMap.2 ⟨_, hmem, if_pos ⟨rfl, rfl⟩⟩

end

/-- The end of a busy period that a node can come to by itself. -/
def IsOfCalendar (expiry : Option LocalTime) : Prop :=
  ∀ time, expiry = some time → time.offset = 0 ∧ time.instant.isInCalendar = true

/-- What a node does of its own accord changes nothing that is worth telling, or is told. -/
theorem Event.IsOwn.transition_cases {event : Event} (hown : event.IsOwn) (flag : BusyFlag) (now : Instant) :
    event.transition flag now = { flag := flag } ∨
      (event.transition flag now).broadcast = some (.ofExpiry (event.transition flag now).flag.expiry) ∧
        IsOfCalendar (event.transition flag now).flag.expiry := by
  cases hown with
  | set span =>
    refine .inr ?_
    change (flag.set now span).broadcast = some (.ofExpiry (flag.set now span).flag.expiry) ∧
      IsOfCalendar (flag.set now span).flag.expiry
    unfold BusyFlag.set
    split
    · exact ⟨rfl, nofun⟩
    · dsimp only
      split
      · next hin => exact ⟨rfl, fun time htime => by cases htime; exact ⟨rfl, hin⟩⟩
      · exact ⟨rfl, nofun⟩
  | clear => exact .inr ⟨rfl, nofun⟩
  | query =>
    change flag.expire now = _ ∨ (flag.expire now).broadcast = some (.ofExpiry (flag.expire now).flag.expiry) ∧
      IsOfCalendar (flag.expire now).flag.expiry
    unfold expire
    split
    · split
      · exact .inr ⟨rfl, nofun⟩
      · exact .inl rfl
    · exact .inl rfl

/-- The log tells what every node holds, and what has been sent is what has arrived and what is on the
way. -/
structure Accounted (log : List (Happening count)) (network : Network count) : Prop where
  held : ∀ node, (network.flag node).expiry = held node log
  channel : ∀ sender receiver, ∃ past waiting, told sender receiver log = past ++ waiting ∧
    heard sender receiver log = past.map BusyState.arrived ∧
    network.channel sender receiver = waiting.map fun expiry => (BusyState.ofExpiry expiry).encode
  calendar : ∀ node expiry, .changed node expiry ∈ log → IsOfCalendar expiry

section

variable {log : List (Happening count)} {network : Network count}

theorem Network.act_unchanged (network : Network count) (node : Fin count) :
    network.act node { flag := network.flag node } = network := by
  have hflag (other : Fin count) : (if other = node then network.flag node else network.flag other) =
      network.flag other := by
    split
    · next h => rw [h]
    · rfl
  simp [act, hflag]

/-- The message about the end of a busy period makes a node hold that end. -/
theorem receive_encode (flag : BusyFlag) {expiry : Option LocalTime} (hcalendar : IsOfCalendar expiry) :
    (flag.receive (BusyState.ofExpiry expiry).encode).flag = { flag with expiry := BusyState.arrived expiry } := by
  have hdecode : BusyState.decode? (BusyState.ofExpiry expiry).encode = some (.ofExpiry expiry) :=
    BusyState.decode?_encode (BusyState.isSignedWord_expires fun time htime => (hcalendar time htime).2)
  rw [receive, hdecode]
  rfl

theorem Accounted.change_preserves_accounted (haccounted : Accounted log network) (node : Fin count)
    {transition : Transition} (htold : transition.broadcast = some (.ofExpiry transition.flag.expiry))
    (hcalendar : IsOfCalendar transition.flag.expiry) :
    Accounted (log ++ [.changed node transition.flag.expiry]) (network.act node transition) := by
  constructor
  case held =>
    intro other
    rw [held_concat]
    by_cases hhere : other = node
    · cases hhere
      simp [Network.act, Happening.given?]
    · simp [Network.act, Happening.given?, hhere, Ne.symm hhere, haccounted.held]
  case channel =>
    intro sender receiver
    obtain ⟨past, waiting, hsent, harrived, hchannel⟩ := haccounted.channel sender receiver
    rw [told_append, told_singleton, heard_append, heard_singleton]
    -- Only the channels that lead out of the node get longer.
    by_cases hout : sender = node ∧ receiver ≠ node
    · refine ⟨past, waiting ++ [transition.flag.expiry], ?_, ?_, ?_⟩
      · rw [hsent, Happening.told?, if_pos hout, List.append_assoc]
        rfl
      · rw [harrived]
        exact List.append_nil _
      · rw [Network.act]
        dsimp only
        rw [if_pos hout, hchannel, htold, List.map_append]
        rfl
    · refine ⟨past, waiting, ?_, ?_, ?_⟩
      · rw [hsent, Happening.told?, if_neg hout]
        exact List.append_nil _
      · rw [harrived]
        exact List.append_nil _
      · rw [Network.act]
        dsimp only
        rw [if_neg hout, hchannel, List.append_nil]
  case calendar =>
    intro other expiry hmem
    rcases List.mem_append.1 hmem with hbefore | hnow
    · exact haccounted.calendar other expiry hbefore
    · cases List.mem_singleton.1 hnow
      exact hcalendar

theorem Accounted.deliver_preserves_accounted (haccounted : Accounted log network) {sender receiver : Fin count}
    {payload : String} {tail : List String} (hfirst : network.channel sender receiver = payload :: tail) :
    Accounted (log ++ [.delivered sender receiver ((network.deliver sender receiver).flag receiver).expiry])
      (network.deliver sender receiver) := by
  obtain ⟨past, waiting, hsent, harrived, hchannel⟩ := haccounted.channel sender receiver
  rw [hfirst] at hchannel
  -- What arrives is the first of what was sent and has not arrived.
  obtain ⟨expiry, rest, rfl, rfl, rfl⟩ := List.map_eq_cons_iff.1 hchannel.symm
  have hmem : .changed sender expiry ∈ log := (mem_told (hsent ▸ List.mem_append_right _ List.mem_cons_self)).2
  have hreceive := receive_encode (network.flag receiver) (haccounted.calendar sender expiry hmem)
  have hdeliver : network.deliver sender receiver =
      { flag := fun node => if node = receiver then
          { network.flag receiver with expiry := BusyState.arrived expiry } else network.flag node
        channel := fun first second => if first = sender ∧ second = receiver then
          rest.map fun expiry => (BusyState.ofExpiry expiry).encode else network.channel first second } := by
    rw [Network.deliver, hfirst]
    simp only [hreceive]
  rw [hdeliver]
  constructor
  case held =>
    intro node
    rw [held_concat]
    by_cases hhere : node = receiver
    · cases hhere
      simp [Happening.given?]
    · simp [Happening.given?, hhere, Ne.symm hhere, haccounted.held]
  case channel =>
    intro first second
    rw [told_append, told_singleton, heard_append, heard_singleton]
    by_cases hhere : first = sender ∧ second = receiver
    · obtain ⟨rfl, rfl⟩ := hhere
      exact ⟨past ++ [expiry], rest, by simp [hsent, Happening.told?], by simp [harrived, Happening.heard?],
        if_pos ⟨rfl, rfl⟩⟩
    · obtain ⟨past, waiting, hsent, harrived, hchannel⟩ := haccounted.channel first second
      have helse : ¬ (sender = first ∧ receiver = second) := fun h => hhere ⟨h.1.symm, h.2.symm⟩
      exact ⟨past, waiting, by simp [hsent, Happening.told?], by simp [harrived, Happening.heard?, helse],
        (if_neg hhere).trans hchannel⟩
  case calendar =>
    intro node other hmem
    rcases List.mem_append.1 hmem with hbefore | hnow
    · exact haccounted.calendar node other hbefore
    · cases List.mem_singleton.1 hnow

/-- Every step of a run keeps the account. -/
theorem Runs.accounted {longest : Fin count → Span} (hruns : Runs longest log network) :
    Accounted log network := by
  induction hruns with
  | start => exact ⟨fun _ => rfl, fun _ _ => ⟨[], [], rfl, rfl, rfl⟩, nofun⟩
  | @change log network event state _ node now hown htold ih =>
    rcases hown.transition_cases (network.flag node) now with hsame | ⟨hstate, hcalendar⟩
    · rw [hsame] at htold
      cases htold
    · exact ih.change_preserves_accounted node hstate hcalendar
  | @look log network event _ node now hown htold ih =>
    rcases hown.transition_cases (network.flag node) now with hsame | ⟨hstate, -⟩
    · rwa [hsame, Network.act_unchanged]
    · rw [htold] at hstate
      cases hstate
  | deliver _ hfirst ih => exact ih.deliver_preserves_accounted hfirst

/-- As many messages are on the way as have been sent and not arrived. -/
theorem Accounted.length_channel (haccounted : Accounted log network) (sender receiver : Fin count) :
    (heard sender receiver log).length + (network.channel sender receiver).length =
      (told sender receiver log).length := by
  obtain ⟨past, waiting, htold, hheard, hchannel⟩ := haccounted.channel sender receiver
  rw [htold, hheard, hchannel, List.length_append, List.length_map, List.length_map]

theorem Accounted.heard_eq (haccounted : Accounted log network) {sender receiver : Fin count}
    (hempty : network.channel sender receiver = []) :
    heard sender receiver log = (told sender receiver log).map BusyState.arrived := by
  obtain ⟨past, waiting, htold, hheard, hchannel⟩ := haccounted.channel sender receiver
  rw [hempty] at hchannel
  obtain rfl := List.map_eq_nil_iff.1 hchannel.symm
  rw [htold, List.append_nil, hheard]

theorem Accounted.isQuiet (haccounted : Accounted log network)
    (hall : ∀ sender receiver, (heard sender receiver log).length = (told sender receiver log).length) :
    network.IsQuiet := by
  intro sender receiver
  have hlength := haccounted.length_channel sender receiver
  rw [hall sender receiver] at hlength
  exact List.eq_nil_of_length_eq_zero (Nat.add_eq_left.1 hlength)

/-- What has been sent and not arrived may arrive next. -/
theorem Runs.exists_delivered {longest : Fin count → Span} (hruns : Runs longest log network)
    (sender receiver : Fin count)
    (hwaiting : (heard sender receiver log).length < (told sender receiver log).length) :
    ∃ expiry later, Runs longest (log ++ [.delivered sender receiver expiry]) later := by
  have hlength := hruns.accounted.length_channel sender receiver
  cases hchannel : network.channel sender receiver with
  | nil =>
    rw [hchannel, List.length_nil] at hlength
    omega
  | cons payload waiting => exact ⟨_, _, hruns.deliver hchannel⟩

end

end ChatNotify.BusyFlag
