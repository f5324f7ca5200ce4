import ChatNotify.Proofs.Cluster.Node
import ChatNotify.Proofs.Log

namespace ChatNotify

namespace BusyFlag

/-- What may happen to a node. -/
inductive Event where
  | set (span : Span)
  | clear
  /-- A peer's state is taken over. -/
  | adopt (state : BusyState)
  /-- A payload comes in. -/
  | receive (payload : String)
  /-- The node is asked for its state, or its watcher looks at the time. -/
  | query

namespace Event

/-- The transition of a flag. -/
def transition (flag : BusyFlag) (now : Instant) : Event → Transition
  | .set span => flag.set now span
  | .clear => flag.clear
  | .adopt state => { flag := flag.adopt state }
  | .receive payload => flag.receive payload
  | .query => flag.expire now

/-- The end of the busy period that an event gives, if it gives one: an instant, or none at all. -/
def given? (longest : Span) (now : Instant) : Event → Option (Option LocalTime)
  | .set span =>
    let expiry : Instant := ⟨now.nanos + (min span.nanos (min longest.nanos limit.nanos) : Nat)⟩
    some (if span.nanos ≠ 0 ∧ expiry.isInCalendar then some { instant := expiry } else none)
  | .clear => some none
  | .adopt state => some state.expiry?
  | .receive payload => (BusyState.decode? payload).map BusyState.expiry?
  | .query => none

end Event

/-- An event, with the time of it, whether the messages of the node fail to get out then, and what the
node tries to tell the others. -/
structure Occurrence where
  time : Instant
  down : Bool
  event : Event
  told : Option BusyState

/-- The end of the busy period that was given last. The flag notices lazily that it has passed; this is what the flag
stands for all the same. -/
def target (longest : Span) (log : List Occurrence) : Option LocalTime :=
  log.foldl (fun target occurrence => (occurrence.event.given? longest occurrence.time).getD target) none

/-- The time is not before the end of the busy period. -/
def IsOver (longest : Span) (log : List Occurrence) (now : Instant) : Prop :=
  ∃ expiry, target longest log = some expiry ∧ expiry.instant ≤ now

/-- Since the end of the busy period was given, a query has come that was not before it. -/
inductive Noticed (longest : Span) : List Occurrence → Prop
  | now {log : List Occurrence} {occurrence : Occurrence} (hquery : occurrence.event = .query)
      (hover : IsOver longest log occurrence.time) : Noticed longest (log ++ [occurrence])
  | before {log : List Occurrence} {occurrence : Occurrence} (hnoticed : Noticed longest log)
      (hkeeps : occurrence.event.given? longest occurrence.time = none) : Noticed longest (log ++ [occurrence])

/-- What a node tries to tell the others at an occurrence that comes after the log: the state that it
has been given, that a busy period is over, at the first query that is not before its end, and nothing of
what it has from others. -/
inductive Tells (longest : Span) (log : List Occurrence) (occurrence : Occurrence) : Prop
  | set (span : Span) (hevent : occurrence.event = .set span)
      (htold : occurrence.told = some (.ofExpiry (target longest (log ++ [occurrence]))))
  | clear (hevent : occurrence.event = .clear) (htold : occurrence.told = some (.ofExpiry none))
  | adopt (state : BusyState) (hevent : occurrence.event = .adopt state) (htold : occurrence.told = none)
  | receive (payload : String) (hevent : occurrence.event = .receive payload) (htold : occurrence.told = none)
  | over (hevent : occurrence.event = .query) (hover : IsOver longest log occurrence.time)
      (hfirst : ¬ Noticed longest log) (htold : occurrence.told = some (.ofExpiry none))
  | quiet (hevent : occurrence.event = .query)
      (hnot : ¬ IsOver longest log occurrence.time ∨ Noticed longest log) (htold : occurrence.told = none)

end BusyFlag

namespace Cluster

open BusyFlag

/-- Lets an event happen to a node whose messages get out or fail to do so. -/
def happen (cluster : Cluster) (number : Nat) (now : Instant) (down : Bool) (event : Event) : Cluster :=
  let cluster := { cluster with nodes := cluster.nodes.modify number fun node => { node with down := down } }
  match event with
  | .receive payload => cluster.receive number payload
  | .query => (cluster.expiryOf number now).1
  | _ => cluster.act number fun flag => event.transition flag now

end Cluster

namespace BusyFlag

/-- The logs of all that may happen, in the order of time, to a node that is new in its cluster and has
a transport. -/
inductive Lives (number : Nat) (longest : Span) : List Occurrence → Cluster → Prop
  | start {cluster : Cluster} {node : ClusterNode} (hnode : cluster.nodes[number]? = some node)
      (hflag : node.flag = .create longest) (hconnected : node.connected = true)
      (hpresent : node.present = true) (hsent : cluster.sent = []) (hfailures : cluster.failures = 0) :
      Lives number longest [] cluster
  | step {log : List Occurrence} {cluster : Cluster} {node : ClusterNode}
      (hlives : Lives number longest log cluster) (hnode : cluster.nodes[number]? = some node)
      (now : Instant) (down : Bool) (event : Event) (hlater : ∀ earlier ∈ log, earlier.time ≤ now) :
      Lives number longest
        (log ++ [{ time := now, down := down, event := event
                   told := (event.transition node.flag now).broadcast }])
        (cluster.happen number now down event)

section

variable {longest : Span} {log : List Occurrence} {occurrence : Occurrence} {now : Instant}

theorem target_concat (longest : Span) (log : List Occurrence) (occurrence : Occurrence) :
    target longest (log ++ [occurrence]) =
      (occurrence.event.given? longest occurrence.time).getD (target longest log) := by
  rw [target, List.foldl_append]
  rfl

theorem IsOver.later (hover : IsOver longest log now) {after : Instant} (hle : now ≤ after) :
    IsOver longest log after := by
  obtain ⟨expiry, htarget, hpast⟩ := hover
  exact ⟨expiry, htarget, Instant.le_trans hpast hle⟩

theorem isOver_concat_iff (hkeeps : occurrence.event.given? longest occurrence.time = none) :
    IsOver longest (log ++ [occurrence]) now ↔ IsOver longest log now := by
  rw [IsOver, target_concat, hkeeps]
  rfl

theorem noticed_concat_iff : Noticed longest (log ++ [occurrence]) ↔
    occurrence.event.given? longest occurrence.time = none ∧
      (Noticed longest log ∨ occurrence.event = .query ∧ IsOver longest log occurrence.time) := by
  constructor
  · intro hnoticed
    generalize hwhole : log ++ [occurrence] = whole at hnoticed
    cases hnoticed with
    | now hquery hover =>
      obtain ⟨rfl, hlast⟩ := List.append_inj' hwhole rfl
      cases hlast
      exact ⟨by rw [hquery]; rfl, .inr ⟨hquery, hover⟩⟩
    | before hnoticed hkeeps =>
      obtain ⟨rfl, hlast⟩ := List.append_inj' hwhole rfl
      cases hlast
      exact ⟨hkeeps, .inl hnoticed⟩
  · rintro ⟨hkeeps, hnoticed | ⟨hquery, hover⟩⟩
    · exact .before hnoticed hkeeps
    · exact .now hquery hover

/-- A busy period whose end was noticed is over from then on. -/
theorem Noticed.isOver (hnoticed : Noticed longest log) (hlater : ∀ earlier ∈ log, earlier.time ≤ now) :
    IsOver longest log now := by
  induction hnoticed with
  | now hquery hover =>
    rw [isOver_concat_iff (by rw [hquery]; rfl)]
    exact hover.later (hlater _ (List.mem_append_right _ (List.mem_singleton_self _)))
  | before hnoticed hkeeps ih =>
    rw [isOver_concat_iff hkeeps]
    exact ih fun earlier hmem => hlater earlier (List.mem_append_left _ hmem)

end

section

variable {flag : BusyFlag} {longest : Span} {now : Instant} {event : Event}

theorem nanos_shortest (a b : Span) : (a.shortest b).nanos = min a.nanos b.nanos := by
  unfold Span.shortest
  split
  · next hle => exact (Nat.min_eq_left hle).symm
  · next hle => exact (Nat.min_eq_right (Nat.le_of_not_le hle)).symm

/-- Setting gives the end that the span leads to, and tells it. -/
theorem set_eq (hlongest : flag.longest = longest.shortest limit) (span : Span) :
    ∃ expiry, (Event.set span).given? longest now = some expiry ∧
      (flag.set now span).flag = { flag with expiry := expiry } ∧
      (flag.set now span).broadcast = some (.ofExpiry expiry) := by
  have hexpiry : now.after (span.shortest flag.longest) =
      ⟨now.nanos + (min span.nanos (min longest.nanos limit.nanos) : Nat)⟩ := by
    rw [hlongest, Instant.after, nanos_shortest, nanos_shortest]
  refine ⟨_, rfl, ?_⟩
  unfold set
  rw [hexpiry]
  by_cases hzero : span.nanos = 0
  · rw [if_pos hzero, if_neg fun h => h.1 hzero]
    exact ⟨rfl, rfl⟩
  · rw [if_neg hzero]
    dsimp only
    split
    · next hin => rw [if_pos ⟨hzero, hin⟩]; exact ⟨rfl, rfl⟩
    · next hout => rw [if_neg fun h => hout h.2]; exact ⟨rfl, rfl⟩

/-- What gives an end of the busy period makes the flag hold it. -/
theorem flag_transition_of_given (hlongest : flag.longest = longest.shortest limit)
    {expiry : Option LocalTime} (hgiven : event.given? longest now = some expiry) :
    (event.transition flag now).flag = { flag with expiry := expiry } := by
  cases event with
  | set span =>
    obtain ⟨found, hfound, hflag, -⟩ := set_eq hlongest span
    rw [hgiven] at hfound
    cases hfound
    exact hflag
  | clear => cases hgiven; rfl
  | adopt state => cases hgiven; rfl
  | receive payload =>
    obtain ⟨state, hstate, rfl⟩ := Option.map_eq_some_iff.1 hgiven
    change (flag.receive payload).flag = _
    rw [receive, hstate]
    rfl
  | query => cases hgiven

theorem flag_receive_of_malformed {payload : String} (hmalformed : BusyState.decode? payload = none) :
    (flag.receive payload).flag = flag := by
  rw [receive, hmalformed]

theorem expire_of_over {expiry : LocalTime} (hexpiry : flag.expiry = some expiry)
    (hpast : expiry.instant ≤ now) : flag.expire now = flag.clear := by
  rw [expire, hexpiry]
  exact if_pos hpast

theorem expire_of_not_over (hnot : ∀ expiry, flag.expiry = some expiry → ¬ expiry.instant ≤ now) :
    flag.expire now = { flag := flag } := by
  unfold expire
  split
  · next expiry hexpiry => exact if_neg (hnot expiry hexpiry)
  · rfl

end

/-- A flag that stands for what the log has given it: it holds the target, until it has noticed that the
busy period is over. -/
structure Stands (longest : Span) (log : List Occurrence) (flag : BusyFlag) : Prop where
  bound : flag.longest = longest.shortest limit
  unnoticed : ¬ Noticed longest log → flag.expiry = target longest log
  noticed : Noticed longest log → flag.expiry = none

namespace Stands

variable {longest : Span} {log : List Occurrence} {flag : BusyFlag} {now : Instant}

/-- What a query finds: the end has been noticed, or is noticed now, or lies ahead if there is one. -/
theorem expire_cases (hstands : Stands longest log flag) (now : Instant) :
    (Noticed longest log ∧ flag.expire now = { flag := flag } ∧ flag.expiry = none) ∨
      (¬ Noticed longest log ∧ IsOver longest log now ∧ flag.expire now = flag.clear) ∨
      (¬ Noticed longest log ∧ ¬ IsOver longest log now ∧ flag.expire now = { flag := flag } ∧
        flag.expiry = target longest log) := by
  by_cases hnoticed : Noticed longest log
  · have hnone := hstands.noticed hnoticed
    exact .inl ⟨hnoticed, expire_of_not_over (by rw [hnone]; exact nofun), hnone⟩
  · have hholds := hstands.unnoticed hnoticed
    by_cases hover : IsOver longest log now
    · obtain ⟨past, htarget, hpast⟩ := hover
      exact .inr (.inl ⟨hnoticed, ⟨past, htarget, hpast⟩, expire_of_over (hholds.trans htarget) hpast⟩)
    · refine .inr (.inr ⟨hnoticed, hover, expire_of_not_over ?_, hholds⟩)
      exact fun found hfound hpast => hover ⟨found, hholds.symm.trans hfound, hpast⟩

/-- A query shows the target as long as it lies ahead. -/
theorem expiry_expire (hstands : Stands longest log flag) (hlater : ∀ earlier ∈ log, earlier.time ≤ now)
    (expiry : LocalTime) : (flag.expire now).flag.expiry = some expiry ↔
      target longest log = some expiry ∧ now < expiry.instant := by
  have hpast (hover : IsOver longest log now) : ¬ (target longest log = some expiry ∧ now < expiry.instant) := by
    obtain ⟨past, htarget, hpast⟩ := hover
    rintro ⟨heq, hahead⟩
    rw [htarget] at heq
    cases heq
    exact Instant.not_le.2 hahead hpast
  rcases hstands.expire_cases now with ⟨hnoticed, hexpire, hnone⟩ | ⟨-, hover, hexpire⟩ | ⟨-, hnot, hexpire, hholds⟩
  · rw [hexpire, hnone]
    exact ⟨nofun, fun hahead => absurd hahead (hpast (hnoticed.isOver hlater))⟩
  · rw [hexpire]
    exact ⟨nofun, fun hahead => absurd hahead (hpast hover)⟩
  · rw [hexpire, hholds]
    refine ⟨fun htarget => ⟨htarget, ?_⟩, And.left⟩
    exact Instant.not_le.1 fun hle => hnot ⟨expiry, htarget, hle⟩

/-- What gives an end keeps a flag standing for the log. -/
theorem of_given (hstands : Stands longest log flag) {occurrence : Occurrence} {expiry : Option LocalTime}
    (hgiven : occurrence.event.given? longest occurrence.time = some expiry) :
    Stands longest (log ++ [occurrence]) (occurrence.event.transition flag occurrence.time).flag := by
  rw [flag_transition_of_given hstands.bound hgiven]
  refine ⟨hstands.bound, fun _ => ?_, fun hnoticed => ?_⟩
  · rw [target_concat, hgiven]
    rfl
  · have hkeeps := (noticed_concat_iff.1 hnoticed).1
    rw [hgiven] at hkeeps
    cases hkeeps

/-- What neither gives an end nor asks keeps a flag standing for the log. -/
theorem of_ignored (hstands : Stands longest log flag) {occurrence : Occurrence}
    (hkeeps : occurrence.event.given? longest occurrence.time = none) (hquery : occurrence.event ≠ .query) :
    Stands longest (log ++ [occurrence]) flag := by
  have hsame : Noticed longest (log ++ [occurrence]) ↔ Noticed longest log := by
    rw [noticed_concat_iff]
    exact ⟨fun h => h.2.resolve_right fun hnow => hquery hnow.1, fun h => ⟨hkeeps, .inl h⟩⟩
  refine ⟨hstands.bound, fun hnot => ?_, fun hnoticed => hstands.noticed (hsame.1 hnoticed)⟩
  rw [target_concat, hkeeps]
  exact hstands.unnoticed fun hnoticed => hnot (hsame.2 hnoticed)

/-- A query keeps a flag standing for the log. -/
theorem query_preserves_stands (hstands : Stands longest log flag) {occurrence : Occurrence}
    (hevent : occurrence.event = .query) : Stands longest (log ++ [occurrence]) (flag.expire occurrence.time).flag := by
  have hkeeps : occurrence.event.given? longest occurrence.time = none := by
    rw [hevent]
    rfl
  rcases hstands.expire_cases occurrence.time with
    ⟨hnoticed, hexpire, hnone⟩ | ⟨hnot, hover, hexpire⟩ | ⟨hnot, hahead, hexpire, hholds⟩
  · rw [hexpire]
    exact ⟨hstands.bound, fun hnot => absurd (.before hnoticed hkeeps) hnot, fun _ => hnone⟩
  · rw [hexpire]
    exact ⟨hstands.bound, fun hnot => absurd (.now hevent hover) hnot, fun _ => rfl⟩
  · rw [hexpire]
    refine ⟨hstands.bound, fun _ => ?_, fun hnoticed => ?_⟩
    · rw [target_concat, hkeeps]
      exact hholds
    · rcases (noticed_concat_iff.1 hnoticed).2 with hbefore | ⟨-, hover⟩
      · exact absurd hbefore hnot
      · exact absurd hover hahead

/-- Whatever happens keeps a flag standing for the log. -/
theorem transition_preserves_stands (hstands : Stands longest log flag) (occurrence : Occurrence) :
    Stands longest (log ++ [occurrence]) (occurrence.event.transition flag occurrence.time).flag := by
  cases hgiven : occurrence.event.given? longest occurrence.time with
  | some expiry => exact hstands.of_given hgiven
  | none =>
    -- Only a query and a payload that is no message give no end.
    cases hevent : occurrence.event with
    | query => exact hstands.query_preserves_stands hevent
    | receive payload =>
      rw [hevent] at hgiven
      have hmalformed : BusyState.decode? payload = none := Option.map_eq_none_iff.1 hgiven
      change Stands longest (log ++ [occurrence]) (flag.receive payload).flag
      rw [flag_receive_of_malformed hmalformed]
      exact hstands.of_ignored (hevent ▸ hgiven) (by rw [hevent]; exact nofun)
    | set span => rw [hevent] at hgiven; cases hgiven
    | clear => rw [hevent] at hgiven; cases hgiven
    | adopt state => rw [hevent] at hgiven; cases hgiven

/-- What a flag tells the others is what the log asks of it. -/
theorem tells_transition (hstands : Stands longest log flag) (now : Instant) (down : Bool) (event : Event) :
    Tells longest log { time := now, down, event, told := (event.transition flag now).broadcast } := by
  cases event with
  | set span =>
    obtain ⟨expiry, hgiven, -, htold⟩ := set_eq hstands.bound span
    refine .set span rfl (htold.trans ?_)
    rw [target_concat, hgiven]
    rfl
  | clear => exact .clear rfl rfl
  | adopt state => exact .adopt state rfl rfl
  | receive payload => exact .receive payload rfl (Cluster.broadcast_receive flag payload)
  | query =>
    rcases hstands.expire_cases now with ⟨hnoticed, hexpire, -⟩ | ⟨hnot, hover, hexpire⟩ | ⟨-, hahead, hexpire, -⟩
    · exact .quiet rfl (.inr hnoticed) (congrArg Transition.broadcast hexpire)
    · exact .over rfl hover hnot (congrArg Transition.broadcast hexpire)
    · exact .quiet rfl (.inl hahead) (congrArg Transition.broadcast hexpire)

end Stands

/-- An event does to the node what its transition says, whether or not the messages of the node get out. -/
theorem carries_happen {cluster : Cluster} {number : Nat} {node : ClusterNode}
    (hnode : cluster.nodes[number]? = some node) (hconnected : node.connected = true)
    (hpresent : node.present = true) (now : Instant) (down : Bool) (event : Event) :
    cluster.Carries number { node with down := down } (event.transition node.flag now)
      (cluster.happen number now down event) := by
  let modified := { cluster with nodes := cluster.nodes.modify number fun node => { node with down := down } }
  have hmodified : modified.nodes[number]? = some { node with down := down } := by
    change (cluster.nodes.modify number _)[number]? = _
    rw [List.getElem?_modify_eq, hnode]
    rfl
  have hact (action : BusyFlag → Transition) :
      cluster.Carries number { node with down := down } (action node.flag) (modified.act number action) :=
    have hcarries := Cluster.carries_act hmodified hconnected hpresent action
    ⟨hcarries.nodes, hcarries.sent, hcarries.failures⟩
  cases event with
  | set span => exact hact fun flag => flag.set now span
  | clear => exact hact fun flag => flag.clear
  | adopt state => exact hact fun flag => { flag := flag.adopt state }
  | query => exact hact fun flag => flag.expire now
  | receive payload =>
    have hcarries := Cluster.carries_receive hmodified hconnected hpresent payload
    exact ⟨hcarries.nodes, hcarries.sent, hcarries.failures⟩

/-- The invariant of a node's life: the flag stands for what the log has given it, everything that was
told is as the log asks, and got out or counts as a failure. -/
structure Sound (number : Nat) (longest : Span) (log : List Occurrence) (cluster : Cluster) : Prop where
  node : ∃ node, cluster.nodes[number]? = some node ∧ node.connected = true ∧ node.present = true ∧
    Stands longest log node.flag
  told : ∀ moment occurrence, log[moment]? = some occurrence → Tells longest (log.take moment) occurrence
  sent : cluster.sent = ((log.filter fun occurrence => !occurrence.down).filterMap (·.told)).map (number, ·)
  failures : cluster.failures = ((log.filter (·.down)).filterMap (·.told)).length

/-- Whatever happens to a node keeps the invariant. -/
theorem Lives.sound {number : Nat} {longest : Span} {log : List Occurrence} {cluster : Cluster}
    (hlives : Lives number longest log cluster) : Sound number longest log cluster := by
  induction hlives with
  | start hnode hflag hconnected hpresent hsent hfailures =>
    refine ⟨⟨_, hnode, hconnected, hpresent, ?_⟩, nofun, hsent, hfailures⟩
    rw [hflag]
    exact ⟨rfl, fun _ => rfl, fun _ => rfl⟩
  | @step log cluster node _ hnode now down event hlater ih =>
    obtain ⟨found, hfound, hconnected, hpresent, hstands⟩ := ih.node
    cases hnode.symm.trans hfound
    have hcarries := carries_happen hnode hconnected hpresent now down event
    constructor
    case node => exact ⟨_, hcarries.nodes, hconnected, hpresent, hstands.transition_preserves_stands _⟩
    case told =>
      intro moment occurrence hseen
      -- What was told before depends on the log until then only.
      rcases getElem?_extend_cases hseen with ⟨hlt, hbefore⟩ | ⟨rfl, rfl⟩
      · rw [List.take_append_of_le_length (Nat.le_of_lt hlt)]
        exact ih.told moment occurrence hbefore
      · rw [List.take_left]
        exact hstands.tells_transition now down event
    case sent =>
      rw [hcarries.sent, ih.sent]
      cases down <;> cases (event.transition node.flag now).broadcast <;> simp [List.filter_append]
    case failures =>
      rw [hcarries.failures, ih.failures]
      cases down <;> cases (event.transition node.flag now).broadcast <;> simp [List.filter_append]

/-- A node is a plain timed flag for everybody who asks it, whatever happens to it and whether or not its
messages get out: it is busy as long as the target lies ahead, and names just that end. It tries to tell
the others what it is set to and that it is cleared, once each time, and of a busy period that has gone
by just once that it is over, at the first query that is not before its end. -/
theorem Lives.refines_timed_flag {number : Nat} {longest : Span} {log : List Occurrence} {cluster : Cluster}
    (hlives : Lives number longest log cluster) :
    (∀ now, (∀ earlier ∈ log, earlier.time ≤ now) → ∀ expiry,
      (cluster.expiryOf number now).2 = some expiry ↔
        target longest log = some expiry ∧ now < expiry.instant) ∧
    (∀ moment occurrence, log[moment]? = some occurrence → Tells longest (log.take moment) occurrence) ∧
    cluster.sent = ((log.filter fun occurrence => !occurrence.down).filterMap (·.told)).map (number, ·) ∧
    cluster.failures = ((log.filter (·.down)).filterMap (·.told)).length := by
  have hsound := hlives.sound
  refine ⟨?_, hsound.told, hsound.sent, hsound.failures⟩
  intro now hlater expiry
  obtain ⟨node, hnode, hconnected, hpresent, hstands⟩ := hsound.node
  have hcarries := Cluster.carries_act hnode hconnected hpresent fun flag => flag.expire now
  have hanswer : (cluster.expiryOf number now).2 = (node.flag.expire now).flag.expiry := by
    change ((cluster.act number _).nodes[number]?.bind _) = _
    rw [hcarries.nodes]
    rfl
  rw [hanswer]
  exact hstands.expiry_expire hlater expiry

/-- A node that was set for a minute tells after it that the busy period is over, though the message fails
to get out. -/
theorem tells_over_after_a_minute :
    ∃ (minute : Instant) (log : List Occurrence) (cluster : Cluster), Lives 0 (.ofSeconds 600) log cluster ∧
      (∀ earlier ∈ log, earlier.time ≤ minute) ∧
      (∃ occurrence, log[1]? = some occurrence ∧ occurrence.told = some (.ofExpiry none) ∧
        Tells (.ofSeconds 600) (log.take 1) occurrence) ∧
      (cluster.expiryOf 0 minute).2 = none ∧
      cluster.sent = [(0, .ofExpiry (some { instant := minute }))] ∧ cluster.failures = 1 := by
  let minute : Instant := ⟨60 * nanosPerSecond⟩
  let first : Occurrence :=
    { time := .epoch, down := false, event := .set (.ofSeconds 60)
      told := some (.ofExpiry (some { instant := minute })) }
  let second : Occurrence := { time := minute, down := true, event := .query, told := some (.ofExpiry none) }
  let cluster : Cluster := { nodes := [{ flag := .create (.ofSeconds 600) }] }
  have hstart : Lives 0 (.ofSeconds 600) [] cluster := .start rfl rfl rfl rfl rfl rfl
  have hfirst : Lives 0 (.ofSeconds 600) [first] _ := hstart.step rfl .epoch false first.event nofun
  have hsecond : Lives 0 (.ofSeconds 600) [first, second] _ :=
    hfirst.step rfl minute true .query (by decide +kernel)
  have hlater : ∀ earlier ∈ [first, second], earlier.time ≤ minute := by decide +kernel
  have htarget : target (.ofSeconds 600) [first, second] = some { instant := minute } := by decide +kernel
  obtain ⟨hanswer, htells, hsent, hfailures⟩ := hsecond.refines_timed_flag
  refine ⟨minute, _, _, hsecond, hlater, ⟨second, rfl, rfl, htells 1 second rfl⟩, ?_, hsent, hfailures⟩
  rw [Option.eq_none_iff_forall_ne_some]
  intro expiry hexpiry
  obtain ⟨hfound, hahead⟩ := (hanswer minute hlater expiry).1 hexpiry
  cases htarget.symm.trans hfound
  exact Instant.not_lt.2 (Instant.le_refl _) hahead

end BusyFlag

end ChatNotify
