import ChatNotify.Proofs.Cluster.Network

namespace ChatNotify.BusyFlag

variable {count : Nat} {log before after : List (Happening count)} {network : Network count}
  {node peer : Fin count} {expiry : Option LocalTime} {longest : Fin count → Span}

/-- Since a node has come to an end of the busy period, the message of another node with another end has
arrived somewhere, and no message with the end of the first has arrived there later. -/
def Overtaken (node : Fin count) (expiry : Option LocalTime) (after : List (Happening count)) : Prop :=
  ∃ middle sender receiver other rest, after = middle ++ .delivered sender receiver other :: rest ∧
    sender ≠ node ∧ other ≠ expiry ∧ ∀ peer, .delivered peer receiver expiry ∉ rest

theorem held_append_of_none (hnone : ∀ happening ∈ after, ¬ (happening.given? node).isSome = true) :
    held node (before ++ after) = held node before := by
  rw [held, List.foldl_append]
  change after.foldl _ (held node before) = held node before
  induction after with
  | nil => rfl
  | cons first rest ih =>
    obtain ⟨hfirst, hrest⟩ := List.forall_mem_cons.1 hnone
    rw [List.foldl_cons, Option.not_isSome_iff_eq_none.1 hfirst]
    exact ih hrest

theorem held_of_last {last : Happening count} (hgiven : last.given? node = some expiry)
    (hnone : ∀ happening ∈ after, ¬ (happening.given? node).isSome = true) :
    held node (before ++ last :: after) = expiry := by
  rw [List.append_cons, held_append_of_none hnone, held_concat, hgiven]
  rfl

/-- A node holds nothing but what it was given. -/
theorem held_cases (node : Fin count) (log : List (Happening count)) :
    held node log = none ∨ ∃ happening ∈ log, happening.given? node = some (held node log) := by
  rcases exists_last (fun happening => (happening.given? node).isSome = true) log with
    hnone | ⟨front, last, back, rfl, hlast, hback⟩
  · exact .inl (show held node ([] ++ log) = none from held_append_of_none hnone)
  · obtain ⟨expiry, hgiven⟩ := Option.isSome_iff_exists.1 hlast
    refine .inr ⟨last, List.mem_append_right _ List.mem_cons_self, ?_⟩
    rw [held_of_last hgiven hback, hgiven]

theorem given?_delivered (sender receiver : Fin count) (expiry : Option LocalTime) :
    (Happening.delivered sender receiver expiry).given? receiver = some expiry :=
  if_pos rfl

/-- While no node changes, a node goes on to hold what it has, or holds what has arrived last. -/
theorem held_cases_of_calm (hcalm : ∀ node expiry, .changed node expiry ∉ after)
    (before : List (Happening count)) (peer : Fin count) :
    (∀ happening ∈ after, ¬ (happening.given? peer).isSome = true) ∧
        held peer (before ++ after) = held peer before ∨
      ∃ front sender other back, after = front ++ .delivered sender peer other :: back ∧
        (∀ happening ∈ back, ¬ (happening.given? peer).isSome = true) ∧ held peer (before ++ after) = other := by
  rcases exists_last (fun happening => (happening.given? peer).isSome = true) after with
    hnone | ⟨front, last, back, rfl, hlast, hback⟩
  · exact .inl ⟨hnone, held_append_of_none hnone⟩
  · cases last with
    | changed node expiry => exact absurd (List.mem_append_right _ List.mem_cons_self) (hcalm node expiry)
    | delivered sender receiver other =>
      obtain ⟨expiry, hgiven⟩ := Option.isSome_iff_exists.1 hlast
      obtain ⟨rfl, -⟩ := Option.ite_none_right_eq_some.1 hgiven
      refine .inr ⟨front, sender, other, back, rfl, hback, ?_⟩
      rw [← List.append_assoc]
      exact held_of_last (given?_delivered sender receiver other) hback

theorem Accounted.exists_change (haccounted : Accounted log network) {sender receiver : Fin count}
    (hdelivered : .delivered sender receiver expiry ∈ log) :
    receiver ≠ sender ∧ ∃ sent, .changed sender sent ∈ log ∧ expiry = BusyState.arrived sent := by
  obtain ⟨past, waiting, htold, hheard, -⟩ := haccounted.channel sender receiver
  have hmem := mem_heard.2 hdelivered
  rw [hheard] at hmem
  obtain ⟨sent, hsent, rfl⟩ := List.mem_map.1 hmem
  obtain ⟨hne, hchanged⟩ := mem_told (htold ▸ List.mem_append_left waiting hsent)
  exact ⟨hne, sent, hchanged, rfl⟩

/-- A run has come by every beginning of its log. -/
theorem Runs.exists_before (hruns : Runs longest log network) (hbeginning : before <+: log) :
    ∃ earlier, Runs longest before earlier := by
  induction hruns with
  | start =>
    obtain rfl := List.prefix_nil.1 hbeginning
    exact ⟨_, .start⟩
  | change hruns node now hown htold ih =>
    rcases List.prefix_concat_iff.1 hbeginning with rfl | hbefore
    · exact ⟨_, .change hruns node now hown htold⟩
    · exact ih hbefore
  | look hruns node now hown htold ih => exact ih hbeginning
  | deliver hruns hfirst ih =>
    rcases List.prefix_concat_iff.1 hbeginning with rfl | hbefore
    · exact ⟨_, .deliver hruns hfirst⟩
    · exact ih hbefore

theorem told_of_calm (hcalm : ∀ node expiry, .changed node expiry ∉ after) (sender receiver : Fin count) :
    told sender receiver after = [] :=
  List.eq_nil_iff_forall_not_mem.2 fun expiry hmem => hcalm sender expiry (mem_told hmem).2

/-- When no message is on the way, the last to have arrived from the node that has changed last is the one
about that change. -/
theorem Runs.heard_after (hruns : Runs longest (before ++ .changed node expiry :: after) network)
    (hcalm : ∀ node expiry, .changed node expiry ∉ after) (hquiet : network.IsQuiet) (hne : peer ≠ node) :
    ∃ earlier, heard node peer after = earlier ++ [BusyState.arrived expiry] := by
  rw [List.append_cons] at hruns
  -- By the time of the change no more had arrived than had been sent, so its message is still to come then.
  obtain ⟨earlier, hbefore⟩ := hruns.exists_before ((List.prefix_append ..).trans (List.prefix_append ..))
  obtain ⟨past, waiting, htold, hheard, -⟩ := hbefore.accounted.channel node peer
  have htoldNow : told node peer [.changed node expiry] = [expiry] := by
    rw [told_singleton]
    exact congrArg Option.toList (if_pos ⟨rfl, hne⟩)
  have hheardNow : heard node peer [.changed node expiry] = [] := heard_singleton ..
  have hheardAll := hruns.accounted.heard_eq (hquiet node peer)
  rw [heard_append, heard_append, hheard, hheardNow, List.append_nil, told_append, told_append, htold, htoldNow,
    told_of_calm hcalm, List.append_nil, List.append_assoc, List.map_append, List.map_append] at hheardAll
  exact ⟨waiting.map BusyState.arrived, List.append_cancel_left hheardAll⟩

theorem heard_of_last {front back : List (Happening count)} {sender receiver : Fin count}
    (hback : ∀ happening ∈ back, ¬ (happening.given? receiver).isSome = true) :
    heard sender receiver (front ++ .delivered sender receiver expiry :: back) =
      heard sender receiver front ++ [expiry] := by
  have hnow : heard sender receiver [.delivered sender receiver expiry] = [expiry] := by
    rw [heard_singleton]
    exact congrArg Option.toList (if_pos ⟨rfl, rfl⟩)
  have hnothing : heard sender receiver back = [] :=
    List.eq_nil_iff_forall_not_mem.2 fun other hmem =>
      hback _ (mem_heard.1 hmem) (by rw [given?_delivered]; rfl)
  rw [List.append_cons, heard_append, heard_append, hnow, hnothing, List.append_nil]

theorem Runs.expiry_of_not_overtaken (hruns : Runs longest (before ++ .changed node expiry :: after) network)
    (hcalm : ∀ node expiry, .changed node expiry ∉ after) (hquiet : network.IsQuiet)
    (harrives : BusyState.arrived expiry = expiry) (hnot : ¬ Overtaken node expiry after) (peer : Fin count) :
    (network.flag peer).expiry = expiry := by
  rw [hruns.accounted.held peer, List.append_cons]
  rcases held_cases_of_calm hcalm (before ++ [.changed node expiry]) peer with
    ⟨hnone, hheld⟩ | ⟨front, sender, other, back, rfl, hback, hheld⟩
  · by_cases hnode : peer = node
    · rw [hheld]
      exact held_of_last (if_pos hnode.symm) nofun
    · obtain ⟨earlier, hheard⟩ := hruns.heard_after hcalm hquiet hnode
      have hmem := mem_heard.1 (hheard ▸ List.mem_append_right earlier (List.mem_singleton_self _))
      exact absurd (by rw [given?_delivered]; rfl) (hnone _ hmem)
  · rw [hheld]
    by_cases hsender : sender = node
    · -- The messages of the node itself arrive in the order of its changes.
      subst hsender
      obtain ⟨hne, -⟩ := hruns.accounted.exists_change (List.mem_append_right before (List.mem_cons_of_mem _
        (List.mem_append_right front List.mem_cons_self)))
      obtain ⟨earlier, hheard⟩ := hruns.heard_after hcalm hquiet hne
      rw [heard_of_last hback] at hheard
      cases (List.append_inj' hheard rfl).2
      exact harrives
    · refine Classical.byContradiction fun hother => hnot ?_
      refine ⟨front, sender, peer, other, back, rfl, hsender, hother, fun other hmem => ?_⟩
      exact hback _ hmem (by rw [given?_delivered]; rfl)

theorem Runs.not_overtaken (hruns : Runs longest (before ++ .changed node expiry :: after) network)
    (hcalm : ∀ node expiry, .changed node expiry ∉ after)
    (hagree : ∀ peer, (network.flag peer).expiry = expiry) : ¬ Overtaken node expiry after := by
  rintro ⟨middle, sender, receiver, other, rest, rfl, -, hother, hnone⟩
  have hholds := (hruns.accounted.held receiver).symm.trans (hagree receiver)
  have hcalmRest : ∀ node expiry, .changed node expiry ∉ rest := fun node expiry hmem =>
    hcalm node expiry (List.mem_append_right _ (List.mem_cons_of_mem _ hmem))
  rw [← List.cons_append, ← List.append_assoc, List.append_cons] at hholds
  rcases held_cases_of_calm hcalmRest _ receiver with ⟨-, hheld⟩ | ⟨front, peer, last, back, rfl, -, hheld⟩
  · rw [hheld, held_concat, given?_delivered] at hholds
    exact hother hholds
  · rw [hheld] at hholds
    exact hnone peer (hholds ▸ List.mem_append_right front List.mem_cons_self)

/-- What a node holds is none, or an end that a node has come to, which has arrived no later than it is. -/
theorem Accounted.exists_changed_of_held (haccounted : Accounted log network) {time : LocalTime}
    (hheld : BusyFlag.held peer log = some time) :
    ∃ node last, .changed node (some last) ∈ log ∧ time.instant ≤ last.instant := by
  rcases held_cases peer log with hnone | ⟨happening, hmem, hgiven⟩
  · rw [hheld] at hnone
    cases hnone
  · rw [hheld] at hgiven
    cases happening with
    | changed node expiry =>
      obtain ⟨-, hsame⟩ := Option.ite_none_right_eq_some.1 hgiven
      cases hsame
      exact ⟨node, time, hmem, Instant.le_refl _⟩
    | delivered sender receiver expiry =>
      obtain ⟨-, hsame⟩ := Option.ite_none_right_eq_some.1 hgiven
      cases hsame
      obtain ⟨-, sent, hchanged, harrived⟩ := haccounted.exists_change hmem
      cases sent with
      | none => cases harrived
      | some last => exact ⟨sender, last, hchanged, BusyState.arrived_le harrived.symm⟩

/-- When no message is on the way, all nodes hold the end of the busy period that a node has come to last
just if they were not led away from it by a message that had been sent before: one of another node, with
another end, which arrived after the change and was the last to arrive at some node. As long as no node has
set its flag, none is busy, and neither is any once all the ends that a node has ever come to have gone by. -/
theorem Runs.agrees_iff_not_overtaken (hruns : Runs longest log network) :
    (∀ before node expiry after, log = before ++ .changed node expiry :: after →
      (∀ other later, .changed other later ∉ after) → network.IsQuiet →
      (∀ time, expiry = some time → 0 ≤ time.instant.date.year) →
      ((∀ peer, (network.flag peer).expiry = expiry) ↔ ¬ Overtaken node expiry after)) ∧
    (∀ now, (∀ node time, .changed node (some time) ∈ log → time.instant ≤ now) →
      ∀ peer, ((network.flag peer).expire now).flag.expiry = none) ∧
    ((∀ node time, .changed node (some time) ∉ log) → ∀ peer, (network.flag peer).expiry = none) := by
  have haccounted := hruns.accounted
  refine ⟨?_, ?_, ?_⟩
  · rintro before node expiry after rfl hcalm hquiet hwritable
    have hcalendar := haccounted.calendar node expiry (List.mem_append_right before List.mem_cons_self)
    have harrives : BusyState.arrived expiry = expiry := by
      refine BusyState.arrived_of_text? fun time htime => ?_
      obtain ⟨hutc, hin⟩ := hcalendar time htime
      rw [Instant.isInCalendar, Bool.and_eq_true, decide_eq_true_eq, decide_eq_true_eq] at hin
      exact LocalTime.isSome_text? hutc (hwritable time htime) hin.2
    exact ⟨hruns.not_overtaken hcalm, hruns.expiry_of_not_overtaken hcalm hquiet harrives⟩
  · intro now hpast peer
    cases hexpiry : (network.flag peer).expiry with
    | none =>
      rw [expire_of_not_over fun time htime => absurd (hexpiry.symm.trans htime) (Option.some_ne_none time).symm]
      exact hexpiry
    | some time =>
      obtain ⟨node, last, hchanged, hle⟩ :=
        haccounted.exists_changed_of_held ((haccounted.held peer).symm.trans hexpiry)
      rw [expire_of_over hexpiry (Instant.le_trans hle (hpast node last hchanged))]
      rfl
  · intro hnever peer
    cases hexpiry : (network.flag peer).expiry with
    | none => rfl
    | some time =>
      obtain ⟨node, last, hchanged, -⟩ :=
        haccounted.exists_changed_of_held ((haccounted.held peer).symm.trans hexpiry)
      exact absurd hchanged (hnever node last)

/-- A node is set for a minute, and the other one hears of it: both hold the minute, and neither when it is
over. -/
theorem agree_on_a_minute : ∃ (minute : Instant) (log : List (Happening 2)) (network : Network 2),
    Runs (fun _ => .ofSeconds 600) log network ∧ network.IsQuiet ∧
      (∀ peer, (network.flag peer).expiry = some { instant := minute }) ∧
      ∀ peer, ((network.flag peer).expire minute).flag.expiry = none := by
  let minute : Instant := ⟨60 * nanosPerSecond⟩
  have hstart : Runs (fun _ : Fin 2 => .ofSeconds 600) [] (.create fun _ => .ofSeconds 600) := .start
  have hset : Runs (fun _ => .ofSeconds 600) [.changed 0 (some { instant := minute })] _ :=
    hstart.change 0 .epoch (.set (.ofSeconds 60)) rfl
  obtain ⟨expiry, network, hruns⟩ := hset.exists_delivered 0 1 (Nat.lt_add_one 0)
  have hquiet : network.IsQuiet := hruns.accounted.isQuiet fun sender receiver =>
    match sender, receiver with
    | 0, 0 | 0, 1 | 1, 0 | 1, 1 => rfl
  have hcalm : ∀ node later, .changed node later ∉ [Happening.delivered (0 : Fin 2) 1 expiry] := by
    intro node later hmem
    cases List.mem_singleton.1 hmem
  have hnot : ¬ Overtaken 0 (some { instant := minute }) [Happening.delivered (0 : Fin 2) 1 expiry] := by
    rintro ⟨middle, sender, receiver, other, rest, hwhole, hne, -⟩
    have hmem : .delivered sender receiver other ∈ [Happening.delivered (0 : Fin 2) 1 expiry] :=
      hwhole ▸ List.mem_append_right middle List.mem_cons_self
    cases List.mem_singleton.1 hmem
    exact hne rfl
  obtain ⟨hagree, hidle, -⟩ := hruns.agrees_iff_not_overtaken
  have hall := hagree [] 0 (some { instant := minute }) _ rfl hcalm hquiet fun time htime => by
    cases htime
    decide +kernel
  refine ⟨minute, _, network, hruns, hquiet, hall.2 hnot, hidle minute ?_⟩
  intro node time hmem
  rcases List.mem_cons.1 hmem with hfirst | hrest
  · cases hfirst
    exact Instant.le_refl _
  · exact absurd hrest (hcalm node _)

/-- Messages that pass each other set two nodes apart: one clears its flag while the other one is set for
ten minutes, and each takes over what the other has told. -/
theorem crossing_messages_disagree :
    ¬ ∀ (count : Nat) (longest : Fin count → Span) (log : List (Happening count)) (network : Network count),
      2 ≤ count → Runs longest log network → network.IsQuiet →
        ∀ first second, (network.flag first).expiry = (network.flag second).expiry := by
  intro hagree
  let later : LocalTime := { instant := ⟨600 * nanosPerSecond⟩ }
  have hstart : Runs (fun _ : Fin 2 => .ofSeconds 600) [] (.create fun _ => .ofSeconds 600) := .start
  have hcleared : Runs (fun _ => .ofSeconds 600) [.changed 0 none] _ := hstart.change 0 .epoch .clear rfl
  have hset : Runs (fun _ => .ofSeconds 600) [.changed 0 none, .changed 1 (some later)] _ :=
    hcleared.change 1 .epoch (.set (.ofSeconds 600)) rfl
  obtain ⟨busy, _, hfirst⟩ := hset.exists_delivered 1 0 (Nat.lt_add_one 0)
  obtain ⟨idle, network, hruns⟩ := hfirst.exists_delivered 0 1 (Nat.lt_add_one 0)
  have haccounted := hruns.accounted
  have hquiet : network.IsQuiet := haccounted.isQuiet fun sender receiver =>
    match sender, receiver with
    | 0, 0 | 0, 1 | 1, 0 | 1, 1 => rfl
  have hbusy : [busy] = [some later] := by
    have harrives : BusyState.arrived (some later) = some later :=
      BusyState.arrived_of_text? fun time htime => by
        cases htime
        exact LocalTime.isSome_text? rfl (by decide +kernel) (by decide +kernel)
    exact (haccounted.heard_eq (hquiet 1 0)).trans (congrArg (fun expiry => [expiry]) harrives)
  have hidle : [idle] = [none] := haccounted.heard_eq (hquiet 0 1)
  have hsame : busy = idle := calc
    busy = (network.flag 0).expiry := (haccounted.held 0).symm
    _ = (network.flag 1).expiry := hagree 2 _ _ network (Nat.le_refl 2) hruns hquiet 0 1
    _ = idle := haccounted.held 1
  cases hbusy
  cases hidle
  cases hsame

end ChatNotify.BusyFlag
