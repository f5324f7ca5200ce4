import ChatNotify.Proofs.Digest.Rounds
import ChatNotify.Proofs.Journal
import ChatNotify.Proofs.Text.Count

namespace ChatNotify.Digest

/-- The user has looked into the team since the start. -/
def HasLooked (sources : Sources) (user : Id) (start : Instant) (team : String) : Prop :=
  ∃ members, sources.memberships team user = .ok members ∧ ∃ member ∈ members, start ≤ member.lastViewedAt

/-- The memberships in the team cannot be loaded. -/
def IsUnknown (sources : Sources) (user : Id) (team : String) : Prop :=
  ∃ error, sources.memberships team user = .error error

/-- The team tells what becomes of the queue. -/
def Tells (sources : Sources) (user : Id) (start : Instant) (team : String) : Prop :=
  HasLooked sources user start team ∨ IsUnknown sources user team

/-- Of the teams of the entries that tell it this is the first in alphabetical order. -/
structure IsDecisive (sources : Sources) (user : Id) (start : Instant) (batch : List Entry) (team : String) :
    Prop where
  mem : ∃ entry ∈ batch, entry.team = team
  tells : Tells sources user start team
  first : ∀ entry ∈ batch, entry.team < team → ¬ Tells sources user start entry.team

/-- The interval that counts for the user: the one that the user has set, if it was written as a number of
seconds that fits into 64 bits, and else the default. -/
inductive IsIntervalOf (sources : Sources) (user : Id) : Span → Prop
  | set {text : String} {seconds : Nat} (htext : sources.interval user = .ok (some text))
      (hwrites : Text.WritesCount text seconds) (hfits : seconds < wordCount) :
      IsIntervalOf sources user (.ofSeconds seconds)
  | unreadable {text : String} (htext : sources.interval user = .ok (some text))
      (hwrites : ∀ seconds, Text.WritesCount text seconds → wordCount ≤ seconds) :
      IsIntervalOf sources user sources.defaultInterval
  | unset (hnone : sources.interval user = .ok none) : IsIntervalOf sources user sources.defaultInterval
  | failed {error : StoreError} (herror : sources.interval user = .error error) :
      IsIntervalOf sources user sources.defaultInterval

/-- What becomes of a queue. -/
inductive Rule (sources : Sources) (now : Instant) (user : Id) (first : Entry) (rest : List Entry) : Verdict → Prop
  | looked {team : String} (hteam : IsDecisive sources user first.post.createAt (first :: rest) team)
      (hlooked : HasLooked sources user first.post.createAt team) : Rule sources now user first rest .drop
  | unknown {team : String} (hteam : IsDecisive sources user first.post.createAt (first :: rest) team)
      (hunknown : IsUnknown sources user team) : Rule sources now user first rest .keep
  | due {interval : Span} (hnone : ∀ team, ¬ IsDecisive sources user first.post.createAt (first :: rest) team)
      (hinterval : IsIntervalOf sources user interval)
      (hdue : (interval.nanos : Int) < now.nanos - first.post.createAt.nanos) :
      Rule sources now user first rest .deliver
  | early {interval : Span} (hnone : ∀ team, ¬ IsDecisive sources user first.post.createAt (first :: rest) team)
      (hinterval : IsIntervalOf sources user interval)
      (hearly : now.nanos - first.post.createAt.nanos ≤ interval.nanos) : Rule sources now user first rest .keep

theorem mem_teams_iff {batch : List Entry} {team : String} :
    team ∈ teams batch ↔ ∃ entry ∈ batch, entry.team = team := by
  rw [teams, List.mem_eraseDups, List.mem_mergeSort, List.mem_map]

theorem pairwise_eraseDups {names : List String} (hsorted : names.Pairwise (· ≤ ·)) :
    names.eraseDups.Pairwise (· < ·) := by
  induction hlength : names.length using Nat.strongRecOn generalizing names with
  | ind length ih =>
    cases names with
    | nil => exact .nil
    | cons first rest =>
      obtain ⟨hfirst, hrest⟩ := List.pairwise_cons.1 hsorted
      rw [List.eraseDups_cons, List.pairwise_cons]
      constructor
      · intro name hname
        obtain ⟨hmem, hother⟩ := List.mem_filter.1 (List.mem_eraseDups.1 hname)
        have hne : name ≠ first := by simpa using hother
        exact Classical.byContradiction fun hnot =>
          hne (String.le_antisymm (String.not_lt.1 hnot) (hfirst name hmem))
      · have hshorter := List.length_filter_le (fun name => !name == first) rest
        rw [List.length_cons] at hlength
        exact ih _ (by omega) (hrest.filter _) rfl

theorem pairwise_teams (batch : List Entry) : (teams batch).Pairwise (· < ·) := by
  have htrans (a b c : String) (hab : decide (a ≤ b) = true) (hbc : decide (b ≤ c) = true) : decide (a ≤ c) = true :=
    decide_eq_true (String.le_trans (of_decide_eq_true hab) (of_decide_eq_true hbc))
  have htotal (a b : String) : (decide (a ≤ b) || decide (b ≤ a)) = true := by
    rw [Bool.or_eq_true, decide_eq_true_eq, decide_eq_true_eq]
    exact String.le_total a b
  exact pairwise_eraseDups ((List.pairwise_mergeSort htrans htotal _).imp of_decide_eq_true)

section

variable {sources : Sources} {now : Instant} {user : Id} {start : Instant}

theorem IsDecisive.unique {batch : List Entry} {team other : String} (hteam : IsDecisive sources user start batch team)
    (hother : IsDecisive sources user start batch other) : team = other := by
  have hle {first second : String} (hfirst : IsDecisive sources user start batch first)
      (hsecond : IsDecisive sources user start batch second) : first ≤ second := by
    refine String.not_lt.1 fun hlt => ?_
    obtain ⟨entry, hentry, rfl⟩ := hsecond.mem
    exact hfirst.first entry hentry hlt hsecond.tells
  exact String.le_antisymm (hle hteam hother) (hle hother hteam)

open Classical in
theorem exists_isDecisive {batch : List Entry} {entry : Entry} (hentry : entry ∈ batch)
    (htells : Tells sources user start entry.team) : ∃ team, IsDecisive sources user start batch team := by
  have hsome : ((teams batch).find? fun team => decide (Tells sources user start team)).isSome = true :=
    List.find?_isSome.2 ⟨entry.team, mem_teams_iff.2 ⟨entry, hentry, rfl⟩, decide_eq_true htells⟩
  obtain ⟨team, hfound⟩ := Option.isSome_iff_exists.1 hsome
  obtain ⟨hteam, before, after, hteams, hbefore⟩ := List.find?_eq_some_iff_append.1 hfound
  refine ⟨team, mem_teams_iff.1 (List.mem_of_find?_eq_some hfound), of_decide_eq_true hteam, ?_⟩
  intro other hother hlt
  have hsorted := pairwise_teams batch
  rw [hteams, List.pairwise_append, List.pairwise_cons] at hsorted
  have hmem : other.team ∈ before ++ team :: after := hteams ▸ mem_teams_iff.2 ⟨other, hother, rfl⟩
  rcases List.mem_append.1 hmem with hearlier | hlater
  · simpa using hbefore _ hearlier
  · rcases List.mem_cons.1 hlater with heq | hafter
    · exact absurd (heq ▸ hlt) (String.lt_irrefl team)
    · exact absurd hlt (String.lt_asymm (hsorted.2.1.1 _ hafter))

theorem value_verdictOfTeams_cons (sources : Sources) (user : Id) (start : Instant) (team : String)
    (names : List String) :
    (verdictOfTeams sources user start (team :: names)).value =
      match sources.memberships team user with
      | .error _ => some .keep
      | .ok members =>
        if members.any (start ≤ ·.lastViewedAt) then some .drop
        else (verdictOfTeams sources user start names).value := by
  unfold verdictOfTeams
  cases sources.memberships team user with
  | error error => rfl
  | ok members =>
    by_cases hany : members.any (start ≤ ·.lastViewedAt) = true
    · simp only [if_pos hany, bind, Logged.andThen, Logged.ask]
      rfl
    · simp only [if_neg hany, bind, Logged.andThen, Logged.ask]
      cases names <;> rfl

theorem HasLooked.value_verdictOfTeams {team : String} (hlooked : HasLooked sources user start team)
    (names : List String) : (verdictOfTeams sources user start (team :: names)).value = some .drop := by
  obtain ⟨members, hmembers, member, hmember, hle⟩ := hlooked
  have hany : members.any (start ≤ ·.lastViewedAt) = true := List.any_eq_true.2 ⟨member, hmember, decide_eq_true hle⟩
  rw [value_verdictOfTeams_cons, hmembers]
  exact if_pos hany

theorem IsUnknown.value_verdictOfTeams {team : String} (hunknown : IsUnknown sources user team)
    (start : Instant) (names : List String) :
    (verdictOfTeams sources user start (team :: names)).value = some .keep := by
  obtain ⟨error, herror⟩ := hunknown
  rw [value_verdictOfTeams_cons, herror]

/-- Teams that tell nothing are passed over. -/
theorem value_verdictOfTeams_append {before : List String} (hbefore : ∀ team ∈ before, ¬ Tells sources user start team)
    (names : List String) :
    (verdictOfTeams sources user start (before ++ names)).value = (verdictOfTeams sources user start names).value := by
  induction before with
  | nil => rfl
  | cons team before ih =>
    obtain ⟨hteam, hrest⟩ := List.forall_mem_cons.1 hbefore
    rw [List.cons_append, value_verdictOfTeams_cons]
    cases hanswer : sources.memberships team user with
    | error error => exact absurd (.inr ⟨error, hanswer⟩) hteam
    | ok members =>
      have hany : ¬ members.any (start ≤ ·.lastViewedAt) = true :=
        fun hany => hteam (.inl ⟨members, hanswer, by simpa using hany⟩)
      rw [← ih hrest]
      exact if_neg hany

/-- The teams are asked one after the other up to the decisive one. -/
theorem IsDecisive.exists_teams_eq {batch : List Entry} {team : String}
    (hteam : IsDecisive sources user start batch team) : ∃ before after, teams batch = before ++ team :: after ∧
      ∀ earlier ∈ before, ¬ Tells sources user start earlier := by
  obtain ⟨before, after, hteams⟩ := List.append_of_mem (mem_teams_iff.2 hteam.mem)
  refine ⟨before, after, hteams, fun earlier hearlier => ?_⟩
  have hsorted := pairwise_teams batch
  rw [hteams, List.pairwise_append] at hsorted
  have hmem : earlier ∈ teams batch := by simp [hteams, hearlier]
  obtain ⟨entry, hentry, rfl⟩ := mem_teams_iff.1 hmem
  exact hteam.first entry hentry (hsorted.2.2 _ hearlier team List.mem_cons_self)

theorem value_verdictOfTeams_of_hasLooked {batch : List Entry} {team : String}
    (hteam : IsDecisive sources user start batch team) (hlooked : HasLooked sources user start team) :
    (verdictOfTeams sources user start (teams batch)).value = some .drop := by
  obtain ⟨before, after, hteams, hbefore⟩ := hteam.exists_teams_eq
  rw [hteams, value_verdictOfTeams_append hbefore, hlooked.value_verdictOfTeams]

theorem value_verdictOfTeams_of_isUnknown {batch : List Entry} {team : String}
    (hteam : IsDecisive sources user start batch team) (hunknown : IsUnknown sources user team) :
    (verdictOfTeams sources user start (teams batch)).value = some .keep := by
  obtain ⟨before, after, hteams, hbefore⟩ := hteam.exists_teams_eq
  rw [hteams, value_verdictOfTeams_append hbefore, hunknown.value_verdictOfTeams]

theorem value_verdictOfTeams_eq_none {batch : List Entry} (hnone : ∀ team, ¬ IsDecisive sources user start batch team) :
    (verdictOfTeams sources user start (teams batch)).value = none := by
  have hsilent : ∀ team ∈ teams batch, ¬ Tells sources user start team := by
    intro team hteam htells
    obtain ⟨entry, hentry, rfl⟩ := mem_teams_iff.1 hteam
    obtain ⟨first, hfirst⟩ := exists_isDecisive hentry htells
    exact hnone first hfirst
  have hvalue := value_verdictOfTeams_append hsilent []
  rwa [List.append_nil] at hvalue

theorem readInterval?_eq_some_iff {text : String} {interval : Span} : readInterval? text = some interval ↔
    ∃ seconds, Text.WritesCount text seconds ∧ seconds < wordCount ∧ Span.ofSeconds seconds = interval := by
  simp only [readInterval?, Option.map_eq_some_iff, Option.filter_eq_some_iff, Text.count?_trimBy_eq_some_iff,
    decide_eq_true_eq, and_assoc]

theorem value_intervalOf (sources : Sources) (user : Id) : (intervalOf sources user).value =
    match sources.interval user with
    | .error _ => sources.defaultInterval
    | .ok text => (text.bind readInterval?).getD sources.defaultInterval := by
  unfold intervalOf
  cases sources.interval user <;> rfl

theorem IsIntervalOf.value_intervalOf {interval : Span} (hinterval : IsIntervalOf sources user interval) :
    (intervalOf sources user).value = interval := by
  rw [Digest.value_intervalOf]
  cases hinterval with
  | set htext hwrites hfits =>
    have hread := readInterval?_eq_some_iff.2 ⟨_, hwrites, hfits, rfl⟩
    simp [htext, hread]
  | @unreadable text htext hwrites =>
    have hread : readInterval? text = none := by
      refine Option.eq_none_iff_forall_ne_some.2 fun interval hread => ?_
      obtain ⟨seconds, hwritten, hfits, -⟩ := readInterval?_eq_some_iff.1 hread
      exact absurd hfits (Nat.not_lt.2 (hwrites seconds hwritten))
    simp [htext, hread]
  | unset hnone => simp [hnone]
  | failed herror => simp [herror]

theorem isIntervalOf_value (sources : Sources) (user : Id) :
    IsIntervalOf sources user (intervalOf sources user).value := by
  rw [value_intervalOf]
  cases hanswer : sources.interval user with
  | error error => exact .failed hanswer
  | ok answer =>
    cases answer with
    | none => exact .unset hanswer
    | some text =>
      cases hread : readInterval? text with
      | some interval =>
        obtain ⟨seconds, hwrites, hfits, rfl⟩ := readInterval?_eq_some_iff.1 hread
        simpa [hread] using IsIntervalOf.set hanswer hwrites hfits
      | none =>
        simp only [Option.bind_some, hread, Option.getD_none]
        refine .unreadable hanswer fun seconds hwrites => Nat.not_lt.1 fun hfits => ?_
        rw [readInterval?_eq_some_iff.2 ⟨seconds, hwrites, hfits, rfl⟩] at hread
        cases hread

variable {first : Entry} {rest : List Entry}

theorem value_verdict (sources : Sources) (now : Instant) (user : Id) (first : Entry) (rest : List Entry) :
    (verdict sources now user (first :: rest)).value =
      ((verdictOfTeams sources user first.post.createAt (teams (first :: rest))).value.getD
        (if first.post.createAt.after (intervalOf sources user).value < now then .deliver else .keep)) := by
  unfold verdict
  simp only [bind, Logged.andThen]
  cases (verdictOfTeams sources user first.post.createAt (teams (first :: rest))).value <;> rfl

theorem Rule.value_verdict {outcome : Verdict} (hrule : Rule sources now user first rest outcome) :
    (verdict sources now user (first :: rest)).value = outcome := by
  rw [Digest.value_verdict]
  cases hrule with
  | looked hteam hlooked => rw [value_verdictOfTeams_of_hasLooked hteam hlooked, Option.getD_some]
  | unknown hteam hunknown => rw [value_verdictOfTeams_of_isUnknown hteam hunknown, Option.getD_some]
  | due hnone hinterval hdue =>
    rw [value_verdictOfTeams_eq_none hnone, hinterval.value_intervalOf, Option.getD_none]
    exact if_pos (Int.add_lt_of_lt_sub_left hdue)
  | early hnone hinterval hearly =>
    rw [value_verdictOfTeams_eq_none hnone, hinterval.value_intervalOf, Option.getD_none]
    exact if_neg (Int.not_lt.2 (Int.le_add_of_sub_left_le hearly))

theorem rule_value_verdict (sources : Sources) (now : Instant) (user : Id) (first : Entry) (rest : List Entry) :
    Rule sources now user first rest (verdict sources now user (first :: rest)).value := by
  have hinterval := isIntervalOf_value sources user
  by_cases hdecisive : ∃ team, IsDecisive sources user first.post.createAt (first :: rest) team
  · obtain ⟨team, hteam⟩ := hdecisive
    rcases hteam.tells with hlooked | hunknown
    · have hrule : Rule sources now user first rest .drop := .looked hteam hlooked
      rwa [hrule.value_verdict]
    · have hrule : Rule sources now user first rest .keep := .unknown hteam hunknown
      rwa [hrule.value_verdict]
  · have hnone := not_exists.1 hdecisive
    rcases Int.lt_or_le (intervalOf sources user).value.nanos (now.nanos - first.post.createAt.nanos) with hdue | hearly
    · have hrule : Rule sources now user first rest .deliver := .due hnone hinterval hdue
      rwa [hrule.value_verdict]
    · have hrule : Rule sources now user first rest .keep := .early hnone hinterval hearly
      rwa [hrule.value_verdict]

/-- The rule leaves no choice. -/
theorem rule_iff {outcome : Verdict} : Rule sources now user first rest outcome ↔
    (verdict sources now user (first :: rest)).value = outcome := by
  constructor
  · exact Rule.value_verdict
  · rintro rfl
    exact rule_value_verdict sources now user first rest

end

/-- What a flush has done to a user when it is through. -/
def HasDone (before after : Queues) (delivered : List Delivery) (user : Id) : Verdict → Prop
  | .keep => after.pending user = before.pending user ∧ delivered.filter (·.user = user) = []
  | .drop => after.pending user = [] ∧ delivered.filter (·.user = user) = []
  | .deliver =>
    after.pending user = [] ∧ delivered.filter (·.user = user) = [{ user := user, batch := before.pending user }]

section

variable {sources : Sources} {now : Instant} {user : Id}

theorem value_settleAll_cons (sources : Sources) (now : Instant) (queues : Queues) (user : Id) (batch : List Entry)
    (rest : List (Id × List Entry)) :
    (settleAll sources now queues ((user, batch) :: rest)).value =
      let settled := settle queues user batch (verdict sources now user batch).value
      let later := (settleAll sources now settled.1 rest).value
      (later.1, settled.2 ++ later.2) := rfl

theorem filter_settle_of_ne {other : Id} (hne : other ≠ user) (queues : Queues) (batch : List Entry)
    (outcome : Verdict) : (settle queues other batch outcome).2.filter (·.user = user) = [] := by
  cases outcome <;> simp [settle, hne]

/-- Users to whom a flush does not come are left alone. -/
theorem settleAll_of_not_mem (sources : Sources) (now : Instant) (queues : Queues) {order : List (Id × List Entry)}
    (hnot : user ∉ order.map Prod.fst) :
    (settleAll sources now queues order).value.1.pending user = queues.pending user ∧
      (settleAll sources now queues order).value.2.filter (·.user = user) = [] := by
  induction order generalizing queues with
  | nil => exact ⟨rfl, rfl⟩
  | cons first order ih =>
    obtain ⟨other, batch⟩ := first
    rw [List.map_cons, List.mem_cons, not_or] at hnot
    obtain ⟨hpending, hdelivered⟩ := ih (settle queues other batch (verdict sources now other batch).value).1 hnot.2
    rw [value_settleAll_cons]
    refine ⟨hpending.trans (pending_settle_of_ne (Ne.symm hnot.1) ..), ?_⟩
    rw [List.filter_append, filter_settle_of_ne (Ne.symm hnot.1), hdelivered, List.append_nil]

theorem hasDone_settle {queues : Queues} {batch : List Entry} (hpending : queues.pending user = batch)
    (outcome : Verdict) :
    HasDone queues (settle queues user batch outcome).1 (settle queues user batch outcome).2 user outcome := by
  cases outcome with
  | keep => exact ⟨rfl, rfl⟩
  | drop => exact ⟨by simp [settle, Queues.pending_removeFirst, hpending], rfl⟩
  | deliver => exact ⟨by simp [settle, Queues.pending_removeFirst, hpending], by simp [settle, hpending]⟩

/-- What has been done to a user is told by the user's queue and digests alone. -/
theorem HasDone.congr {before after other later : Queues} {delivered more : List Delivery} {outcome : Verdict}
    (hdone : HasDone before after delivered user outcome) (hbefore : other.pending user = before.pending user)
    (hafter : later.pending user = after.pending user)
    (hdelivered : more.filter (·.user = user) = delivered.filter (·.user = user)) :
    HasDone other later more user outcome := by
  cases outcome with
  | keep => exact ⟨by rw [hafter, hbefore, hdone.1], hdelivered.trans hdone.2⟩
  | drop => exact ⟨hafter.trans hdone.1, hdelivered.trans hdone.2⟩
  | deliver => exact ⟨hafter.trans hdone.1, by rw [hdelivered, hbefore, hdone.2]⟩

/-- A flush that comes to a user once settles the user's queue, whoever comes before and after. -/
theorem hasDone_settleAll {order : List (Id × List Entry)} (hnodup : (order.map Prod.fst).Nodup) {batch : List Entry}
    (hmem : (user, batch) ∈ order) {queues : Queues} (hpending : queues.pending user = batch) :
    HasDone queues (settleAll sources now queues order).value.1 (settleAll sources now queues order).value.2 user
      (verdict sources now user batch).value := by
  induction order generalizing queues with
  | nil => cases hmem
  | cons first order ih =>
    obtain ⟨other, otherBatch⟩ := first
    obtain ⟨hnot, hnodup⟩ := List.nodup_cons.1 hnodup
    rw [value_settleAll_cons]
    rcases List.mem_cons.1 hmem with heq | hmem
    · cases heq
      obtain ⟨hkept, hsilent⟩ := settleAll_of_not_mem sources now
        (settle queues user batch (verdict sources now user batch).value).1 hnot
      refine (hasDone_settle hpending _).congr rfl hkept ?_
      rw [List.filter_append, hsilent, List.append_nil]
    · have hne : other ≠ user := by
        rintro rfl
        exact hnot (List.mem_map.2 ⟨_, hmem, rfl⟩)
      have hkept := pending_settle_of_ne hne queues otherBatch (verdict sources now other otherBatch).value
      refine (ih hnodup hmem (hkept.trans hpending)).congr hkept.symm rfl ?_
      rw [List.filter_append, filter_settle_of_ne hne, List.nil_append]

theorem mem_entries_iff {queues : Queues} {batch : List Entry} :
    (user, batch) ∈ queues.table.entries ↔ batch ≠ [] ∧ queues.pending user = batch := by
  rw [← Table.get?_eq_some_iff, Queues.pending]
  constructor
  · intro hqueue
    exact ⟨queues.ne_nil user batch hqueue, by rw [hqueue, Option.getD_some]⟩
  · rintro ⟨hne, hpending⟩
    cases hqueue : queues.table.get? user with
    | none =>
      rw [hqueue, Option.getD_none] at hpending
      exact absurd hpending.symm hne
    | some queue => rwa [hqueue, Option.getD_some, ← Option.some_inj] at hpending

end

/-- Whatever is pending and whatever the collaborators say: a flush, in whatever order it comes to the users, does
to each of them what the rule says of the user's own queue, and leaves alone those who have none. -/
theorem settled_by_rule (sources : Sources) (now : Instant) (queues : Queues) {order : List (Id × List Entry)}
    (horder : order.Perm queues.table.entries) (user : Id) :
    let after := (settleAll sources now queues order).value
    (queues.pending user = [] → after.1.pending user = [] ∧ after.2.filter (·.user = user) = []) ∧
    ∀ first rest, queues.pending user = first :: rest →
      ∃ outcome, (∀ other, Rule sources now user first rest other ↔ other = outcome) ∧
        HasDone queues after.1 after.2 user outcome := by
  constructor
  · intro hnone
    have hnot : user ∉ order.map Prod.fst := by
      intro hmem
      obtain ⟨⟨_, batch⟩, hentry, rfl⟩ := List.mem_map.1 hmem
      obtain ⟨hne, hpending⟩ := mem_entries_iff.1 (horder.mem_iff.1 hentry)
      exact hne (hpending.symm.trans hnone)
    obtain ⟨hkept, hsilent⟩ := settleAll_of_not_mem sources now queues hnot
    exact ⟨hkept.trans hnone, hsilent⟩
  · intro first rest hpending
    have hnodup : (order.map Prod.fst).Nodup := (horder.map Prod.fst).nodup_iff.2 queues.table.nodup_keys
    have hmem : (user, first :: rest) ∈ order :=
      horder.mem_iff.2 (mem_entries_iff.2 ⟨List.cons_ne_nil first rest, hpending⟩)
    refine ⟨(verdict sources now user (first :: rest)).value, fun other => ?_, hasDone_settleAll hnodup hmem hpending⟩
    rw [rule_iff, eq_comm]

/-- Of two users, visited last first, one wants no digest before more than ten seconds have passed, and the other
one has looked into the team since. -/
theorem keeps_one_and_drops_the_other :
    let entry (id : Nat) : Entry := { post := { id := ⟨id⟩, channel := ⟨5⟩, user := ⟨6⟩ }, team := "core" }
    let sources : Sources :=
      { memberships := fun _ user =>
          .ok (if user = ⟨2⟩ then [{ channel := ⟨5⟩, user := user, lastViewedAt := .epoch }] else [])
        interval := fun _ => .ok (some " +10")
        defaultInterval := standardInterval }
    let now := Instant.epoch.after (.ofSeconds 10)
    let queues := (Queues.add {} ⟨1⟩ (entry 7)).add ⟨2⟩ (entry 8)
    let after := (settleAll sources now queues [(⟨2⟩, [entry 8]), (⟨1⟩, [entry 7])]).value
    Rule sources now ⟨1⟩ (entry 7) [] .keep ∧ after.1.pending ⟨1⟩ = [entry 7] ∧
      Rule sources now ⟨2⟩ (entry 8) [] .drop ∧ after.1.pending ⟨2⟩ = [] ∧ after.2.filter (·.user = ⟨2⟩) = [] := by
  intro entry sources now queues after
  have horder : List.Perm [(⟨2⟩, [entry 8]), (⟨1⟩, [entry 7])] queues.table.entries := .swap _ _ _
  obtain ⟨first, hfirst, hfirstDone⟩ := (settled_by_rule sources now queues horder ⟨1⟩).2 (entry 7) [] rfl
  obtain ⟨second, hsecond, hsecondDone⟩ := (settled_by_rule sources now queues horder ⟨2⟩).2 (entry 8) [] rfl
  have hkeep : Rule sources now ⟨1⟩ (entry 7) [] .keep := rule_iff.2 (by decide +kernel)
  have hdrop : Rule sources now ⟨2⟩ (entry 8) [] .drop := rule_iff.2 (by decide +kernel)
  obtain rfl := (hfirst .keep).1 hkeep
  obtain rfl := (hsecond .drop).1 hdrop
  exact ⟨hkeep, hfirstDone.1, hdrop, hsecondDone.1, hsecondDone.2⟩

end ChatNotify.Digest
