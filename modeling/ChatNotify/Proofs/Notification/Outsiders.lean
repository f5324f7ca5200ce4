import ChatNotify.Notification.Policy
import ChatNotify.Proofs.Journal

namespace ChatNotify

namespace Suggestions

/-- The user could join the channel. -/
structure IsOutsider (snapshot : Snapshot) (user : User) : Prop where
  active : user.isActive = true
  human : user.isBot = false
  outside : snapshot.profiles.get? user.id = none

/-- The name at the position yields a user who could join the channel. -/
structure Yields (snapshot : Snapshot) (resolved : Table String User) (names : List String) (position : Nat)
    (user : User) : Prop where
  found : names[position]?.bind resolved.get? = some user
  outsider : IsOutsider snapshot user

/-- The name at the position yields the user, and no name in front of it yields one of the same identifier. -/
structure IsFirst (snapshot : Snapshot) (resolved : Table String User) (names : List String) (position : Nat)
    (user : User) : Prop where
  yields : Yields snapshot resolved names position user
  first : ∀ earlier other, earlier < position → Yields snapshot resolved names earlier other → other.id ≠ user.id

/-- The first name of one user stands in front of the first name of the other one. -/
def IsFirstBefore (snapshot : Snapshot) (resolved : Table String User) (names : List String) (user other : User) :
    Prop :=
  ∃ earlier later, earlier < later ∧ IsFirst snapshot resolved names earlier user ∧
    IsFirst snapshot resolved names later other

/-- The suggested users are those whom the names yield, each once, in the order of the names. -/
structure ListsOutsiders (snapshot : Snapshot) (resolved : Table String User) (names : List String)
    (found : Suggestions) : Prop where
  mem_iff : ∀ user, user ∈ found.outOfChannel ++ found.outOfGroup ↔
    ∃ position, IsFirst snapshot resolved names position user
  complete : ∀ position user, Yields snapshot resolved names position user →
    ∃ listed ∈ found.outOfChannel ++ found.outOfGroup, listed.id = user.id
  nodup : ((found.outOfChannel ++ found.outOfGroup).map (·.id)).Nodup
  channel_inOrder : found.outOfChannel.Pairwise (IsFirstBefore snapshot resolved names)
  group_inOrder : found.outOfGroup.Pairwise (IsFirstBefore snapshot resolved names)

/-- Names lead to nobody here: they do not count or there are none, or a lookup fails. -/
inductive IsSilent (directory : Directory) (snapshot : Snapshot) (post : Post) (names : List String) : Prop
  | conversation (hkind : snapshot.channel.kind = .direct ∨ snapshot.channel.kind = .group)
  | system (hsystem : post.kind.isSystem = true)
  | unnamed (hnames : names = [])
  | unresolved {error : StoreError} (herror : directory.resolve names = .error error)
  | ungrouped {error : StoreError} (hconstrained : snapshot.channel.groupConstrained = true)
      (herror : directory.groupMembers snapshot.channel.id = .error error)

section

variable {snapshot : Snapshot} {resolved : Table String User} {names : List String} {user : User}

theorem isOutsider_iff : IsOutsider snapshot user ↔
    (user.isActive && !user.isBot && !snapshot.isMember user.id) = true := by
  simp only [Bool.and_eq_true, Bool.not_eq_true', Snapshot.isMember, Table.contains, Option.isSome_eq_false_iff,
    Option.isNone_iff_eq_none]
  constructor
  · rintro ⟨hactive, hhuman, houtside⟩
    exact ⟨⟨hactive, hhuman⟩, houtside⟩
  · rintro ⟨⟨hactive, hhuman⟩, houtside⟩
    exact ⟨hactive, hhuman, houtside⟩

theorem yields_cons_zero_iff {name : String} : Yields snapshot resolved (name :: names) 0 user ↔
    resolved.get? name = some user ∧ IsOutsider snapshot user := by
  constructor
  · rintro ⟨hfound, houtsider⟩
    exact ⟨hfound, houtsider⟩
  · rintro ⟨hfound, houtsider⟩
    exact ⟨hfound, houtsider⟩

theorem yields_cons_succ_iff {name : String} {position : Nat} :
    Yields snapshot resolved (name :: names) (position + 1) user ↔ Yields snapshot resolved names position user := by
  constructor
  · rintro ⟨hfound, houtsider⟩
    exact ⟨hfound, houtsider⟩
  · rintro ⟨hfound, houtsider⟩
    exact ⟨hfound, houtsider⟩

theorem isFirst_cons_zero_iff {name : String} : IsFirst snapshot resolved (name :: names) 0 user ↔
    resolved.get? name = some user ∧ IsOutsider snapshot user := by
  rw [← yields_cons_zero_iff]
  exact ⟨fun hfirst => hfirst.yields, fun hyields => ⟨hyields, fun earlier other hlt => absurd hlt (Nat.not_lt_zero _)⟩⟩

theorem isFirst_cons_succ_iff {name : String} {position : Nat} :
    IsFirst snapshot resolved (name :: names) (position + 1) user ↔ IsFirst snapshot resolved names position user ∧
      ∀ other, resolved.get? name = some other → IsOutsider snapshot other → other.id ≠ user.id := by
  constructor
  · rintro ⟨hyields, hfirst⟩
    refine ⟨⟨yields_cons_succ_iff.1 hyields, fun earlier other hlt hother => ?_⟩, fun other hname houtsider => ?_⟩
    · exact hfirst (earlier + 1) other (Nat.succ_lt_succ hlt) (yields_cons_succ_iff.2 hother)
    · exact hfirst 0 other (Nat.succ_pos position) (yields_cons_zero_iff.2 ⟨hname, houtsider⟩)
  · rintro ⟨⟨hyields, hfirst⟩, hname⟩
    refine ⟨yields_cons_succ_iff.2 hyields, fun earlier other hlt hother => ?_⟩
    cases earlier with
    | zero =>
      obtain ⟨hfound, houtsider⟩ := yields_cons_zero_iff.1 hother
      exact hname other hfound houtsider
    | succ earlier => exact hfirst earlier other (Nat.lt_of_succ_lt_succ hlt) (yields_cons_succ_iff.1 hother)

theorem candidates_cons_of_isOutsider {name : String} (hfound : resolved.get? name = some user)
    (houtsider : IsOutsider snapshot user) : candidates snapshot (name :: names) resolved =
      user :: (candidates snapshot names resolved).filter (·.id ≠ user.id) := by
  rw [candidates, List.filterMap_cons_some hfound, List.filter_cons, if_pos (isOutsider_iff.1 houtsider)]
  rfl

theorem candidates_cons_of_not_isOutsider {name : String}
    (hnone : ∀ user, resolved.get? name = some user → ¬ IsOutsider snapshot user) :
    candidates snapshot (name :: names) resolved = candidates snapshot names resolved := by
  cases hfound : resolved.get? name with
  | none => rw [candidates, List.filterMap_cons_none hfound, candidates]
  | some user =>
    have houtsider := mt isOutsider_iff.2 (hnone user hfound)
    rw [candidates, List.filterMap_cons_some hfound, List.filter_cons, if_neg houtsider, candidates]

/-- The induction is on the names: the first of them either yields an outsider, who hides the later ones of the
same identifier, or nobody. -/
theorem mem_candidates_iff : user ∈ candidates snapshot names resolved ↔
    ∃ position, IsFirst snapshot resolved names position user := by
  induction names with
  | nil =>
    constructor
    · rintro ⟨⟩
    · rintro ⟨position, ⟨⟨hfound, -⟩, -⟩⟩
      cases hfound
  | cons name names ih =>
    rw [← Nat.or_exists_add_one, isFirst_cons_zero_iff]
    simp only [isFirst_cons_succ_iff, exists_and_right, ← ih]
    by_cases hyields : ∃ other, resolved.get? name = some other ∧ IsOutsider snapshot other
    · obtain ⟨other, hfound, houtsider⟩ := hyields
      rw [candidates_cons_of_isOutsider hfound houtsider, List.mem_cons, List.mem_filter, decide_eq_true_eq]
      refine or_congr ⟨?_, ?_⟩ (and_congr_right fun _ => ⟨?_, ?_⟩)
      · rintro rfl
        exact ⟨hfound, houtsider⟩
      · rintro ⟨hsame, -⟩
        exact Option.some.inj (hsame.symm.trans hfound)
      · intro hne another hsame _
        exact Option.some.inj (hfound.symm.trans hsame) ▸ hne.symm
      · exact fun hdistinct => (hdistinct other hfound houtsider).symm
    · have hnone : ∀ other, resolved.get? name = some other → ¬ IsOutsider snapshot other :=
        fun other hfound houtsider => hyields ⟨other, hfound, houtsider⟩
      rw [candidates_cons_of_not_isOutsider hnone]
      constructor
      · exact fun hmem => .inr ⟨hmem, fun other hfound houtsider => absurd houtsider (hnone other hfound)⟩
      · rintro (⟨hfound, houtsider⟩ | ⟨hmem, -⟩)
        · exact absurd houtsider (hnone user hfound)
        · exact hmem

theorem IsFirstBefore.cons {name : String} {other : User} (hbefore : IsFirstBefore snapshot resolved names user other)
    (huser : ∀ first, resolved.get? name = some first → IsOutsider snapshot first → first.id ≠ user.id)
    (hother : ∀ first, resolved.get? name = some first → IsOutsider snapshot first → first.id ≠ other.id) :
    IsFirstBefore snapshot resolved (name :: names) user other := by
  obtain ⟨earlier, later, hlt, hearlier, hlater⟩ := hbefore
  exact ⟨earlier + 1, later + 1, Nat.succ_lt_succ hlt, isFirst_cons_succ_iff.2 ⟨hearlier, huser⟩,
    isFirst_cons_succ_iff.2 ⟨hlater, hother⟩⟩

theorem pairwise_candidates :
    (candidates snapshot names resolved).Pairwise (IsFirstBefore snapshot resolved names) := by
  induction names with
  | nil => exact .nil
  | cons name names ih =>
    by_cases hyields : ∃ first, resolved.get? name = some first ∧ IsOutsider snapshot first
    · obtain ⟨first, hfound, houtsider⟩ := hyields
      have hdistinct (user : User) (hkept : user ∈ (candidates snapshot names resolved).filter (·.id ≠ first.id)) :
          ∀ another, resolved.get? name = some another → IsOutsider snapshot another → another.id ≠ user.id := by
        intro another hsame _
        have hne : user.id ≠ first.id := by simpa using (List.mem_filter.1 hkept).2
        exact Option.some.inj (hfound.symm.trans hsame) ▸ hne.symm
      rw [candidates_cons_of_isOutsider hfound houtsider, List.pairwise_cons]
      constructor
      · intro user hkept
        obtain ⟨position, hposition⟩ := mem_candidates_iff.1 (List.mem_filter.1 hkept).1
        exact ⟨0, position + 1, Nat.succ_pos position, isFirst_cons_zero_iff.2 ⟨hfound, houtsider⟩,
          isFirst_cons_succ_iff.2 ⟨hposition, hdistinct user hkept⟩⟩
      · refine (ih.filter _).imp_of_mem fun {user other} huser hother hbefore => ?_
        exact hbefore.cons (hdistinct user huser) (hdistinct other hother)
    · have hnone : ∀ other, resolved.get? name = some other → ¬ IsOutsider snapshot other :=
        fun other hfound houtsider => hyields ⟨other, hfound, houtsider⟩
      rw [candidates_cons_of_not_isOutsider hnone]
      refine ih.imp fun hbefore => hbefore.cons ?_ ?_ <;>
      · intro first hfound houtsider
        exact absurd houtsider (hnone first hfound)

theorem nodup_candidates : ((candidates snapshot names resolved).map (·.id)).Nodup := by
  refine List.pairwise_map.2 (pairwise_candidates.imp fun hbefore => ?_)
  obtain ⟨earlier, later, hlt, hearlier, hlater⟩ := hbefore
  exact hlater.first earlier _ hlt hearlier.yields

/-- Of the names that yield users of one identifier there is a first one. -/
theorem Yields.exists_isFirst {position : Nat} (hyields : Yields snapshot resolved names position user) :
    ∃ first listed, IsFirst snapshot resolved names first listed ∧ listed.id = user.id := by
  induction position using Nat.strongRecOn generalizing user with
  | ind position ih =>
    by_cases hearlier : ∃ earlier other, earlier < position ∧ Yields snapshot resolved names earlier other ∧
        other.id = user.id
    · obtain ⟨earlier, other, hlt, hother, hsame⟩ := hearlier
      obtain ⟨first, listed, hfirst, hlisted⟩ := ih earlier hlt hother
      exact ⟨first, listed, hfirst, hlisted.trans hsame⟩
    · refine ⟨position, user, ⟨hyields, fun earlier other hlt hother hsame => ?_⟩, rfl⟩
      exact hearlier ⟨earlier, other, hlt, hother, hsame⟩

/-- A list of suggestions that is the candidates in two parts has them all. -/
theorem listsOutsiders_of_perm {found : Suggestions}
    (hparts : (found.outOfChannel ++ found.outOfGroup).Perm (candidates snapshot names resolved))
    (hchannel : found.outOfChannel.Sublist (candidates snapshot names resolved))
    (hgroup : found.outOfGroup.Sublist (candidates snapshot names resolved)) :
    ListsOutsiders snapshot resolved names found where
  mem_iff user := hparts.mem_iff.trans mem_candidates_iff
  complete position user hyields := by
    obtain ⟨first, listed, hfirst, hsame⟩ := hyields.exists_isFirst
    exact ⟨listed, hparts.mem_iff.2 (mem_candidates_iff.2 ⟨first, hfirst⟩), hsame⟩
  nodup := (hparts.map _).nodup_iff.2 nodup_candidates
  channel_inOrder := pairwise_candidates.sublist hchannel
  group_inOrder := pairwise_candidates.sublist hgroup

end

theorem value_find (directory : Directory) (snapshot : Snapshot) (post : Post) (names : List String) :
    (find directory snapshot post names).value =
      if names.isEmpty || !areSought snapshot post then {}
      else match directory.resolve names with
        | .error _ => {}
        | .ok resolved =>
          if !snapshot.channel.groupConstrained then { outOfChannel := candidates snapshot names resolved }
          else match directory.groupMembers snapshot.channel.id with
            | .error _ => {}
            | .ok members => {
                outOfChannel := (candidates snapshot names resolved).filter fun user => user.id ∈ members
                outOfGroup := (candidates snapshot names resolved).filter fun user => user.id ∉ members } := by
  unfold find
  cases names.isEmpty || !areSought snapshot post with
  | true => rfl
  | false =>
    cases directory.resolve names with
    | error error => rfl
    | ok resolved =>
      cases snapshot.channel.groupConstrained with
      | false => rfl
      | true => cases directory.groupMembers snapshot.channel.id <;> rfl

theorem areSought_eq_false_iff {snapshot : Snapshot} {post : Post} : areSought snapshot post = false ↔
    (snapshot.channel.kind = .direct ∨ snapshot.channel.kind = .group) ∨ post.kind.isSystem = true := by
  have hconversation : snapshot.channel.kind.isConversation = true ↔
      snapshot.channel.kind = .direct ∨ snapshot.channel.kind = .group := by
    cases snapshot.channel.kind <;> simp [ChannelKind.isConversation]
  rw [← hconversation, areSought, ← Bool.not_or, Bool.not_eq_false', Bool.or_eq_true]

theorem value_find_of_isSilent {directory : Directory} {snapshot : Snapshot} {post : Post} {names : List String}
    (hsilent : IsSilent directory snapshot post names) : (find directory snapshot post names).value = {} := by
  rw [value_find]
  by_cases hasked : (names.isEmpty || !areSought snapshot post) = true
  · exact if_pos hasked
  · rw [if_neg hasked]
    rw [Bool.or_eq_true, not_or, List.isEmpty_iff, Bool.not_eq_true', areSought_eq_false_iff] at hasked
    cases hsilent with
    | conversation hkind => exact absurd (.inl hkind) hasked.2
    | system hsystem => exact absurd (.inr hsystem) hasked.2
    | unnamed hnames => exact absurd hnames hasked.1
    | unresolved herror => rw [herror]
    | ungrouped hconstrained herror =>
      rw [herror, hconstrained]
      cases directory.resolve names <;> rfl

/-- What is found if nothing fails. -/
theorem exists_listsOutsiders_of_not_isSilent {directory : Directory} {snapshot : Snapshot} {post : Post}
    {names : List String} (hsilent : ¬ IsSilent directory snapshot post names) :
    let found := (find directory snapshot post names).value
    ∃ resolved, directory.resolve names = .ok resolved ∧ ListsOutsiders snapshot resolved names found ∧
      (snapshot.channel.groupConstrained = false → found.outOfGroup = []) ∧
      (snapshot.channel.groupConstrained = true → ∃ members,
        directory.groupMembers snapshot.channel.id = .ok members ∧
          ∀ user ∈ found.outOfChannel ++ found.outOfGroup, user ∈ found.outOfChannel ↔ user.id ∈ members) := by
  intro found
  have hfound : found = (find directory snapshot post names).value := rfl
  have hasked : ¬ (names.isEmpty || !areSought snapshot post) = true := by
    rw [Bool.or_eq_true, not_or, List.isEmpty_iff, Bool.not_eq_true', areSought_eq_false_iff, not_or]
    exact ⟨fun hnames => hsilent (.unnamed hnames), fun hkind => hsilent (.conversation hkind),
      fun hsystem => hsilent (.system hsystem)⟩
  rw [value_find, if_neg hasked] at hfound
  cases hresolve : directory.resolve names with
  | error error => exact absurd (.unresolved hresolve) hsilent
  | ok resolved =>
    simp only [hresolve] at hfound
    refine ⟨resolved, rfl, ?_⟩
    cases hconstrained : snapshot.channel.groupConstrained with
    | false =>
      simp only [hconstrained, Bool.not_false, if_true] at hfound
      rw [hfound]
      refine ⟨listsOutsiders_of_perm (by simp) (.refl _) (List.nil_sublist _), fun _ => rfl, nofun⟩
    | true =>
      cases hgroups : directory.groupMembers snapshot.channel.id with
      | error error => exact absurd (.ungrouped hconstrained hgroups) hsilent
      | ok members =>
        simp only [hconstrained, hgroups, Bool.not_true, Bool.false_eq_true, if_false] at hfound
        rw [hfound]
        refine ⟨listsOutsiders_of_perm ?_ List.filter_sublist List.filter_sublist, nofun, fun _ => ⟨members, rfl, ?_⟩⟩
        · simpa only [decide_not] using List.filter_append_perm (fun user : User => decide (user.id ∈ members))
            (candidates snapshot names resolved)
        · intro user huser
          have hmem : user ∈ candidates snapshot names resolved := by
            rcases List.mem_append.1 huser with hchannel | hgroup
            · exact (List.mem_filter.1 hchannel).1
            · exact (List.mem_filter.1 hgroup).1
          simp [hmem]

end Suggestions

open Suggestions in
/-- Whatever the post, the channel, the names found in the post and the answers of the directory: if nobody can be
looked up, nobody is suggested, and else those whom the names yield are. In a channel that is reserved for groups
the members of the groups are kept apart. Whom the plan notifies and what it says of the whole channel is the same
for every other directory. -/
theorem Plan.suggests_outsiders (directory : Directory) (snapshot : Snapshot) (post : Post) (thread : Option Thread)
    (keywords : KeywordIndex) (allowed : Bool) (mentions : Mentions) :
    let plan := (Plan.make directory snapshot post thread keywords allowed mentions).value
    let found := plan.suggestions
    let both := found.outOfChannel ++ found.outOfGroup
    (IsSilent directory snapshot post mentions.potential → both = []) ∧
    (¬ IsSilent directory snapshot post mentions.potential →
      ∃ resolved, directory.resolve mentions.potential = .ok resolved ∧
        ListsOutsiders snapshot resolved mentions.potential found ∧
        (snapshot.channel.groupConstrained = false → found.outOfGroup = []) ∧
        (snapshot.channel.groupConstrained = true → ∃ members,
          directory.groupMembers snapshot.channel.id = .ok members ∧
            ∀ user ∈ both, user ∈ found.outOfChannel ↔ user.id ∈ members)) ∧
    ∀ other, let another := (Plan.make other snapshot post thread keywords allowed mentions).value
      another.recipients = plan.recipients ∧ another.channelMentioned = plan.channelMentioned ∧
        another.allMentioned = plan.allMentioned ∧ another.hereMentioned = plan.hereMentioned := by
  intro plan found both
  refine ⟨fun hsilent => ?_, exists_listsOutsiders_of_not_isSilent, fun other => ⟨rfl, rfl, rfl, rfl⟩⟩
  have hnone : found = {} := value_find_of_isSilent hsilent
  simp [both, hnone]

end ChatNotify
