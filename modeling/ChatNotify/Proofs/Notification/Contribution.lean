import ChatNotify.Proofs.Notification.OptIn
import Mathlib.Data.List.Sort

namespace ChatNotify

namespace KeywordIndex

/-- Users who contribute a keyword, each as often as that. -/
def gathered (members : List User) (allowed : Bool) (preferences : Table Id ChannelPreferences)
    (presence : Table Id Presence) (keyword : String) : List Id :=
  members.flatMap fun user => List.replicate
    (user.contributions (preferences.get? user.id) (presence.get? user.id) allowed keyword) user.id

section

variable {profiles : Table Id User} {allowed : Bool} {preferences : Table Id ChannelPreferences}
  {presence : Table Id Presence}

theorem gathered_inOrder (keyword : String) :
    gathered (inOrder profiles) allowed preferences presence keyword =
      ((build profiles allowed preferences presence).get? keyword).getD [] := by
  rw [getD_get?_build, gathered]
  simp only [count_ofMember_eq]

/-- The index has a keyword that members contribute, with those members. -/
theorem get?_build (keyword : String) :
    (build profiles allowed preferences presence).get? keyword =
      if gathered (inOrder profiles) allowed preferences presence keyword = [] then none
      else some (gathered (inOrder profiles) allowed preferences presence keyword) := by
  have hnone : (build profiles allowed preferences presence).get? keyword = none ↔
      ((build profiles allowed preferences presence).get? keyword).getD [] = [] := get?_build_eq_none_iff keyword
  rw [gathered_inOrder]
  split
  · next hempty => exact hnone.2 hempty
  · next hsome =>
    obtain ⟨ids, hids⟩ := Option.ne_none_iff_exists'.1 (mt hnone.1 hsome)
    rw [hids, Option.getD_some]

/-- The index does not have a keyword that no member contributes. -/
theorem get?_build_eq_none_iff_of_keyed (hkeyed : ∀ id user, profiles.get? id = some user → user.id = id)
    (keyword : String) :
    (build profiles allowed preferences presence).get? keyword = none ↔
      ∀ id user, profiles.get? id = some user →
        user.contributions (preferences.get? id) (presence.get? id) allowed keyword = 0 := by
  rw [get?_build_eq_none_iff, ← gathered_inOrder, gathered, List.flatMap_eq_nil_iff]
  simp only [List.replicate_eq_nil_iff, mem_inOrder_iff hkeyed]
  constructor
  · intro hnone id user huser
    obtain rfl := hkeyed id user huser
    exact hnone user huser
  · exact fun hnone user huser => hnone user.id user huser

end

/-- Members in the order of their identifiers are told by who they are. -/
theorem eq_of_ordered {members others : List User} (hmembers : members.Pairwise fun a b => a.id < b.id)
    (hothers : others.Pairwise fun a b => a.id < b.id) (hsame : ∀ user, user ∈ members ↔ user ∈ others) :
    members = others := by
  have : Std.Irrefl fun a b : User => a.id < b.id := ⟨fun user => Nat.lt_irrefl user.id.value⟩
  have : Std.Antisymm fun a b : User => a.id < b.id :=
    ⟨fun a b hab hba => absurd hba (Nat.lt_asymm hab)⟩
  exact hmembers.eq_of_mem_iff hothers hsame

/-- What the tables have for each key makes the index, whatever order they list it in. -/
theorem build_congr {profiles others : Table Id User} {preferences otherPreferences : Table Id ChannelPreferences}
    {presence otherPresence : Table Id Presence} (hkeyed : ∀ id user, profiles.get? id = some user → user.id = id)
    (hprofiles : ∀ id, others.get? id = profiles.get? id)
    (hpreferences : ∀ id, otherPreferences.get? id = preferences.get? id)
    (hpresence : ∀ id, otherPresence.get? id = presence.get? id) (allowed : Bool) :
    build others allowed otherPreferences otherPresence = build profiles allowed preferences presence := by
  have hothers : ∀ id user, others.get? id = some user → user.id = id :=
    fun id user huser => hkeyed id user ((hprofiles id).symm.trans huser)
  have horder : inOrder others = inOrder profiles :=
    eq_of_ordered (pairwise_inOrder hothers) (pairwise_inOrder hkeyed) fun user => by
      rw [mem_inOrder_iff hothers, mem_inOrder_iff hkeyed, hprofiles]
  simp only [build, horder, hpreferences, hpresence]

/-- Let the members of a channel be listed under their own identifiers. In the order of these they are a list of
which the index is made: it has for each keyword the members who contribute it, in that order and each as often as
that, and does not have the keywords that none of them contributes. Tables that list members, preferences and
presences in another order lead to the same index. -/
theorem build_gathers_contributions {profiles : Table Id User}
    (hkeyed : ∀ id user, profiles.get? id = some user → user.id = id) :
    (∃ members : List User, members.Pairwise (fun a b => a.id < b.id) ∧
      (∀ user, user ∈ members ↔ profiles.get? user.id = some user) ∧
      ∀ (allowed : Bool) (preferences : Table Id ChannelPreferences) (presence : Table Id Presence)
        (keyword : String), (build profiles allowed preferences presence).get? keyword =
          if gathered members allowed preferences presence keyword = [] then none
          else some (gathered members allowed preferences presence keyword)) ∧
    (∀ (allowed : Bool) (preferences : Table Id ChannelPreferences) (presence : Table Id Presence)
      (keyword : String), (build profiles allowed preferences presence).get? keyword = none ↔
        ∀ id user, profiles.get? id = some user →
          user.contributions (preferences.get? id) (presence.get? id) allowed keyword = 0) ∧
    ∀ (allowed : Bool) (preferences otherPreferences : Table Id ChannelPreferences)
      (presence otherPresence : Table Id Presence) (others : Table Id User),
      (∀ id, others.get? id = profiles.get? id) → (∀ id, otherPreferences.get? id = preferences.get? id) →
      (∀ id, otherPresence.get? id = presence.get? id) →
      build others allowed otherPreferences otherPresence = build profiles allowed preferences presence := by
  refine ⟨⟨inOrder profiles, pairwise_inOrder hkeyed, fun user => mem_inOrder_iff hkeyed, ?_⟩, ?_, ?_⟩
  · exact fun allowed preferences presence keyword => get?_build keyword
  · exact fun allowed preferences presence keyword => get?_build_eq_none_iff_of_keyed hkeyed keyword
  · intro allowed preferences otherPreferences presence otherPresence others hprofiles hpreferences hpresence
    exact build_congr hkeyed hprofiles hpreferences hpresence allowed

/-- Two members choose one keyword, the first of them twice; the one with the lesser identifier was listed later. -/
theorem build_gathers_shared_keyword :
    let ivan : User := { id := ⟨2⟩, username := "Ivan", preferences := { mentionKeys := ["ops"] } }
    let jane : User := { id := ⟨1⟩, username := "jane", preferences := { mentionKeys := ["ops", "ops"] } }
    let profiles : Table Id User := ((∅ : Table Id User).insert ⟨2⟩ ivan).insert ⟨1⟩ jane
    (∀ id user, profiles.get? id = some user → user.id = id) ∧
    (build profiles true ∅ ∅).get? "ops" = some [⟨1⟩, ⟨1⟩, ⟨2⟩] ∧
    (build profiles true ∅ ∅).get? Reserved.all = some [⟨1⟩, ⟨2⟩] ∧
    (build profiles true ∅ ∅).get? Reserved.here = none := by
  intro ivan jane profiles
  have hkeyed : ∀ id user, profiles.get? id = some user → user.id = id := by
    have hentries : ∀ entry ∈ profiles.entries, entry.2.id = entry.1 := by decide
    exact fun id user huser => hentries (id, user) (Table.get?_eq_some_iff.1 huser)
  obtain ⟨⟨members, hordered, hmembers, hget⟩, hnone, -⟩ := build_gathers_contributions hkeyed
  have hlisted : members = [jane, ivan] := by
    refine eq_of_ordered hordered (by simp [jane, ivan]; decide) fun user => ?_
    rw [hmembers, ← mem_inOrder_iff hkeyed, inOrder, List.mem_mergeSort]
    exact (List.Perm.swap jane ivan []).mem_iff
  subst hlisted
  refine ⟨hkeyed, ?_, ?_, (hnone true ∅ ∅ Reserved.here).2 ?_⟩
  · rw [hget]
    decide
  · rw [hget]
    decide
  · have hentries : ∀ entry ∈ profiles.entries, entry.2.contributions none none true Reserved.here = 0 := by decide
    exact fun id user huser => hentries (id, user) (Table.get?_eq_some_iff.1 huser)

end KeywordIndex

end ChatNotify
