import ChatNotify.Proofs.Mention.Buckets
import ChatNotify.Proofs.Notification.Refusal

namespace ChatNotify

open Mention

/-- If mentions of the whole channel count, a post concerns all whom its text names or addresses. -/
theorem exists_concerns_allowed_iff (others : KeywordIndex) {snapshot : Snapshot} {post : Post}
    {thread : Option Thread} {keywords : KeywordIndex} {findings : List Finding} {user : Id} :
    (∃ kind, Concerns snapshot post thread keywords true (account findings) user kind) ↔
      (∃ finding ∈ findings, finding.names user = true ∨ finding.addresses user = true) ∨
      IsAddressedHere keywords true (account findings) user ∨
      ∃ kind, Concerns snapshot post thread others false {} user kind := by
  rw [exists_concerns_iff others, ← exists_kind?_account_iff]
  simp

section

variable {snapshot : Snapshot} {post : Post} {thread : Option Thread} {index other : KeywordIndex}

/-- Whom a post concerns under a refusal it concerns without one. -/
theorem exists_concerns_allowed_of_refused (hsame : index.withoutBuckets = other.withoutBuckets)
    {fields : List String} {user : Id}
    (hrefused : ∃ kind, Concerns snapshot post thread index false (inFields index fields) user kind) :
    ∃ kind, Concerns snapshot post thread other true (inFields other fields) user kind := by
  refine (exists_concerns_allowed_iff index).2 ?_
  rcases (exists_concerns_refused_iff index).1 hrefused with hlast | hanyway
  · have hbare := map_bare_fieldFindings_congr hsame fields
    obtain ⟨finding, hfinding, hnames⟩ := (exists_names_congr hbare user).1 hlast.exists_names
    exact .inl ⟨finding, hfinding, .inl hnames⟩
  · exact .inr (.inr hanyway)

/-- Whom a post does not concern under a refusal, but concerns without one, is in a bucket: a word for the whole
channel addresses the user, or comes behind all keywords of the user where it is refused. -/
theorem isInBucket_of_lost (hsame : index.withoutBuckets = other.withoutBuckets) {fields : List String} {user : Id}
    (hallowed : ∃ kind, Concerns snapshot post thread other true (inFields other fields) user kind)
    (hrefused : ¬ ∃ kind, Concerns snapshot post thread index false (inFields index fields) user kind) :
    IsInBucket index user ∨ IsInBucket other user ∨ user ∈ (other.get? Reserved.here).getD [] := by
  have hlost := fun hreason => hrefused ((exists_concerns_refused_iff index).2 hreason)
  rcases (exists_concerns_allowed_iff index).1 hallowed with ⟨finding, hfinding, hnames | haddresses⟩ | hhere | hanyway
  · have hbare := map_bare_fieldFindings_congr hsame fields
    have hnamed := (exists_names_congr hbare user).2 ⟨finding, hfinding, hnames⟩
    -- The user is named under the refusal too, so some word must have taken the place of the keyword.
    have haddressed : ∃ later ∈ fields.flatMap (fieldFindings index), later.addresses user = true := by
      refine Classical.byContradiction fun hnone => hlost (.inl (isNamedLast_of_not_addressed hnamed ?_))
      intro later hlater
      exact Bool.eq_false_iff.2 fun haddresses => hnone ⟨later, hlater, haddresses⟩
    obtain ⟨later, hlater, haddresses⟩ := haddressed
    exact .inl (isInBucket_of_flatMap_fieldFindings hlater haddresses)
  · exact .inr (.inl (isInBucket_of_flatMap_fieldFindings hfinding haddresses))
  · exact .inr (.inr hhere.2.2)
  · exact absurd (.inr hanyway) hlost

/-- Indexes that are the same but for the words for the whole channel lead to the same suggestions. -/
theorem suggestions_congr (directory : Directory) (hsame : index.withoutBuckets = other.withoutBuckets)
    (allowed counts : Bool) :
    (Plan.make directory snapshot post thread index allowed (inPost index post)).value.suggestions =
      (Plan.make directory snapshot post thread other counts (inPost other post)).value.suggestions := by
  have hpotential : (inPost index post).potential = (inPost other post).potential :=
    potential_account_congr (map_bare_fieldFindings_congr hsame post.mentionFields)
  change (Suggestions.find directory snapshot post (inPost index post).potential).value =
    (Suggestions.find directory snapshot post (inPost other post).potential).value
  rw [hpotential]

/-- Under a refusal nobody is notified as addressed with the whole channel. -/
theorem kind_ne_channel_of_refused {mentions : Mentions} {recipient : Recipient}
    (hrecipient : recipient ∈ recipientsOf snapshot post (settledMentions snapshot post thread index false mentions)) :
    recipient.kind ≠ .channel := by
  obtain ⟨-, -, hconcerns⟩ := concerns_of_mem_recipientsOf hrecipient
  intro hchannel
  rw [hchannel] at hconcerns
  cases hconcerns with
  | named _ hcounts => cases hcounts rfl
  | addressed haddressed => cases haddressed.1

end

/-- For every post, snapshot, thread and directory, compare the plan of a pass in which mentions of the whole
channel count with that of one in which they do not, for the index and for the policy alike. Whoever is
notified in the latter is notified in the former; whom the latter loses is in a bucket of the former's index,
that of `@channel`, `@all` or `@here`; both suggest the same users outside the channel; and the latter has
neither a recipient who is addressed with the whole channel nor a flag of such a mention. -/
theorem Plan.refused_within_allowed (directory : Directory) (snapshot : Snapshot) (post : Post)
    (thread : Option Thread) :
    let keywords (allowed : Bool) :=
      KeywordIndex.build snapshot.profiles allowed snapshot.preferences snapshot.presence
    let plan (allowed : Bool) := (Plan.make directory snapshot post thread (keywords allowed) allowed
      (inPost (keywords allowed) post)).value
    (∀ user, (∃ recipient ∈ (plan false).recipients, recipient.user = user) →
      ∃ recipient ∈ (plan true).recipients, recipient.user = user) ∧
    (∀ user, (∃ recipient ∈ (plan true).recipients, recipient.user = user) →
      (¬ ∃ recipient ∈ (plan false).recipients, recipient.user = user) →
      user ∈ ((keywords true).get? Reserved.channel).getD [] ∨
        user ∈ ((keywords true).get? Reserved.all).getD [] ∨
        user ∈ ((keywords true).get? Reserved.here).getD []) ∧
    (plan false).suggestions = (plan true).suggestions ∧
    (∀ recipient ∈ (plan false).recipients, recipient.kind ≠ .channel) ∧
    (plan false).channelMentioned = false ∧ (plan false).allMentioned = false ∧
    (plan false).hereMentioned = false := by
  intro keywords plan
  have hkeywords : (keywords false).withoutBuckets = (keywords true).withoutBuckets :=
    (KeywordIndex.withoutBuckets_build snapshot.profiles true snapshot.preferences snapshot.presence).symm
  refine ⟨?_, ?_, suggestions_congr directory hkeywords false true, fun _ => kind_ne_channel_of_refused,
    flags_settledMentions snapshot post thread (keywords false) false (inPost (keywords false) post)⟩
  · intro user hrefused
    obtain ⟨hmember, hauthor, hconcerns⟩ := exists_recipient_iff.1 hrefused
    exact exists_recipient_iff.2 ⟨hmember, hauthor, exists_concerns_allowed_of_refused hkeywords hconcerns⟩
  · intro user hallowed hlost
    obtain ⟨hmember, hauthor, hconcerns⟩ := exists_recipient_iff.1 hallowed
    have hrefused := fun hreason => hlost (exists_recipient_iff.2 ⟨hmember, hauthor, hreason⟩)
    rcases isInBucket_of_lost hkeywords hconcerns hrefused with (hchannel | hall) | (hchannel | hall) | hhere
    · exact .inl (KeywordIndex.mem_build_of_refused hchannel)
    · exact .inr (.inl (KeywordIndex.mem_build_of_refused hall))
    · exact .inl hchannel
    · exact .inr (.inl hall)
    · exact .inr (.inr hhere)

end ChatNotify
