import ChatNotify.Notification.Policy
import ChatNotify.Proofs.Mention.Kinds

namespace ChatNotify

/-- The kind of highest tier for which there is a reason, if there is one. -/
def IsTop (reasons : MentionKind → Prop) : Option MentionKind → Prop
  | none => ∀ kind, ¬ reasons kind
  | some top => reasons top ∧ ∀ kind, reasons kind → kind = top ∨ kind.tier < top.tier

theorem IsTop.congr {reasons others : MentionKind → Prop} {top : Option MentionKind} (htop : IsTop reasons top)
    (hsame : ∀ kind, reasons kind ↔ others kind) : IsTop others top := by
  rwa [show others = reasons from funext fun kind => propext (hsame kind).symm]

/-- A single reason is the highest one. -/
theorem IsTop.of_iff {reasons : MentionKind → Prop} {top : Option MentionKind}
    (hreasons : ∀ kind, reasons kind ↔ top = some kind) : IsTop reasons top := by
  cases top with
  | none =>
    intro kind hkind
    cases (hreasons kind).1 hkind
  | some top =>
    refine ⟨(hreasons top).2 rfl, ?_⟩
    intro kind hkind
    exact .inl (Option.some.inj ((hreasons kind).1 hkind)).symm

/-- Adding a mention below the highest tier keeps the kind that of highest tier, with one reason more. -/
theorem IsTop.onto {reasons : MentionKind → Prop} {before : Option MentionKind} (htop : IsTop reasons before)
    {kind : MentionKind} (hlow : kind.tier < MentionKind.channel.tier) :
    IsTop (fun other => reasons other ∨ other = kind) (some (kind.onto before)) := by
  cases before with
  | none =>
    refine ⟨.inr rfl, ?_⟩
    rintro other (hother | rfl)
    · exact absurd hother (htop other)
    · exact .inl rfl
  | some top =>
    obtain ⟨hreason, hmax⟩ := htop
    by_cases hlower : kind.tier < top.tier
    · rw [MentionKind.onto, if_pos hlower]
      refine ⟨.inl hreason, ?_⟩
      rintro other (hother | rfl)
      · exact hmax other hother
      · exact .inr hlower
    · rw [MentionKind.onto, if_neg hlower]
      refine ⟨.inr rfl, ?_⟩
      rintro other (hother | rfl)
      · rcases hmax other hother with rfl | hless
        · by_cases htier : kind.tier = other.tier
          · exact .inl (MentionKind.eq_of_tier_eq hlow htier).symm
          · exact .inr (by omega)
        · exact .inr (by omega)
      · exact .inl rfl

/-- The same for a mention that is added on a condition. -/
theorem IsTop.onto_if {reasons : MentionKind → Prop} {before : Option MentionKind} (htop : IsTop reasons before)
    (kind : MentionKind) (hlow : kind.tier < MentionKind.channel.tier) (condition : Prop) [Decidable condition] :
    IsTop (fun other => reasons other ∨ (condition ∧ other = kind))
      (if condition then some (kind.onto before) else before) := by
  by_cases hcondition : condition
  · simpa [hcondition] using htop.onto hlow
  · simpa [hcondition] using htop

section

variable (snapshot : Snapshot) (post : Post) (thread : Option Thread) (keywords : KeywordIndex)
  (allowed : Bool) (mentions : Mentions)

/-- Holds of those whom `@here` addresses, if mentions of the whole channel count. -/
def IsAddressedHere (user : Id) : Prop :=
  allowed = true ∧ mentions.here = true ∧ user ∈ (keywords.get? Reserved.here).getD []

/-- Why a post concerns a user, and the kind that goes with the reason: the text names the user, the
text addresses those who are here, the conversation is between two, the post continues a thread that
the user takes part in, or one that the user follows. -/
inductive Concerns (user : Id) : MentionKind → Prop
  | named {kind : MentionKind} (hkind : mentions.kind? user = some kind)
      (hcounts : kind = .channel → allowed = true) : Concerns user kind
  | addressed (haddressed : IsAddressedHere keywords allowed mentions user) : Concerns user .channel
  | conversation (hdirect : snapshot.channel.kind = .direct) : Concerns user .directMessage
  | takesPart {current : Thread} {profile : User} (hthread : thread = some current)
      (hreply : post.root.isSome) (huser : user ∈ current.participants)
      (hprofile : snapshot.profiles.get? user = some profile)
      (hwants : profile.preferences.comments = .any ∨
        profile.preferences.comments = .root ∧ current.rootAuthor = some user) : Concerns user .comment
  | follows {current : Thread} (hthread : thread = some current) (hreply : post.root.isSome)
      (huser : user ∈ current.followers) : Concerns user .thread

/-- The kind of a recipient: that of a mention of the whole channel for those whom `@here` addresses,
and else the one of highest tier among those for which there is a reason. -/
def IsKindOf (user : Id) (kind : MentionKind) : Prop :=
  (IsAddressedHere keywords allowed mentions user → kind = .channel) ∧
  (¬ IsAddressedHere keywords allowed mentions user →
    IsTop (Concerns snapshot post thread keywords allowed mentions user) (some kind))

end

variable {snapshot : Snapshot} {post : Post} {thread : Option Thread} {keywords : KeywordIndex}
  {allowed : Bool} {mentions : Mentions}

/-- A post concerns those whom its text names or addresses, and those whom it would concern whatever its text:
these do not depend on the keywords either. -/
theorem exists_concerns_iff (others : KeywordIndex) {user : Id} :
    (∃ kind, Concerns snapshot post thread keywords allowed mentions user kind) ↔
      (∃ kind, mentions.kind? user = some kind ∧ (kind = .channel → allowed = true)) ∨
      IsAddressedHere keywords allowed mentions user ∨
      ∃ kind, Concerns snapshot post thread others false {} user kind := by
  constructor
  · rintro ⟨kind, hconcerns⟩
    cases hconcerns with
    | named hkind hcounts => exact .inl ⟨kind, hkind, hcounts⟩
    | addressed haddressed => exact .inr (.inl haddressed)
    | conversation hdirect => exact .inr (.inr ⟨_, .conversation hdirect⟩)
    | takesPart hthread hreply huser hprofile hwants =>
      exact .inr (.inr ⟨_, .takesPart hthread hreply huser hprofile hwants⟩)
    | follows hthread hreply huser => exact .inr (.inr ⟨_, .follows hthread hreply huser⟩)
  · rintro (⟨kind, hkind, hcounts⟩ | haddressed | ⟨kind, hconcerns⟩)
    · exact ⟨kind, .named hkind hcounts⟩
    · exact ⟨_, .addressed haddressed⟩
    · cases hconcerns with
      | named hkind => cases hkind
      | addressed haddressed => cases haddressed.1
      | conversation hdirect => exact ⟨_, .conversation hdirect⟩
      | takesPart hthread hreply huser hprofile hwants => exact ⟨_, .takesPart hthread hreply huser hprofile hwants⟩
      | follows hthread hreply huser => exact ⟨_, .follows hthread hreply huser⟩

theorem wantsReplies_iff {current : Thread} {user : Id} :
    wantsReplies snapshot current user = true ↔ ∃ profile, snapshot.profiles.get? user = some profile ∧
      (profile.preferences.comments = .any ∨
        profile.preferences.comments = .root ∧ current.rootAuthor = some user) := by
  unfold wantsReplies
  cases snapshot.profiles.get? user with
  | none => simp
  | some profile => cases hcomments : profile.preferences.comments <;> simp [hcomments]

theorem kind?_settleChannelMentions_of_here {user : Id}
    (haddressed : IsAddressedHere keywords allowed mentions user) :
    (settleChannelMentions mentions allowed keywords).kind? user = some .channel := by
  obtain ⟨rfl, hhere, huser⟩ := haddressed
  simp [settleChannelMentions, hhere, Mentions.kind?_addAll, huser]

/-- Among those whom `@here` does not address, mentions of the whole channel stay if they count, and
all others stay in any case. -/
theorem kind?_settleChannelMentions_iff {user : Id} {kind : MentionKind}
    (haddressed : ¬ IsAddressedHere keywords allowed mentions user) :
    (settleChannelMentions mentions allowed keywords).kind? user = some kind ↔
      mentions.kind? user = some kind ∧ (kind = .channel → allowed = true) := by
  cases allowed with
  | false => simp [settleChannelMentions, Mentions.kind?_strip]
  | true =>
    by_cases hhere : mentions.here = true
    · have huser : user ∉ (keywords.get? Reserved.here).getD [] := fun h => haddressed ⟨rfl, hhere, h⟩
      simp [settleChannelMentions, hhere, Mentions.kind?_addAll, huser]
    · simp [settleChannelMentions, hhere]

theorem kind?_addConversation {author user : Id} (hmember : snapshot.isMember user = true)
    (hauthor : user ≠ author) : (addConversation mentions snapshot author).kind? user =
      if snapshot.channel.kind = .direct then some (MentionKind.directMessage.onto (mentions.kind? user))
      else mentions.kind? user := by
  unfold addConversation
  split
  · have hkey : user ∈ snapshot.profiles.keys := by
      obtain ⟨profile, hprofile⟩ := Option.isSome_iff_exists.1 hmember
      exact Table.mem_keys_of_mem (Table.get?_eq_some_iff.1 hprofile)
    rw [Mentions.kind?_addAll, if_pos (by simp [hkey, hauthor])]
  · rfl

theorem kind?_addThread {user : Id} {current : Thread} (hreply : post.root.isSome) :
    (addThread mentions snapshot post (some current)).kind? user =
      if user ∈ current.followers then some (MentionKind.thread.onto
        (if user ∈ current.participants.filter (wantsReplies snapshot current) then
          some (MentionKind.comment.onto (mentions.kind? user)) else mentions.kind? user))
      else if user ∈ current.participants.filter (wantsReplies snapshot current) then
        some (MentionKind.comment.onto (mentions.kind? user)) else mentions.kind? user := by
  obtain ⟨root, hroot⟩ := Option.isSome_iff_exists.1 hreply
  simp only [addThread, hroot, Mentions.kind?_addAll]

theorem addThread_of_not_reply (hreply : ¬ (thread.isSome ∧ post.root.isSome)) :
    addThread mentions snapshot post thread = mentions := by
  unfold addThread
  split
  · next hroot => simp [hroot] at hreply
  · rfl

/-- Nothing that follows from the channel and the thread replaces a mention of the whole channel. -/
theorem kind?_settledMentions_of_here {user : Id} (hmember : snapshot.isMember user = true)
    (hauthor : user ≠ post.user) (haddressed : IsAddressedHere keywords allowed mentions user) :
    (settledMentions snapshot post thread keywords allowed mentions).kind? user = some .channel := by
  have hconversation : (addConversation (settleChannelMentions mentions allowed keywords) snapshot
      post.user).kind? user = some .channel := by
    rw [kind?_addConversation hmember hauthor, kind?_settleChannelMentions_of_here haddressed]
    split <;> rfl
  unfold settledMentions
  by_cases hreply : thread.isSome ∧ post.root.isSome
  · obtain ⟨current, rfl⟩ := Option.isSome_iff_exists.1 hreply.1
    have hthread : MentionKind.thread.onto (some .channel) = .channel := rfl
    have hcomment : MentionKind.comment.onto (some .channel) = .channel := rfl
    rw [kind?_addThread hreply.2, hconversation, hcomment]
    simp [hthread]
  · rw [addThread_of_not_reply hreply, hconversation]

/-- The settled kind of any other member is the one of highest tier for which there is a reason. -/
theorem isTop_kind?_settledMentions (thread : Option Thread) {user : Id} (hmember : snapshot.isMember user = true)
    (hauthor : user ≠ post.user) (haddressed : ¬ IsAddressedHere keywords allowed mentions user) :
    IsTop (Concerns snapshot post thread keywords allowed mentions user)
      ((settledMentions snapshot post thread keywords allowed mentions).kind? user) := by
  have hnamed : IsTop (fun kind => mentions.kind? user = some kind ∧ (kind = .channel → allowed = true))
      ((settleChannelMentions mentions allowed keywords).kind? user) :=
    IsTop.of_iff fun _ => (kind?_settleChannelMentions_iff haddressed).symm
  have hconversation := hnamed.onto_if .directMessage (by decide) (snapshot.channel.kind = .direct)
  rw [← kind?_addConversation hmember hauthor] at hconversation
  unfold settledMentions
  by_cases hreply : thread.isSome ∧ post.root.isSome
  · obtain ⟨current, rfl⟩ := Option.isSome_iff_exists.1 hreply.1
    rw [kind?_addThread hreply.2]
    refine ((hconversation.onto_if .comment (by decide) _).onto_if .thread (by decide) _).congr fun kind => ?_
    simp only [List.mem_filter, wantsReplies_iff]
    constructor
    · rintro (((⟨hkind, hcounts⟩ | ⟨hdirect, rfl⟩) | ⟨⟨huser, profile, hprofile, hwants⟩, rfl⟩) | ⟨huser, rfl⟩)
      · exact .named hkind hcounts
      · exact .conversation hdirect
      · exact .takesPart rfl hreply.2 huser hprofile hwants
      · exact .follows rfl hreply.2 huser
    · intro hconcerns
      cases hconcerns with
      | named hkind hcounts => exact .inl (.inl (.inl ⟨hkind, hcounts⟩))
      | addressed h => exact absurd h haddressed
      | conversation hdirect => exact .inl (.inl (.inr ⟨hdirect, rfl⟩))
      | takesPart hthread _ huser hprofile hwants =>
        cases hthread
        exact .inl (.inr ⟨⟨huser, _, hprofile, hwants⟩, rfl⟩)
      | follows hthread _ huser =>
        cases hthread
        exact .inr ⟨huser, rfl⟩
  · rw [addThread_of_not_reply hreply]
    refine hconversation.congr fun kind => ?_
    constructor
    · rintro (⟨hkind, hcounts⟩ | ⟨hdirect, rfl⟩)
      · exact .named hkind hcounts
      · exact .conversation hdirect
    · intro hconcerns
      cases hconcerns with
      | named hkind hcounts => exact .inl ⟨hkind, hcounts⟩
      | addressed h => exact absurd h haddressed
      | conversation hdirect => exact .inr ⟨hdirect, rfl⟩
      | takesPart hthread hroot _ _ _ => exact absurd ⟨by simp [hthread], hroot⟩ hreply
      | follows hthread hroot _ => exact absurd ⟨by simp [hthread], hroot⟩ hreply

/-- A member who is left with a kind is left with the right one, and for a reason. -/
theorem isKindOf_of_kind?_settledMentions {thread : Option Thread} {user : Id} {kind : MentionKind}
    (hmember : snapshot.isMember user = true) (hauthor : user ≠ post.user)
    (hkind : (settledMentions snapshot post thread keywords allowed mentions).kind? user = some kind) :
    IsKindOf snapshot post thread keywords allowed mentions user kind ∧
      Concerns snapshot post thread keywords allowed mentions user kind := by
  by_cases haddressed : IsAddressedHere keywords allowed mentions user
  · rw [kind?_settledMentions_of_here hmember hauthor haddressed] at hkind
    cases hkind
    exact ⟨⟨fun _ => rfl, fun hother => absurd haddressed hother⟩, .addressed haddressed⟩
  · have htop := isTop_kind?_settledMentions thread hmember hauthor haddressed
    rw [hkind] at htop
    exact ⟨⟨fun hother => absurd hother haddressed, fun _ => htop⟩, htop.1⟩

/-- A member whom the post concerns is left with a kind. -/
theorem exists_kind?_settledMentions {thread : Option Thread} {user : Id} {kind : MentionKind}
    (hmember : snapshot.isMember user = true) (hauthor : user ≠ post.user)
    (hconcerns : Concerns snapshot post thread keywords allowed mentions user kind) :
    ∃ top, (settledMentions snapshot post thread keywords allowed mentions).kind? user = some top := by
  by_cases haddressed : IsAddressedHere keywords allowed mentions user
  · exact ⟨.channel, kind?_settledMentions_of_here hmember hauthor haddressed⟩
  · have htop := isTop_kind?_settledMentions thread hmember hauthor haddressed
    cases hkind : (settledMentions snapshot post thread keywords allowed mentions).kind? user with
    | some top => exact ⟨top, rfl⟩
    | none =>
      rw [hkind] at htop
      exact absurd hconcerns (htop kind)

theorem mem_recipientsOf_iff {recipient : Recipient} :
    recipient ∈ recipientsOf snapshot post mentions ↔
      recipient.user ≠ post.user ∧ mentions.kind? recipient.user = some recipient.kind ∧
      ∃ profile, snapshot.profiles.get? recipient.user = some profile ∧
        recipient = recipientOf snapshot post profile recipient.user recipient.kind := by
  simp only [recipientsOf, List.mem_mergeSort, List.mem_filterMap]
  constructor
  · rintro ⟨⟨id, kind⟩, hentry, hrecipient⟩
    split at hrecipient
    · cases hrecipient
    · next hauthor =>
      obtain ⟨profile, hprofile, rfl⟩ := Option.map_eq_some_iff.1 hrecipient
      exact ⟨hauthor, Table.get?_eq_some_iff.2 hentry, profile, hprofile, rfl⟩
  · rintro ⟨hauthor, hkind, profile, hprofile, hrecipient⟩
    refine ⟨(recipient.user, recipient.kind), Table.get?_eq_some_iff.1 hkind, ?_⟩
    rw [if_neg hauthor, hprofile, Option.map_some, ← hrecipient]

/-- A post concerns its recipients in the way of which they are told. -/
theorem concerns_of_mem_recipientsOf {recipient : Recipient} (hrecipient : recipient ∈
      recipientsOf snapshot post (settledMentions snapshot post thread keywords allowed mentions)) :
    snapshot.isMember recipient.user = true ∧ recipient.user ≠ post.user ∧
      Concerns snapshot post thread keywords allowed mentions recipient.user recipient.kind := by
  obtain ⟨hauthor, hkind, profile, hprofile, -⟩ := mem_recipientsOf_iff.1 hrecipient
  have hmember : snapshot.isMember recipient.user = true := by simp [Snapshot.isMember, Table.contains, hprofile]
  exact ⟨hmember, hauthor, (isKindOf_of_kind?_settledMentions hmember hauthor hkind).2⟩

/-- The recipients are the members, except the author, whom the post concerns. -/
theorem exists_recipient_iff {user : Id} :
    (∃ recipient ∈ recipientsOf snapshot post (settledMentions snapshot post thread keywords allowed mentions),
      recipient.user = user) ↔
    snapshot.isMember user = true ∧ user ≠ post.user ∧
      ∃ kind, Concerns snapshot post thread keywords allowed mentions user kind := by
  constructor
  · rintro ⟨recipient, hrecipient, rfl⟩
    obtain ⟨hmember, hauthor, hconcerns⟩ := concerns_of_mem_recipientsOf hrecipient
    exact ⟨hmember, hauthor, recipient.kind, hconcerns⟩
  · rintro ⟨hmember, hauthor, kind, hconcerns⟩
    obtain ⟨profile, hprofile⟩ := Option.isSome_iff_exists.1 hmember
    obtain ⟨top, htop⟩ := exists_kind?_settledMentions hmember hauthor hconcerns
    exact ⟨recipientOf snapshot post profile user top,
      mem_recipientsOf_iff.2 ⟨hauthor, htop, profile, hprofile, rfl⟩, rfl⟩

/-- The recipients are in the order of their identifiers, and none comes twice. -/
theorem pairwise_recipientsOf (snapshot : Snapshot) (post : Post) (mentions : Mentions) :
    (recipientsOf snapshot post mentions).Pairwise fun a b => a.user < b.user := by
  have hkeys := List.pairwise_map.1 mentions.kinds.nodup_keys
  have hnodup : (recipientsOf snapshot post mentions).Pairwise fun a b => a.user ≠ b.user := by
    unfold recipientsOf
    refine ((List.mergeSort_perm _ _).pairwise_iff fun h => Ne.symm h).2 ?_
    refine List.pairwise_filterMap.2 (hkeys.imp ?_)
    rintro ⟨id, kind⟩ ⟨id', kind'⟩ hne recipient hrecipient recipient' hrecipient'
    simp only [Option.ite_none_left_eq_some, Option.map_eq_some_iff] at hrecipient hrecipient'
    obtain ⟨-, profile, -, rfl⟩ := hrecipient
    obtain ⟨-, profile', -, rfl⟩ := hrecipient'
    exact hne
  have hsorted : (recipientsOf snapshot post mentions).Pairwise fun a b => a.user ≤ b.user := by
    simpa [recipientsOf] using @List.pairwise_mergeSort _ (fun a b : Recipient => decide (a.user ≤ b.user))
      (fun a b c => by simpa using Id.le_trans) (fun a b => by simpa using Id.le_total a.user b.user) _
  exact (hsorted.and hnodup).imp fun h => Id.lt_of_le_of_ne h.1 h.2

private theorem exists_addConversation_eq (mentions : Mentions) (snapshot : Snapshot) (author : Id) :
    ∃ kinds, addConversation mentions snapshot author = { mentions with kinds := kinds } := by
  unfold addConversation
  split
  · exact mentions.exists_addAll_eq _ _
  · exact ⟨mentions.kinds, rfl⟩

private theorem exists_addThread_eq (mentions : Mentions) (snapshot : Snapshot) (post : Post)
    (thread : Option Thread) :
    ∃ kinds, addThread mentions snapshot post thread = { mentions with kinds := kinds } := by
  unfold addThread
  split
  · next current _ _ =>
    obtain ⟨kinds, hkinds⟩ := mentions.exists_addAll_eq
      (current.participants.filter (wantsReplies snapshot current)) .comment
    rw [hkinds]
    exact Mentions.exists_addAll_eq _ _ _
  · exact ⟨mentions.kinds, rfl⟩

/-- The flags of a mention of the whole channel stay exactly if such mentions count. -/
theorem flags_settledMentions (snapshot : Snapshot) (post : Post) (thread : Option Thread)
    (keywords : KeywordIndex) (allowed : Bool) (mentions : Mentions) :
    let settled := settledMentions snapshot post thread keywords allowed mentions
    settled.channel = (allowed && mentions.channel) ∧ settled.all = (allowed && mentions.all) ∧
      settled.here = (allowed && mentions.here) := by
  intro settled
  obtain ⟨conversation, hconversation⟩ := exists_addConversation_eq
    (settleChannelMentions mentions allowed keywords) snapshot post.user
  obtain ⟨followed, hfollowed⟩ := exists_addThread_eq
    { settleChannelMentions mentions allowed keywords with kinds := conversation } snapshot post thread
  have hsettled : settled = { settleChannelMentions mentions allowed keywords with kinds := followed } := by
    simp only [settled, settledMentions, hconversation, hfollowed]
  rw [hsettled]
  unfold settleChannelMentions
  cases allowed with
  | false => exact ⟨rfl, rfl, rfl⟩
  | true =>
    cases hhere : mentions.here <;> simp [hhere]

/-- For every post, snapshot, thread and index, and whatever mentions come in and the directories
answer: those notified are exactly the members, except the author, whom the post concerns. Each of
them is notified once, in the order of identifiers, and under the kind of highest tier for which there
is a reason; those whom `@here` addresses count as addressed with the whole channel. The ways of
notification are those that the settings of that member allow for that kind, and the flags of a mention
of the whole channel stay exactly if such mentions count. -/
theorem Plan.notifies_exactly_concerned (directory : Directory) (snapshot : Snapshot) (post : Post)
    (thread : Option Thread) (keywords : KeywordIndex) (allowed : Bool) (mentions : Mentions) :
    let plan := (Plan.make directory snapshot post thread keywords allowed mentions).value
    (∀ user, (∃ recipient ∈ plan.recipients, recipient.user = user) ↔
      snapshot.isMember user = true ∧ user ≠ post.user ∧
        ∃ kind, Concerns snapshot post thread keywords allowed mentions user kind) ∧
    (∀ recipient ∈ plan.recipients,
      IsKindOf snapshot post thread keywords allowed mentions recipient.user recipient.kind ∧
      ∃ profile, snapshot.profiles.get? recipient.user = some profile ∧
        recipient = recipientOf snapshot post profile recipient.user recipient.kind) ∧
    plan.recipients.Pairwise (fun a b => a.user < b.user) ∧
    plan.channelMentioned = (allowed && mentions.channel) ∧
    plan.allMentioned = (allowed && mentions.all) ∧
    plan.hereMentioned = (allowed && mentions.here) := by
  intro plan
  have hmem (recipient : Recipient) : recipient ∈ plan.recipients ↔ _ := mem_recipientsOf_iff
  refine ⟨fun user => exists_recipient_iff, ?_, pairwise_recipientsOf _ _ _, ?_⟩
  · intro recipient hrecipient
    obtain ⟨hauthor, hkind, profile, hprofile, heq⟩ := (hmem recipient).1 hrecipient
    have hmember : snapshot.isMember recipient.user = true := by simp [Snapshot.isMember, Table.contains, hprofile]
    exact ⟨(isKindOf_of_kind?_settledMentions hmember hauthor hkind).1, profile, hprofile, heq⟩
  · exact flags_settledMentions snapshot post thread keywords allowed mentions

end ChatNotify
