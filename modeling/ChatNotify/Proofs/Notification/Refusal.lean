import ChatNotify.Proofs.Mention.Findings
import ChatNotify.Proofs.Notification.Recipients

namespace ChatNotify

open Mention

/-- A refusal leaves of the reasons for which a post concerns a user those that do not come from its text,
and the keywords of the user in it that no word for the whole channel has replaced. -/
theorem exists_concerns_refused_iff (others : KeywordIndex) {snapshot : Snapshot} {post : Post}
    {thread : Option Thread} {keywords : KeywordIndex} {findings : List Finding} {user : Id} :
    (∃ kind, Concerns snapshot post thread keywords false (account findings) user kind) ↔
      IsNamedLast user findings ∨ ∃ kind, Concerns snapshot post thread others false {} user kind := by
  rw [exists_concerns_iff others]
  constructor
  · rintro (⟨kind, hkind, hcounts⟩ | haddressed | hanyway)
    · rcases eq_keyword_or_channel_of_kind?_account hkind with rfl | rfl
      · exact .inl (kind?_account_eq_keyword_iff.1 hkind)
      · cases hcounts rfl
    · cases haddressed.1
    · exact .inr hanyway
  · rintro (hlast | hanyway)
    · refine .inl ⟨.keyword, kind?_account_eq_keyword_iff.2 hlast, ?_⟩
      intro hchannel
      cases hchannel
    · exact .inr (.inr hanyway)

/-- Holds of the users whom some word for the whole channel stands for. -/
def IsInBucket (keywords : KeywordIndex) (user : Id) : Prop :=
  user ∈ (keywords.get? Reserved.channel).getD [] ∨ user ∈ (keywords.get? Reserved.all).getD []

/-- A word addresses those whom the index has for it. -/
theorem isInBucket_of_bound? {keywords : KeywordIndex} {form : List Char} {finding : Finding} {user : Id}
    (hbound : bound? keywords form = some finding) (haddresses : finding.addresses user = true) :
    IsInBucket keywords user := by
  simp only [bound?] at hbound
  split at hbound
  · cases hbound
    cases haddresses
  · split at hbound
    · cases hbound
      exact .inl (of_decide_eq_true haddresses)
    · split at hbound
      · cases hbound
        exact .inr (of_decide_eq_true haddresses)
      · obtain ⟨users, -, rfl⟩ := Option.map_eq_some_iff.1 hbound
        cases haddresses

theorem isInBucket_of_pieceFindings {keywords : KeywordIndex} {piece : List Char} {finding : Finding} {user : Id}
    (hfinding : finding ∈ pieceFindings keywords piece) (haddresses : finding.addresses user = true) :
    IsInBucket keywords user := by
  unfold pieceFindings at hfinding
  split at hfinding
  · next found hbound =>
    rw [List.mem_singleton.1 hfinding] at haddresses
    exact isInBucket_of_bound? hbound haddresses
  · split at hfinding
    · rw [List.mem_singleton.1 hfinding] at haddresses
      cases haddresses
    · cases hfinding

theorem isInBucket_of_wordFindings {keywords : KeywordIndex} {word : List Char} {finding : Finding} {user : Id}
    (hfinding : finding ∈ wordFindings keywords word) (haddresses : finding.addresses user = true) :
    IsInBucket keywords user := by
  rcases List.mem_append.1 hfinding with hwhole | hinside
  · unfold wholeFindings at hwhole
    split at hwhole
    · next found hfound =>
      rw [List.mem_singleton.1 hwhole] at haddresses
      obtain ⟨form, -, hbound⟩ := List.exists_of_findSome?_eq_some hfound
      exact isInBucket_of_bound? hbound haddresses
    · split at hwhole
      · rw [List.mem_singleton.1 hwhole] at haddresses
        cases haddresses
      · obtain ⟨piece, -, hpiece⟩ := List.mem_flatMap.1 hwhole
        exact isInBucket_of_pieceFindings hpiece haddresses
  · obtain ⟨entry, -, hentry⟩ := List.mem_filterMap.1 hinside
    obtain ⟨-, rfl⟩ := Option.ite_some_none_eq_some.1 hentry
    cases haddresses

theorem isInBucket_of_fieldFindings {keywords : KeywordIndex} {field : String} {finding : Finding} {user : Id}
    (hfinding : finding ∈ fieldFindings keywords field) (haddresses : finding.addresses user = true) :
    IsInBucket keywords user := by
  unfold fieldFindings at hfinding
  split at hfinding
  · cases hfinding
  · obtain ⟨fragment, -, hfragment⟩ := List.mem_flatMap.1 hfinding
    obtain ⟨word, -, hword⟩ := List.mem_flatMap.1 hfragment
    exact isInBucket_of_wordFindings hword haddresses

theorem isInBucket_of_flatMap_fieldFindings {keywords : KeywordIndex} {fields : List String} {finding : Finding}
    {user : Id} (hfinding : finding ∈ fields.flatMap (fieldFindings keywords))
    (haddresses : finding.addresses user = true) : IsInBucket keywords user := by
  obtain ⟨field, -, hfield⟩ := List.mem_flatMap.1 hfinding
  exact isInBucket_of_fieldFindings hfield haddresses

/-- A member other than the author who is in no bucket of the whole channel is notified wherever a keyword
of theirs stands in the text. -/
theorem Plan.refused_notifies_named_of_not_isInBucket (directory : Directory) (snapshot : Snapshot) (post : Post)
    (thread : Option Thread) (keywords : KeywordIndex) (fields : List String) {user : Id}
    (hmember : snapshot.isMember user = true) (hauthor : user ≠ post.user)
    (hnamed : ∃ finding ∈ fields.flatMap (fieldFindings keywords), finding.names user = true)
    (hbucket : ¬ IsInBucket keywords user) :
    ∃ recipient ∈ (Plan.make directory snapshot post thread keywords false
      (inFields keywords fields)).value.recipients, recipient.user = user := by
  refine exists_recipient_iff.2 ⟨hmember, hauthor, (exists_concerns_refused_iff keywords).2 (.inl ?_)⟩
  refine isNamedLast_of_not_addressed hnamed ?_
  intro finding hfinding
  exact Bool.eq_false_iff.2 fun haddresses => hbucket (isInBucket_of_flatMap_fieldFindings hfinding haddresses)

/-- If mentions of the whole channel do not count, a member other than the author is notified exactly if
the post would concern the member whatever its text, or if the text has a keyword of the member behind
which no word for the whole channel stands for the member too. So of the members whom the text names, those
are lost whom such a word follows, and no others. -/
theorem Plan.refused_notifies_iff (directory : Directory) (snapshot : Snapshot) (post : Post)
    (thread : Option Thread) (keywords : KeywordIndex) (fields : List String) (user : Id)
    (hmember : snapshot.isMember user = true) (hauthor : user ≠ post.user) :
    (∃ recipient ∈ (Plan.make directory snapshot post thread keywords false
      (inFields keywords fields)).value.recipients, recipient.user = user) ↔
    IsNamedLast user (fields.flatMap (fieldFindings keywords)) ∨
      ∃ kind, Concerns snapshot post thread keywords false {} user kind := by
  constructor
  · intro hrecipient
    obtain ⟨-, -, hconcerns⟩ := exists_recipient_iff.1 hrecipient
    exact (exists_concerns_refused_iff keywords).1 hconcerns
  · intro hreason
    exact exists_recipient_iff.2 ⟨hmember, hauthor, (exists_concerns_refused_iff keywords).2 hreason⟩

/-- A member of that name and in the bucket of `@all` is notified if the name comes last, and lost if it
comes first. -/
theorem Plan.refused_loses_named_before_all :
    let directory : Directory := { resolve := fun _ => .ok ∅, groupMembers := fun _ => .ok [] }
    let snapshot : Snapshot :=
      { channel := { id := ⟨9⟩ }, profiles := (∅ : Table Id User).insert ⟨2⟩ { id := ⟨2⟩, username := "user" } }
    let post : Post := { id := ⟨5⟩, channel := ⟨9⟩, user := ⟨1⟩ }
    let keywords : KeywordIndex := .ofList [("user", ⟨2⟩), ("@all", ⟨2⟩)]
    let plan (text : String) :=
      (Plan.make directory snapshot post none keywords false (inFields keywords [text])).value
    snapshot.isMember ⟨2⟩ = true ∧ (⟨2⟩ : Id) ≠ post.user ∧
      (∃ finding ∈ ["user @all"].flatMap (fieldFindings keywords), finding.names ⟨2⟩ = true) ∧
      (¬ ∃ recipient ∈ (plan "user @all").recipients, recipient.user = ⟨2⟩) ∧
      ∃ recipient ∈ (plan "@all user").recipients, recipient.user = ⟨2⟩ := by
  intro directory snapshot post keywords plan
  have hmember : snapshot.isMember ⟨2⟩ = true := by decide
  have hauthor : (⟨2⟩ : Id) ≠ post.user := by decide
  have hfindings : ["user @all"].flatMap (fieldFindings keywords) = [.keyword [⟨2⟩] "user", .all [⟨2⟩]] := by
    decide +kernel
  have hswapped : ["@all user"].flatMap (fieldFindings keywords) = [.all [⟨2⟩], .keyword [⟨2⟩] "user"] := by
    decide +kernel
  have hiff (text : String) :=
    Plan.refused_notifies_iff directory snapshot post none keywords [text] ⟨2⟩ hmember hauthor
  refine ⟨hmember, hauthor, ?_, ?_, ?_⟩
  · rw [hfindings]
    exact ⟨_, List.mem_cons_self, rfl⟩
  · rw [hiff, hfindings]
    rintro (hlast | ⟨kind, hconcerns⟩)
    · simp [isNamedLast_cons_iff, not_isNamedLast_nil, Finding.names, Finding.addresses] at hlast
    · cases hconcerns with
      | named hkind => cases hkind
      | addressed haddressed => cases haddressed.1
      | conversation hdirect => cases hdirect
      | takesPart hthread => cases hthread
      | follows hthread => cases hthread
  · rw [hiff, hswapped]
    simp [isNamedLast_cons_iff, not_isNamedLast_nil, Finding.names, Finding.addresses]

end ChatNotify
