import ChatNotify.Mention.Mentions

namespace ChatNotify

/-- The kind that a user has after a mention of this kind was added to the kind before. -/
def MentionKind.onto (kind : MentionKind) : Option MentionKind → MentionKind
  | none => kind
  | some before => if kind.tier < before.tier then before else kind

namespace MentionKind

theorem tier_le_top (kind : MentionKind) : kind.tier ≤ MentionKind.channel.tier := by
  cases kind <;> decide

/-- Nothing outranks a kind of the highest tier. -/
theorem onto_of_top (kind : MentionKind) (htop : kind.tier = MentionKind.channel.tier)
    (before : Option MentionKind) : kind.onto before = kind := by
  cases before with
  | none => rfl
  | some before => exact if_neg (Nat.not_lt.2 (htop ▸ before.tier_le_top))

@[simp] theorem onto_channel (before : Option MentionKind) : MentionKind.channel.onto before = .channel :=
  onto_of_top .channel rfl before

@[simp] theorem onto_keyword (before : Option MentionKind) : MentionKind.keyword.onto before = .keyword :=
  onto_of_top .keyword rfl before

theorem onto_onto (kind : MentionKind) (before : Option MentionKind) :
    kind.onto (some (kind.onto before)) = kind.onto before := by
  cases before with
  | none => simp [onto]
  | some before =>
    by_cases hlower : kind.tier < before.tier
    · simp [onto, hlower]
    · simp [onto, hlower]

/-- Below the highest tier the tier tells the kind. -/
theorem eq_of_tier_eq {kind other : MentionKind} (hlow : kind.tier < MentionKind.channel.tier)
    (htier : kind.tier = other.tier) : kind = other := by
  cases kind <;> cases other <;> simp_all [tier]

end MentionKind

namespace Mentions

theorem kind?_add (mentions : Mentions) (user other : Id) (kind : MentionKind) :
    (mentions.add user kind).kind? other =
      if other = user then some (kind.onto (mentions.kind? other)) else mentions.kind? other := by
  unfold add
  by_cases hsame : other = user
  · subst hsame
    cases hbefore : mentions.kind? other with
    | none => simp [kind?, Table.get?_insert, MentionKind.onto]
    | some before =>
      by_cases hlower : kind.tier < before.tier
      · simp [hlower, hbefore, MentionKind.onto]
      · simp [hlower, kind?, Table.get?_insert, MentionKind.onto]
  · have hother : user ≠ other := fun h => hsame h.symm
    rw [if_neg hsame]
    split
    · rfl
    · simp [hother, kind?, Table.get?_insert]

/-- Adding a mention of many users treats each of them as adding it to that user alone would,
however often the user is named. -/
theorem kind?_addAll (mentions : Mentions) (users : List Id) (kind : MentionKind) (other : Id) :
    (mentions.addAll users kind).kind? other =
      if other ∈ users then some (kind.onto (mentions.kind? other)) else mentions.kind? other := by
  induction users generalizing mentions with
  | nil => rfl
  | cons user rest ih =>
    change ((mentions.add user kind).addAll rest kind).kind? other = _
    rw [ih, kind?_add]
    by_cases hsame : other = user
    · subst hsame
      by_cases hrest : other ∈ rest
      · simp [hrest, MentionKind.onto_onto]
      · simp [hrest]
    · simp [hsame]

/-- Only the kinds of single users depend on mentions that are added. -/
theorem exists_addAll_eq (mentions : Mentions) (users : List Id) (kind : MentionKind) :
    ∃ kinds, mentions.addAll users kind = { mentions with kinds := kinds } := by
  induction users generalizing mentions with
  | nil => exact ⟨mentions.kinds, rfl⟩
  | cons user rest ih =>
    obtain ⟨kinds, hkinds⟩ := ih (mentions.add user kind)
    refine ⟨kinds, hkinds.trans ?_⟩
    unfold add
    split <;> rfl

@[simp] theorem channel_addAll (mentions : Mentions) (users : List Id) (kind : MentionKind) :
    (mentions.addAll users kind).channel = mentions.channel := by
  obtain ⟨kinds, hkinds⟩ := mentions.exists_addAll_eq users kind
  rw [hkinds]

@[simp] theorem all_addAll (mentions : Mentions) (users : List Id) (kind : MentionKind) :
    (mentions.addAll users kind).all = mentions.all := by
  obtain ⟨kinds, hkinds⟩ := mentions.exists_addAll_eq users kind
  rw [hkinds]

@[simp] theorem here_addAll (mentions : Mentions) (users : List Id) (kind : MentionKind) :
    (mentions.addAll users kind).here = mentions.here := by
  obtain ⟨kinds, hkinds⟩ := mentions.exists_addAll_eq users kind
  rw [hkinds]

@[simp] theorem potential_addAll (mentions : Mentions) (users : List Id) (kind : MentionKind) :
    (mentions.addAll users kind).potential = mentions.potential := by
  obtain ⟨kinds, hkinds⟩ := mentions.exists_addAll_eq users kind
  rw [hkinds]

/-- Taking back what addresses the whole channel leaves all other kinds. -/
theorem kind?_strip (mentions : Mentions) (user : Id) :
    mentions.strip.kind? user = (mentions.kind? user).filter (· ≠ .channel) := by
  simp [strip, kind?, Table.get?_filter]

end Mentions

end ChatNotify
