import ChatNotify.Mention.Scan
import ChatNotify.Proofs.Mention.Kinds

namespace ChatNotify.Mention

namespace Finding

/-- Holds of a keyword of the user. -/
def names (user : Id) : Finding → Bool
  | .keyword users _ | .inside users => user ∈ users
  | _ => false

/-- Holds of a word for the whole channel that stands for the user too. -/
def addresses (user : Id) : Finding → Bool
  | .channel users | .all users => user ∈ users
  | _ => false

end Finding

/-- Some keyword of the user has behind it no word for the whole channel that stands for the user too. -/
def IsNamedLast (user : Id) (findings : List Finding) : Prop :=
  ∃ before finding after, findings = before ++ finding :: after ∧ finding.names user = true ∧
    ∀ later ∈ after, later.addresses user = false

theorem not_isNamedLast_nil (user : Id) : ¬ IsNamedLast user [] := by
  rintro ⟨before, finding, after, hsplit, -⟩
  simp at hsplit

theorem isNamedLast_cons_iff {user : Id} {finding : Finding} {rest : List Finding} :
    IsNamedLast user (finding :: rest) ↔ IsNamedLast user rest ∨
      finding.names user = true ∧ ∀ later ∈ rest, later.addresses user = false := by
  constructor
  · rintro ⟨before, named, after, hsplit, hnames, hlater⟩
    cases before with
    | nil =>
      obtain ⟨rfl, rfl⟩ := List.cons.inj hsplit
      exact .inr ⟨hnames, hlater⟩
    | cons first before =>
      obtain ⟨rfl, rfl⟩ := List.cons.inj hsplit
      exact .inl ⟨before, named, after, rfl, hnames, hlater⟩
  · rintro (⟨before, named, after, rfl, hnames, hlater⟩ | ⟨hnames, hlater⟩)
    · exact ⟨finding :: before, named, after, rfl, hnames, hlater⟩
    · exact ⟨[], finding, rest, rfl, hnames, hlater⟩

theorem IsNamedLast.exists_names {user : Id} {findings : List Finding} (hlast : IsNamedLast user findings) :
    ∃ finding ∈ findings, finding.names user = true := by
  obtain ⟨before, finding, after, rfl, hnames, -⟩ := hlast
  exact ⟨finding, by simp, hnames⟩

/-- Where no word for the whole channel stands for the user, a keyword of the user anywhere suffices. -/
theorem isNamedLast_of_not_addressed {user : Id} {findings : List Finding}
    (hnamed : ∃ finding ∈ findings, finding.names user = true)
    (haddressed : ∀ finding ∈ findings, finding.addresses user = false) : IsNamedLast user findings := by
  obtain ⟨finding, hfinding, hnames⟩ := hnamed
  obtain ⟨before, after, rfl⟩ := List.append_of_mem hfinding
  refine ⟨before, finding, after, rfl, hnames, ?_⟩
  intro later hlater
  exact haddressed later (by simp [hlater])

theorem kind?_record (mentions : Mentions) (finding : Finding) (user : Id) :
    (record mentions finding).kind? user =
      if finding.names user then some .keyword
      else if finding.addresses user then some .channel
      else mentions.kind? user := by
  cases finding with
  | here => rfl
  | channel users =>
    have hflag : Mentions.kind? { mentions with channel := true } user = mentions.kind? user := rfl
    simp [record, Finding.names, Finding.addresses, Mentions.kind?_addAll, hflag]
  | all users =>
    have hflag : Mentions.kind? { mentions with all := true } user = mentions.kind? user := rfl
    simp [record, Finding.names, Finding.addresses, Mentions.kind?_addAll, hflag]
  | keyword users token => simp [record, Finding.names, Finding.addresses, Mentions.kind?_addAll]
  | inside users => simp [record, Finding.names, Finding.addresses, Mentions.kind?_addAll]
  | unknown name =>
    simp only [record]
    split <;> rfl

/-- What is found last decides on the kind of a user, whatever was there before. -/
theorem kind?_foldl_record (findings : List Finding) (mentions : Mentions) (user : Id) :
    (findings.foldl record mentions).kind? user =
      ((findings.foldl record {}).kind? user).or (mentions.kind? user) := by
  induction findings generalizing mentions with
  | nil => rfl
  | cons finding rest ih =>
    rw [List.foldl_cons, List.foldl_cons, ih (record mentions finding), ih (record {} finding), kind?_record,
      kind?_record, Option.or_assoc]
    split
    · rfl
    · split <;> rfl

/-- The induction is on the findings still to come, for any mentions before them. -/
private theorem kind?_foldl_record_iff (findings : List Finding) (mentions : Mentions) (user : Id) :
    (findings.foldl record mentions).kind? user = some .keyword ↔
      IsNamedLast user findings ∨
      mentions.kind? user = some .keyword ∧ ∀ later ∈ findings, later.addresses user = false := by
  induction findings generalizing mentions with
  | nil => simp [not_isNamedLast_nil]
  | cons finding rest ih =>
    rw [List.foldl_cons, ih, isNamedLast_cons_iff, kind?_record, List.forall_mem_cons]
    -- A keyword makes up for all that stands before it, and a word for the whole channel undoes it.
    by_cases hnames : finding.names user = true
    · have haddresses : finding.addresses user = false := by
        cases finding <;> first | rfl | cases hnames
      simp only [hnames, haddresses, if_true, true_and, or_assoc]
      constructor
      · rintro (hrest | hlater)
        · exact .inl hrest
        · exact .inr (.inl hlater)
      · rintro (hrest | hlater | ⟨-, hlater⟩)
        · exact .inl hrest
        · exact .inr hlater
        · exact .inr hlater
    · by_cases haddresses : finding.addresses user = true
      · simp [hnames, haddresses]
      · simp [hnames, haddresses]

/-- What the findings of a text leave a user with as a kind is a keyword or the whole channel. -/
private theorem kind?_foldl_record_cases (findings : List Finding) (mentions : Mentions) (user : Id) :
    (findings.foldl record mentions).kind? user = some .keyword ∨
    (findings.foldl record mentions).kind? user = some .channel ∨
    (findings.foldl record mentions).kind? user = mentions.kind? user := by
  induction findings generalizing mentions with
  | nil => exact .inr (.inr rfl)
  | cons finding rest ih =>
    rw [List.foldl_cons]
    rcases ih (record mentions finding) with hkeyword | hchannel | hsame
    · exact .inl hkeyword
    · exact .inr (.inl hchannel)
    · rw [hsame, kind?_record]
      by_cases hnames : finding.names user = true
      · simp [hnames]
      · by_cases haddresses : finding.addresses user = true
        · simp [hnames, haddresses]
        · simp [hnames, haddresses]

theorem kind?_account (findings : List Finding) (user : Id) :
    (account findings).kind? user = (findings.foldl record {}).kind? user := rfl

private theorem exists_kind?_foldl_record_iff (findings : List Finding) (mentions : Mentions) (user : Id) :
    (∃ kind, (findings.foldl record mentions).kind? user = some kind) ↔
      (∃ kind, mentions.kind? user = some kind) ∨
      ∃ finding ∈ findings, finding.names user = true ∨ finding.addresses user = true := by
  induction findings generalizing mentions with
  | nil => simp
  | cons finding rest ih =>
    rw [List.foldl_cons, ih, kind?_record]
    by_cases hnames : finding.names user = true
    · simp [hnames]
    · by_cases haddresses : finding.addresses user = true
      · simp [hnames, haddresses]
      · simp [hnames, haddresses]

/-- A text leaves those users mentioned whom some finding names or addresses. -/
theorem exists_kind?_account_iff {findings : List Finding} {user : Id} :
    (∃ kind, (account findings).kind? user = some kind) ↔
      ∃ finding ∈ findings, finding.names user = true ∨ finding.addresses user = true := by
  rw [kind?_account, exists_kind?_foldl_record_iff]
  simp [Mentions.kind?]

/-- A text leaves a user mentioned by a keyword exactly if no word for the whole channel that stands for
the user comes behind the user's last keyword. -/
theorem kind?_account_eq_keyword_iff {findings : List Finding} {user : Id} :
    (account findings).kind? user = some .keyword ↔ IsNamedLast user findings := by
  rw [kind?_account, kind?_foldl_record_iff]
  simp [Mentions.kind?]

/-- A text that leaves a user addressed with the whole channel has a word for it that stands for the user. -/
theorem exists_addresses_of_kind?_account {findings : List Finding} {user : Id}
    (hkind : (account findings).kind? user = some .channel) :
    ∃ finding ∈ findings, finding.addresses user = true := by
  obtain ⟨finding, hfinding, hnames | haddresses⟩ := exists_kind?_account_iff.1 ⟨_, hkind⟩
  · refine Classical.byContradiction fun hnone => ?_
    -- The keyword would be the last finding of the user.
    have hlast : IsNamedLast user findings := isNamedLast_of_not_addressed ⟨finding, hfinding, hnames⟩
      fun later hlater => Bool.eq_false_iff.2 fun haddresses => hnone ⟨later, hlater, haddresses⟩
    rw [kind?_account_eq_keyword_iff.2 hlast] at hkind
    cases hkind
  · exact ⟨finding, hfinding, haddresses⟩

/-- A text that leaves a user mentioned does so by a keyword or with the whole channel. -/
theorem eq_keyword_or_channel_of_kind?_account {findings : List Finding} {user : Id} {kind : MentionKind}
    (hkind : (account findings).kind? user = some kind) : kind = .keyword ∨ kind = .channel := by
  rw [kind?_account] at hkind
  rcases kind?_foldl_record_cases findings {} user with hkeyword | hchannel | hnone
  · rw [hkeyword] at hkind
    cases hkind
    exact .inl rfl
  · rw [hchannel] at hkind
    cases hkind
    exact .inr rfl
  · rw [hnone] at hkind
    cases hkind

theorem flags_record (mentions : Mentions) (finding : Finding) :
    (record mentions finding).channel = (mentions.channel || (record {} finding).channel) ∧
      (record mentions finding).all = (mentions.all || (record {} finding).all) ∧
      (record mentions finding).here = (mentions.here || (record {} finding).here) := by
  cases finding with
  | unknown name =>
    simp only [record]
    split <;> split <;> simp
  | here | channel | all | keyword | inside => simp [record]

/-- A flag that is raised stays raised. -/
theorem flags_foldl_record (findings : List Finding) (mentions : Mentions) :
    (findings.foldl record mentions).channel =
        (mentions.channel || findings.any fun finding => (record {} finding).channel) ∧
      (findings.foldl record mentions).all = (mentions.all || findings.any fun finding => (record {} finding).all) ∧
      (findings.foldl record mentions).here =
        (mentions.here || findings.any fun finding => (record {} finding).here) := by
  induction findings generalizing mentions with
  | nil => simp
  | cons finding rest ih =>
    obtain ⟨hchannel, hall, hhere⟩ := ih (record mentions finding)
    obtain ⟨hchannelFirst, hallFirst, hhereFirst⟩ := flags_record mentions finding
    rw [List.foldl_cons, hchannel, hall, hhere, hchannelFirst, hallFirst, hhereFirst]
    simp only [List.any_cons, Bool.or_assoc, and_self]

/-- The finding is a keyword of somebody. -/
inductive Finding.IsKeyword : Finding → Prop
  | keyword (users : List Id) (token : String) : IsKeyword (.keyword users token)
  | inside (users : List Id) : IsKeyword (.inside users)

theorem Finding.IsKeyword.flags_record {finding : Finding} (hfinding : finding.IsKeyword) :
    (record {} finding).channel = false ∧ (record {} finding).all = false ∧ (record {} finding).here = false := by
  cases hfinding with
  | keyword users token => simp [record]
  | inside users => simp [record]

/-- Whom keywords find is mentioned by a keyword, and the channel is not addressed. -/
theorem account_of_isKeyword {findings : List Finding} (hfindings : ∀ finding ∈ findings, finding.IsKeyword) :
    ((account findings).channel = false ∧ (account findings).all = false ∧ (account findings).here = false) ∧
      ∀ user kind, (account findings).kind? user = some kind → kind = .keyword := by
  constructor
  · obtain ⟨hchannel, hall, hhere⟩ := flags_foldl_record findings {}
    have hkeyword := fun finding hfinding => (hfindings finding hfinding).flags_record
    refine ⟨hchannel.trans ?_, hall.trans ?_, hhere.trans ?_⟩
    · exact List.any_eq_false.2 fun finding hfinding => by simp [hkeyword finding hfinding]
    · exact List.any_eq_false.2 fun finding hfinding => by simp [hkeyword finding hfinding]
    · exact List.any_eq_false.2 fun finding hfinding => by simp [hkeyword finding hfinding]
  · intro user kind hkind
    rcases eq_keyword_or_channel_of_kind?_account hkind with hkeyword | rfl
    · exact hkeyword
    · obtain ⟨finding, hfinding, haddresses⟩ := exists_addresses_of_kind?_account hkind
      cases hfindings finding hfinding <;> cases haddresses

end ChatNotify.Mention
