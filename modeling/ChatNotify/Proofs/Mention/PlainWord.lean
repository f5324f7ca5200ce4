import ChatNotify.Proofs.Mention.Tags

namespace ChatNotify.Mention

/-- The word consists of letters and numbers. -/
def IsPlain (word : List Char) : Prop :=
  ∀ c ∈ word, c.isAlphanumeric = true

/-- The text consists of words of letters and numbers, and of spaces. -/
def IsPlainText (text : List Char) : Prop :=
  ∀ c ∈ text, c.isAlphanumeric = true ∨ c = ' '

variable {index : KeywordIndex} {text word : List Char} {user : Id}

theorem IsPlain.not_mem (hplain : IsPlain word) {c : Char} (hc : c.isAlphanumeric = false) : c ∉ word := by
  intro hmem
  rw [hplain c hmem] at hc
  cases hc

theorem IsPlain.isEdge_eq_false (hplain : IsPlain word) : ∀ c ∈ word, isEdge c = false :=
  fun c hc => isEdge_of_isAlphanumeric (hplain c hc)

theorem IsPlain.isJoint_eq_false (hplain : IsPlain word) : ∀ c ∈ word, isJoint c = false := by
  intro c hc
  have hedge := hplain.isEdge_eq_false c hc
  simp only [isEdge, Bool.or_eq_false_iff] at hedge
  simp only [isJoint, hedge, Bool.or_false]

/-- Reserved words have an at sign in them. -/
theorem IsPlain.isReserved_eq_false (hplain : IsPlain word) : isReserved word = false := by
  have hother (reserved : String) (hat : '@' ∈ reserved.toList) : word.map Char.toLower ≠ reserved.toList := by
    intro hword
    rw [← hword] at hat
    obtain ⟨c, hc, hlower⟩ := List.mem_map.1 hat
    obtain rfl := Text.eq_of_toLower_eq hlower (by decide)
    exact hplain.not_mem (by decide) hc
  exact isReserved_eq_false_iff.2 ⟨hother _ (by decide), hother _ (by decide), hother _ (by decide)⟩

/-- The word is looked up as it stands, and that is all. -/
theorem IsPlain.wholeFindings_eq (hplain : IsPlain word) : wholeFindings index word = (bound? index word).toList := by
  have hforms : forms word = [word] := by
    rw [forms, if_neg]
    rw [Bool.and_eq_true, Option.any_eq_true]
    rintro ⟨-, c, hlast, hedge⟩
    rw [hplain.isEdge_eq_false c (List.mem_of_mem_getLast? hlast)] at hedge
    cases hedge
  have hpieces : pieces word = [] := by
    refine if_neg ?_
    simpa using hplain.isJoint_eq_false
  have hat : word.head? ≠ some '@' := fun hat => hplain.not_mem (by decide) (List.mem_of_mem_head? hat)
  rw [wholeFindings, hforms, hpieces]
  cases hbound : bound? index word with
  | none => simp [hbound, hat]
  | some finding => simp [hbound]

theorem IsPlain.isKeyword_of_mem_wordFindings (hplain : IsPlain word) {finding : Finding}
    (hfinding : finding ∈ wordFindings index word) : finding.IsKeyword := by
  rcases List.mem_append.1 hfinding with hwhole | hinside
  · obtain ⟨hhere, hchannel, hall⟩ := isReserved_eq_false_iff.1 hplain.isReserved_eq_false
    rw [hplain.wholeFindings_eq, Option.mem_toList, bound?_eq, if_neg hhere, if_neg hchannel, if_neg hall] at hwhole
    obtain ⟨users, -, rfl⟩ := Option.map_eq_some_iff.1 hwhole
    exact .keyword users _
  · obtain ⟨users, rfl⟩ := exists_eq_inside_of_mem hinside
    exact .inside users

theorem IsPlain.tags_iff (hplain : IsPlain word) (hne : word ≠ []) : Tags index word user ↔
    IsBoundTo index user word ∨ ∃ keyword users, index.get? keyword = some users ∧ user ∈ users ∧
      (∃ c ∈ keyword.toList, 128 ≤ c.val) ∧ keyword.toList <:+: word := by
  rw [← exists_wordFindings_iff hne, ← exists_insideFindings_iff, isBoundTo_iff, wordFindings, hplain.wholeFindings_eq]
  simp only [List.mem_append, Option.mem_toList, or_and_right, exists_or]

theorem IsPlain.isWordIn (hplain : IsPlain word) (hrun : IsRun word text) : IsWordIn text word :=
  mem_words_iff.1 (hrun.mem_words fun c hc => hplain.isEdge_eq_false c (List.mem_of_mem_head? hc))

/-- A fragment of plain text leaves those users mentioned whom one of its words tags. -/
theorem exists_kind?_inFragments_singleton_iff {fragment : String} :
    (∃ kind, (inFragments index [fragment]).kind? user = some kind) ↔
      ∃ word, IsWordIn fragment.toList word ∧ Tags index word user := by
  rw [inFragments, List.flatMap_singleton, exists_kind?_account_iff, fragmentFindings, exists_mem_flatMap_iff]
  simp only [mem_words_iff]
  exact exists_congr fun word => and_congr_right fun hword => exists_wordFindings_iff hword.ne_nil

theorem IsPlainText.isPlain_of_isRun (htext : IsPlainText text) (hrun : IsRun word text) : IsPlain word := by
  intro c hc
  obtain ⟨before, after, rfl, -⟩ := hrun.bounded
  rcases htext c (by simp [hc]) with hplain | rfl
  · exact hplain
  · exact absurd (hrun.chars _ hc) (by decide)

/-- Nothing stands in front of a word that would be taken off. -/
theorem IsPlainText.isWordIn_iff (htext : IsPlainText text) : IsWordIn text word ↔ IsRun word text := by
  constructor
  · rintro (@⟨front, _, hrun, -, hfront, -, -⟩)
    cases front with
    | nil => exact hrun
    | cons c front =>
      have hc := (htext.isPlain_of_isRun hrun).isEdge_eq_false c List.mem_cons_self
      rw [hfront c List.mem_cons_self] at hc
      cases hc
  · exact fun hrun => (htext.isPlain_of_isRun hrun).isWordIn hrun

theorem IsPlainText.isPlain (htext : IsPlainText text) (hword : IsWordIn text word) : IsPlain word :=
  htext.isPlain_of_isRun (htext.isWordIn_iff.1 hword)

/-- A plain text mentions users by keywords, and does not address the channel. -/
theorem IsPlainText.inFragments_spec {text : String} (htext : IsPlainText text.toList) (index : KeywordIndex) :
    let mentions := inFragments index [text]
    (mentions.channel = false ∧ mentions.all = false ∧ mentions.here = false) ∧
      ∀ user kind, mentions.kind? user = some kind → kind = .keyword := by
  refine account_of_isKeyword fun finding hfinding => ?_
  rw [List.flatMap_singleton] at hfinding
  obtain ⟨word, hword, hfinding⟩ := List.mem_flatMap.1 hfinding
  exact (htext.isPlain (mem_words_iff.1 hword)).isKeyword_of_mem_wordFindings hfinding

end ChatNotify.Mention
