import ChatNotify.Proofs.Mention.PlainWord

namespace ChatNotify.Mention

variable {index : KeywordIndex} {text other word : List Char} {keyword : String} {user : Id}

theorem isWordChar_iff_ne_space {c : Char} (hc : c.isAlphanumeric = true ∨ c = ' ') :
    isWordChar c = true ↔ c ≠ ' ' := by
  rcases hc with hc | rfl
  · refine iff_of_true (by simp [isWordChar, hc]) ?_
    rintro rfl
    revert hc
    decide
  · exact iff_of_false (by decide) (by simp)

/-- Where the one text has a word the other has one with the same letters. -/
theorem IsRun.exists_of_sameLetters (hrun : IsRun word text) (htext : IsPlainText text) (hother : IsPlainText other)
    (hsame : Text.SameLetters text other) :
    ∃ counterpart, IsRun counterpart other ∧ Text.SameLetters word counterpart := by
  have hchars {c d : Char} (hc : c ∈ text) (hd : d ∈ other) (hlowered : c.lowered = d.lowered) :
      isWordChar c = isWordChar d := by
    rw [Bool.eq_iff_iff, isWordChar_iff_ne_space (htext c hc), isWordChar_iff_ne_space (hother d hd),
      ne_eq, ne_eq, ← Text.lowered_eq_space_iff, hlowered, Text.lowered_eq_space_iff]
  obtain ⟨before, after, rfl, hbefore, hafter⟩ := hrun.bounded
  rw [Text.SameLetters, List.map_append, List.map_append, eq_comm] at hsame
  obtain ⟨init, rear, rfl, hinit, hrear⟩ := List.map_eq_append_iff.1 hsame
  obtain ⟨front, counterpart, rfl, hfront, hword⟩ := List.map_eq_append_iff.1 hinit
  -- What stands beside the word is a space in both texts, or their end.
  have hends {side facing : Option Char} (hside : ∀ c ∈ side, c ∈ before ++ word ++ after)
      (hfacing : ∀ d ∈ facing, d ∈ front ++ counterpart ++ rear)
      (hlowered : facing.map Char.lowered = side.map Char.lowered) (hclear : ∀ c ∈ side, isWordChar c = false) :
      ∀ d ∈ facing, isWordChar d = false := by
    intro d hd
    have hmem : side.map Char.lowered = some d.lowered := by
      rw [← hlowered, Option.mem_def.1 hd]
      rfl
    obtain ⟨c, hc, hsame⟩ := Option.map_eq_some_iff.1 hmem
    rw [← hchars (hside c hc) (hfacing d hd) hsame]
    exact hclear c hc
  refine ⟨counterpart, ⟨?_, ?_, front, rear, rfl, ?_, ?_⟩, hword.symm⟩
  · rintro rfl
    exact hrun.ne_nil (List.map_eq_nil_iff.1 hword.symm)
  · intro d hd
    obtain ⟨c, hc, hlowered⟩ := List.mem_map.1 (hword ▸ List.mem_map_of_mem hd)
    rw [← hchars (by simp [hc]) (by simp [hd]) hlowered]
    exact hrun.chars c hc
  · have hlast := congrArg List.getLast? hfront
    rw [List.getLast?_map, List.getLast?_map] at hlast
    exact hends (fun c hc => by simp [List.mem_of_mem_getLast? hc]) (fun d hd => by simp [List.mem_of_mem_getLast? hd])
      hlast hbefore
  · have hhead := congrArg List.head? hrear
    rw [List.head?_map, List.head?_map] at hhead
    exact hends (fun c hc => by simp [List.mem_of_mem_head? hc]) (fun d hd => by simp [List.mem_of_mem_head? hd])
      hhead hafter

/-- The keyword is a word of the text in lower case. -/
def IsLowerWord (keyword : String) (text : List Char) : Prop :=
  ∃ word, IsWordIn text word ∧ Text.lowercaseChars word = keyword.toList

/-- The keyword has a character beyond ASCII and is inside a word of the text, in the case in which it is there. -/
def IsInsideWord (keyword : String) (text : List Char) : Prop :=
  (∃ c ∈ keyword.toList, 128 ≤ c.val) ∧ ∃ word, IsWordIn text word ∧ keyword.toList <:+: word

/-- The keyword occurs in the text, as a word in lower case or inside a word as it is there. -/
def Occurs (keyword : String) (text : List Char) : Prop :=
  IsLowerWord keyword text ∨ IsInsideWord keyword text

/-- Whole words are the same in whatever case they are written, if the keyword is ASCII or no word has a capital
sigma. -/
theorem isLowerWord_of_sameLetters (htext : IsPlainText text) (hother : IsPlainText other)
    (hsame : Text.SameLetters text other)
    (hcase : (∀ c ∈ keyword.toList, c.val < 128) ∨ 'Σ' ∉ text ∧ 'Σ' ∉ other) (hword : IsLowerWord keyword text) :
    IsLowerWord keyword other := by
  obtain ⟨word, hword, hlower⟩ := hword
  have hrun := htext.isWordIn_iff.1 hword
  obtain ⟨counterpart, hcounterpart, hletters⟩ := hrun.exists_of_sameLetters htext hother hsame
  refine ⟨counterpart, hother.isWordIn_iff.2 hcounterpart, ?_⟩
  rw [← hlower]
  rcases hcase with hascii | ⟨hsigmaText, hsigmaOther⟩
  · exact (hletters.lowercaseChars_eq_of_ascii (by rwa [hlower])).symm
  · obtain ⟨before, after, rfl, -⟩ := hrun.bounded
    obtain ⟨front, rear, rfl, -⟩ := hcounterpart.bounded
    exact (hletters.lowercaseChars_eq (fun hc => hsigmaText (by simp [hc])) fun hc => hsigmaOther (by simp [hc])).symm

/-- All keywords are in lower case. -/
def IsLowerIndex (index : KeywordIndex) : Prop :=
  ∀ keyword users, index.get? keyword = some users → Text.lowercase keyword = keyword

/-- Where all keywords are in lower case, nothing is found of a word as it stands that its lower case is not. -/
theorem isBoundTo_iff_of_isLowerIndex (hindex : IsLowerIndex index) (hplain : IsPlain word) :
    IsBoundTo index user word ↔ user ∈ (index.get? (String.ofList (Text.lowercaseChars word))).getD [] := by
  have hreserved := hplain.isReserved_eq_false
  rw [KeywordIndex.mem_getD_iff]
  constructor
  · obtain ⟨-, hchannel, hall⟩ := isReserved_eq_false_iff.1 hreserved
    intro hbound
    cases hbound with
    | channel hform => exact absurd hform hchannel
    | all hform => exact absurd hform hall
    | lower _ hget huser => exact ⟨_, hget, huser⟩
    | exact _ hlower hget _ =>
      have hself := hindex _ _ hget
      rw [Text.lowercase, String.toList_ofList] at hself
      rw [hself, hget] at hlower
      cases hlower
  · rintro ⟨users, hget, huser⟩
    exact .lower hreserved hget huser

/-- A plain text mentions those users of whom a keyword occurs in it. -/
theorem IsPlainText.exists_kind?_iff {text : String} (hindex : IsLowerIndex index) (htext : IsPlainText text.toList) :
    (∃ kind, (inFragments index [text]).kind? user = some kind) ↔
      ∃ keyword, user ∈ (index.get? keyword).getD [] ∧ Occurs keyword text.toList := by
  rw [exists_kind?_inFragments_singleton_iff]
  constructor
  · rintro ⟨word, hword, htags⟩
    have hplain := htext.isPlain hword
    rcases (hplain.tags_iff hword.ne_nil).1 htags with hbound | ⟨keyword, users, hget, huser, hbeyond, hinside⟩
    · exact ⟨_, (isBoundTo_iff_of_isLowerIndex hindex hplain).1 hbound,
        .inl ⟨word, hword, String.toList_ofList.symm⟩⟩
    · exact ⟨keyword, KeywordIndex.mem_getD_iff.2 ⟨users, hget, huser⟩, .inr ⟨hbeyond, word, hword, hinside⟩⟩
  · rintro ⟨keyword, huser, ⟨word, hword, hlower⟩ | ⟨hbeyond, word, hword, hinside⟩⟩
    · have hplain := htext.isPlain hword
      refine ⟨word, hword, (hplain.tags_iff hword.ne_nil).2 (.inl ?_)⟩
      rw [isBoundTo_iff_of_isLowerIndex hindex hplain, hlower, String.ofList_toList]
      exact huser
    · obtain ⟨users, hget, huser⟩ := KeywordIndex.mem_getD_iff.1 huser
      exact ⟨word, hword, ((htext.isPlain hword).tags_iff hword.ne_nil).2
        (.inr ⟨keyword, users, hget, huser, hbeyond, hinside⟩)⟩

/-- A keyword that is ASCII occurs in both of two texts with the same letters or in none, so only the others can make
a difference to a user. -/
theorem exists_occurs_of_beyond (htext : IsPlainText text) (hother : IsPlainText other)
    (hsame : Text.SameLetters text other)
    (hbeyond : ∀ keyword, user ∈ (index.get? keyword).getD [] → (∃ c ∈ keyword.toList, 128 ≤ c.val) →
      Occurs keyword text → ∃ another, user ∈ (index.get? another).getD [] ∧ Occurs another other) :
    (∃ keyword, user ∈ (index.get? keyword).getD [] ∧ Occurs keyword text) →
      ∃ keyword, user ∈ (index.get? keyword).getD [] ∧ Occurs keyword other := by
  rintro ⟨keyword, huser, hoccurs⟩
  by_cases hkeyword : ∃ c ∈ keyword.toList, 128 ≤ c.val
  · exact hbeyond keyword huser hkeyword hoccurs
  · rcases hoccurs with hword | ⟨hinside, -⟩
    · have hascii : ∀ c ∈ keyword.toList, c.val < 128 := by simpa using hkeyword
      exact ⟨keyword, huser, .inl (isLowerWord_of_sameLetters htext hother hsame (.inl hascii) hword)⟩
    · exact absurd hinside hkeyword

/-- Two scans mention the same users by the same kinds, and address the channel in the same ways. -/
structure Agree (mentions others : Mentions) : Prop where
  kind? : ∀ user, mentions.kind? user = others.kind? user
  channel : mentions.channel = others.channel
  all : mentions.all = others.all
  here : mentions.here = others.here

/-- Scans of plain texts differ at most in whom they mention. -/
theorem agree_inFragments_iff {text other : String} (htext : IsPlainText text.toList)
    (hother : IsPlainText other.toList) : Agree (inFragments index [text]) (inFragments index [other]) ↔
      ∀ user, (∃ kind, (inFragments index [text]).kind? user = some kind) ↔
        ∃ kind, (inFragments index [other]).kind? user = some kind := by
  obtain ⟨⟨hchannel, hall, hhere⟩, hkind⟩ := htext.inFragments_spec index
  obtain ⟨⟨hchannel', hall', hhere'⟩, hkind'⟩ := hother.inFragments_spec index
  constructor
  · exact fun hagree user => by rw [hagree.kind? user]
  · refine fun hsame => ⟨fun user => ?_, hchannel.trans hchannel'.symm, hall.trans hall'.symm, hhere.trans hhere'.symm⟩
    cases hfound : (inFragments index [text]).kind? user with
    | none =>
      refine (Option.eq_none_iff_forall_ne_some.2 fun kind hother => ?_).symm
      obtain ⟨kind, htext⟩ := (hsame user).2 ⟨kind, hother⟩
      rw [hfound] at htext
      cases htext
    | some kind =>
      obtain ⟨kind', hfound'⟩ := (hsame user).1 ⟨kind, hfound⟩
      rw [hfound', hkind user kind hfound, hkind' user kind' hfound']

/-- Keywords in lower case are found whatever the case of the text, as far as they are whole words; only a capital
sigma may be either of two small letters. What is inside a word is compared in the case in which it is there. So the
scans of two texts with the same letters agree exactly if every user of whom a keyword beyond ASCII occurs in one of
the texts has some keyword that occurs in the other. -/
theorem scans_agree_iff (hindex : IsLowerIndex index) {text other : String} (htext : IsPlainText text.toList)
    (hother : IsPlainText other.toList) (hsame : Text.SameLetters text.toList other.toList) :
    (∀ keyword, (∀ c ∈ keyword.toList, c.val < 128) ∨ 'Σ' ∉ text.toList ∧ 'Σ' ∉ other.toList →
      (IsLowerWord keyword text.toList ↔ IsLowerWord keyword other.toList)) ∧
    (Agree (inFragments index [text]) (inFragments index [other]) ↔
      ∀ user keyword, user ∈ (index.get? keyword).getD [] → (∃ c ∈ keyword.toList, 128 ≤ c.val) →
        (Occurs keyword text.toList →
          ∃ another, user ∈ (index.get? another).getD [] ∧ Occurs another other.toList) ∧
        (Occurs keyword other.toList →
          ∃ another, user ∈ (index.get? another).getD [] ∧ Occurs another text.toList)) := by
  refine ⟨fun keyword hcase => ⟨isLowerWord_of_sameLetters htext hother hsame hcase,
    isLowerWord_of_sameLetters hother htext hsame.symm (hcase.imp_right And.symm)⟩, ?_⟩
  simp only [agree_inFragments_iff htext hother, htext.exists_kind?_iff hindex, hother.exists_kind?_iff hindex]
  constructor
  · intro hmentions user keyword huser _
    exact ⟨fun htext => (hmentions user).1 ⟨keyword, huser, htext⟩,
      fun hother => (hmentions user).2 ⟨keyword, huser, hother⟩⟩
  · intro hbeyond user
    constructor
    · refine exists_occurs_of_beyond htext hother hsame fun keyword huser hkeyword => ?_
      exact (hbeyond user keyword huser hkeyword).1
    · refine exists_occurs_of_beyond hother htext hsame.symm fun keyword huser hkeyword => ?_
      exact (hbeyond user keyword huser hkeyword).2

/-- The keyword `é` is found inside `café`, and not inside `cafÉ`. -/
theorem inner_keyword_needs_its_case :
    let index := KeywordIndex.ofList [("é", ⟨1⟩)]
    IsLowerIndex index ∧ IsPlainText "café".toList ∧ IsPlainText "cafÉ".toList ∧
      Text.SameLetters "café".toList "cafÉ".toList ∧
      ¬ Agree (inFragments index ["café"]) (inFragments index ["cafÉ"]) := by
  intro index
  have hindex : IsLowerIndex index := by
    intro keyword users hget
    change (KeywordIndex.add {} "é" ⟨1⟩).get? keyword = some users at hget
    rw [KeywordIndex.get?_add] at hget
    split at hget
    · next hkeyword =>
      subst hkeyword
      decide +kernel
    · cases hget
  have hplain (text : List Char) (hall : text.all Char.isAlphanumeric = true) : IsPlainText text :=
    fun c hc => .inl (List.all_eq_true.1 hall c hc)
  have htext : IsPlainText "café".toList := hplain _ (by decide +kernel)
  have hother : IsPlainText "cafÉ".toList := hplain _ (by decide +kernel)
  have hsame : Text.SameLetters "café".toList "cafÉ".toList := by
    unfold Text.SameLetters
    decide +kernel
  refine ⟨hindex, htext, hother, hsame, fun hagree => ?_⟩
  have hbeyond : ∃ c ∈ "é".toList, 128 ≤ c.val := ⟨'é', by decide, by decide⟩
  have hoccurs : Occurs "é" "café".toList :=
    .inr ⟨hbeyond, "café".toList, mem_words_iff.1 (by decide +kernel), ['c', 'a', 'f'], [], by decide⟩
  obtain ⟨another, howns, hother⟩ :=
    (((scans_agree_iff hindex htext hother hsame).2.1 hagree) ⟨1⟩ "é" (by decide +kernel) hbeyond).1 hoccurs
  obtain rfl : another = "é" := by simpa using KeywordIndex.mem_ofList_iff.1 howns
  have hwords : words "cafÉ".toList = ["cafÉ".toList] := by decide +kernel
  have hnone (word : List Char) (hword : IsWordIn "cafÉ".toList word) :
      Text.lowercaseChars word ≠ ['é'] ∧ ¬ ['é'] <:+: word := by
    rw [← mem_words_iff, hwords, List.mem_singleton] at hword
    subst hword
    decide +kernel
  rcases hother with ⟨word, hword, hlower⟩ | ⟨-, word, hword, hinside⟩
  · exact (hnone word hword).1 hlower
  · exact (hnone word hword).2 hinside

end ChatNotify.Mention
