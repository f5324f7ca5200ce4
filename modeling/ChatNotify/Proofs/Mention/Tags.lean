import ChatNotify.Proofs.Mention.Potential
import ChatNotify.Proofs.Text.LetterCase
import ChatNotify.Proofs.Text.Splitting
import Mathlib.Data.List.TakeWhile

namespace ChatNotify.Mention

/-- The word is a run of word characters that is no emoji, without the punctuation in front of it. -/
inductive IsWordIn (fragment : List Char) : List Char → Prop
  | intro {front word : List Char} (hrun : IsRun (front ++ word) fragment) (hemoji : isEmoji (front ++ word) = false)
      (hfront : ∀ c ∈ front, isEdge c = true) (hstart : ∀ c ∈ word.head?, isEdge c = false) (hne : word ≠ []) :
      IsWordIn fragment word

/-- The form is the word with so much of the punctuation at its end taken off. -/
structure IsForm (word form : List Char) : Prop where
  ne_nil : form ≠ []
  rest : ∃ behind, word = form ++ behind ∧ ∀ c ∈ behind, isEdge c = true

/-- The form is a word for the whole channel in any letter case, or a keyword in lower case or as it is. -/
def Matches (index : KeywordIndex) (form : List Char) : Prop :=
  isReserved form = true ∨ index.get? (String.ofList (Text.lowercaseChars form)) ≠ none ∨
    index.get? (String.ofList form) ≠ none

/-- The form is bound to the user. A keyword in lower case goes before the one as it is, and a word for the
whole channel before both; the word for those here is bound to nobody. -/
inductive IsBoundTo (index : KeywordIndex) (user : Id) (form : List Char) : Prop
  | channel (hform : form.map Char.toLower = Reserved.channel.toList)
      (huser : user ∈ (index.get? Reserved.channel).getD [])
  | all (hform : form.map Char.toLower = Reserved.all.toList) (huser : user ∈ (index.get? Reserved.all).getD [])
  | lower (hreserved : isReserved form = false) {users : List Id}
      (hlower : index.get? (String.ofList (Text.lowercaseChars form)) = some users) (huser : user ∈ users)
  | exact (hreserved : isReserved form = false) (hlower : index.get? (String.ofList (Text.lowercaseChars form)) = none)
      {users : List Id} (hexact : index.get? (String.ofList form) = some users) (huser : user ∈ users)

/-- Whom a word tags: those to whom its longest matching form is bound, or else, if it has no at sign in front,
those to whom one of its pieces is, and those of whom a keyword beyond ASCII is inside it. -/
inductive Tags (index : KeywordIndex) (word : List Char) (user : Id) : Prop
  | form {form : List Char} (hform : IsForm word form) (hbound : IsBoundTo index user form)
      (hlongest : ∀ longer, IsForm word longer → form.length < longer.length → ¬ Matches index longer)
  | piece (hunmatched : ∀ form, IsForm word form → ¬ Matches index form) (hbare : word.head? ≠ some '@')
      {piece : List Char} (hpiece : Text.IsStretch isJoint piece word) (hne : piece ≠ [])
      (hbound : IsBoundTo index user piece)
  | inside {keyword : String} {users : List Id} (hkeyword : index.get? keyword = some users) (huser : user ∈ users)
      (hbeyond : ∃ c ∈ keyword.toList, 128 ≤ c.val) (hinside : keyword.toList <:+: word)

theorem mem_words_iff {fragment word : List Char} : word ∈ words fragment ↔ IsWordIn fragment word := by
  constructor
  · intro hword
    obtain ⟨hword, hne⟩ := List.mem_filter.1 hword
    obtain ⟨run, hrun, rfl⟩ := List.mem_map.1 hword
    obtain ⟨hsplit, hkept⟩ := List.mem_filter.1 hrun
    obtain ⟨hrunNe, hemoji⟩ : run ≠ [] ∧ isEmoji run = false := by simpa using hkept
    have hrun := isRun_iff.2 ⟨hrunNe, Text.mem_splitOnP_iff.1 hsplit⟩
    rw [← List.takeWhile_append_dropWhile (p := isEdge) (l := run)] at hrun hemoji
    refine .intro hrun hemoji (fun c hc => List.mem_takeWhile_imp hc) ?_ (by simpa using hne)
    intro c hc
    have hhead := List.head?_dropWhile_not isEdge run
    rw [hc] at hhead
    simpa using hhead
  · rintro (@⟨front, _, hrun, hemoji, hfront, hstart, hne⟩)
    have hdrop : (front ++ word).dropWhile isEdge = word := by
      rw [List.dropWhile_append_of_pos hfront]
      cases word with
      | nil => rfl
      | cons c rest => exact List.dropWhile_cons_of_neg (by simp [hstart c rfl])
    have hmem := hrun.dropWhile_mem_words hemoji (by rwa [hdrop])
    rwa [hdrop] at hmem

theorem isForm_self {word : List Char} (hne : word ≠ []) : IsForm word word :=
  ⟨hne, [], by simp, by simp⟩

/-- A form that is not the word itself is one of the word without its last character. -/
theorem isForm_concat_iff {init form : List Char} {c : Char} :
    IsForm (init ++ [c]) form ↔ form = init ++ [c] ∨ isEdge c = true ∧ IsForm init form := by
  constructor
  · rintro ⟨hne, behind, hword, hbehind⟩
    rcases List.eq_nil_or_concat behind with rfl | ⟨rest, last, rfl⟩
    · exact .inl (by simpa using hword.symm)
    · rw [List.concat_eq_append] at hword hbehind
      rw [← List.append_assoc] at hword
      obtain ⟨rfl, hlast⟩ := List.append_inj' hword rfl
      obtain ⟨rfl, -⟩ := List.cons.inj hlast
      exact .inr ⟨hbehind c (by simp), hne, rest, rfl, fun d hd => hbehind d (by simp [hd])⟩
  · rintro (rfl | ⟨hedge, hne, behind, rfl, hbehind⟩)
    · exact isForm_self (by simp)
    · refine ⟨hne, behind ++ [c], by simp, ?_⟩
      simpa [hedge, or_imp, forall_and] using hbehind

theorem mem_forms_iff {word form : List Char} (hne : word ≠ []) : form ∈ forms word ↔ IsForm word form := by
  induction word using List.reverseRecOn with
  | nil => exact absurd rfl hne
  | append_singleton init c ih =>
    rw [forms, isForm_concat_iff, List.mem_cons]
    refine or_congr_right ?_
    by_cases hinit : init = []
    · subst hinit
      have hnone : ¬ IsForm [] form := by
        rintro ⟨hform, behind, hnil, -⟩
        exact hform (List.append_eq_nil_iff.1 hnil.symm).1
      simp [hnone]
    · have hlength := List.length_pos_iff.2 hinit
      rw [← ih hinit]
      by_cases hedge : isEdge c = true <;> simp [hedge, hlength]

theorem IsForm.length_le {word form : List Char} (hform : IsForm word form) : form.length ≤ word.length := by
  obtain ⟨behind, rfl, -⟩ := hform.rest
  simp

private theorem pairwise_forms (word : List Char) :
    (forms word).Pairwise fun longer form => form.length < longer.length := by
  induction word using List.reverseRecOn with
  | nil => simp [forms]
  | append_singleton init c ih =>
    rw [forms, List.dropLast_concat, List.pairwise_cons]
    split
    · next hshortens =>
      have hinit : init ≠ [] := by
        rintro rfl
        simp at hshortens
      refine ⟨fun form hform => ?_, ih⟩
      have hle := ((mem_forms_iff hinit).1 hform).length_le
      rw [List.length_append, List.length_singleton]
      omega
    · exact ⟨by simp, .nil⟩

/-- The first of the forms for which something is found is the longest. -/
theorem findSome?_forms_eq_some_iff {β : Type} {find : List Char → Option β} {word : List Char} {found : β}
    (hne : word ≠ []) : (forms word).findSome? find = some found ↔
      ∃ form, IsForm word form ∧ find form = some found ∧
        ∀ longer, IsForm word longer → form.length < longer.length → find longer = none := by
  have hpairwise := pairwise_forms word
  rw [List.findSome?_eq_some_iff]
  constructor
  · rintro ⟨before, form, after, hforms, hfound, hbefore⟩
    rw [hforms, List.pairwise_append, List.pairwise_cons] at hpairwise
    refine ⟨form, (mem_forms_iff hne).1 (by simp [hforms]), hfound, fun longer hlonger hlt => hbefore longer ?_⟩
    have hmem := (mem_forms_iff hne).2 hlonger
    rw [hforms, List.mem_append, List.mem_cons] at hmem
    rcases hmem with hbefore | rfl | hafter
    · exact hbefore
    · omega
    · have hshorter := hpairwise.2.1.1 longer hafter
      omega
  · rintro ⟨form, hform, hfound, hlongest⟩
    obtain ⟨before, after, hforms⟩ := List.append_of_mem ((mem_forms_iff hne).2 hform)
    refine ⟨before, form, after, hforms, hfound, fun longer hlonger => ?_⟩
    rw [hforms, List.pairwise_append] at hpairwise
    refine hlongest longer ((mem_forms_iff hne).1 (by simp [hforms, hlonger])) ?_
    exact hpairwise.2.2 longer hlonger form List.mem_cons_self

theorem isReserved_iff {form : List Char} : isReserved form = true ↔
    form.map Char.toLower = Reserved.here.toList ∨ form.map Char.toLower = Reserved.channel.toList ∨
      form.map Char.toLower = Reserved.all.toList := by
  simp only [isReserved, List.any_cons, List.any_nil, Bool.or_false, Bool.or_eq_true, decide_eq_true_eq,
    eq_comm (b := form.map Char.toLower)]
  tauto

theorem isReserved_eq_false_iff {form : List Char} : isReserved form = false ↔
    form.map Char.toLower ≠ Reserved.here.toList ∧ form.map Char.toLower ≠ Reserved.channel.toList ∧
      form.map Char.toLower ≠ Reserved.all.toList := by
  rw [Bool.eq_false_iff, ne_eq, isReserved_iff, not_or, not_or]

/-- The words for the whole channel have no i and no k in them, so no letter beyond ASCII stands for theirs. -/
private theorem ofList_lowercaseChars_eq_iff (form : List Char) {reserved : String}
    (hplain : reserved.toList.all fun c => c.val < 128 ∧ c ∉ ['\x00', 'i', 'k'])
    (hself : reserved.toList.map Char.toLower = reserved.toList) :
    String.ofList (Text.lowercaseChars form) = reserved ↔ form.map Char.toLower = reserved.toList := by
  replace hplain : ∀ c ∈ reserved.toList, c.val < 128 ∧ c ∉ ['\x00', 'i', 'k'] :=
    fun c hc => of_decide_eq_true (List.all_eq_true.1 hplain c hc)
  constructor
  · intro hlower
    have hchars : Text.lowercaseChars form = reserved.toList := by rw [← hlower, String.toList_ofList]
    rw [← hchars] at hplain ⊢
    exact Text.map_toLower_eq_lowerAfter hplain
  · intro hform
    have hchars := lowercaseChars_of_map_toLower (fun c hc => (hplain c hc).1) (hform.trans hself.symm)
    rw [hchars, hself, String.ofList_toList]

/-- Whether a form is reserved may be told by its ASCII letters alone. -/
theorem bound?_eq (index : KeywordIndex) (form : List Char) : bound? index form =
    if form.map Char.toLower = Reserved.here.toList then some .here
    else if form.map Char.toLower = Reserved.channel.toList then
      some (.channel ((index.get? Reserved.channel).getD []))
    else if form.map Char.toLower = Reserved.all.toList then some (.all ((index.get? Reserved.all).getD []))
    else
      ((index.get? (String.ofList (Text.lowercaseChars form))).or (index.get? (String.ofList form))).map fun users =>
        .keyword users (String.ofList ((Text.lowercaseChars form).dropWhile (· = '@'))) := by
  have hhere : String.ofList (Text.lowercaseChars form) = Reserved.here ↔ _ :=
    ofList_lowercaseChars_eq_iff form (by decide) (by decide)
  have hchannel : String.ofList (Text.lowercaseChars form) = Reserved.channel ↔ _ :=
    ofList_lowercaseChars_eq_iff form (by decide) (by decide)
  have hall : String.ofList (Text.lowercaseChars form) = Reserved.all ↔ _ :=
    ofList_lowercaseChars_eq_iff form (by decide) (by decide)
  simp only [bound?, hhere, hchannel, hall]

theorem bound?_eq_none_iff {index : KeywordIndex} {form : List Char} :
    bound? index form = none ↔ ¬ Matches index form := by
  rw [bound?_eq, Matches, isReserved_iff]
  split
  · next hhere => simp [hhere]
  · next hhere =>
    split
    · next hchannel => simp [hchannel]
    · next hchannel =>
      split
      · next hall => simp [hall]
      · next hall => simp [hhere, hchannel, hall]

theorem isBoundTo_iff {index : KeywordIndex} {user : Id} {form : List Char} : IsBoundTo index user form ↔
    ∃ finding, bound? index form = some finding ∧ (finding.names user = true ∨ finding.addresses user = true) := by
  rw [bound?_eq]
  constructor
  · intro hbound
    cases hbound with
    | channel hform huser =>
      exact ⟨.channel _, by rw [hform, if_neg (by decide), if_pos rfl], .inr (by simpa [Finding.addresses] using huser)⟩
    | all hform huser =>
      refine ⟨.all _, ?_, .inr (by simpa [Finding.addresses] using huser)⟩
      rw [hform, if_neg (by decide), if_neg (by decide), if_pos rfl]
    | lower hreserved hlower huser =>
      obtain ⟨hhere, hchannel, hall⟩ := isReserved_eq_false_iff.1 hreserved
      rw [if_neg hhere, if_neg hchannel, if_neg hall, hlower]
      exact ⟨_, rfl, .inl (by simpa [Finding.names] using huser)⟩
    | exact hreserved hlower hexact huser =>
      obtain ⟨hhere, hchannel, hall⟩ := isReserved_eq_false_iff.1 hreserved
      rw [if_neg hhere, if_neg hchannel, if_neg hall, hlower, hexact]
      exact ⟨_, rfl, .inl (by simpa [Finding.names] using huser)⟩
  · rintro ⟨finding, hfound, huser⟩
    split at hfound
    · cases hfound
      simp [Finding.names, Finding.addresses] at huser
    · next hhere =>
      split at hfound
      · next hchannel =>
        cases hfound
        exact .channel hchannel (by simpa [Finding.names, Finding.addresses] using huser)
      · next hchannel =>
        split at hfound
        · next hall =>
          cases hfound
          exact .all hall (by simpa [Finding.names, Finding.addresses] using huser)
        · next hall =>
          have hreserved : isReserved form = false := isReserved_eq_false_iff.2 ⟨hhere, hchannel, hall⟩
          obtain ⟨users, hget, rfl⟩ := Option.map_eq_some_iff.1 hfound
          have huser : user ∈ users := by simpa [Finding.names, Finding.addresses] using huser
          rcases Option.or_eq_some_iff.1 hget with hlower | ⟨hlower, hexact⟩
          · exact .lower hreserved hlower huser
          · exact .exact hreserved hlower hexact huser

theorem IsBoundTo.matches {index : KeywordIndex} {user : Id} {form : List Char} (hbound : IsBoundTo index user form) :
    Matches index form := by
  refine Classical.byContradiction fun hunmatched => ?_
  obtain ⟨finding, hfound, -⟩ := isBoundTo_iff.1 hbound
  rw [bound?_eq_none_iff.2 hunmatched] at hfound
  cases hfound

theorem exists_mem_flatMap_iff {α β : Type} {f : α → List β} {xs : List α} {P : β → Prop} :
    (∃ b ∈ xs.flatMap f, P b) ↔ ∃ a ∈ xs, ∃ b ∈ f a, P b := by
  constructor
  · rintro ⟨b, hb, hP⟩
    obtain ⟨a, ha, hb⟩ := List.mem_flatMap.1 hb
    exact ⟨a, ha, b, hb, hP⟩
  · rintro ⟨a, ha, b, hb, hP⟩
    exact ⟨b, List.mem_flatMap.2 ⟨a, ha, hb⟩, hP⟩

theorem mem_pieces_iff {word piece : List Char} (hjoint : word.any isJoint = true) :
    piece ∈ pieces word ↔ Text.IsStretch isJoint piece word ∧ piece ≠ [] := by
  rw [pieces, if_pos hjoint, List.mem_filter, Text.mem_splitOnP_iff]
  simp

theorem exists_pieceFindings_iff {index : KeywordIndex} {piece : List Char} {user : Id} :
    (∃ finding ∈ pieceFindings index piece, finding.names user = true ∨ finding.addresses user = true) ↔
      IsBoundTo index user piece := by
  rw [isBoundTo_iff, pieceFindings]
  cases hbound : bound? index piece with
  | some finding => simp
  | none =>
    simp only [reduceCtorEq, false_and, exists_false, iff_false]
    rintro ⟨finding, hfinding, huser⟩
    split at hfinding
    · obtain rfl := List.mem_singleton.1 hfinding
      simp [Finding.names, Finding.addresses] at huser
    · cases hfinding

theorem exists_insideFindings_iff {index : KeywordIndex} {word : List Char} {user : Id} :
    (∃ finding ∈ insideFindings index word, finding.names user = true ∨ finding.addresses user = true) ↔
      ∃ keyword users, index.get? keyword = some users ∧ user ∈ users ∧ (∃ c ∈ keyword.toList, 128 ≤ c.val) ∧
        keyword.toList <:+: word := by
  constructor
  · rintro ⟨finding, hfinding, huser⟩
    obtain ⟨⟨keyword, users⟩, hentry, hfound⟩ := List.mem_filterMap.1 hfinding
    obtain ⟨hinside, hfinding⟩ := Option.ite_none_right_eq_some.1 hfound
    cases hfinding
    simp only [Bool.and_eq_true, Text.occursIn_iff, List.any_eq_true, decide_eq_true_eq] at hinside
    exact ⟨keyword, users, Table.get?_eq_some_iff.2 hentry, by simpa [Finding.names, Finding.addresses] using huser,
      hinside.1.2, hinside.2⟩
  · rintro ⟨keyword, users, hget, huser, hbeyond, hinside⟩
    obtain ⟨finding, hfinding, hnames⟩ :=
      exists_insideFindings hbeyond hinside (KeywordIndex.mem_getD_iff.2 ⟨users, hget, huser⟩)
    exact ⟨finding, hfinding, .inl hnames⟩

/-- The words for the whole channel are looked up with all others, so what is left of an unmatched word is
never one of them. -/
theorem wholeFindings_of_forall_not_matches {index : KeywordIndex} {word : List Char} (hne : word ≠ [])
    (hunmatched : ∀ form, IsForm word form → ¬ Matches index form) :
    wholeFindings index word =
      if word.head? = some '@' then [.unknown (nameOf word)] else (pieces word).flatMap (pieceFindings index) := by
  have hunbound : (forms word).findSome? (bound? index) = none :=
    List.findSome?_eq_none_iff.2 fun form hform => bound?_eq_none_iff.2 (hunmatched form ((mem_forms_iff hne).1 hform))
  rw [wholeFindings, hunbound]
  by_cases hat : word.head? = some '@'
  · obtain ⟨rest, rfl⟩ := List.head?_eq_some_iff.1 hat
    have hreserved : isReserved (Text.trimEndBy isEdge ('@' :: rest)) = false :=
      Bool.eq_false_iff.2 fun hreserved =>
        hunmatched _ ((mem_forms_iff hne).1 (trimEndBy_at_mem_forms rest)) (.inl hreserved)
    simp [hreserved]
  · simp [hat]

theorem exists_findSome?_forms_iff {index : KeywordIndex} {word : List Char} {user : Id} (hne : word ≠ []) :
    (∃ finding, (forms word).findSome? (bound? index) = some finding ∧
        (finding.names user = true ∨ finding.addresses user = true)) ↔
      ∃ form, IsForm word form ∧ IsBoundTo index user form ∧
        ∀ longer, IsForm word longer → form.length < longer.length → ¬ Matches index longer := by
  constructor
  · rintro ⟨finding, hfound, huser⟩
    obtain ⟨form, hform, hbound, hlongest⟩ := (findSome?_forms_eq_some_iff hne).1 hfound
    exact ⟨form, hform, isBoundTo_iff.2 ⟨finding, hbound, huser⟩,
      fun longer hlonger hlt => bound?_eq_none_iff.1 (hlongest longer hlonger hlt)⟩
  · rintro ⟨form, hform, hbound, hlongest⟩
    obtain ⟨finding, hbound, huser⟩ := isBoundTo_iff.1 hbound
    refine ⟨finding, (findSome?_forms_eq_some_iff hne).2 ⟨form, hform, hbound, ?_⟩, huser⟩
    exact fun longer hlonger hlt => bound?_eq_none_iff.2 (hlongest longer hlonger hlt)

/-- What the pieces of an unmatched word are bound to. Without a joint the word would be its only piece, but it
is a form that did not match. -/
theorem exists_pieces_iff {index : KeywordIndex} {word : List Char} {user : Id} (hne : word ≠ [])
    (hunmatched : ∀ form, IsForm word form → ¬ Matches index form) :
    (∃ finding ∈ (pieces word).flatMap (pieceFindings index),
        finding.names user = true ∨ finding.addresses user = true) ↔
      ∃ piece, Text.IsStretch isJoint piece word ∧ piece ≠ [] ∧ IsBoundTo index user piece := by
  simp only [exists_mem_flatMap_iff, exists_pieceFindings_iff]
  by_cases hjoint : word.any isJoint = true
  · simp only [mem_pieces_iff hjoint, and_assoc]
  · have hclear : ∀ c ∈ word, isJoint c = false := by simpa using hjoint
    rw [pieces, if_neg hjoint]
    constructor
    · rintro ⟨piece, ⟨⟩, -⟩
    · rintro ⟨piece, hpiece, -, hbound⟩
      have hmem := hpiece.mem_splitOnP
      rw [List.splitOnP_eq_singleton hclear, List.mem_singleton] at hmem
      subst hmem
      exact absurd hbound.matches (hunmatched piece (isForm_self hne))

theorem exists_wordFindings_iff {index : KeywordIndex} {word : List Char} {user : Id} (hne : word ≠ []) :
    (∃ finding ∈ wordFindings index word, finding.names user = true ∨ finding.addresses user = true) ↔
      Tags index word user := by
  rw [wordFindings]
  constructor
  · rintro ⟨finding, hfinding, huser⟩
    rcases List.mem_append.1 hfinding with hwhole | hinside
    · cases hfound : (forms word).findSome? (bound? index) with
      | some longest =>
        rw [wholeFindings, hfound] at hwhole
        obtain rfl := List.mem_singleton.1 hwhole
        obtain ⟨form, hform, hbound, hlongest⟩ := (exists_findSome?_forms_iff hne).1 ⟨finding, hfound, huser⟩
        exact .form hform hbound hlongest
      | none =>
        have hunmatched : ∀ form, IsForm word form → ¬ Matches index form := fun form hform =>
          bound?_eq_none_iff.1 (List.findSome?_eq_none_iff.1 hfound form ((mem_forms_iff hne).2 hform))
        rw [wholeFindings_of_forall_not_matches hne hunmatched] at hwhole
        split at hwhole
        · obtain rfl := List.mem_singleton.1 hwhole
          simp [Finding.names, Finding.addresses] at huser
        · next hbare =>
          obtain ⟨piece, hpiece, hpieceNe, hbound⟩ := (exists_pieces_iff hne hunmatched).1 ⟨finding, hwhole, huser⟩
          exact .piece hunmatched hbare hpiece hpieceNe hbound
    · obtain ⟨keyword, users, hkeyword, huser, hbeyond, hinside⟩ :=
        exists_insideFindings_iff.1 ⟨finding, hinside, huser⟩
      exact .inside hkeyword huser hbeyond hinside
  · intro htags
    cases htags with
    | form hform hbound hlongest =>
      obtain ⟨finding, hfound, huser⟩ := (exists_findSome?_forms_iff hne).2 ⟨_, hform, hbound, hlongest⟩
      refine ⟨finding, List.mem_append_left _ ?_, huser⟩
      rw [wholeFindings, hfound]
      exact List.mem_singleton_self finding
    | piece hunmatched hbare hpiece hpieceNe hbound =>
      obtain ⟨finding, hfinding, huser⟩ := (exists_pieces_iff hne hunmatched).2 ⟨_, hpiece, hpieceNe, hbound⟩
      refine ⟨finding, List.mem_append_left _ ?_, huser⟩
      rwa [wholeFindings_of_forall_not_matches hne hunmatched, if_neg hbare]
    | inside hkeyword huser hbeyond hinside =>
      obtain ⟨finding, hfinding, huser⟩ := exists_insideFindings_iff.2 ⟨_, _, hkeyword, huser, hbeyond, hinside⟩
      exact ⟨finding, List.mem_append_right _ hfinding, huser⟩

theorem IsWordIn.ne_nil {fragment word : List Char} (hword : IsWordIn fragment word) : word ≠ [] := by
  cases hword
  assumption

theorem fieldFindings_eq (index : KeywordIndex) (field : String) :
    fieldFindings index field = (Markup.textFragments field).flatMap (fragmentFindings index) := by
  unfold fieldFindings
  split
  · next hempty => rw [hempty, textFragments_empty, List.flatMap_nil]
  · rfl

/-- A field counts for the fragments of plain text in it. -/
theorem inFields_eq_inFragments (index : KeywordIndex) (fields : List String) :
    inFields index fields = inFragments index (fields.flatMap Markup.textFragments) := by
  rw [inFields, inFragments, List.flatMap_assoc, funext (fieldFindings_eq index)]

/-- A text, of plain or of marked-up fields, leaves those users mentioned whom one of its words tags. -/
theorem tagged_iff (index : KeywordIndex) :
    (∀ fields, inFields index fields = inFragments index (fields.flatMap Markup.textFragments)) ∧
    ∀ fragments user, (∃ kind, (inFragments index fragments).kind? user = some kind) ↔
      ∃ fragment ∈ fragments, ∃ word, IsWordIn fragment.toList word ∧ Tags index word user := by
  refine ⟨inFields_eq_inFragments index, fun fragments user => ?_⟩
  rw [inFragments, exists_kind?_account_iff, exists_mem_flatMap_iff]
  simp only [fragmentFindings, exists_mem_flatMap_iff, mem_words_iff]
  constructor
  · rintro ⟨fragment, hfragment, word, hword, hfound⟩
    exact ⟨fragment, hfragment, word, hword, (exists_wordFindings_iff hword.ne_nil).1 hfound⟩
  · rintro ⟨fragment, hfragment, word, hword, htags⟩
    exact ⟨fragment, hfragment, word, hword, (exists_wordFindings_iff hword.ne_nil).2 htags⟩

end ChatNotify.Mention
