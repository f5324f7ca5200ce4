import ChatNotify.Proofs.Mention.Tags
import Mathlib.Data.List.Basic

namespace ChatNotify.Mention

instance (index : KeywordIndex) (form : List Char) : Decidable (Matches index form) :=
  inferInstanceAs (Decidable (_ ∨ _ ∨ _))

/-- The parts of a word with an at sign in front that stay unresolved: the word itself if none of its forms matches,
or, if it has no at sign in front, those of its pieces that do not match either. -/
def unresolved (index : KeywordIndex) (word : List Char) : List (List Char) :=
  if ∃ form ∈ forms word, Matches index form then []
  else if word.head? = some '@' then [word]
  else (pieces word).filter fun piece => piece.head? = some '@' ∧ ¬ Matches index piece

/-- The parts of a word that are found to be keywords: its longest form that matches, or, if none does and the word
has no at sign in front, those of its pieces that match. Words for the whole channel are no keywords. -/
def resolved (index : KeywordIndex) (word : List Char) : List (List Char) :=
  match (forms word).find? fun form => Matches index form with
  | some form => if isReserved form then [] else [form]
  | none =>
    if word.head? = some '@' then []
    else (pieces word).filter fun piece => isReserved piece = false ∧ Matches index piece

/-- A keyword as it is found, in lower case and without at signs in front. -/
def tokenOf (form : List Char) : String :=
  String.ofList ((Text.lowercaseChars form).dropWhile (· = '@'))

/-- The words of marked-up texts, in order. -/
def wordsIn (fields : List String) : List (List Char) :=
  (fields.flatMap Markup.textFragments).flatMap fun fragment => words fragment.toList

/-- The names of what stays unresolved in the texts, in order. -/
def namesIn (index : KeywordIndex) (fields : List String) : List String :=
  ((wordsIn fields).flatMap (unresolved index)).map nameOf

/-- The tokens of the keywords that are found in the texts. -/
def tokensIn (index : KeywordIndex) (fields : List String) : List String :=
  ((wordsIn fields).flatMap (resolved index)).map tokenOf

variable {index : KeywordIndex} {word form piece : List Char}

theorem name?_bound? : (bound? index form).bind Finding.name? = none := by
  cases hbound : bound? index form with
  | none => rfl
  | some finding =>
    cases finding with
    | unknown name => exact absurd hbound (bound?_ne_unknown index form name)
    | here | channel | all | keyword | inside => rfl

/-- What matches is found to be a keyword, unless it is a word for the whole channel. -/
theorem token?_bound? : (bound? index form).bind Finding.token? =
    if isReserved form = false ∧ Matches index form then some (tokenOf form) else none := by
  by_cases hreserved : isReserved form = true
  · rw [if_neg (by simp [hreserved]), bound?_eq]
    rcases isReserved_iff.1 hreserved with hhere | hchannel | hall
    · rw [if_pos hhere]
      rfl
    · rw [hchannel]
      rfl
    · rw [hall]
      rfl
  · rw [Bool.not_eq_true] at hreserved
    obtain ⟨hhere, hchannel, hall⟩ := isReserved_eq_false_iff.1 hreserved
    rw [bound?_eq, if_neg hhere, if_neg hchannel, if_neg hall]
    simp only [Matches, hreserved]
    cases hlower : index.get? (String.ofList (Text.lowercaseChars form)) with
    | some users => simp [Finding.token?, tokenOf]
    | none =>
      cases hexact : index.get? (String.ofList form) with
      | some users => simp [Finding.token?, tokenOf]
      | none => simp

theorem filterMap_toList {α β : Type} (f : α → Option β) (found : Option α) :
    found.toList.filterMap f = (found.bind f).toList := by
  cases found with
  | none => rfl
  | some a => cases hf : f a <;> simp [hf]

theorem flatMap_ite_singleton {α β : Type} (p : α → Prop) [DecidablePred p] (f : α → β) (l : List α) :
    (l.flatMap fun a => if p a then [f a] else []) = (l.filter p).map f := by
  induction l with
  | nil => rfl
  | cons a l ih => by_cases ha : p a <;> simp [ha, ih]

/-- A piece that matches is what it is bound to, and another one is taken down if an at sign is in front of it. -/
theorem filterMap_pieceFindings (f : Finding → Option String) : (pieceFindings index piece).filterMap f =
    if Matches index piece then ((bound? index piece).bind f).toList
    else if piece.head? = some '@' then (f (.unknown (nameOf piece))).toList
    else [] := by
  by_cases hmatches : Matches index piece
  · have hfindings : pieceFindings index piece = (bound? index piece).toList := by
      unfold pieceFindings
      cases hbound : bound? index piece with
      | none => exact absurd hmatches (bound?_eq_none_iff.1 hbound)
      | some finding => rfl
    rw [hfindings, filterMap_toList, if_pos hmatches]
  · have hreserved : isReserved piece = false := Bool.eq_false_iff.2 fun hreserved => hmatches (.inl hreserved)
    have hfindings : pieceFindings index piece =
        if piece.head? = some '@' then [.unknown (nameOf piece)] else [] := by
      simp [pieceFindings, bound?_eq_none_iff.2 hmatches, hreserved]
    rw [hfindings, if_neg hmatches]
    split
    · exact filterMap_toList f (some _)
    · rfl

theorem wholeFindings_of_find? (hfound : (forms word).find? (fun form => Matches index form) = some form) :
    wholeFindings index word = (bound? index form).toList := by
  obtain ⟨hmatches, before, after, hforms, hbefore⟩ := List.find?_eq_some_iff_append.1 hfound
  cases hbound : bound? index form with
  | none => exact absurd (of_decide_eq_true hmatches) (bound?_eq_none_iff.1 hbound)
  | some finding =>
    have hfirst : (forms word).findSome? (bound? index) = some finding :=
      List.findSome?_eq_some_iff.2 ⟨before, form, after, hforms, hbound, fun longer hlonger =>
        bound?_eq_none_iff.2 (by simpa using hbefore longer hlonger)⟩
    rw [wholeFindings, hfirst]
    rfl

/-- What is taken down of a word, keywords inside it apart: of its longest form that matches, or else of the word if
an at sign is in front of it, or else of its pieces. -/
theorem filterMap_wordFindings {f : Finding → Option String} (hinside : ∀ users, f (.inside users) = none)
    (hne : word ≠ []) : (wordFindings index word).filterMap f =
      match (forms word).find? fun form => Matches index form with
      | some form => ((bound? index form).bind f).toList
      | none =>
        if word.head? = some '@' then (f (.unknown (nameOf word))).toList
        else (pieces word).flatMap fun piece => (pieceFindings index piece).filterMap f := by
  have hnone : (insideFindings index word).filterMap f = [] := by
    refine List.filterMap_eq_nil_iff.2 fun finding hfinding => ?_
    obtain ⟨users, rfl⟩ := exists_eq_inside_of_mem hfinding
    exact hinside users
  rw [wordFindings, List.filterMap_append, hnone, List.append_nil]
  cases hfound : (forms word).find? fun form => Matches index form with
  | some form => rw [wholeFindings_of_find? hfound, filterMap_toList]
  | none =>
    have hunmatched : ∀ form, IsForm word form → ¬ Matches index form := fun form hform =>
      of_decide_eq_false (Bool.eq_false_iff.2 (List.find?_eq_none.1 hfound form ((mem_forms_iff hne).2 hform)))
    rw [wholeFindings_of_forall_not_matches hne hunmatched]
    dsimp only
    split
    · exact filterMap_toList f (some _)
    · exact List.filterMap_flatMap

/-- The names that are taken down of a word. -/
theorem filterMap_name?_wordFindings (hne : word ≠ []) :
    (wordFindings index word).filterMap Finding.name? = (unresolved index word).map nameOf := by
  have hpiece (piece : List Char) : (pieceFindings index piece).filterMap Finding.name? =
      if piece.head? = some '@' ∧ ¬ Matches index piece then [nameOf piece] else [] := by
    rw [filterMap_pieceFindings, name?_bound?]
    by_cases hmatches : Matches index piece <;> simp [hmatches, Finding.name?]
  rw [filterMap_wordFindings (fun _ => rfl) hne, unresolved]
  cases hfound : (forms word).find? fun form => Matches index form with
  | some form =>
    obtain ⟨hmatches, before, after, hforms, -⟩ := List.find?_eq_some_iff_append.1 hfound
    have hmatched : ∃ form ∈ forms word, Matches index form :=
      ⟨form, by simp [hforms], of_decide_eq_true hmatches⟩
    rw [if_pos hmatched]
    exact congrArg Option.toList name?_bound?
  | none =>
    have hunmatched : ¬ ∃ form ∈ forms word, Matches index form := by simpa using hfound
    simp only [if_neg hunmatched, hpiece, flatMap_ite_singleton]
    split <;> rfl

/-- The tokens that are taken down of a word. -/
theorem filterMap_token?_wordFindings (hne : word ≠ []) :
    (wordFindings index word).filterMap Finding.token? = (resolved index word).map tokenOf := by
  have hpiece (piece : List Char) : (pieceFindings index piece).filterMap Finding.token? =
      if isReserved piece = false ∧ Matches index piece then [tokenOf piece] else [] := by
    rw [filterMap_pieceFindings, token?_bound?]
    by_cases hmatches : Matches index piece <;> by_cases hreserved : isReserved piece = true <;>
      simp [hmatches, hreserved, Finding.token?]
  rw [filterMap_wordFindings (fun _ => rfl) hne, resolved]
  cases hfound : (forms word).find? fun form => Matches index form with
  | some form =>
    have hmatches : Matches index form := of_decide_eq_true (List.find?_eq_some_iff_append.1 hfound).1
    by_cases hreserved : isReserved form = true <;> simp [token?_bound?, hreserved, hmatches]
  | none =>
    simp only [hpiece, flatMap_ite_singleton]
    split <;> rfl

theorem flatMap_fieldFindings (fields : List String) :
    fields.flatMap (fieldFindings index) = (wordsIn fields).flatMap (wordFindings index) := by
  rw [wordsIn, List.flatMap_assoc, List.flatMap_assoc, funext (fieldFindings_eq index)]
  rfl

theorem ne_nil_of_mem_wordsIn {fields : List String} (hword : word ∈ wordsIn fields) : word ≠ [] := by
  obtain ⟨fragment, -, hword⟩ := List.mem_flatMap.1 hword
  exact (mem_words_iff.1 hword).ne_nil

theorem filterMap_name?_fieldFindings (fields : List String) :
    (fields.flatMap (fieldFindings index)).filterMap Finding.name? = namesIn index fields := by
  rw [flatMap_fieldFindings, List.filterMap_flatMap, namesIn, List.map_flatMap]
  exact List.flatMap_congr fun word hword => filterMap_name?_wordFindings (ne_nil_of_mem_wordsIn hword)

theorem filterMap_token?_fieldFindings (fields : List String) :
    (fields.flatMap (fieldFindings index)).filterMap Finding.token? = tokensIn index fields := by
  rw [flatMap_fieldFindings, List.filterMap_flatMap, tokensIn, List.map_flatMap]
  exact List.flatMap_congr fun word hword => filterMap_token?_wordFindings (ne_nil_of_mem_wordsIn hword)

theorem potential_eq (index : KeywordIndex) (fields : List String) :
    (inFields index fields).potential = (((namesIn index fields).filter (· ≠ "")).eraseDups).filter
      (fun name => ∀ token ∈ tokensIn index fields, isDottedPrefix name token = false) := by
  rw [inFields, potential_account, filterMap_name?_fieldFindings, filterMap_token?_fieldFindings]

theorem mem_potential_iff {fields : List String} {name : String} : name ∈ (inFields index fields).potential ↔
    name ≠ "" ∧ name ∈ namesIn index fields ∧ ∀ token ∈ tokensIn index fields, isDottedPrefix name token = false := by
  rw [potential_eq, List.mem_filter, List.mem_eraseDups, List.mem_filter, decide_eq_true_iff, decide_eq_true_iff,
    and_comm (b := name ≠ ""), and_assoc]

/-- A name that comes up again is listed once, and one that a keyword in a later field goes on behind is not. -/
example :
    let index : KeywordIndex := .ofList [("@anna.k", ⟨2⟩)]
    let fields := ["@anna: @Bob. @bob", "x.@dora_ @anna.k"]
    namesIn index fields = ["anna", "bob", "bob", "dora"] ∧ tokensIn index fields = ["anna.k"] ∧
      (inFields index fields).potential = ["bob", "dora"] := by
  decide +kernel

end ChatNotify.Mention
