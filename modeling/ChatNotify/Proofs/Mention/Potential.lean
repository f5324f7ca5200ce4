import ChatNotify.Proofs.Mention.Calls
import ChatNotify.Proofs.Mention.Findings
import ChatNotify.Proofs.Mention.Index
import Mathlib.Data.List.Induction

namespace ChatNotify

/-- Behind an at sign the name is a word for the whole channel, or a keyword. -/
def KeywordIndex.Resolves (index : KeywordIndex) (name : String) : Prop :=
  isBucket ("@" ++ name) = true ∨ index.get? ("@" ++ name) ≠ none

namespace Mention

namespace Finding

/-- The name of what stays unresolved. -/
def name? : Finding → Option String
  | .unknown name => some name
  | _ => none

/-- The token of a keyword. -/
def token? : Finding → Option String
  | .keyword _ token => some token
  | _ => none

end Finding

theorem tokens_eq_filterMap (findings : List Finding) : tokens findings = findings.filterMap Finding.token? := by
  refine congrArg (List.filterMap · findings) (funext fun finding => ?_)
  cases finding <;> rfl

theorem potential_record (mentions : Mentions) (finding : Finding) :
    (record mentions finding).potential =
      match finding.name? with
      | some name => if name = "" ∨ name ∈ mentions.potential then mentions.potential else mentions.potential ++ [name]
      | none => mentions.potential := by
  cases finding with
  | unknown name =>
    by_cases hskip : name = "" ∨ name ∈ mentions.potential
    · simp [record, Finding.name?, hskip]
    · simp [record, Finding.name?, hskip]
  | here | channel | all | keyword | inside => simp [record, Finding.name?]

theorem eraseDups_concat (names : List String) (name : String) :
    (names ++ [name]).eraseDups = if name ∈ names then names.eraseDups else names.eraseDups ++ [name] := by
  rw [List.eraseDups_append]
  split
  · next hmem => simp [List.removeAll, hmem]
  · next hnew => simp [List.removeAll, hnew, List.eraseDups_cons]

/-- The names are taken down where they first come up. -/
theorem potential_foldl_record (findings : List Finding) :
    (findings.foldl record {}).potential = ((findings.filterMap Finding.name?).filter (· ≠ "")).eraseDups := by
  induction findings using List.reverseRecOn with
  | nil => rfl
  | append_singleton findings finding ih =>
    rw [List.foldl_append, List.foldl_cons, List.foldl_nil, potential_record, List.filterMap_append, List.filter_append]
    cases hname : finding.name? with
    | none => simpa [hname] using ih
    | some name =>
      have hlast : [finding].filterMap Finding.name? = [name] := by simp [hname]
      rw [hlast]
      by_cases hempty : name = ""
      · simpa [hempty] using ih
      · have hkept : [name].filter (· ≠ "") = [name] := by simp [hempty]
        rw [hkept, eraseDups_concat, ← ih]
        simp only [hempty, false_or, ih, List.mem_eraseDups]

/-- A name is left out that some keyword goes on behind with a dot, wherever it is found. -/
theorem potential_account (findings : List Finding) :
    (account findings).potential = (((findings.filterMap Finding.name?).filter (· ≠ "")).eraseDups).filter
      fun name => ∀ token ∈ findings.filterMap Finding.token?, isDottedPrefix name token = false := by
  change (findings.foldl record {}).potential.filter _ = _
  rw [potential_foldl_record, tokens_eq_filterMap]
  refine List.filter_congr fun name _ => Bool.eq_iff_iff.2 ?_
  simp only [Bool.not_eq_true', List.any_eq_false, decide_eq_true_eq, Bool.not_eq_true]

theorem mem_filterMap_name?_iff {findings : List Finding} {name : String} :
    name ∈ findings.filterMap Finding.name? ↔ Finding.unknown name ∈ findings := by
  rw [List.mem_filterMap]
  constructor
  · rintro ⟨finding, hfinding, hname⟩
    cases finding <;> cases hname
    exact hfinding
  · exact fun hfinding => ⟨_, hfinding, rfl⟩

/-- Listed are the names found unknown, but for those that some token goes on behind a dot. -/
theorem mem_potential_account_iff {findings : List Finding} {name : String} :
    name ∈ (account findings).potential ↔
      name ≠ "" ∧ Finding.unknown name ∈ findings ∧
        ∀ token ∈ tokens findings, isDottedPrefix name token = false := by
  rw [potential_account, List.mem_filter, List.mem_eraseDups, List.mem_filter, mem_filterMap_name?_iff,
    decide_eq_true_iff, decide_eq_true_iff, tokens_eq_filterMap, and_comm (b := name ≠ ""), and_assoc]

/-- The word is one of those that the texts are cut into. -/
def IsWordOf (fields : List String) (word : List Char) : Prop :=
  ∃ field ∈ fields, ∃ fragment ∈ Markup.textFragments field, word ∈ words fragment.toList

theorem mem_fieldFindings_iff {index : KeywordIndex} {field : String} {finding : Finding} :
    finding ∈ fieldFindings index field ↔
      ∃ fragment ∈ Markup.textFragments field, ∃ word ∈ words fragment.toList, finding ∈ wordFindings index word := by
  unfold fieldFindings
  split
  · next hempty => simp [hempty, textFragments_empty]
  · simp [fragmentFindings]

theorem mem_flatMap_fieldFindings_iff {index : KeywordIndex} {fields : List String} {finding : Finding} :
    finding ∈ fields.flatMap (fieldFindings index) ↔
      ∃ word, IsWordOf fields word ∧ finding ∈ wordFindings index word := by
  simp only [List.mem_flatMap, mem_fieldFindings_iff, IsWordOf]
  constructor
  · rintro ⟨field, hfield, fragment, hfragment, word, hword, hfinding⟩
    exact ⟨word, ⟨field, hfield, fragment, hfragment, hword⟩, hfinding⟩
  · rintro ⟨word, ⟨field, hfield, fragment, hfragment, hword⟩, hfinding⟩
    exact ⟨field, hfield, fragment, hfragment, word, hword, hfinding⟩

/-- One of the forms of a word is the one without punctuation behind it, if anything is left of it. -/
theorem trimEndBy_mem_forms {word : List Char} (hne : Text.trimEndBy isEdge word ≠ []) :
    Text.trimEndBy isEdge word ∈ forms word := by
  induction word using List.reverseRecOn with
  | nil => exact absurd rfl hne
  | append_singleton init c ih =>
    rw [Text.trimEndBy_concat] at hne ⊢
    split at hne
    · next hedge =>
      have hinit : init ≠ [] := by
        rintro rfl
        exact hne rfl
      have hlength : 0 < init.length := List.length_pos_iff.2 hinit
      rw [if_pos hedge, forms, if_pos (by simp [hlength, hedge]), List.dropLast_concat]
      exact List.mem_cons_of_mem _ (ih hne)
    · next hedge =>
      rw [if_neg hedge, forms]
      exact List.mem_cons_self

theorem trimEndBy_at_mem_forms (rest : List Char) : Text.trimEndBy isEdge ('@' :: rest) ∈ forms ('@' :: rest) := by
  refine trimEndBy_mem_forms ?_
  rw [Text.trimEndBy_cons (by decide)]
  exact List.cons_ne_nil _ _

/-- The at sign in front has no letter case, and what stands behind it is not affected by it. -/
theorem lowercaseChars_cons_at (rest : List Char) :
    Text.lowercaseChars ('@' :: rest) = '@' :: Text.lowercaseChars rest := by
  have hcased (before : List Char) : Text.startsCased (before ++ ['@']) = Text.startsCased before := by
    unfold Text.startsCased
    rw [List.dropWhile_append]
    cases hdrop : before.dropWhile Char.isCaseIgnorable with
    | nil => rfl
    | cons c after => simp
  have hafter (before : List Char) : Text.lowerAfter (before ++ ['@']) rest = Text.lowerAfter before rest := by
    induction rest generalizing before with
    | nil => rfl
    | cons c rest ih =>
      have hnext : Text.lowerAfter (c :: (before ++ ['@'])) rest = Text.lowerAfter (c :: before) rest :=
        ih (c :: before)
      simp only [Text.lowerAfter, hcased, hnext]
  have hat : Text.lowercaseChars ('@' :: rest) = '@' :: Text.lowerAfter ['@'] rest := rfl
  rw [hat]
  exact congrArg (List.cons '@') (hafter [])

/-- A form that is bound to nothing is no keyword in lower case, and no word for the whole channel. -/
theorem not_resolves_of_bound?_eq_none {index : KeywordIndex} {form : List Char} {name : String}
    (hbound : bound? index form = none) (hlower : String.ofList (Text.lowercaseChars form) = "@" ++ name) :
    ¬ index.Resolves name := by
  simp only [bound?, hlower] at hbound
  split at hbound
  · cases hbound
  · next hhere =>
    split at hbound
    · cases hbound
    · next hchannel =>
      split at hbound
      · cases hbound
      · next hall =>
        rw [Option.map_eq_none_iff, Option.or_eq_none_iff] at hbound
        rintro (hbucket | hkeyword)
        · simp [KeywordIndex.isBucket, hhere, hchannel, hall] at hbucket
        · exact hkeyword hbound.1

/-- A form that is reserved in any letter case is bound. -/
theorem bound?_ne_none_of_isReserved (index : KeywordIndex) {form : List Char} (hreserved : isReserved form = true) :
    bound? index form ≠ none := by
  have hlower (reserved : String) (hascii : ∀ c ∈ reserved.toList, c.val < 128)
      (hself : reserved.toList.map Char.toLower = reserved.toList)
      (hform : reserved.toList = form.map Char.toLower) :
      String.ofList (Text.lowercaseChars form) = reserved := by
    rw [lowercaseChars_of_map_toLower hascii (hform.symm.trans hself.symm), hself, String.ofList_toList]
  simp only [isReserved, List.any_cons, List.any_nil, Bool.or_false, Bool.or_eq_true, decide_eq_true_eq] at hreserved
  simp only [bound?]
  rcases hreserved with hchannel | hall | hhere
  · rw [hlower Reserved.channel (by simp [Reserved.channel]) (by decide) hchannel]
    simp [Reserved.channel, Reserved.here]
  · rw [hlower Reserved.all (by simp [Reserved.all]) (by decide) hall]
    simp [Reserved.channel, Reserved.all, Reserved.here]
  · rw [hlower Reserved.here (by simp [Reserved.here]) (by decide) hhere]
    simp

/-- What is taken down of a part with a single at sign in front is what is looked up of the part without the
punctuation behind it, but for the at sign. -/
theorem lowercaseChars_trimEndBy {rest : List Char} (hsingle : rest.head? ≠ some '@') :
    String.ofList (Text.lowercaseChars (Text.trimEndBy isEdge ('@' :: rest))) = "@" ++ nameOf ('@' :: rest) := by
  obtain ⟨edges, hrest, hedges⟩ := Text.exists_eq_trimEndBy_append isEdge rest
  have hhead : (Text.trimEndBy isEdge rest).head? ≠ some '@' := by
    intro hhead
    rw [hrest, List.head?_append, hhead] at hsingle
    exact hsingle rfl
  have hname : nameOf ('@' :: rest) = String.ofList (Text.lowercaseChars (Text.trimEndBy isEdge rest)) := by
    have hsign : ∀ c ∈ ['@'], c = '@' := by simp
    rw [← nameOf_append hsign hhead (fun c hc => Text.getLast?_trimEndBy_not hc) hedges]
    exact congrArg (fun rest => nameOf ('@' :: rest)) hrest
  rw [hname, Text.trimEndBy_cons (by decide), lowercaseChars_cons_at]
  simp

/-- The parts of texts that are taken down as names which were not looked up: of the unresolved words those
with two at signs in front, and of the unresolved pieces of unresolved words also those with an underscore
behind. -/
inductive IsMisread (index : KeywordIndex) (fields : List String) : List Char → Prop
  | word {word : List Char} (hword : IsWordOf fields word) (hunbound : ∀ form ∈ forms word, bound? index form = none)
      (hdouble : ['@', '@'] <+: word) : IsMisread index fields word
  | piece {word piece : List Char} (hword : IsWordOf fields word)
      (hunbound : ∀ form ∈ forms word, bound? index form = none) (hbare : word.head? ≠ some '@')
      (hpiece : piece ∈ pieces word) (hpieceUnbound : bound? index piece = none) (hstart : piece.head? = some '@')
      (hslips : ['@', '@'] <+: piece ∨ piece.getLast? = some '_') : IsMisread index fields piece

theorem isJoint_of_mem_pieces {word piece : List Char} (hpiece : piece ∈ pieces word) :
    ∀ c ∈ piece, isJoint c = false := by
  unfold pieces at hpiece
  split at hpiece
  · exact (Text.isStretch_of_mem_splitOnP (List.mem_filter.1 hpiece).1).clear
  · cases hpiece

/-- A piece has no punctuation behind it but underscores. -/
theorem trimEndBy_of_mem_pieces {word piece : List Char} (hpiece : piece ∈ pieces word)
    (hlast : piece.getLast? ≠ some '_') : Text.trimEndBy isEdge piece = piece := by
  refine Text.trimEndBy_of_getLast? fun c hc => ?_
  have hjoint : isJoint c = false := isJoint_of_mem_pieces hpiece c (List.mem_of_getLast? hc)
  have hscore : c ≠ '_' := fun hscore => hlast (hscore ▸ hc)
  simp only [isJoint, Bool.or_eq_false_iff, decide_eq_false_iff_not] at hjoint
  simp [isEdge, hjoint, hscore]

/-- What has an underscore behind it, or two at signs in front, is not reserved. -/
theorem isReserved_of_slips {piece : List Char} (hslips : ['@', '@'] <+: piece ∨ piece.getLast? = some '_') :
    isReserved piece = false := by
  have hchar (reserved : String) (hfirst : reserved.toList[1]? ≠ some '@')
      (hlast : reserved.toList.getLast? ≠ some '_') : reserved.toList ≠ piece.map Char.toLower := by
    intro heq
    rcases hslips with ⟨rest, rfl⟩ | hscore
    · exact hfirst (by rw [heq]; rfl)
    · exact hlast (by rw [heq, List.getLast?_map, hscore]; rfl)
  simp [isReserved, hchar Reserved.channel (by decide) (by decide), hchar Reserved.all (by decide) (by decide),
    hchar Reserved.here (by decide) (by decide)]

theorem bound?_ne_unknown (index : KeywordIndex) (form : List Char) (name : String) :
    bound? index form ≠ some (.unknown name) := by
  simp only [bound?]
  split
  · simp
  · split
    · simp
    · split
      · simp
      · simp

theorem unknown_mem_pieceFindings_iff {index : KeywordIndex} {piece : List Char} {name : String} :
    Finding.unknown name ∈ pieceFindings index piece ↔
      bound? index piece = none ∧ piece.head? = some '@' ∧ isReserved piece = false ∧ nameOf piece = name := by
  unfold pieceFindings
  cases hbound : bound? index piece with
  | some finding =>
    have hne : finding ≠ .unknown name := by
      rintro rfl
      exact bound?_ne_unknown index piece name hbound
    simp [hne.symm]
  | none =>
    by_cases hlisted : piece.head? = some '@' ∧ isReserved piece = false
    · simp [hlisted, eq_comm]
    · have hempty : ¬ (piece.head? = some '@' ∧ isReserved piece = false ∧ nameOf piece = name) :=
        fun h => hlisted ⟨h.1, h.2.1⟩
      simp [hlisted, hempty]

theorem exists_eq_inside_of_mem {index : KeywordIndex} {word : List Char} {finding : Finding}
    (hfinding : finding ∈ insideFindings index word) :
    ∃ users, finding = .inside users := by
  obtain ⟨⟨keyword, users⟩, -, hfound⟩ := List.mem_filterMap.1 hfinding
  obtain ⟨-, hfinding⟩ := Option.ite_none_right_eq_some.1 hfound
  exact ⟨users, (Option.some.inj hfinding).symm⟩

/-- An unresolved word is taken down as it stands if an at sign is in front of it, and else in pieces. -/
theorem unknown_mem_wordFindings_iff {index : KeywordIndex} {word : List Char} {name : String} :
    Finding.unknown name ∈ wordFindings index word ↔ (∀ form ∈ forms word, bound? index form = none) ∧
      (word.head? = some '@' ∧ nameOf word = name ∨
        word.head? ≠ some '@' ∧ ∃ piece ∈ pieces word, bound? index piece = none ∧ piece.head? = some '@' ∧
          isReserved piece = false ∧ nameOf piece = name) := by
  have hinside : Finding.unknown name ∉ insideFindings index word := by
    intro hmem
    obtain ⟨users, hinside⟩ := exists_eq_inside_of_mem hmem
    cases hinside
  rw [wordFindings, List.mem_append, or_iff_left hinside, wholeFindings]
  cases hfound : (forms word).findSome? (bound? index) with
  | some finding =>
    obtain ⟨form, hform, hbound⟩ := List.exists_of_findSome?_eq_some hfound
    have hne : finding ≠ .unknown name := by
      rintro rfl
      exact bound?_ne_unknown index form name hbound
    have hresolved : ¬ ∀ form ∈ forms word, bound? index form = none := fun hunbound => by
      rw [hunbound form hform] at hbound
      cases hbound
    simp [hne.symm, hresolved]
  | none =>
    have hunbound := List.findSome?_eq_none_iff.1 hfound
    rw [and_iff_right hunbound]
    by_cases hat : word.head? = some '@'
    · -- The form without the punctuation behind the word is unbound, so it is not reserved.
      have hreserved : isReserved (Text.trimEndBy isEdge word) = false := by
        obtain ⟨rest, rfl⟩ := List.head?_eq_some_iff.1 hat
        exact Bool.eq_false_iff.2 fun hreserved =>
          bound?_ne_none_of_isReserved index hreserved (hunbound _ (trimEndBy_at_mem_forms rest))
      simp [hat, hreserved, @eq_comm _ name]
    · simp [hat, unknown_mem_pieceFindings_iff]

/-- The names of parts that slip through are taken down. -/
theorem IsMisread.unknown_mem {index : KeywordIndex} {fields : List String} {part : List Char}
    (hmisread : IsMisread index fields part) :
    Finding.unknown (nameOf part) ∈ fields.flatMap (fieldFindings index) := by
  rw [mem_flatMap_fieldFindings_iff]
  cases hmisread with
  | word hword hunbound hdouble =>
    obtain ⟨rest, rfl⟩ := hdouble
    exact ⟨_, hword, unknown_mem_wordFindings_iff.2 ⟨hunbound, .inl ⟨rfl, rfl⟩⟩⟩
  | @piece word _ hword hunbound hbare hpiece hpieceUnbound hstart hslips =>
    refine ⟨word, hword, unknown_mem_wordFindings_iff.2 ⟨hunbound, .inr ⟨hbare, part, hpiece, ?_⟩⟩⟩
    exact ⟨hpieceUnbound, hstart, isReserved_of_slips hslips, rfl⟩

/-- Nothing else is taken down under a name that is reserved or a keyword. -/
theorem exists_isMisread_of_unknown_mem {index : KeywordIndex} {fields : List String} {name : String}
    (hresolves : index.Resolves name) (hunknown : Finding.unknown name ∈ fields.flatMap (fieldFindings index)) :
    ∃ part, IsMisread index fields part ∧ nameOf part = name := by
  obtain ⟨word, hword, hfinding⟩ := mem_flatMap_fieldFindings_iff.1 hunknown
  obtain ⟨hunbound, ⟨hat, rfl⟩ | ⟨hbare, piece, hpiece, hpieceUnbound, hstart, -, rfl⟩⟩ :=
    unknown_mem_wordFindings_iff.1 hfinding
  · obtain ⟨rest, rfl⟩ := List.head?_eq_some_iff.1 hat
    by_cases hdouble : rest.head? = some '@'
    · obtain ⟨after, rfl⟩ := List.head?_eq_some_iff.1 hdouble
      exact ⟨_, .word hword hunbound ⟨after, rfl⟩, rfl⟩
    · -- With a single at sign the form without punctuation would have been bound.
      have hform := hunbound _ (trimEndBy_at_mem_forms rest)
      have hlower := lowercaseChars_trimEndBy hdouble
      exact absurd hresolves (not_resolves_of_bound?_eq_none hform hlower)
  · obtain ⟨rest, rfl⟩ := List.head?_eq_some_iff.1 hstart
    by_cases hslips : ['@', '@'] <+: '@' :: rest ∨ ('@' :: rest).getLast? = some '_'
    · exact ⟨_, .piece hword hunbound hbare hpiece hpieceUnbound hstart hslips, rfl⟩
    · rw [not_or] at hslips
      have hsingle : rest.head? ≠ some '@' := by
        intro hdouble
        obtain ⟨after, rfl⟩ := List.head?_eq_some_iff.1 hdouble
        exact hslips.1 ⟨after, rfl⟩
      have hlower := lowercaseChars_trimEndBy hsingle
      rw [trimEndBy_of_mem_pieces hpiece hslips.2] at hlower
      exact absurd hresolves (not_resolves_of_bound?_eq_none hpieceUnbound hlower)

/-- A name that is reserved or a keyword behind an at sign is listed as a potential mention exactly if it is the
name of a part that slips through, unless it is empty or some token in the texts goes on behind it with a dot. So
texts without such parts list no name that they could have resolved. -/
theorem mem_potential_iff_of_resolves (index : KeywordIndex) (fields : List String) {name : String}
    (hresolves : index.Resolves name) :
    name ∈ (inFields index fields).potential ↔
      name ≠ "" ∧ (∃ part, IsMisread index fields part ∧ nameOf part = name) ∧
        ∀ token ∈ tokens (fields.flatMap (fieldFindings index)), isDottedPrefix name token = false := by
  have hunknown : Finding.unknown name ∈ fields.flatMap (fieldFindings index) ↔
      ∃ part, IsMisread index fields part ∧ nameOf part = name := by
    constructor
    · exact exists_isMisread_of_unknown_mem hresolves
    · rintro ⟨part, hmisread, rfl⟩
      exact hmisread.unknown_mem
  rw [inFields, mem_potential_account_iff, hunknown]

/-- A second at sign in front of a keyword and an underscore behind a reserved word have both names listed. -/
theorem lists_keyword_and_reserved_word :
    let index : KeywordIndex := .ofList [("@user", ⟨2⟩)]
    let fields := ["@@user a.@all_"]
    (inFields index fields).potential = ["user", "all"] ∧ index.Resolves "user" ∧ index.Resolves "all" ∧
      (∃ part, IsMisread index fields part ∧ nameOf part = "user") ∧
      ∃ part, IsMisread index fields part ∧ nameOf part = "all" := by
  intro index fields
  have hlisted : (inFields index fields).potential = ["user", "all"] := by decide +kernel
  have huser : index.Resolves "user" := .inr (by decide)
  have hall : index.Resolves "all" := .inl (by decide)
  have hparts := mem_potential_iff_of_resolves index fields huser
  have hreserved := mem_potential_iff_of_resolves index fields hall
  rw [hlisted] at hparts hreserved
  exact ⟨hlisted, huser, hall, (hparts.1 (by simp)).2.1, (hreserved.1 (by simp)).2.1⟩

end Mention

end ChatNotify
