import ChatNotify.Proofs.Mention.Findings
import ChatNotify.Proofs.Mention.Index

namespace ChatNotify.Mention

/-- The finding with nobody addressed. -/
def Finding.bare : Finding → Finding
  | .channel _ => .channel []
  | .all _ => .all []
  | finding => finding

@[simp] theorem Finding.names_bare (finding : Finding) (user : Id) : finding.bare.names user = finding.names user := by
  cases finding <;> rfl

private theorem lowercaseChars_of_isBucket {form : List Char}
    (hform : KeywordIndex.isBucket (String.ofList form) = true) : Text.lowercaseChars form = form := by
  rw [← String.toList_ofList (l := form)]
  simp only [KeywordIndex.isBucket, Bool.or_eq_true, decide_eq_true_eq] at hform
  rcases hform with (heq | heq) | heq <;>
  · rw [heq]
    decide

private theorem any_beyond_of_isBucket {keyword : String} (hkeyword : KeywordIndex.isBucket keyword = true) :
    keyword.toList.any (128 ≤ ·.val) = false := by
  simp only [KeywordIndex.isBucket, Bool.or_eq_true, decide_eq_true_eq] at hkeyword
  rcases hkeyword with (rfl | rfl) | rfl <;> decide

/-- A form that is no word for the whole channel is looked up under none of these words. -/
theorem bound?_withoutBuckets (index : KeywordIndex) (form : List Char) :
    bound? index.withoutBuckets form = (bound? index form).map Finding.bare := by
  simp only [bound?]
  split
  · rfl
  · next hhere =>
    split
    · rw [index.get?_withoutBuckets_of_isBucket (by decide)]
      rfl
    · next hchannel =>
      split
      · rw [index.get?_withoutBuckets_of_isBucket (by decide)]
        rfl
      · next hall =>
        have hlower : KeywordIndex.isBucket (String.ofList (Text.lowercaseChars form)) = false := by
          simp [KeywordIndex.isBucket, hhere, hchannel, hall]
        have hform : KeywordIndex.isBucket (String.ofList form) = false := by
          refine Bool.eq_false_iff.2 fun hform => ?_
          rw [lowercaseChars_of_isBucket hform, hform] at hlower
          cases hlower
        rw [index.get?_withoutBuckets hlower, index.get?_withoutBuckets hform, Option.map_map]
        rfl

theorem pieceFindings_withoutBuckets (index : KeywordIndex) (piece : List Char) :
    pieceFindings index.withoutBuckets piece = (pieceFindings index piece).map Finding.bare := by
  unfold pieceFindings
  rw [bound?_withoutBuckets]
  cases bound? index piece with
  | some finding => rfl
  | none =>
    simp only [Option.map_none]
    split <;> rfl

theorem wholeFindings_withoutBuckets (index : KeywordIndex) (word : List Char) :
    wholeFindings index.withoutBuckets word = (wholeFindings index word).map Finding.bare := by
  have hbound : (forms word).findSome? (bound? index.withoutBuckets) =
      ((forms word).findSome? (bound? index)).map Finding.bare := by
    rw [List.map_findSome?]
    exact congrArg (List.findSome? · (forms word)) (funext (bound?_withoutBuckets index))
  unfold wholeFindings
  rw [hbound]
  cases (forms word).findSome? (bound? index) with
  | some finding => rfl
  | none =>
    simp only [Option.map_none]
    split
    · rfl
    · rw [List.map_flatMap]
      exact congrArg (List.flatMap · (pieces word)) (funext (pieceFindings_withoutBuckets index))

/-- The words for the whole channel are ASCII, so they are not looked for inside others. -/
theorem insideFindings_withoutBuckets (index : KeywordIndex) (word : List Char) :
    insideFindings index.withoutBuckets word = (insideFindings index word).map Finding.bare := by
  have hentries : index.withoutBuckets.entries =
      index.entries.filter fun entry => !KeywordIndex.isBucket entry.1 := rfl
  rw [insideFindings, insideFindings, hentries, List.filterMap_filter, List.map_filterMap]
  refine congrArg (List.filterMap · index.entries) (funext fun entry => ?_)
  obtain ⟨keyword, users⟩ := entry
  cases hkeyword : KeywordIndex.isBucket keyword with
  | true => simp [any_beyond_of_isBucket hkeyword]
  | false =>
    simp only [Bool.not_false, if_true]
    split <;> rfl

theorem wordFindings_withoutBuckets (index : KeywordIndex) (word : List Char) :
    wordFindings index.withoutBuckets word = (wordFindings index word).map Finding.bare := by
  simp only [wordFindings, wholeFindings_withoutBuckets, insideFindings_withoutBuckets, List.map_append]

theorem fragmentFindings_withoutBuckets (index : KeywordIndex) (fragment : String) :
    fragmentFindings index.withoutBuckets fragment = (fragmentFindings index fragment).map Finding.bare := by
  rw [fragmentFindings, fragmentFindings, List.map_flatMap, funext (wordFindings_withoutBuckets index)]

/-- Without the words for the whole channel in the index the findings are the same, with nobody addressed. -/
theorem fieldFindings_withoutBuckets (index : KeywordIndex) (field : String) :
    fieldFindings index.withoutBuckets field = (fieldFindings index field).map Finding.bare := by
  unfold fieldFindings
  split
  · rfl
  · rw [List.map_flatMap, funext (fragmentFindings_withoutBuckets index)]

/-- Texts have the same findings, but for whom these address, under indexes that are the same but for the
words for the whole channel. -/
theorem map_bare_fieldFindings_congr {index other : KeywordIndex}
    (hsame : index.withoutBuckets = other.withoutBuckets) (fields : List String) :
    (fields.flatMap (fieldFindings index)).map Finding.bare =
      (fields.flatMap (fieldFindings other)).map Finding.bare := by
  simp only [List.map_flatMap, ← fieldFindings_withoutBuckets, hsame]

/-- Whom a text names does not depend on the words for the whole channel. -/
theorem exists_names_congr {findings others : List Finding}
    (hsame : findings.map Finding.bare = others.map Finding.bare) (user : Id) :
    (∃ finding ∈ findings, finding.names user = true) ↔ ∃ finding ∈ others, finding.names user = true := by
  have hbare (findings : List Finding) :
      findings.any (·.names user) = (findings.map Finding.bare).any (·.names user) := by
    simp [List.any_map, Function.comp_def]
  rw [← List.any_eq_true, ← List.any_eq_true, hbare, hsame, ← hbare]

private theorem tokens_map_bare (findings : List Finding) : tokens (findings.map Finding.bare) = tokens findings := by
  unfold tokens
  rw [List.filterMap_map]
  refine congrArg (List.filterMap · findings) (funext fun finding => ?_)
  cases finding <;> rfl

private theorem potential_record_bare {mentions others : Mentions} (hsame : mentions.potential = others.potential)
    (finding : Finding) : (record mentions finding.bare).potential = (record others finding).potential := by
  cases finding with
  | unknown name =>
    simp only [record, Finding.bare, hsame]
    split
    · exact hsame
    · rfl
  | here => exact hsame
  | channel users => simpa [record, Finding.bare] using hsame
  | all users => simpa [record, Finding.bare] using hsame
  | keyword users token => simpa [record, Finding.bare] using hsame
  | inside users => simpa [record, Finding.bare] using hsame

private theorem potential_foldl_record_bare (findings : List Finding) {mentions others : Mentions}
    (hsame : mentions.potential = others.potential) :
    ((findings.map Finding.bare).foldl record mentions).potential = (findings.foldl record others).potential := by
  induction findings generalizing mentions others with
  | nil => exact hsame
  | cons finding rest ih => exact ih (potential_record_bare hsame finding)

/-- Nor do the unknown names in a text. -/
theorem potential_account_congr {findings others : List Finding}
    (hsame : findings.map Finding.bare = others.map Finding.bare) :
    (account findings).potential = (account others).potential := by
  have hbare (findings : List Finding) :
      (account (findings.map Finding.bare)).potential = (account findings).potential := by
    simp only [account, tokens_map_bare, potential_foldl_record_bare findings rfl]
  rw [← hbare, hsame, hbare]

end ChatNotify.Mention
