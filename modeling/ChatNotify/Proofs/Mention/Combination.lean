import ChatNotify.Proofs.Mention.Unresolved
import Mathlib.Data.List.Perm.Basic

namespace ChatNotify

namespace Table

variable {κ α : Type} [DecidableEq κ] {table other : Table κ α} {key : κ}

theorem mem_keys_iff_exists : key ∈ table.keys ↔ ∃ value, table.get? key = some value := by
  rw [← not_iff_not, ← get?_eq_none_iff, Option.eq_none_iff_forall_ne_some, not_exists]

/-- A key that has a value keeps its place. -/
theorem keys_insert_of_mem (hkey : key ∈ table.keys) (value : α) : (table.insert key value).keys = table.keys :=
  (map_fst_put key value table.entries).trans (if_pos hkey)

/-- The keys in their order and the value of each make up the table. -/
theorem eq_of_keys (hkeys : table.keys = other.keys) (hget : ∀ key, table.get? key = other.get? key) :
    table = other := by
  have hentries (table : Table κ α) :
      table.entries = table.keys.filterMap fun key => (table.get? key).map fun value => (key, value) := by
    rw [keys, List.filterMap_map]
    conv_lhs => rw [← List.filterMap_some (l := table.entries)]
    refine List.filterMap_congr fun entry hentry => ?_
    simp [get?_eq_some_iff.2 hentry]
  have hsame : table.entries = other.entries := by rw [hentries table, hentries other, hkeys, funext hget]
  cases table
  cases hsame
  rfl

end Table

namespace Mentions

variable {mentions : Mentions} {user : Id}

/-- Who is mentioned keeps the place. -/
theorem keys_add_of_mem (huser : user ∈ mentions.kinds.keys) (kind : MentionKind) :
    (mentions.add user kind).kinds.keys = mentions.kinds.keys := by
  unfold add
  split
  · rfl
  · exact Table.keys_insert_of_mem huser kind

theorem keys_addAll_of_mem {users : List Id} (husers : ∀ user ∈ users, user ∈ mentions.kinds.keys)
    (kind : MentionKind) : (mentions.addAll users kind).kinds.keys = mentions.kinds.keys := by
  induction users generalizing mentions with
  | nil => rfl
  | cons user rest ih =>
    obtain ⟨huser, hrest⟩ := List.forall_mem_cons.1 husers
    have hkeys := keys_add_of_mem huser kind
    change ((mentions.add user kind).addAll rest kind).kinds.keys = _
    rw [ih (hkeys ▸ hrest), hkeys]

theorem eq_of_parts {other : Mentions} (hkinds : mentions.kinds = other.kinds)
    (hchannel : mentions.channel = other.channel) (hall : mentions.all = other.all) (hhere : mentions.here = other.here)
    (hpotential : mentions.potential = other.potential) : mentions = other := by
  cases mentions
  cases other
  rw [mk.injEq]
  exact ⟨hkinds, hchannel, hall, hhere, hpotential⟩

end Mentions

namespace Mention

variable {index : KeywordIndex}

/-- A finding of those who are mentioned already adds nobody. -/
theorem keys_record_of_mem {mentions : Mentions} {finding : Finding}
    (hknown : ∀ user, finding.names user = true ∨ finding.addresses user = true → user ∈ mentions.kinds.keys) :
    (record mentions finding).kinds.keys = mentions.kinds.keys := by
  cases finding with
  | here => rfl
  | channel users =>
    have husers : ∀ user ∈ users, user ∈ ({ mentions with channel := true } : Mentions).kinds.keys :=
      fun user huser => hknown user (.inr (by simpa [Finding.addresses] using huser))
    exact Mentions.keys_addAll_of_mem husers .channel
  | all users =>
    have husers : ∀ user ∈ users, user ∈ ({ mentions with all := true } : Mentions).kinds.keys :=
      fun user huser => hknown user (.inr (by simpa [Finding.addresses] using huser))
    exact Mentions.keys_addAll_of_mem husers .channel
  | keyword users token =>
    exact Mentions.keys_addAll_of_mem (fun user huser => hknown user (.inl (by simpa [Finding.names] using huser)))
      .keyword
  | inside users =>
    exact Mentions.keys_addAll_of_mem (fun user huser => hknown user (.inl (by simpa [Finding.names] using huser)))
      .keyword
  | unknown name =>
    simp only [record]
    split <;> rfl

theorem keys_foldl_record_of_mem {findings : List Finding} {mentions : Mentions}
    (hknown : ∀ finding ∈ findings, ∀ user, finding.names user = true ∨ finding.addresses user = true →
      user ∈ mentions.kinds.keys) : (findings.foldl record mentions).kinds.keys = mentions.kinds.keys := by
  induction findings generalizing mentions with
  | nil => rfl
  | cons finding rest ih =>
    obtain ⟨hfinding, hrest⟩ := List.forall_mem_cons.1 hknown
    have hkeys := keys_record_of_mem hfinding
    rw [List.foldl_cons, ih (hkeys ▸ hrest), hkeys]

/-- Whoever is found in the same findings once more is mentioned already, and the same finding comes last. -/
theorem kinds_account_append_self (findings : List Finding) :
    (account (findings ++ findings)).kinds = (account findings).kinds := by
  change ((findings ++ findings).foldl record {}).kinds = (findings.foldl record {}).kinds
  rw [List.foldl_append]
  refine Table.eq_of_keys (keys_foldl_record_of_mem fun finding hfinding user hfound => ?_) fun user => ?_
  · exact Table.mem_keys_iff_exists.2 (exists_kind?_account_iff.2 ⟨finding, hfinding, hfound⟩)
  · exact (kind?_foldl_record findings _ user).trans Option.or_self

theorem flags_account (findings : List Finding) :
    (account findings).channel = findings.any (fun finding => (record {} finding).channel) ∧
      (account findings).all = findings.any (fun finding => (record {} finding).all) ∧
      (account findings).here = findings.any fun finding => (record {} finding).here := by
  obtain ⟨hchannel, hall, hhere⟩ := flags_foldl_record findings {}
  exact ⟨hchannel.trans (Bool.false_or _), hall.trans (Bool.false_or _), hhere.trans (Bool.false_or _)⟩

theorem kind?_inFields_append (first second : List String) (user : Id) :
    (inFields index (first ++ second)).kind? user =
      ((inFields index second).kind? user).or ((inFields index first).kind? user) := by
  rw [inFields, List.flatMap_append, kind?_account, List.foldl_append, kind?_foldl_record]
  rfl

theorem flags_inFields_append (first second : List String) :
    (inFields index (first ++ second)).channel = ((inFields index first).channel || (inFields index second).channel) ∧
      (inFields index (first ++ second)).all = ((inFields index first).all || (inFields index second).all) ∧
      (inFields index (first ++ second)).here = ((inFields index first).here || (inFields index second).here) := by
  simp only [inFields, flags_account, List.flatMap_append, List.any_append, and_self]

theorem namesIn_append (index : KeywordIndex) (first second : List String) :
    namesIn index (first ++ second) = namesIn index first ++ namesIn index second := by
  simp [namesIn, wordsIn]

theorem tokensIn_append (index : KeywordIndex) (first second : List String) :
    tokensIn index (first ++ second) = tokensIn index first ++ tokensIn index second := by
  simp [tokensIn, wordsIn]

theorem mem_potential_append_iff {first second : List String} {name : String} :
    name ∈ (inFields index (first ++ second)).potential ↔
      name ≠ "" ∧ (name ∈ namesIn index first ∨ name ∈ namesIn index second) ∧
        (∀ token ∈ tokensIn index first, isDottedPrefix name token = false) ∧
          ∀ token ∈ tokensIn index second, isDottedPrefix name token = false := by
  rw [mem_potential_iff, namesIn_append, tokensIn_append, List.mem_append, List.forall_mem_append]

theorem mem_or_mem_of_mem_potential_append {first second : List String} {name : String}
    (hname : name ∈ (inFields index (first ++ second)).potential) :
    name ∈ (inFields index first).potential ∨ name ∈ (inFields index second).potential := by
  obtain ⟨hne, hlisted, hfirst, hsecond⟩ := mem_potential_append_iff.1 hname
  exact hlisted.imp (fun hlisted => mem_potential_iff.2 ⟨hne, hlisted, hfirst⟩)
    fun hlisted => mem_potential_iff.2 ⟨hne, hlisted, hsecond⟩

/-- A name that is not listed any more goes on behind a dot in a keyword of the other texts. -/
theorem exists_token_of_not_mem_potential {fields whole others : List String} {name : String}
    (hname : name ∈ (inFields index fields).potential) (hmissing : name ∉ (inFields index whole).potential)
    (hnames : ∀ name ∈ namesIn index fields, name ∈ namesIn index whole)
    (htokens : ∀ token ∈ tokensIn index whole, token ∈ tokensIn index fields ∨ token ∈ tokensIn index others) :
    ∃ token ∈ tokensIn index others, isDottedPrefix name token = true := by
  obtain ⟨hne, hlisted, hfields⟩ := mem_potential_iff.1 hname
  refine Classical.byContradiction fun hnone => hmissing (mem_potential_iff.2 ⟨hne, hnames name hlisted, ?_⟩)
  intro token htoken
  rcases htokens token htoken with hsame | hother
  · exact hfields token hsame
  · exact Bool.eq_false_iff.2 fun hdotted => hnone ⟨token, hother, hdotted⟩

section

variable {fields others : List String}

theorem exists_kind?_inFields_perm (hperm : fields.Perm others) {user : Id} :
    (∃ kind, (inFields index others).kind? user = some kind) ↔
      ∃ kind, (inFields index fields).kind? user = some kind := by
  have hfindings := hperm.flatMap_right (fieldFindings index)
  simp only [inFields, exists_kind?_account_iff, hfindings.mem_iff]

theorem flags_inFields_perm (hperm : fields.Perm others) :
    (inFields index others).channel = (inFields index fields).channel ∧
      (inFields index others).all = (inFields index fields).all ∧
      (inFields index others).here = (inFields index fields).here := by
  have hfindings := hperm.flatMap_right (fieldFindings index)
  simp only [inFields, flags_account, hfindings.any_eq, and_self]

theorem mem_potential_perm (hperm : fields.Perm others) {name : String} :
    name ∈ (inFields index others).potential ↔ name ∈ (inFields index fields).potential := by
  have hfindings := hperm.flatMap_right (fieldFindings index)
  have htokens := hfindings.filterMap Finding.token?
  simp only [inFields, mem_potential_account_iff, tokens_eq_filterMap, hfindings.mem_iff, htokens.mem_iff]

end

theorem eraseDups_append_self (names : List String) : (names ++ names).eraseDups = names.eraseDups := by
  have hagain : names.removeAll names = [] := by simp [List.removeAll]
  rw [List.eraseDups_append, hagain, List.eraseDups_nil, List.append_nil]

theorem potential_append_self (index : KeywordIndex) (fields : List String) :
    (inFields index (fields ++ fields)).potential = (inFields index fields).potential := by
  rw [potential_eq, potential_eq, namesIn_append, tokensIn_append, List.filter_append, eraseDups_append_self]
  simp only [List.forall_mem_append, and_self]

theorem inFields_append_self (index : KeywordIndex) (fields : List String) :
    inFields index (fields ++ fields) = inFields index fields := by
  obtain ⟨hchannel, hall, hhere⟩ := flags_inFields_append fields fields
  refine Mentions.eq_of_parts ?_ (hchannel.trans (Bool.or_self _)) (hall.trans (Bool.or_self _))
    (hhere.trans (Bool.or_self _)) (potential_append_self index fields)
  rw [inFields, List.flatMap_append, kinds_account_append_self]
  rfl

/-- The mentions of texts one after the other are those of both: a user has the kind that the later texts give, or
else that of the earlier ones, and a flag is up that is up for either. Potential mentions come from either too, and
only a keyword that goes on behind them in the other texts takes them away. So the order of texts matters only to the
kinds and to the order of the names, and texts that are there twice amount to the same as once. -/
theorem inFields_append (index : KeywordIndex) (first second : List String) :
    (∀ user, (inFields index (first ++ second)).kind? user =
      ((inFields index second).kind? user).or ((inFields index first).kind? user)) ∧
    ((inFields index (first ++ second)).channel = ((inFields index first).channel || (inFields index second).channel) ∧
      (inFields index (first ++ second)).all = ((inFields index first).all || (inFields index second).all) ∧
      (inFields index (first ++ second)).here = ((inFields index first).here || (inFields index second).here)) ∧
    (∀ name ∈ (inFields index (first ++ second)).potential,
      name ∈ (inFields index first).potential ∨ name ∈ (inFields index second).potential) ∧
    (∀ name ∈ (inFields index first).potential, name ∉ (inFields index (first ++ second)).potential →
      ∃ token ∈ tokensIn index second, isDottedPrefix name token = true) ∧
    (∀ name ∈ (inFields index second).potential, name ∉ (inFields index (first ++ second)).potential →
      ∃ token ∈ tokensIn index first, isDottedPrefix name token = true) ∧
    (∀ other, first.Perm other →
      (∀ user, (∃ kind, (inFields index other).kind? user = some kind) ↔
        ∃ kind, (inFields index first).kind? user = some kind) ∧
      ((inFields index other).channel = (inFields index first).channel ∧
        (inFields index other).all = (inFields index first).all ∧
        (inFields index other).here = (inFields index first).here) ∧
      ∀ name, name ∈ (inFields index other).potential ↔ name ∈ (inFields index first).potential) ∧
    inFields index (first ++ first) = inFields index first := by
  refine ⟨kind?_inFields_append first second, flags_inFields_append first second,
    fun name => mem_or_mem_of_mem_potential_append, fun name hname hmissing => ?_, fun name hname hmissing => ?_,
    fun other hperm => ⟨fun user => exists_kind?_inFields_perm hperm, flags_inFields_perm hperm,
      fun name => mem_potential_perm hperm⟩, inFields_append_self index first⟩
  · refine exists_token_of_not_mem_potential hname hmissing ?_ ?_
    · exact fun name hlisted => namesIn_append index first second ▸ List.mem_append_left _ hlisted
    · exact fun token htoken => List.mem_append.1 (tokensIn_append index first second ▸ htoken)
  · refine exists_token_of_not_mem_potential hname hmissing ?_ ?_
    · exact fun name hlisted => namesIn_append index first second ▸ List.mem_append_right _ hlisted
    · exact fun token htoken => (List.mem_append.1 (tokensIn_append index first second ▸ htoken)).symm

/-- A keyword takes a name away from other texts, in front of it or behind it. -/
example :
    let index : KeywordIndex := .ofList [("@anna.k", ⟨2⟩)]
    (inFields index ["@anna"]).potential = ["anna"] ∧ (inFields index ["@anna", "@anna.k"]).potential = [] ∧
      (inFields index ["@anna.k", "@anna"]).potential = [] := by
  decide +kernel

end Mention

end ChatNotify
