import ChatNotify.Proofs.Markup.Place

namespace ChatNotify.Markup.Node

/-- The node is a text. -/
def IsText (node : Node) : Prop :=
  ∃ literal, node = .text literal

/-- Both are children of one branch, the first in front of the second, with nothing but texts between them. -/
inductive Adjoin (node : Node) : Place → Place → Prop
  | intro {path : Path} {kind : Branch} {before between after : List Node} {first second : String}
      (hparent : node.at? path =
        some (.branch kind (before ++ .text first :: (between ++ .text second :: after))))
      (hbetween : ∀ sibling ∈ between, sibling.IsText) :
      Adjoin node ⟨path ++ [before.length], first⟩ ⟨path ++ [before.length + between.length + 1], second⟩

/-- The text is the first of a list of pieces, or only texts stand in front of it. -/
inductive Heads (place : Place) : List (Option Place) → Prop
  | here (rest : List (Option Place)) : Heads place (some place :: rest)
  | there {rest : List (Option Place)} (first : Place) (hrest : Heads place rest) : Heads place (some first :: rest)

/-- Only texts stand between the two, of which the first comes first. -/
inductive Together (first second : Place) : List (Option Place) → Prop
  | here {rest : List (Option Place)} (hrest : Heads second rest) : Together first second (some first :: rest)
  | there {rest : List (Option Place)} (piece : Option Place) (hrest : Together first second rest) :
      Together first second (piece :: rest)

variable {first second place : Place} {pieces rest : List (Option Place)}

theorem not_heads_nil : ¬ Heads place [] := nofun

theorem not_heads_none : ¬ Heads place (none :: rest) := nofun

theorem heads_some_iff {other : Place} : Heads place (some other :: rest) ↔ place = other ∨ Heads place rest := by
  constructor
  · intro hheads
    cases hheads with
    | here => exact .inl rfl
    | there _ hrest => exact .inr hrest
  · rintro (rfl | hrest)
    · exact .here rest
    · exact .there other hrest

theorem not_together_nil : ¬ Together first second [] := nofun

theorem together_none_iff : Together first second (none :: rest) ↔ Together first second rest := by
  constructor
  · intro htogether
    cases htogether with
    | there _ hrest => exact hrest
  · exact .there none

theorem together_some_iff {other : Place} : Together first second (some other :: rest) ↔
    first = other ∧ Heads second rest ∨ Together first second rest := by
  constructor
  · intro htogether
    cases htogether with
    | here hrest => exact .inl ⟨rfl, hrest⟩
    | there _ hrest => exact .inr hrest
  · rintro (⟨rfl, hrest⟩ | hrest)
    · exact .here hrest
    · exact .there _ hrest

theorem heads_append_none_iff : Heads place (pieces ++ none :: rest) ↔ Heads place pieces := by
  induction pieces with
  | nil => simp [not_heads_nil, not_heads_none]
  | cons piece pieces ih =>
    cases piece with
    | none => simp [not_heads_none]
    | some other => rw [List.cons_append, heads_some_iff, heads_some_iff, ih]

/-- No texts on different sides of an edge stand together. -/
theorem together_append_none_iff : Together first second (pieces ++ none :: rest) ↔
    Together first second pieces ∨ Together first second rest := by
  induction pieces with
  | nil => simp [not_together_nil, together_none_iff]
  | cons piece pieces ih =>
    cases piece with
    | none => rw [List.cons_append, together_none_iff, together_none_iff, ih]
    | some other =>
      rw [List.cons_append, together_some_iff, together_some_iff, heads_append_none_iff, ih, or_assoc]

/-- Among nodes that are the children from the number on, the text has nothing but texts in front of it. -/
def LeadsFrom (path : Path) (i : Nat) (children : List Node) (place : Place) : Prop :=
  ∃ between literal after, children = between ++ .text literal :: after ∧ (∀ sibling ∈ between, sibling.IsText) ∧
    place = ⟨path ++ [i + between.length], literal⟩

/-- Among nodes that are the children from the number on, the second text stands behind the first with nothing but
texts between them. -/
def AdjoinFrom (path : Path) (i : Nat) (children : List Node) (first second : Place) : Prop :=
  ∃ before literal rest, children = before ++ .text literal :: rest ∧
    first = ⟨path ++ [i + before.length], literal⟩ ∧ LeadsFrom path (i + before.length + 1) rest second

section

variable {path : Path} {i : Nat} {node : Node} {children : List Node}

theorem leadsFrom_cons_iff : LeadsFrom path i (node :: children) place ↔
    ∃ literal, node = .text literal ∧ (place = ⟨path ++ [i], literal⟩ ∨ LeadsFrom path (i + 1) children place) := by
  constructor
  · rintro ⟨between, literal, after, hchildren, hbetween, rfl⟩
    cases between with
    | nil =>
      obtain ⟨rfl, -⟩ := List.cons.inj hchildren
      exact ⟨literal, rfl, .inl rfl⟩
    | cons sibling between =>
      obtain ⟨rfl, rfl⟩ := List.cons.inj hchildren
      obtain ⟨⟨front, rfl⟩, hrest⟩ := List.forall_mem_cons.1 hbetween
      refine ⟨front, rfl, .inr ⟨between, literal, after, rfl, hrest, ?_⟩⟩
      simp [Nat.add_assoc, Nat.add_comm 1]
  · rintro ⟨literal, rfl, rfl | ⟨between, later, after, rfl, hbetween, rfl⟩⟩
    · exact ⟨[], literal, children, rfl, List.forall_mem_nil _, rfl⟩
    · refine ⟨.text literal :: between, later, after, rfl, List.forall_mem_cons.2 ⟨⟨literal, rfl⟩, hbetween⟩, ?_⟩
      simp [Nat.add_assoc, Nat.add_comm 1]

theorem adjoinFrom_cons_iff : AdjoinFrom path i (node :: children) first second ↔
    (∃ literal, node = .text literal ∧ first = ⟨path ++ [i], literal⟩ ∧ LeadsFrom path (i + 1) children second) ∨
      AdjoinFrom path (i + 1) children first second := by
  constructor
  · rintro ⟨before, literal, rest, hchildren, rfl, hleads⟩
    cases before with
    | nil =>
      obtain ⟨rfl, rfl⟩ := List.cons.inj hchildren
      exact .inl ⟨literal, rfl, rfl, hleads⟩
    | cons sibling before =>
      obtain ⟨-, rfl⟩ := List.cons.inj hchildren
      rw [List.length_cons, Nat.add_comm before.length, ← Nat.add_assoc] at hleads ⊢
      exact .inr ⟨before, literal, rest, rfl, rfl, hleads⟩
  · rintro (⟨literal, rfl, rfl, hleads⟩ | ⟨before, literal, rest, rfl, rfl, hleads⟩)
    · exact ⟨[], literal, children, rfl, rfl, hleads⟩
    · refine ⟨node :: before, literal, rest, rfl, ?_, ?_⟩
      · rw [List.length_cons, Nat.add_comm before.length, ← Nat.add_assoc]
      · rwa [List.length_cons, Nat.add_comm before.length, ← Nat.add_assoc]

/-- Around all nodes but texts there are edges. -/
theorem exists_placed_of_not_isText (hnode : ¬ node.IsText) (path : Path) :
    (∃ rest, node.placed path = none :: rest) ∧ ∃ front, node.placed path = front ++ [none] := by
  cases node with
  | text literal => exact absurd ⟨literal, rfl⟩ hnode
  | verbatim kind literal => exact ⟨⟨[], by simp [placed]⟩, [], by simp [placed]⟩
  | branch kind children => exact ⟨⟨_, by rw [placed]; rfl⟩, _, by rw [placed]⟩

theorem heads_placedFrom_iff : Heads place (placedFrom path i children) ↔ LeadsFrom path i children place := by
  induction children generalizing i with
  | nil =>
    rw [placedFrom]
    exact iff_of_false not_heads_nil (by rintro ⟨between, literal, after, hnil, -⟩; simp at hnil)
  | cons child rest ih =>
    rw [placedFrom, leadsFrom_cons_iff, ← ih]
    by_cases hchild : child.IsText
    · obtain ⟨literal, rfl⟩ := hchild
      simp [placed, heads_some_iff]
    · obtain ⟨⟨inner, hplaced⟩, -⟩ := exists_placed_of_not_isText hchild (path ++ [i])
      rw [hplaced]
      refine iff_of_false not_heads_none ?_
      rintro ⟨literal, htext, -⟩
      exact hchild ⟨literal, htext⟩

/-- Texts stand together among the children of a branch, or both below one of them. -/
theorem together_placedFrom_iff : Together first second (placedFrom path i children) ↔
    AdjoinFrom path i children first second ∨ ∃ (j : Nat) (child : Node), children[j]? = some child ∧
      Together first second (child.placed (path ++ [i + j])) := by
  induction children generalizing i with
  | nil =>
    rw [placedFrom]
    refine iff_of_false not_together_nil ?_
    rintro (⟨before, literal, rest, hnil, -⟩ | ⟨j, child, hnone, -⟩)
    · simp at hnil
    · simp at hnone
  | cons child rest ih =>
    rw [exists_getElem?_cons_iff, placedFrom, adjoinFrom_cons_iff]
    simp only [Nat.add_zero]
    by_cases hchild : child.IsText
    · obtain ⟨literal, rfl⟩ := hchild
      have halone : ¬ Together first second ((Node.text literal).placed (path ++ [i])) := by
        rw [placed, together_some_iff]
        rintro (⟨-, hheads⟩ | htogether)
        · exact not_heads_nil hheads
        · exact not_together_nil htogether
      simp only [halone, false_or]
      simp only [placed, List.singleton_append, together_some_iff, heads_placedFrom_iff, ih]
      simp [or_assoc, Nat.add_assoc, Nat.add_comm 1]
    · obtain ⟨-, front, hplaced⟩ := exists_placed_of_not_isText hchild (path ++ [i])
      have hnot : ¬ ∃ literal, child = .text literal ∧ first = ⟨path ++ [i], literal⟩ ∧
          LeadsFrom path (i + 1) rest second := by
        rintro ⟨literal, htext, -⟩
        exact hchild ⟨literal, htext⟩
      rw [hplaced, List.append_assoc, List.singleton_append, together_append_none_iff, together_append_none_iff, ih]
      simp only [hnot, not_together_nil, false_or, or_false, Nat.add_assoc, Nat.add_comm 1]
      exact or_left_comm

theorem Adjoin.exists_parent (hadjoin : node.Adjoin first second) :
    ∃ path kind children, node.at? path = some (.branch kind children) := by
  cases hadjoin with
  | intro hparent => exact ⟨_, _, _, hparent⟩

/-- Where the texts of a branch stand that adjoin each other. -/
theorem adjoin_branch_iff {kind : Branch} {base : Path} :
    (∃ upper lower : Place, (Node.branch kind children).Adjoin upper lower ∧ first = upper.under base ∧
        second = lower.under base) ↔
      AdjoinFrom base 0 children first second ∨ ∃ (i : Nat) (child : Node), children[i]? = some child ∧
        ∃ upper lower : Place, child.Adjoin upper lower ∧ first = upper.under (base ++ [i]) ∧
          second = lower.under (base ++ [i]) := by
  constructor
  · rintro ⟨upper, lower, @⟨path, other, before, between, after, upper, lower, hparent, hbetween⟩, rfl, rfl⟩
    cases path with
    | nil =>
      cases hparent
      refine .inl ⟨before, upper, _, rfl, ?_, between, lower, after, rfl, hbetween, ?_⟩
      · simp [Place.under]
      · simp [Place.under, Nat.add_right_comm]
    | cons i path =>
      obtain ⟨child, hchild, hparent⟩ := Option.bind_eq_some_iff.1 hparent
      refine .inr ⟨i, child, hchild, _, _, .intro hparent hbetween, ?_, ?_⟩
      · simp [Place.under]
      · simp [Place.under]
  · rintro (⟨before, upper, rest, rfl, rfl, between, lower, after, rfl, hbetween, rfl⟩ |
      ⟨i, child, hchild, upper, lower, hadjoin, rfl, rfl⟩)
    · have hroot (children : List Node) : (Node.branch kind children).at? [] = some (.branch kind children) := rfl
      refine ⟨_, _, .intro (hroot _) hbetween, ?_, ?_⟩
      · simp [Place.under]
      · simp [Place.under, Nat.add_right_comm]
    · cases hadjoin with
      | @intro path other before between after upper lower hparent hbetween =>
        have hbelow : (Node.branch kind children).at? (i :: path) =
            some (.branch other (before ++ .text upper :: (between ++ .text lower :: after))) := by
          simpa [at?, hchild] using hparent
        refine ⟨_, _, .intro hbelow hbetween, ?_, ?_⟩
        · simp [Place.under]
        · simp [Place.under]

/-- Nothing but texts stands between two texts exactly if they are siblings with nothing but texts between them. -/
theorem together_placed_iff {base : Path} : Together first second (node.placed base) ↔
    ∃ upper lower : Place, node.Adjoin upper lower ∧ first = upper.under base ∧ second = lower.under base := by
  induction node generalizing base with
  | text literal =>
    rw [placed, together_some_iff]
    refine iff_of_false ?_ ?_
    · rintro (⟨-, hheads⟩ | htogether)
      · exact not_heads_nil hheads
      · exact not_together_nil htogether
    · rintro ⟨upper, lower, hadjoin, -⟩
      obtain ⟨path, kind, children, hparent⟩ := hadjoin.exists_parent
      cases path <;> cases hparent
  | verbatim kind literal =>
    rw [placed, together_none_iff]
    refine iff_of_false not_together_nil ?_
    rintro ⟨upper, lower, hadjoin, -⟩
    obtain ⟨path, kind, children, hparent⟩ := hadjoin.exists_parent
    cases path <;> cases hparent
  | branch kind children ih =>
    rw [adjoin_branch_iff, placed, List.cons_append, together_none_iff, together_append_none_iff,
      or_iff_left not_together_nil, together_placedFrom_iff]
    refine or_congr_right (exists_congr fun i => exists_congr fun child => and_congr_right fun hchild => ?_)
    rw [Nat.zero_add]
    exact ih child (List.mem_of_getElem? hchild)

end

end ChatNotify.Markup.Node
