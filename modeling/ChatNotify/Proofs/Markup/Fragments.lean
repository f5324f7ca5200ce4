import ChatNotify.Proofs.Markup.Sibling

namespace ChatNotify.Markup.Node

variable {first second : Place} {pieces : List (Option Place)}

/-- The run collected so far, unless it is empty. -/
def closed (run : List Place) : List (List Place) :=
  if run = [] then [] else [run]

/-- The texts between two edges that are not empty, where `run` holds those since the last edge. -/
def groupRuns (run : List Place) : List (Option Place) → List (List Place)
  | [] => closed run
  | none :: rest => closed run ++ groupRuns [] rest
  | some place :: rest => groupRuns (if place.literal = "" then run else run ++ [place]) rest

section

variable {run : List Place}

private theorem forall_literal_ne_push (hrun : ∀ place ∈ run, place.literal ≠ "") (place : Place) :
    ∀ other ∈ (if place.literal = "" then run else run ++ [place]), other.literal ≠ "" := by
  split
  · exact hrun
  · next hplace => exact List.forall_mem_append.2 ⟨hrun, by simpa using hplace⟩

private theorem joined_push (place : Place) :
    Place.joined (if place.literal = "" then run else run ++ [place]) = Place.joined run ++ place.literal := by
  split
  · next hplace => simp [hplace]
  · simp [Place.joined, String.join_append]

theorem map_joined_closed (hrun : ∀ place ∈ run, place.literal ≠ "") :
    (closed run).map Place.joined = Node.run (Place.joined run) := by
  unfold closed Node.run
  simp only [Place.joined_eq_empty_iff hrun]
  split <;> rfl

/-- The fragments are what the runs say. -/
theorem joinRuns_eq_map_groupRuns (hrun : ∀ place ∈ run, place.literal ≠ "") :
    joinRuns (Place.joined run) (pieces.map (Option.map Place.literal)) = (groupRuns run pieces).map Place.joined := by
  induction pieces generalizing run with
  | nil => exact (map_joined_closed hrun).symm
  | cons piece rest ih =>
    cases piece with
    | none =>
      have hempty : joinRuns "" (rest.map (Option.map Place.literal)) = (groupRuns [] rest).map Place.joined :=
        ih (List.forall_mem_nil _)
      simp only [List.map_cons, Option.map_none, joinRuns, groupRuns, List.map_append, map_joined_closed hrun, ← hempty]
    | some place =>
      simp only [List.map_cons, Option.map_some, joinRuns, groupRuns, ← ih (forall_literal_ne_push hrun place),
        joined_push]

theorem ne_nil_of_mem_closed {group : List Place} (hgroup : group ∈ closed run) : group ≠ [] := by
  unfold closed at hgroup
  split at hgroup
  · cases hgroup
  · next hrun =>
    obtain rfl := List.mem_singleton.1 hgroup
    exact hrun

theorem ne_nil_of_mem_groupRuns {group : List Place} (hgroup : group ∈ groupRuns run pieces) : group ≠ [] := by
  induction pieces generalizing run with
  | nil => exact ne_nil_of_mem_closed hgroup
  | cons piece rest ih =>
    cases piece with
    | none =>
      rcases List.mem_append.1 hgroup with hclosed | hrest
      · exact ne_nil_of_mem_closed hclosed
      · exact ih hrest
    | some place => exact ih hgroup

theorem flatten_closed : (closed run).flatten = run := by
  unfold closed
  split
  · next hrun => simp [hrun]
  · simp

/-- No text that is not empty is lost or moved, and none comes in twice. -/
theorem flatten_groupRuns :
    (groupRuns run pieces).flatten = run ++ pieces.reduceOption.filter fun place => place.literal ≠ "" := by
  induction pieces generalizing run with
  | nil => simp [groupRuns, flatten_closed]
  | cons piece rest ih =>
    cases piece with
    | none => simp [groupRuns, flatten_closed, ih]
    | some place =>
      rw [groupRuns, ih]
      split
      · next hplace => simp [hplace]
      · next hplace => simp [hplace]

theorem exists_mem_closed_iff {P : List Place → Prop} (hnil : ¬ P []) : (∃ group ∈ closed run, P group) ↔ P run := by
  unfold closed
  split
  · next hrun => simp [hrun, hnil]
  · simp

private theorem pair_sublist_concat_iff {α : Type} {a b c : α} {l : List α} :
    [a, b].Sublist (l ++ [c]) ↔ [a, b].Sublist l ∨ a ∈ l ∧ b = c := by
  constructor
  · intro hsub
    obtain ⟨init, last, heq, hinit, hlast⟩ := List.sublist_append_iff.1 hsub
    rcases List.sublist_singleton.1 hlast with rfl | rfl
    · rw [List.append_nil] at heq
      exact .inl (heq ▸ hinit)
    · have hsplit : [a] ++ [b] = init ++ [c] := heq
      obtain ⟨rfl, hbc⟩ := List.append_inj' hsplit rfl
      exact .inr ⟨List.singleton_sublist.1 hinit, by simpa using hbc⟩
  · rintro (hsub | ⟨hmem, rfl⟩)
    · exact hsub.trans (List.sublist_append_left l [c])
    · exact (List.singleton_sublist.2 hmem).append (List.Sublist.refl [b])

/-- Two texts come into one run exactly if nothing but texts stands between them. -/
theorem exists_group_iff (hfirst : first.literal ≠ "") (hsecond : second.literal ≠ "") :
    (∃ group ∈ groupRuns run pieces, [first, second].Sublist group) ↔
      [first, second].Sublist run ∨ first ∈ run ∧ Heads second pieces ∨ Together first second pieces := by
  induction pieces generalizing run with
  | nil =>
    rw [groupRuns, exists_mem_closed_iff (by simp)]
    simp [not_heads_nil, not_together_nil]
  | cons piece rest ih =>
    cases piece with
    | none =>
      have hsplit : (∃ group ∈ groupRuns run (none :: rest), [first, second].Sublist group) ↔
          (∃ group ∈ closed run, [first, second].Sublist group) ∨
            ∃ group ∈ groupRuns [] rest, [first, second].Sublist group := by
        simp [groupRuns, or_and_right, exists_or]
      rw [hsplit, exists_mem_closed_iff (by simp), ih, together_none_iff]
      simp [not_heads_none]
    | some place =>
      rw [groupRuns, ih, heads_some_iff, together_some_iff]
      by_cases hplace : place.literal = ""
      · -- An empty text is neither of the two.
        have hother : first ≠ place ∧ second ≠ place := by
          constructor
          · rintro rfl
            exact hfirst hplace
          · rintro rfl
            exact hsecond hplace
        simp [hplace, hother]
      · rw [if_neg hplace, pair_sublist_concat_iff, List.mem_append, List.mem_singleton]
        tauto

end

theorem fragments_eq_map_groupRuns (node : Node) :
    node.fragments = (groupRuns [] (node.placed [])).map Place.joined := by
  rw [← joinRuns_eq_map_groupRuns (List.forall_mem_nil _), ← pieces_eq_map_placed]
  rfl

theorem joined_flatten (groups : List (List Place)) :
    Place.joined groups.flatten = String.join (groups.map Place.joined) := by
  induction groups with
  | nil => rfl
  | cons group rest ih =>
    rw [List.map_cons, String.join_cons, ← ih, List.flatten_cons]
    simp [Place.joined, String.join_append]

theorem joined_filter (places : List Place) :
    Place.joined (places.filter fun place => place.literal ≠ "") = Place.joined places := by
  induction places with
  | nil => rfl
  | cons place rest ih =>
    by_cases hplace : place.literal = ""
    · simpa [Place.joined, hplace] using ih
    · simpa [Place.joined, hplace] using ih

mutual

/-- The tree with its shape and its texts alone. -/
def bare : Node → Node
  | .text literal => .text literal
  | .verbatim _ _ => .verbatim .code ""
  | .branch _ children => .branch .document (bareAll children)

/-- The trees with their shapes and their texts alone. -/
def bareAll : List Node → List Node
  | [] => []
  | node :: rest => node.bare :: bareAll rest

end

theorem pieces_bare (node : Node) : node.bare.pieces = node.pieces := by
  induction node with
  | text literal => simp [bare]
  | verbatim kind literal => simp [bare, pieces]
  | branch kind children ih =>
    have hchildren : piecesOf (bareAll children) = piecesOf children := by
      induction children with
      | nil => simp [bareAll]
      | cons child rest ihrest =>
        obtain ⟨hchild, hrest⟩ := List.forall_mem_cons.1 ih
        simp [bareAll, piecesOf, hchild, ihrest hrest]
    simp [bare, pieces, hchildren]

/-- The runs of plain text are what the texts of the tree say that stand together. They hold every text that is not
empty once and in the order of the document, with those in one run that are siblings with nothing but texts between
them, and nothing else of the tree matters. -/
theorem fragments_are_sibling_texts (node : Node) :
    ((∀ place, place ∈ node.texts ↔ node.at? place.path = some (.text place.literal)) ∧
      node.texts.Pairwise fun first second => first.path < second.path) ∧
    (∃ groups : List (List Place), node.fragments = groups.map Place.joined ∧
      (groups.flatten = node.texts.filter fun place => place.literal ≠ "") ∧ (∀ group ∈ groups, group ≠ []) ∧
      ∀ first second, first.literal ≠ "" → second.literal ≠ "" →
        ((∃ group ∈ groups, [first, second].Sublist group) ↔ node.Adjoin first second)) ∧
    String.join node.fragments = Place.joined node.texts ∧ (∀ fragment ∈ node.fragments, fragment ≠ "") ∧
    ∀ other : Node, other.bare = node.bare → other.fragments = node.fragments := by
  have hfragments := node.fragments_eq_map_groupRuns
  have hflatten : (groupRuns [] (node.placed [])).flatten = node.texts.filter fun place => place.literal ≠ "" :=
    flatten_groupRuns
  have hgroups : ∀ group ∈ groupRuns [] (node.placed []), group ≠ [] := fun _ => ne_nil_of_mem_groupRuns
  refine ⟨⟨fun place => mem_texts_iff, node.pairwise_placed []⟩,
    ⟨_, hfragments, hflatten, hgroups, fun first second hfirst hsecond => ?_⟩, ?_, ?_, ?_⟩
  · rw [exists_group_iff hfirst hsecond, together_placed_iff]
    simp [Place.under]
  · rw [hfragments, ← joined_flatten, hflatten, joined_filter]
  · intro fragment hfragment
    rw [hfragments] at hfragment
    obtain ⟨group, hgroup, rfl⟩ := List.mem_map.1 hfragment
    have hliteral : ∀ place ∈ group, place.literal ≠ "" := by
      intro place hplace
      have hmem : place ∈ node.texts.filter fun place => place.literal ≠ "" :=
        hflatten ▸ List.mem_flatten.2 ⟨group, hgroup, hplace⟩
      exact of_decide_eq_true (List.mem_filter.1 hmem).2
    exact (Place.joined_eq_empty_iff hliteral).not.2 (hgroups group hgroup)
  · intro other hbare
    rw [fragments, fragments, ← pieces_bare other, ← pieces_bare node, hbare]

/-- Texts in a row make one run, which a code span ends, whatever is in it. -/
theorem fragments_around_code_span :
    let paragraph (code : String) : Node :=
      .branch .paragraph [.text "to ", .text "@ann", .verbatim .code code, .text "!"]
    (paragraph "@all").fragments = ["to @ann", "!"] ∧ (paragraph "x").fragments = (paragraph "@all").fragments ∧
      ∃ groups : List (List Place), (paragraph "@all").fragments = groups.map Place.joined ∧
        ∃ group ∈ groups, [⟨[0], "to "⟩, ⟨[1], "@ann"⟩].Sublist group := by
  intro paragraph
  obtain ⟨-, ⟨groups, hfragments, -, -, hgroup⟩, -, -, hbare⟩ := fragments_are_sibling_texts (paragraph "@all")
  have hadjoin : (paragraph "@all").Adjoin ⟨[0], "to "⟩ ⟨[1], "@ann"⟩ :=
    @Adjoin.intro _ [] .paragraph [] [] [.verbatim .code "@all", .text "!"] _ _ rfl (List.forall_mem_nil _)
  have hsame := hbare (paragraph "x") rfl
  exact ⟨by decide, hsame, groups, hfragments, (hgroup _ _ (by decide) (by decide)).2 hadjoin⟩

end ChatNotify.Markup.Node
