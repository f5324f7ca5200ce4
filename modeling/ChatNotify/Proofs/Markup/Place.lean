import ChatNotify.Markup.Node
import Mathlib.Data.List.ReduceOption

namespace ChatNotify.Markup

/-- The way to a node of a tree: the number of the child to be taken at each branch. -/
abbrev Path := List Nat

/-- A text of a tree, and where it stands. -/
structure Place where
  path : Path
  literal : String
  deriving DecidableEq

namespace Place

/-- The place in a tree in which the tree stands at the end of the path. -/
def under (base : Path) (place : Place) : Place :=
  ⟨base ++ place.path, place.literal⟩

/-- What several texts say together. -/
def joined (places : List Place) : String :=
  String.join (places.map Place.literal)

theorem joined_eq_empty_iff {places : List Place} (hplaces : ∀ place ∈ places, place.literal ≠ "") :
    joined places = "" ↔ places = [] := by
  cases places with
  | nil => simp [joined]
  | cons place rest => simp [joined, hplaces place List.mem_cons_self]

end Place

namespace Node

/-- Induction over a tree: what holds of all children of a branch holds of the branch. -/
@[elab_as_elim, induction_eliminator]
theorem induction {motive : Node → Prop} (text : ∀ literal, motive (.text literal))
    (verbatim : ∀ kind literal, motive (.verbatim kind literal))
    (branch : ∀ kind children, (∀ child ∈ children, motive child) → motive (.branch kind children))
    (node : Node) : motive node := by
  refine @Node.rec motive (fun children => ∀ child ∈ children, motive child) text verbatim branch ?_ ?_ node
  · exact List.forall_mem_nil motive
  · exact fun first rest hfirst hrest => List.forall_mem_cons.2 ⟨hfirst, hrest⟩

/-- The node at the end of a path. -/
def at? : Node → Path → Option Node
  | node, [] => some node
  | .branch _ children, i :: path => (children[i]?).bind fun child => child.at? path
  | _, _ :: _ => none

mutual

/-- The pieces of a node that stands at the end of the path, with the places of the texts. -/
def placed (path : Path) : Node → List (Option Place)
  | .text literal => [some ⟨path, literal⟩]
  | .verbatim _ _ => [none]
  | .branch _ children => none :: placedFrom path 0 children ++ [none]

/-- The pieces of nodes that are the children from the number on of the branch at the end of the path. -/
def placedFrom (path : Path) (i : Nat) : List Node → List (Option Place)
  | [] => []
  | node :: rest => node.placed (path ++ [i]) ++ placedFrom path (i + 1) rest

end

/-- The texts of a tree in the order of the document. -/
def texts (node : Node) : List Place :=
  (node.placed []).reduceOption

theorem exists_getElem?_cons_iff {α : Type} {P : Nat → α → Prop} {first : α} {rest : List α} :
    (∃ (j : Nat) (x : α), (first :: rest)[j]? = some x ∧ P j x) ↔
      P 0 first ∨ ∃ (j : Nat) (x : α), rest[j]? = some x ∧ P (j + 1) x := by
  constructor
  · rintro ⟨j, x, hx, hP⟩
    cases j with
    | zero =>
      obtain rfl := Option.some.inj hx
      exact .inl hP
    | succ j => exact .inr ⟨j, x, hx, hP⟩
  · rintro (hP | ⟨j, x, hx, hP⟩)
    · exact ⟨0, first, rfl, hP⟩
    · exact ⟨j + 1, x, hx, hP⟩

theorem pieces_eq_map_placed (node : Node) (path : Path) :
    node.pieces = (node.placed path).map (Option.map Place.literal) := by
  induction node generalizing path with
  | text literal => simp [pieces, placed]
  | verbatim kind literal => simp [pieces, placed]
  | branch kind children ih =>
    have hchildren (i : Nat) : piecesOf children = (placedFrom path i children).map (Option.map Place.literal) := by
      induction children generalizing i with
      | nil => simp [piecesOf, placedFrom]
      | cons child rest ihrest =>
        obtain ⟨hchild, hrest⟩ := List.forall_mem_cons.1 ih
        simp [piecesOf, placedFrom, ← hchild, ← ihrest hrest]
    simp [pieces, placed, hchildren 0]

theorem mem_placedFrom_iff {path : Path} {i : Nat} {children : List Node} {piece : Option Place} :
    piece ∈ placedFrom path i children ↔
      ∃ (j : Nat) (child : Node), children[j]? = some child ∧ piece ∈ child.placed (path ++ [i + j]) := by
  induction children generalizing i with
  | nil => simp [placedFrom]
  | cons first rest ih =>
    rw [placedFrom, List.mem_append, ih, exists_getElem?_cons_iff]
    simp only [Nat.add_zero, Nat.add_assoc, Nat.add_comm 1]

theorem some_mem_placed_iff {node : Node} {base : Path} {place : Place} :
    some place ∈ node.placed base ↔
      ∃ path, place.path = base ++ path ∧ node.at? path = some (.text place.literal) := by
  induction node generalizing base with
  | text literal =>
    constructor
    · intro hplace
      obtain rfl : place = ⟨base, literal⟩ := by simpa [placed] using hplace
      exact ⟨[], by simp, rfl⟩
    · rintro ⟨path, hpath, hat⟩
      cases path with
      | nil =>
        cases hat
        simp [placed, ← hpath.trans (List.append_nil base)]
      | cons i path => cases hat
  | verbatim kind literal =>
    constructor
    · simp [placed]
    · rintro ⟨path, -, hat⟩
      cases path <;> cases hat
  | branch kind children ih =>
    have hplaced : some place ∈ (Node.branch kind children).placed base ↔
        some place ∈ placedFrom base 0 children := by simp [placed]
    rw [hplaced, mem_placedFrom_iff]
    constructor
    · rintro ⟨i, child, hchild, hplace⟩
      obtain ⟨path, hpath, hat⟩ := (ih child (List.mem_of_getElem? hchild)).1 hplace
      refine ⟨i :: path, ?_, ?_⟩
      · simpa using hpath
      · simpa [at?, hchild] using hat
    · rintro ⟨path, hpath, hat⟩
      cases path with
      | nil => cases hat
      | cons i path =>
        obtain ⟨child, hchild, hat⟩ := Option.bind_eq_some_iff.1 hat
        refine ⟨i, child, hchild, (ih child (List.mem_of_getElem? hchild)).2 ⟨path, ?_, hat⟩⟩
        simpa using hpath

/-- What is listed first stands further left, or higher up. -/
theorem pairwise_placed (node : Node) (base : Path) :
    (node.placed base).reduceOption.Pairwise fun first second => first.path < second.path := by
  induction node generalizing base with
  | text literal => simp [placed]
  | verbatim kind literal => simp [placed]
  | branch kind children ih =>
    have hchildren (i : Nat) : (placedFrom base i children).reduceOption.Pairwise
        fun first second => first.path < second.path := by
      induction children generalizing i with
      | nil => simp [placedFrom]
      | cons child rest ihrest =>
        obtain ⟨hchild, hrest⟩ := List.forall_mem_cons.1 ih
        rw [placedFrom, List.reduceOption_append, List.pairwise_append]
        refine ⟨hchild _, ihrest hrest _, fun first hfirst second hsecond => ?_⟩
        obtain ⟨path, hpath, -⟩ := some_mem_placed_iff.1 (List.reduceOption_mem_iff.1 hfirst)
        obtain ⟨j, other, -, hother⟩ := mem_placedFrom_iff.1 (List.reduceOption_mem_iff.1 hsecond)
        obtain ⟨otherPath, hotherPath, -⟩ := some_mem_placed_iff.1 hother
        rw [hpath, hotherPath, List.append_assoc, List.append_assoc]
        refine List.append_left_lt (List.cons_lt_cons_iff.2 (.inl ?_))
        omega
    simpa [placed, List.reduceOption_append] using hchildren 0

theorem mem_texts_iff {node : Node} {place : Place} :
    place ∈ node.texts ↔ node.at? place.path = some (.text place.literal) := by
  rw [texts, List.reduceOption_mem_iff, some_mem_placed_iff]
  simp

end Node

end ChatNotify.Markup
