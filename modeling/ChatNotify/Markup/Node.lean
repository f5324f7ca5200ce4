namespace ChatNotify.Markup

/-- What is shown as it was typed. -/
inductive Verbatim where
  | code
  | codeBlock (info : String)
  | htmlInline
  | htmlBlock
  deriving Repr, DecidableEq

/-- What holds other nodes, or stands between them. -/
inductive Branch where
  | document
  | quote
  | list
  | item
  | paragraph
  | heading (level : Nat)
  | thematicBreak
  | table
  | tableRow
  | tableCell
  | softBreak
  | lineBreak
  | emphasis
  | strong
  | strikethrough
  | link (target title : String)
  | image (target title : String)
  deriving Repr, DecidableEq

/-- A node of the tree. -/
inductive Node where
  | text (literal : String)
  | verbatim (kind : Verbatim) (literal : String)
  | branch (kind : Branch) (children : List Node)
  deriving Repr

namespace Node

mutual

/-- The texts of a node in document order, with `none` at every edge: around a branch and in place
of verbatim content. -/
def pieces : Node → List (Option String)
  | .text literal => [some literal]
  | .verbatim _ _ => [none]
  | .branch _ children => none :: piecesOf children ++ [none]

/-- The pieces of several nodes, one after the other. -/
def piecesOf : List Node → List (Option String)
  | [] => []
  | node :: rest => node.pieces ++ piecesOf rest

end

/-- The run collected so far, unless it is empty. -/
def run (buffer : String) : List String :=
  if buffer = "" then [] else [buffer]

/-- Joins the texts between two edges, where `buffer` holds those since the last edge. -/
def joinRuns (buffer : String) : List (Option String) → List String
  | [] => run buffer
  | none :: rest => run buffer ++ joinRuns "" rest
  | some literal :: rest => joinRuns (buffer ++ literal) rest

/-- The maximal runs of plain text, in document order. -/
def fragments (node : Node) : List String :=
  joinRuns "" node.pieces

end Node

end ChatNotify.Markup
