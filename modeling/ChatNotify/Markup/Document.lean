import ChatNotify.Markup.Block
import ChatNotify.Markup.Inline

namespace ChatNotify.Markup

/-- The text of a closed code block, without the line that opened its fence. -/
def codeBlockText (fenced : Bool) (content : List Char) : List Char × List Char :=
  if fenced then
    (Text.trimBy Char.isAsciiSpace (content.takeWhile fun c => !isLineEnd c),
      (content.dropWhile fun c => !isLineEnd c).drop 1)
  else ([], content)

mutual

/-- The node that a block makes up. -/
def Block.toNode (references : References) : Block → Node
  | .block kind content children =>
    let inner (branch : Branch) := Node.branch branch (Block.toNodes references children)
    let inlines (branch : Branch) := Node.branch branch (Inline.parse references content)
    match kind with
    | .document => inner .document
    | .quote => inner .quote
    | .list _ => inner .list
    | .item _ => inner .item
    | .table _ => inner .table
    | .tableRow => inner .tableRow
    | .thematicBreak => inner .thematicBreak
    | .paragraph => inlines .paragraph
    | .heading level => inlines (.heading level)
    | .tableCell => inlines .tableCell
    | .codeBlock fence =>
      let (info, text) := codeBlockText fence.isSome content
      .verbatim (.codeBlock (String.ofList info)) (String.ofList text)
    | .htmlBlock _ => .verbatim .htmlBlock (String.ofList content)

/-- The nodes that blocks make up. -/
def Block.toNodes (references : References) : List Block → List Node
  | [] => []
  | first :: rest => first.toNode references :: Block.toNodes references rest

end

/-- The text without a byte order mark at its head and with a replacement for every NUL. -/
def cleanInput (text : List Char) : List Char :=
  (if text.head? = some '\ufeff' then text.drop 1 else text).map fun c =>
    if c = '\x00' then '\ufffd' else c

/-- The tree of a message. -/
def Node.ofText (text : String) : Node :=
  let (document, references) := Builder.readLines (splitLines [] (cleanInput text.toList))
  match document with
  | some document => document.toNode references
  | none => .branch .document []

/-- The runs of plain text in a message. -/
def textFragments (text : String) : List String :=
  (Node.ofText text).fragments

end ChatNotify.Markup
