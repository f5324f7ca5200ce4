import ChatNotify.Markup.Html
import ChatNotify.Markup.Link
import ChatNotify.Markup.Table

namespace ChatNotify.Markup

/-- A list of bullets of one shape, or numbers followed by one delimiter. -/
inductive ListKind where
  | bullet (mark : Char)
  | ordered (delimiter : Char)
  deriving Repr, DecidableEq

/-- The line of marks that opens a fenced code block. -/
structure Fence where
  mark : Char
  length : Nat
  indent : Nat
  deriving Repr, DecidableEq

/-- What a block is. -/
inductive BlockKind where
  | document
  | quote
  | list (kind : ListKind)
  /-- An item continues on lines that are indented by its width. -/
  | item (width : Nat)
  | paragraph
  | heading (level : Nat)
  | thematicBreak
  | codeBlock (fence : Option Fence)
  | htmlBlock (kind : Html.Block)
  | table (columns : Nat)
  | tableRow
  | tableCell
  deriving Repr, DecidableEq

namespace BlockKind

/-- Holds when a block of the kind `child` may stand right inside one of the kind `parent`. -/
def holds (parent child : BlockKind) : Bool :=
  match parent, child with
  | .list _, .item _ | .table _, .tableRow | .tableRow, .tableCell => true
  | .document, child | .quote, child | .item _, child =>
    match child with
    | .document | .item _ | .tableRow | .tableCell => false
    | _ => true
  | _, _ => false

/-- Holds of the kinds that text is added to. -/
def takesText : BlockKind → Bool
  | .paragraph | .heading _ | .codeBlock _ => true
  | _ => false

end BlockKind

/-- A block that is closed. -/
inductive Block where
  | block (kind : BlockKind) (content : List Char) (children : List Block)

/-- A block that is open: its lines and the closed blocks in it, both last first. -/
structure Frame where
  kind : BlockKind
  lines : List (List Char) := []
  children : List Block := []
  /-- Holds of a paragraph that is known not to end in the header of a table. -/
  noTable : Bool := false

namespace Frame

/-- The text of the block so far. -/
def content (frame : Frame) : List Char :=
  frame.lines.reverse.flatten

/-- The closed block, unless it is a paragraph that held only definitions, and those definitions. -/
def close (frame : Frame) : Option Block × References :=
  match frame.kind with
  | .paragraph =>
    let (definitions, content) := Link.definitions frame.content
    if content.all Char.isAsciiSpace then (none, definitions)
    else (some (.block .paragraph content []), definitions)
  | kind => (some (.block kind frame.content frame.children.reverse), [])

end Frame

/-- The open blocks, the tip first and the document last, and the definitions found so far. -/
structure Builder where
  tip : Frame
  outer : List Frame := []
  references : References := []

/-- What a line does to an open block. -/
inductive Continuation where
  | continues (line : Line)
  | ends
  /-- The line is the one that closes a fenced code block. -/
  | closes

/-- The number of marks at the head of a fence that the text opens. -/
def fenceLength (text : List Char) : Option (Char × Nat) :=
  match text with
  | c :: _ =>
    let length := (text.takeWhile (· = c)).length
    if (c = '\x60' && !(text.drop length).contains '\x60' || c = '~') && 3 ≤ length then
      some (c, length)
    else none
  | [] => none

/-- Holds when the text closes the fence. -/
def closesFence (fence : Fence) (text : List Char) : Bool :=
  let length := (text.takeWhile (· = fence.mark)).length
  fence.length ≤ length &&
    ((text.drop length).dropWhile isGap).head?.all isLineEnd

/-- What the line does to the open block; `hasChild` holds when there is a block in it. -/
def Frame.continuation (frame : Frame) (hasChild : Bool) (line : Line) : Continuation :=
  let continuesIf (condition : Bool) := if condition then Continuation.continues line else .ends
  match frame.kind with
  | .document | .list _ => .continues line
  | .quote =>
    if line.indent ≤ 3 && line.body.head? = some '>' then .continues (line.skipPast 1).skipGap
    else .ends
  | .item width =>
    if width ≤ line.indent then .continues (line.advanceColumns width)
    else if line.isBlank && hasChild then .continues line.skipIndent
    else .ends
  | .codeBlock none =>
    if 4 ≤ line.indent then .continues (line.advanceColumns 4)
    else if line.isBlank then .continues line.skipIndent
    else .ends
  | .codeBlock (some fence) =>
    if line.indent ≤ 3 && closesFence fence line.body then .closes
    else .continues (line.skipGaps fence.indent)
  | .htmlBlock kind => continuesIf !(kind.endsBeforeBlank && line.isBlank)
  | .paragraph => continuesIf !line.isBlank
  | .table _ => continuesIf (Table.readRow line.body).isSome
  | .heading _ | .thematicBreak | .tableRow | .tableCell => .ends

/-- How many of the open blocks, the outermost first, the line continues, and what is left of it;
the last part holds when the line closes a fence. -/
def matchFrames (line : Line) : List Frame → Nat × Line × Bool
  | [] => (0, line, false)
  | frame :: inner =>
    match frame.continuation (!frame.children.isEmpty || !inner.isEmpty) line with
    | .ends => (0, line, false)
    | .closes => (0, line, true)
    | .continues line =>
      let (count, line, closes) := matchFrames line inner
      (count + 1, line, closes)

/-- The kind of the list that the text begins an item of, and the width of its marker. An item that
interrupts a paragraph may not be empty, and its number must be one. -/
def readListMarker (inParagraph : Bool) (text : List Char) : Option (ListKind × Nat) :=
  let accept (kind : ListKind) (width : Nat) :=
    let rest := text.drop width
    if rest.head?.all Char.isAsciiSpace &&
        !(inParagraph && (rest.dropWhile isGap).head?.all isLineEnd) then some (kind, width)
    else none
  match text with
  | c :: _ =>
    if c = '*' || c = '-' || c = '+' then accept (.bullet c) 1
    else
      let digits := (text.take 9).takeWhile Char.isDigit
      match Text.ofDigits? 10 digits, text[digits.length]? with
      | some number, some delimiter =>
        if (delimiter = '.' || delimiter = ')') && !(inParagraph && number ≠ 1) then
          accept (.ordered delimiter) (digits.length + 1)
        else none
      | _, _ => none
  | [] => none

/-- Holds of three or more of one mark with nothing but gaps between them. -/
def isThematicBreak (text : List Char) : Bool :=
  match text with
  | c :: _ =>
    let marks := text.filter fun d => !isGap d && !isLineEnd d
    (c = '*' || c = '-' || c = '_') && 3 ≤ marks.length && marks.all (· = c)
  | [] => false

/-- The level of the heading that the text begins, which is the number of its number signs. -/
def headingLevel (text : List Char) : Option Nat :=
  let level := (text.takeWhile (· = '#')).length
  if 1 ≤ level && level ≤ 6 && (text.drop level).head?.all (fun c => isGap c || isLineEnd c) then
    some level
  else none

/-- The level of the heading that the text makes of the paragraph above it. -/
def underlineLevel (text : List Char) : Option Nat :=
  match text with
  | c :: _ =>
    if (c = '=' || c = '-') && ((text.dropWhile (· = c)).dropWhile isGap).head?.all isLineEnd then
      some (if c = '=' then 1 else 2)
    else none
  | [] => none

/-- The text of a heading without the number signs at its end. -/
def chopNumberSigns (text : List Char) : List Char :=
  let text := Text.trimEndBy Char.isAsciiSpace text
  let chopped := Text.trimEndBy (· = '#') text
  if chopped.isEmpty || chopped.getLast?.any isGap then Text.trimEndBy Char.isAsciiSpace chopped
  else text

namespace Builder

/-- The open blocks, the outermost first. -/
def chain (builder : Builder) : List Frame :=
  (builder.tip :: builder.outer).reverse

/-- Closes the tip; the document stays open. -/
def closeTip (builder : Builder) : Builder :=
  match builder.outer with
  | [] => builder
  | parent :: outer =>
    let (block, definitions) := builder.tip.close
    { tip := { parent with children := block.toList ++ parent.children }
      outer
      references := builder.references ++ definitions }

/-- Closes the blocks inside the outermost `count`. -/
def closeTo (count : Nat) (builder : Builder) : Builder :=
  (List.range (builder.outer.length + 1 - count)).foldl (fun builder _ => builder.closeTip) builder

/-- Adds a line to the tip. -/
def addText (builder : Builder) (text : List Char) : Builder :=
  { builder with tip := { builder.tip with lines := text :: builder.tip.lines } }

/-- Opens a block in the innermost open block that may hold it; those inside that one are closed. -/
def openBlock (builder : Builder) (frame : Frame) : Builder :=
  let depth := (builder.tip :: builder.outer).findIdx fun outer => outer.kind.holds frame.kind
  let builder := builder.closeTo (builder.outer.length + 1 - depth)
  { builder with tip := frame, outer := builder.tip :: builder.outer }

/-- Opens a block and closes it again. -/
def addBlock (builder : Builder) (kind : BlockKind) (children : List Block := []) : Builder :=
  (builder.openBlock { kind, children := children.reverse }).closeTip

/-- Opens an item, and a list around it unless the tip is a list of the same kind. -/
def openItem (builder : Builder) (line : Line) (kind : ListKind) (width : Nat) : Builder × Line :=
  let behind := line.skipPast width
  let gap := behind.skipGaps 6
  let columns := gap.column - behind.column
  let (padding, rest) :=
    if columns < 1 || 5 ≤ columns || gap.rest.head?.all isLineEnd then
      (width + 1, if 0 < columns then behind.advanceColumns 1 else behind)
    else (width + columns, gap)
  let builder :=
    if builder.tip.kind = .list kind then builder else builder.openBlock { kind := .list kind }
  (builder.openBlock { kind := .item (line.indent + padding) }, rest)

/-- The cells of a row, as many as the table has columns. -/
def tableRow (columns : Nat) (cells : List (List Char)) : List Block :=
  (List.range columns).map fun i => .block .tableCell (cells.getD i []) []

/-- Replaces the paragraph at the tip by a table whose header its last line is, if the line is the one
under a header with as many cells. What stands in front of the header stays a paragraph. -/
def openTable (builder : Builder) (line : Line) : Option Builder :=
  if builder.tip.noTable || !Table.isRuleLine line.body then none
  else
    let fail := some { builder with tip := { builder.tip with noTable := true } }
    match Table.readRow builder.tip.content, Table.readRow line.body, builder.outer with
    | some header, some rule, parent :: outer =>
      let columns := rule.cells.length
      if header.cells.length ≠ columns then fail
      else
        let preceding :=
          if header.preceding.isEmpty then []
          else
            let content := Text.trimBy Char.isAsciiSpace (Table.unescapePipes header.preceding)
            [Block.block .paragraph content []]
        some
          { builder with
            tip :=
              { kind := .table columns
                children := [.block .tableRow [] (tableRow columns header.cells)] }
            outer := { parent with children := preceding ++ parent.children } :: outer }
    | _, _, _ => fail

/-- No item is opened by a line that has begun as many blocks. -/
def mostBlocks : Nat := 99

/-- Opens the block that the line begins, if any, after `begun` other ones; `mayContinue` holds when
the line may instead continue a paragraph. -/
def openNext (builder : Builder) (line : Line) (begun : Nat) (mayContinue : Bool) :
    Option (Builder × Line) :=
  let body := line.body
  let inParagraph := builder.tip.kind = .paragraph
  if 4 ≤ line.indent then
    if !mayContinue && !line.isBlank then
      some (builder.openBlock { kind := .codeBlock none }, line.advanceColumns 4)
    else none
  else if body.head? = some '>' then
    some (builder.openBlock { kind := .quote }, (line.skipPast 1).skipGap)
  else if let some level := headingLevel body then
    some (builder.openBlock { kind := .heading level }, line.skipPast level)
  else if let some (mark, length) := fenceLength body then
    let fence := { mark, length, indent := line.indent }
    some (builder.openBlock { kind := .codeBlock (some fence) }, line.skipPast length)
  else if let some kind := Html.Block.opening? inParagraph body then
    some (builder.openBlock { kind := .htmlBlock kind }, line)
  else if let some level := if inParagraph then underlineLevel body else none then
    let (definitions, content) := Link.definitions builder.tip.content
    let references := builder.references ++ definitions
    if content.all Char.isAsciiSpace then
      some ({ builder with tip := { builder.tip with lines := [] }, references }, line)
    else
      some ({ builder with tip := { kind := .heading level, lines := [content] }, references },
        line.skipAll)
  else if isThematicBreak body then some (builder.addBlock .thematicBreak, line.skipAll)
  else if let some (kind, width) :=
      if begun < mostBlocks then readListMarker inParagraph body else none then
    some (builder.openItem line kind width)
  else
    match builder.tip.kind with
    | .table columns =>
      if line.isBlank then none
      else
        (Table.readRow body).map fun row =>
          (builder.addBlock .tableRow (tableRow columns row.cells), line.skipAll)
    | .paragraph =>
      (builder.openTable line).map fun opened =>
        (opened, if opened.tip.kind = .paragraph then line else line.skipAll)
    | _ => none

/-- Opens the blocks that the line begins after `begun` other ones, at most `fuel` of them; the last
part holds when there was one. -/
def openAll (fuel begun : Nat) (builder : Builder) (line : Line) (mayContinue : Bool) :
    Builder × Line × Bool :=
  match fuel with
  | 0 => (builder, line, false)
  | fuel + 1 =>
    match builder.tip.kind with
    | .codeBlock _ | .htmlBlock _ => (builder, line, false)
    | _ =>
      match builder.openNext line begun mayContinue with
      | none => (builder, line, false)
      | some (builder, line) =>
        if builder.tip.kind.takesText then (builder, line, true)
        else
          let (builder, line, _) := openAll fuel (begun + 1) builder line false
          (builder, line, true)

/-- Adds what is left of a line to the tip, or to a paragraph opened for it. -/
def addRest (builder : Builder) (line : Line) : Builder :=
  match builder.tip.kind with
  | .codeBlock _ => builder.addText line.content
  | .htmlBlock kind =>
    let added := builder.addText line.content
    if kind.endsWith line.body then added.closeTip else added
  | .heading _ =>
    (if line.isBlank then builder else builder.addText (chopNumberSigns line.body)).closeTip
  | .paragraph => if line.isBlank then builder else builder.addText line.skipIndent.content
  | _ =>
    if line.isBlank then builder
    else (builder.openBlock { kind := .paragraph }).addText line.skipIndent.content

/-- Adds a line. A line that continues no more than the blocks around a paragraph, and begins no block
of its own, still continues that paragraph unless it is blank. -/
def addLine (builder : Builder) (text : List Char) : Builder :=
  let (count, line, closes) := matchFrames { rest := text } builder.chain
  if closes then builder.closeTip
  else
    let inParagraph := builder.tip.kind = .paragraph
    let unmatched := count < builder.outer.length + 1
    let (opened, rest, began) := openAll (text.length + 1) 0 (builder.closeTo count) line inParagraph
    if !began && unmatched && inParagraph && !rest.isBlank then builder.addText line.content
    else opened.addRest rest

/-- The document that the lines make up, and the definitions in it. -/
def readLines (lines : List (List Char)) : Option Block × References :=
  let builder := lines.foldl addLine { tip := { kind := .document } }
  let builder := builder.closeTo 1
  (builder.tip.close.1, builder.references)

end Builder

end ChatNotify.Markup
