import ChatNotify.Text.Blank

namespace ChatNotify.Markup

/-- What is left of a line and the column at which it starts. A tab counts as spaces up to the next
multiple of four columns; it may be passed in part, and what is left of it still counts for the
indentation. -/
structure Line where
  rest : List Char
  column : Nat := 0
  /-- Holds when the tab at the head of `rest` has been passed in part. -/
  partialTab : Bool := false

/-- Holds of the space and the tab. -/
def isGap (c : Char) : Bool :=
  c = ' ' || c = '\t'

/-- Holds of the characters that end a line. -/
def isLineEnd (c : Char) : Bool :=
  c = '\n' || c = '\r'

namespace Line

/-- The number of columns up to the next tab stop. -/
def toTabStop (column : Nat) : Nat :=
  4 - column % 4

/-- The width of the gap at the head of a text that starts at the column, and what follows it. -/
def gapWidth (column : Nat) : List Char → Nat × List Char
  | ' ' :: rest =>
    let (width, tail) := gapWidth (column + 1) rest
    (width + 1, tail)
  | '\t' :: rest =>
    let (width, tail) := gapWidth (column + toTabStop column) rest
    (width + toTabStop column, tail)
  | text => (0, text)

/-- The indentation in columns. -/
def indent (line : Line) : Nat :=
  (gapWidth line.column line.rest).1

/-- The text behind the indentation. -/
def body (line : Line) : List Char :=
  (gapWidth line.column line.rest).2

/-- Holds when nothing but a line end follows the indentation. -/
def isBlank (line : Line) : Bool :=
  match line.body with
  | [] => true
  | c :: _ => isLineEnd c

/-- Passes a number of columns; a tab wider than what is left is passed in part. -/
def advanceColumns (line : Line) : Nat → Line
  | 0 => line
  | count + 1 =>
    match line.rest with
    | [] => line
    | '\t' :: rest =>
      let next := line.column + 1
      if toTabStop line.column ≤ 1 then
        advanceColumns { rest, column := next } count
      else advanceColumns { rest := '\t' :: rest, column := next, partialTab := true } count
    | _ :: rest => advanceColumns { rest, column := line.column + 1 } count

/-- Passes a number of characters. -/
def advance (line : Line) : Nat → Line
  | 0 => line
  | count + 1 =>
    match line.rest with
    | [] => line
    | '\t' :: rest => advance { rest, column := line.column + toTabStop line.column } count
    | _ :: rest => advance { rest, column := line.column + 1 } count

/-- Passes the indentation. -/
def skipIndent (line : Line) : Line :=
  let (width, rest) := gapWidth line.column line.rest
  if width = 0 then line else { rest, column := line.column + width }

/-- Passes the indentation and a number of characters behind it. -/
def skipPast (line : Line) (count : Nat) : Line :=
  line.skipIndent.advance count

/-- Passes one space, or one column of a tab, if there is one. -/
def skipGap (line : Line) : Line :=
  if line.rest.head?.any isGap then line.advanceColumns 1 else line

/-- Passes at most so many spaces or columns of tabs. -/
def skipGaps (line : Line) : Nat → Line
  | 0 => line
  | count + 1 => if line.rest.head?.any isGap then (line.advanceColumns 1).skipGaps count else line

/-- Passes everything. -/
def skipAll (line : Line) : Line :=
  { rest := [], column := line.column }

/-- What is left, with spaces for what is left of a tab passed in part. -/
def content (line : Line) : List Char :=
  if line.partialTab then List.replicate (toTabStop line.column) ' ' ++ line.rest.drop 1
  else line.rest

end Line

/-- The lines of a document, each with its line end; the last one may have none. A carriage return
ends a line, together with a line feed behind it. -/
def splitLines (current : List Char) : List Char → List (List Char)
  | [] => if current.isEmpty then [] else [current.reverse]
  | '\r' :: '\n' :: rest => ('\n' :: current).reverse :: splitLines [] rest
  | '\n' :: rest => ('\n' :: current).reverse :: splitLines [] rest
  | '\r' :: rest => ('\n' :: current).reverse :: splitLines [] rest
  | c :: rest => splitLines (c :: current) rest

end ChatNotify.Markup
