import ChatNotify.Text.Blank
import ChatNotify.Markup.Line

namespace ChatNotify.Markup.Table

/-- Holds of the white space that may stand inside a line. -/
def isInnerSpace (c : Char) : Bool :=
  c.isAsciiSpace && !isLineEnd c

/-- What follows a pipe and the white space behind it. -/
def afterPipe : List Char → Option (List Char)
  | '|' :: rest => some (rest.dropWhile isInnerSpace)
  | _ => none

/-- The content of a cell and what follows it; `escaped` holds behind a backslash. -/
def readCell (escaped : Bool) : List Char → List Char × List Char
  | [] => ([], [])
  | c :: rest =>
    if isLineEnd c || c = '|' && !escaped then ([], c :: rest)
    else
      let (cell, rest) := readCell (c = '\\') rest
      (c :: cell, rest)

/-- Drops the backslash in front of a pipe. -/
def unescapePipes : List Char → List Char
  | '\\' :: '|' :: rest => '|' :: unescapePipes rest
  | c :: rest => c :: unescapePipes rest
  | [] => []

/-- A row at the end of a text, and the lines in front of it that belong to no table. -/
structure Row where
  preceding : List Char
  cells : List (List Char)

/-- Reads the rest of a row whose earlier cells are `cells`, last first; `start` is the text from the
row's own line on. Lines that others follow are passed over; `fuel` bounds the number of cells. -/
def readRowAfter (fuel : Nat) (cells : List (List Char)) (start text : List Char) :
    Option (List Char × List (List Char)) :=
  let finish (rest : List Char) (cells : List (List Char)) :=
    if rest.isEmpty && !cells.isEmpty then some (start, cells.reverse) else none
  match fuel, text with
  | 0, _ => none
  | _, [] => finish [] cells
  | fuel + 1, _ =>
    let (cell, rest) := readCell false text
    let content := Text.trimBy Char.isAsciiSpace (unescapePipes cell)
    match afterPipe rest with
    | some rest => readRowAfter fuel (content :: cells) start rest
    | none =>
      let cells := if cell.isEmpty then cells else content :: cells
      match rest with
      | _ :: next :: more =>
        let line := next :: more
        readRowAfter fuel [] line ((afterPipe line).getD line)
      | _ :: [] => finish [] cells
      | [] => finish [] cells

/-- Reads the row that the last line of the text makes up. -/
def readRow (text : List Char) : Option Row :=
  (readRowAfter (text.length + 1) [] text ((afterPipe text).getD text)).map fun (start, cells) =>
    ⟨text.take (text.length - start.length), cells⟩

/-- Holds of a cell of the line under the header: hyphens, with a colon at either end at will. -/
def isRule (cell : List Char) : Bool :=
  let cell := Text.trimBy isInnerSpace cell
  let cell := if cell.head? = some ':' then cell.drop 1 else cell
  let cell := if cell.getLast? = some ':' then cell.dropLast else cell
  !cell.isEmpty && cell.all (· = '-')

/-- Holds of the line under the header of a table. -/
def isRuleLine (line : List Char) : Bool :=
  let cells := (line.takeWhile fun c => !isLineEnd c).splitOn '|'
  let cells := if cells.head? = some [] then cells.drop 1 else cells
  let cells :=
    if 2 ≤ cells.length && cells.getLast?.any (·.all isInnerSpace) then cells.dropLast else cells
  !cells.isEmpty && cells.all isRule

end ChatNotify.Markup.Table
