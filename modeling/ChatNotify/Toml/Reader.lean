import ChatNotify.Json.Reader
import ChatNotify.Toml.Scalar
import ChatNotify.Toml.Tree

namespace ChatNotify.Toml

open Settings (Value)

/-- Holds of the space and the tab. -/
def isBlank (c : Char) : Bool :=
  c = ' ' || c = '\t'

/-- Holds of the characters that stand for themselves in strings and comments. -/
def isPlain (c : Char) : Bool :=
  c = '\t' || 0x20 ≤ c.val && c.val ≠ 0x7f

/-- Passes blanks. -/
def skipBlanks (text : List Char) : List Char :=
  text.dropWhile isBlank

/-- Passes a comment, if there is one. -/
def skipComment (text : List Char) : List Char :=
  match text with
  | '#' :: rest => rest.dropWhile isPlain
  | text => text

/-- Passes the end of a line. -/
def passLineEnd : List Char → Option (List Char)
  | '\n' :: rest => some rest
  | '\r' :: '\n' :: rest => some rest
  | _ => none

/-- Passes blanks, comments and ends of lines. -/
def skipLines (fuel : Nat) (text : List Char) : List Char :=
  match fuel with
  | 0 => text
  | fuel + 1 =>
    let text := skipComment (skipBlanks text)
    match passLineEnd text with
    | some rest => skipLines fuel rest
    | none => text

/-- What ends a line, and what follows it. -/
def endLine (text : List Char) : Option (List Char) :=
  match skipComment (skipBlanks text) with
  | [] => some []
  | text => passLineEnd text

/-- The character of that code, if there is one. -/
def ofCode? (digits : List Char) : Option Char :=
  (Text.ofDigits? 16 digits).bind fun code =>
    if code.isValidChar then some (Char.ofNat code) else none

/-- The character of a simple escape. -/
def escaped? (c : Char) : Option Char :=
  if c = '/' then none else Json.Reader.escaped? c

/-- The rest of a string with escapes up to its closing quote. -/
def readBasic (taken : List Char) : List Char → Option (String × List Char)
  | '"' :: rest => some (String.ofList taken.reverse, rest)
  | '\\' :: 'u' :: a :: b :: c :: d :: rest => do readBasic ((← ofCode? [a, b, c, d]) :: taken) rest
  | '\\' :: 'U' :: a :: b :: c :: d :: e :: f :: g :: h :: rest => do
    readBasic ((← ofCode? [a, b, c, d, e, f, g, h]) :: taken) rest
  | '\\' :: c :: rest => do readBasic ((← escaped? c) :: taken) rest
  | c :: rest => if isPlain c then readBasic (c :: taken) rest else none
  | [] => none

/-- The rest of a string without escapes up to its closing quote. -/
def readLiteral (taken : List Char) : List Char → Option (String × List Char)
  | '\'' :: rest => some (String.ofList taken.reverse, rest)
  | c :: rest => if isPlain c then readLiteral (c :: taken) rest else none
  | [] => none

/-- Adds the quotes that stand before the three closing ones, of which there may be two. -/
def closeLines (quote : Char) (taken rest : List Char) : String × List Char :=
  let extra := min 2 (rest.takeWhile (· = quote)).length
  (String.ofList (taken.reverse ++ List.replicate extra quote), rest.drop extra)

/-- Holds if only blanks follow in the line. -/
def isLineEnd (text : List Char) : Bool :=
  (passLineEnd (skipBlanks text)).isSome

/-- The rest of a string of several lines with escapes. A backslash at the end of a line hides white
space up to the next visible character; `hidden` says that it does. -/
def readBasicLines (hidden : Bool) (taken : List Char) : List Char → Option (String × List Char)
  | '"' :: '"' :: '"' :: rest => some (closeLines '"' taken rest)
  | '\\' :: 'u' :: a :: b :: c :: d :: rest => do
    readBasicLines false ((← ofCode? [a, b, c, d]) :: taken) rest
  | '\\' :: 'U' :: a :: b :: c :: d :: e :: f :: g :: h :: rest => do
    readBasicLines false ((← ofCode? [a, b, c, d, e, f, g, h]) :: taken) rest
  | '\\' :: c :: rest =>
    if isLineEnd (c :: rest) then readBasicLines true taken (c :: rest)
    else do readBasicLines false ((← escaped? c) :: taken) rest
  | '\r' :: '\n' :: rest =>
    readBasicLines hidden (if hidden then taken else '\n' :: taken) rest
  | c :: rest =>
    if hidden && (isBlank c || c = '\n') then readBasicLines true taken rest
    else if isPlain c || c = '\n' then readBasicLines false (c :: taken) rest
    else none
  | [] => none

/-- The rest of a string of several lines without escapes. -/
def readLiteralLines (taken : List Char) : List Char → Option (String × List Char)
  | '\'' :: '\'' :: '\'' :: rest => some (closeLines '\'' taken rest)
  | '\r' :: '\n' :: rest => readLiteralLines ('\n' :: taken) rest
  | c :: rest => if isPlain c || c = '\n' then readLiteralLines (c :: taken) rest else none
  | [] => none

/-- A text without the end of a line at its start. -/
def skipFirstLineEnd (text : List Char) : List Char :=
  (passLineEnd text).getD text

/-- Reads a string of any kind. -/
def readString : List Char → Option (String × List Char)
  | '"' :: '"' :: '"' :: rest => readBasicLines false [] (skipFirstLineEnd rest)
  | '\'' :: '\'' :: '\'' :: rest => readLiteralLines [] (skipFirstLineEnd rest)
  | '"' :: rest => readBasic [] rest
  | '\'' :: rest => readLiteral [] rest
  | _ => none

/-- Holds of the characters of keys without quotes. -/
def isKeyChar (c : Char) : Bool :=
  c.isAlphanum || c = '_' || c = '-'

/-- Reads a key. -/
def readKey (text : List Char) : Option (String × List Char) :=
  match text with
  | '"' :: rest => readBasic [] rest
  | '\'' :: rest => readLiteral [] rest
  | text =>
    let key := text.takeWhile isKeyChar
    if key.isEmpty then none else some (String.ofList key, text.drop key.length)

/-- Reads the keys behind the first one of a dotted key. -/
def readMoreKeys (fuel : Nat) (text : List Char) : Option (List String × List Char) :=
  match fuel with
  | 0 => none
  | fuel + 1 =>
    match skipBlanks text with
    | '.' :: rest => do
      let (key, rest) ← readKey (skipBlanks rest)
      let (keys, rest) ← readMoreKeys fuel rest
      some (key :: keys, rest)
    | rest => some ([], rest)

/-- A key, and the keys behind it. -/
abbrev Dotted := String × List String

/-- Reads a dotted key with the blanks after it. -/
def readDotted (fuel : Nat) (text : List Char) : Option (Dotted × List Char) := do
  let (key, rest) ← readKey text
  let (keys, rest) ← readMoreKeys fuel rest
  some ((key, keys), rest)

mutual

/-- Reads a value; `fuel` bounds the length of what is read. -/
def readValue (fuel : Nat) (text : List Char) : Option (Value × List Char) :=
  match fuel with
  | 0 => none
  | fuel + 1 =>
    match text with
    | '[' :: rest => readElements fuel [] (skipLines fuel rest)
    | '\x7b' :: rest =>
      match skipBlanks rest with
      | '\x7d' :: rest => some (.table [], rest)
      | rest => readMembers fuel [] rest
    | '"' :: _ | '\'' :: _ => do
      let (text, rest) ← readString text
      some (.text text, rest)
    | text => readScalar text

/-- The elements of an array from the next one on; `taken` holds those before it, last first. -/
def readElements (fuel : Nat) (taken : List Value) (text : List Char) :
    Option (Value × List Char) :=
  match fuel with
  | 0 => none
  | fuel + 1 =>
    match text with
    | ']' :: rest => some (.list taken.reverse, rest)
    | text => do
      let (value, rest) ← readValue fuel text
      match skipLines fuel rest with
      | ',' :: rest => readElements fuel (value :: taken) (skipLines fuel rest)
      | ']' :: rest => some (.list (value :: taken).reverse, rest)
      | _ => none

/-- The members of a table in braces from the next one on. -/
def readMembers (fuel : Nat) (members : Members) (text : List Char) : Option (Value × List Char) :=
  match fuel with
  | 0 => none
  | fuel + 1 => do
    let (key, value, rest) ← readPair fuel text
    let members ← members.assign key.1 key.2 value
    match skipBlanks rest with
    | ',' :: rest => readMembers fuel members (skipBlanks rest)
    | '\x7d' :: rest => some (.table (toValues members), rest)
    | _ => none

/-- Reads a key and its value. -/
def readPair (fuel : Nat) (text : List Char) : Option (Dotted × Value × List Char) :=
  match fuel with
  | 0 => none
  | fuel + 1 => do
    let (key, rest) ← readDotted fuel text
    match rest with
    | '=' :: rest =>
      let (value, rest) ← readValue fuel (skipBlanks rest)
      some (key, value, rest)
    | _ => none

end

/-- What a line says. -/
inductive Line where
  | table (name : Dotted)
  | element (name : Dotted)
  | assignment (key : Dotted) (value : Value)

/-- Reads a line that says something. -/
def readLine (fuel : Nat) (text : List Char) : Option (Line × List Char) :=
  match text with
  | '[' :: '[' :: rest => do
    let (name, rest) ← readDotted fuel (skipBlanks rest)
    match rest with
    | ']' :: ']' :: rest => some (.element name, rest)
    | _ => none
  | '[' :: rest => do
    let (name, rest) ← readDotted fuel (skipBlanks rest)
    match rest with
    | ']' :: rest => some (.table name, rest)
    | _ => none
  | text => do
    let (key, value, rest) ← readPair fuel text
    some (.assignment key value, rest)

/-- Reads all lines. -/
def readLines (fuel : Nat) (text : List Char) : Option (List Line) :=
  match fuel with
  | 0 => none
  | fuel + 1 =>
    match skipLines fuel text with
    | [] => some []
    | text => do
      let (line, rest) ← readLine fuel text
      let lines ← readLines fuel (← endLine rest)
      some (line :: lines)

/-- The keys of a dotted key, the last one apart. -/
def Dotted.split (name : Dotted) : List String × String :=
  ((name.1 :: name.2).dropLast, (name.1 :: name.2).getLast (List.cons_ne_nil _ _))

/-- Adds lines to a document; `current` names the table that assignments go to. -/
def addLines (current : List String) (members : Members) : List Line → Option Members
  | [] => some members
  | .table name :: lines => do
    let (keys, key) := name.split
    addLines (keys ++ [key]) (← members.within keys (Members.beginTable key)) lines
  | .element name :: lines => do
    let (keys, key) := name.split
    addLines (keys ++ [key]) (← members.within keys (Members.beginElement key)) lines
  | .assignment key value :: lines => do
    addLines current (← members.within current (Members.assign key.1 key.2 value)) lines

/-- The outermost table of a document. -/
def parse? (text : String) : Option (List (String × Value)) := do
  let chars := text.toList
  let lines ← readLines (2 * chars.length + 2) chars
  some (toValues (← addLines [] [] lines))

end ChatNotify.Toml
