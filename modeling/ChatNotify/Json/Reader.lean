import ChatNotify.Json.Basic
import ChatNotify.Text.Digits

namespace ChatNotify.Json.Reader

/-- Holds of the white space of JSON. -/
def isSpace (c : Char) : Bool :=
  c = ' ' || c = '\t' || c = '\n' || c = '\r'

/-- Passes white space. -/
def skipSpace (text : List Char) : List Char :=
  text.dropWhile isSpace

/-- The character that two halves of a surrogate pair stand for. -/
def joinSurrogates (high low : Nat) : Char :=
  Char.ofNat (0x10000 + (high - 0xd800) * 0x400 + (low - 0xdc00))

/-- The character of a simple escape. -/
def escaped? (c : Char) : Option Char :=
  match c with
  | '"' => some '"'
  | '\\' => some '\\'
  | '/' => some '/'
  | 'b' => some '\x08'
  | 'f' => some '\x0c'
  | 'n' => some '\n'
  | 'r' => some '\r'
  | 't' => some '\t'
  | _ => none

/-- The characters read so far, last first, or `none` if half a surrogate pair was among them; `high`
is the first half of a pair whose second half has to follow. -/
structure Taken where
  chars : Option (List Char) := some []
  high : Option Nat := none

namespace Taken

/-- Adds a character that is written as itself or as a simple escape. -/
def push (taken : Taken) (c : Char) : Taken :=
  { chars := if taken.high.isSome then none else taken.chars.map (c :: ·) }

/-- Adds a character, or half of one, that is written as a number. -/
def pushUnit (taken : Taken) (unit : Nat) : Taken :=
  match taken.high with
  | some high =>
    if 0xdc00 ≤ unit && unit < 0xe000 then
      { chars := taken.chars.map (joinSurrogates high unit :: ·) }
    else { chars := none }
  | none =>
    if unit < 0xd800 || 0xe000 ≤ unit then { chars := taken.chars.map (Char.ofNat unit :: ·) }
    else if unit < 0xdc00 then { chars := taken.chars, high := unit }
    else { chars := none }

/-- The text that the characters make up. -/
def text? (taken : Taken) : Option String :=
  if taken.high.isSome then none
  else taken.chars.map fun chars => String.ofList chars.reverse

end Taken

/-- The rest of a string up to its closing quote, behind what has been taken. -/
def readStringAfter (taken : Taken) : List Char → Option (Option String × List Char)
  | [] => none
  | '"' :: rest => some (taken.text?, rest)
  | '\\' :: 'u' :: a :: b :: c :: d :: rest => do
    readStringAfter (taken.pushUnit (← Text.ofDigits? 16 [a, b, c, d])) rest
  | '\\' :: c :: rest => do readStringAfter (taken.push (← escaped? c)) rest
  | c :: rest => if c.val < 0x20 then none else readStringAfter (taken.push c) rest

/-- A number and what follows it. -/
def readNumber (text : List Char) : Option (Json × List Char) :=
  let negative := text.head? = some '-'
  let text := if negative then text.drop 1 else text
  let whole := text.takeWhile Char.isDigit
  let rest := text.drop whole.length
  if whole.isEmpty || whole.head? = some '0' && 1 < whole.length then none
  else do
    let (fraction, rest) ←
      match rest with
      | '.' :: rest =>
        let fraction := rest.takeWhile Char.isDigit
        if fraction.isEmpty then none else some (some fraction, rest.drop fraction.length)
      | _ => some (none, rest)
    let (exponent, rest) ←
      match rest with
      | e :: rest' =>
        if e = 'e' || e = 'E' then
          let minus := rest'.head? = some '-'
          let rest' := if minus || rest'.head? = some '+' then rest'.drop 1 else rest'
          let digits := rest'.takeWhile Char.isDigit
          (Text.ofDigits? 10 digits).map fun value =>
            (some (if minus then -(value : Int) else value), rest'.drop digits.length)
        else some (none, rest)
      | [] => some (none, rest)
    let digits ← Text.ofDigits? 10 (whole ++ fraction.getD [])
    let value : Json :=
      if fraction.isNone && exponent.isNone && !(negative && digits = 0) then
        .integer (if negative then -(digits : Int) else digits)
      else .decimal negative digits (exponent.getD 0 - (fraction.getD []).length)
    some (value, rest)

/-- A string from its opening quote on, and what follows it. -/
def readString : List Char → Option (Option String × List Char)
  | '"' :: rest => readStringAfter {} rest
  | _ => none

mutual

/-- A value and what follows it; `fuel` bounds the number of values. -/
def readValue (fuel : Nat) (text : List Char) : Option (Json × List Char) :=
  match fuel with
  | 0 => none
  | fuel + 1 =>
    match text with
    | 'n' :: 'u' :: 'l' :: 'l' :: rest => some (.null, rest)
    | 't' :: 'r' :: 'u' :: 'e' :: rest => some (.bool true, rest)
    | 'f' :: 'a' :: 'l' :: 's' :: 'e' :: rest => some (.bool false, rest)
    | '"' :: rest =>
      (readStringAfter {} rest).map fun (literal, rest) =>
        (literal.elim .illFormed .string, rest)
    | '[' :: rest =>
      match skipSpace rest with
      | ']' :: rest => some (.array [], rest)
      | rest => readElements fuel [] rest
    | '\x7b' :: rest =>
      match skipSpace rest with
      | '\x7d' :: rest => some (.object [], rest)
      | rest => readMembers fuel (some []) rest
    | _ => readNumber text

/-- The elements of an array from the next one on; `taken` holds those before it, last first. -/
def readElements (fuel : Nat) (taken : List Json) (text : List Char) :
    Option (Json × List Char) :=
  match fuel with
  | 0 => none
  | fuel + 1 => do
    let (value, rest) ← readValue fuel text
    match skipSpace rest with
    | ',' :: rest => readElements fuel (value :: taken) (skipSpace rest)
    | ']' :: rest => some (.array (value :: taken).reverse, rest)
    | _ => none

/-- The members of an object from the next one on; `taken` holds those before it, last first, or
`none` if a name among them was no text. -/
def readMembers (fuel : Nat) (taken : Option (List (String × Json))) (text : List Char) :
    Option (Json × List Char) :=
  match fuel with
  | 0 => none
  | fuel + 1 => do
    let (name, rest) ← readString text
    match skipSpace rest with
    | ':' :: rest =>
      let (value, rest) ← readValue fuel (skipSpace rest)
      let taken := do some ((← name, value) :: (← taken))
      match skipSpace rest with
      | ',' :: rest => readMembers fuel taken (skipSpace rest)
      | '\x7d' :: rest => some (taken.elim .illFormed fun members => .object members.reverse, rest)
      | _ => none
    | _ => none

end

end ChatNotify.Json.Reader

namespace ChatNotify.Json

/-- The value that the text stands for, if it is one JSON value. -/
def parse? (text : String) : Option Json :=
  let chars := text.toList
  match Reader.readValue (2 * chars.length + 1) (Reader.skipSpace chars) with
  | some (value, rest) => if (Reader.skipSpace rest).isEmpty then some value else none
  | none => none

end ChatNotify.Json
