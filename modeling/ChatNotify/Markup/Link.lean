import ChatNotify.Text.Blank
import ChatNotify.Text.CaseFold
import ChatNotify.Text.Punctuation
import ChatNotify.Markup.Entity
import ChatNotify.Markup.Line

namespace ChatNotify.Markup

/-- Where a link leads, as it was written. -/
structure Target where
  destination : List Char
  title : List Char
  deriving Repr, DecidableEq

/-- The definitions of references, by normalised label. -/
abbrev References := List (String × Target)

namespace Link

/-- Passes the ASCII white space at the head. -/
def skipSpace (text : List Char) : List Char :=
  text.dropWhile Char.isAsciiSpace

/-- The text of a label behind its opening bracket, without the closing one, and what follows. The
characters before it are in `taken`, last first, and `left` more bytes may come. -/
def readLabelAfter (taken : List Char) (left : Nat) : List Char → Option (List Char × List Char)
  | [] => none
  | '[' :: _ => none
  | ']' :: rest => some (Text.trimBy Char.isAsciiSpace taken.reverse, rest)
  | '\\' :: c :: rest =>
    if c.isAsciiPunctuation then
      if left < 2 then none else readLabelAfter (c :: '\\' :: taken) (left - 2) rest
    else if left < 1 then none else readLabelAfter ('\\' :: taken) (left - 1) (c :: rest)
  | c :: rest =>
    if left < c.utf8Size then none else readLabelAfter (c :: taken) (left - c.utf8Size) rest
termination_by text => text.length

/-- A label between brackets, which may hold up to a thousand bytes, and what follows it. -/
def readLabel : List Char → Option (List Char × List Char)
  | '[' :: rest => readLabelAfter [] 1000 rest
  | _ => none

/-- Replaces every run of white space by one space. -/
def collapseBlanks (pending : Bool) : List Char → List Char
  | [] => []
  | c :: rest =>
    if c.isBlank then if pending then collapseBlanks true rest else ' ' :: collapseBlanks true rest
    else c :: collapseBlanks false rest

/-- The form in which labels are compared: without white space at the ends, each run of white space
as one space, and with case folded. -/
def normalizeLabel (label : List Char) : String :=
  String.ofList (Text.caseFold (collapseBlanks false (Text.trimBy Char.isBlank label)))

/-- A destination between angle brackets, behind the opening one. -/
def readBracketed (taken : List Char) : List Char → Option (List Char × List Char)
  | '>' :: rest => if rest.isEmpty then none else some (taken.reverse, rest)
  | '\\' :: c :: rest => readBracketed (c :: '\\' :: taken) rest
  | '\n' :: _ | '\r' :: _ | '<' :: _ => none
  | c :: rest => readBracketed (c :: taken) rest
  | [] => none

/-- A destination without brackets: no white space, and parentheses in pairs, of which `depth` are
open. -/
def readBare (taken : List Char) (depth : Nat) : List Char → Option (List Char × List Char)
  | [] => if taken.isEmpty || 0 < depth then none else some (taken.reverse, [])
  | '\\' :: c :: rest =>
    if c.isAsciiPunctuation then readBare (c :: '\\' :: taken) depth rest
    else readBare ('\\' :: taken) depth (c :: rest)
  | '(' :: rest => if 32 ≤ depth then none else readBare ('(' :: taken) (depth + 1) rest
  | ')' :: rest =>
    if depth = 0 then some (taken.reverse, ')' :: rest)
    else readBare (')' :: taken) (depth - 1) rest
  | c :: rest =>
    if c.isAsciiSpace || c.val < 32 || c.val = 127 then
      if taken.isEmpty || 0 < depth then none else some (taken.reverse, c :: rest)
    else readBare (c :: taken) depth rest
termination_by text => text.length

/-- A destination and what follows it; one between brackets may not end the text. -/
def readDestination : List Char → Option (List Char × List Char)
  | '<' :: rest => readBracketed [] rest
  | text => readBare [] 0 text

/-- What stands in front of the last mark that may close a title, and what follows it: a mark behind
a backslash closes the title only if no later one does. -/
def readTitleTo (close : Char) (refuse : Option Char) (taken : List Char) (escaped : Bool)
    (best : Option (List Char × List Char)) : List Char → Option (List Char × List Char)
  | [] => best
  | c :: rest =>
    if c = close then
      let here := some (taken.reverse, rest)
      if escaped then readTitleTo close refuse (c :: taken) false here rest else here
    else if some c = refuse && !escaped then best
    else readTitleTo close refuse (c :: taken) (c = '\\') best rest

/-- A title between quotes or parentheses, and what follows it. -/
def readTitle : List Char → Option (List Char × List Char)
  | '"' :: rest => readTitleTo '"' none [] false none rest
  | '\'' :: rest => readTitleTo '\'' none [] false none rest
  | '(' :: rest => readTitleTo ')' (some '(') [] false none rest
  | _ => none

/-- Drops the backslash in front of punctuation. -/
def unescaped : List Char → List Char
  | '\\' :: c :: rest =>
    if c.isAsciiPunctuation then c :: unescaped rest else '\\' :: unescaped (c :: rest)
  | c :: rest => c :: unescaped rest
  | [] => []
termination_by text => text.length

/-- The text that a destination or a title stands for. -/
def cleaned (text : List Char) : List Char :=
  unescaped (Entity.replaceAll text)

/-- Passes spaces and tabs, and with them at most one line end. -/
def skipGapAndLine (text : List Char) : List Char :=
  match text.dropWhile isGap with
  | '\n' :: rest => rest.dropWhile isGap
  | other => other

/-- What follows the line end behind spaces and tabs; `none` if something else comes first. -/
def afterLineEnd (text : List Char) : Option (List Char) :=
  match text.dropWhile isGap with
  | [] => some []
  | '\n' :: rest => some rest
  | _ => none

/-- The definition of a reference at the head of a paragraph and what follows it. A title that does
not end its line is no title, and then the destination must end its own. -/
def readDefinition (text : List Char) : Option ((String × Target) × List Char) := do
  let (label, rest) ← readLabel text
  if label.isEmpty then none
  match rest with
  | ':' :: rest =>
    let (destination, rest) ← readDestination (skipGapAndLine rest)
    let titleStart := skipGapAndLine rest
    let titled := if titleStart.length = rest.length then none else readTitle titleStart
    match titled.bind fun (title, rest) => (afterLineEnd rest).map (title, ·) with
    | some (title, rest) => some ((normalizeLabel label, ⟨cleaned destination, cleaned title⟩), rest)
    | none =>
      let rest ← afterLineEnd rest
      some ((normalizeLabel label, ⟨cleaned destination, []⟩), rest)
  | _ => none

/-- The definitions at the head of a paragraph and what is left of it; `fuel` bounds their number. -/
def readDefinitions (fuel : Nat) (text : List Char) : References × List Char :=
  match fuel with
  | 0 => ([], text)
  | fuel + 1 =>
    match readDefinition text with
    | none => ([], text)
    | some (definition, rest) =>
      let (more, rest) := readDefinitions fuel rest
      (definition :: more, rest)

/-- The definitions at the head of a paragraph and what is left of it. -/
def definitions (text : List Char) : References × List Char :=
  readDefinitions text.length text

/-- Reads an absolute address behind an opening angle bracket: a scheme of two to thirty-two
characters, a colon, and no white space, control characters or angle brackets. -/
def readAddress (text : List Char) : Option (List Char × List Char) :=
  let scheme := text.takeWhile fun c => c.isAlphanum || c = '.' || c = '+' || c = '-'
  if text.head?.any Char.isAlpha && 2 ≤ scheme.length && scheme.length ≤ 32 &&
      text[scheme.length]? = some ':' then
    let stop (c : Char) := c = '<' || c = '>' || c.val ≤ 32
    let address := text.takeWhile fun c => !stop c
    if text[address.length]? = some '>' then some (address, text.drop (address.length + 1)) else none
  else none

/-- Holds of the characters in front of the at sign of a mail address. -/
def isMailboxChar (c : Char) : Bool :=
  c.isAlphanum || c ∈ ".!#$%&'*+/=?^_\x60\x7b|\x7d~-".toList

/-- Holds of one part of a domain: up to 63 letters, digits and hyphens, with none at the ends. -/
def isDomainPart (part : List Char) : Bool :=
  part.length ≤ 63 && part.head?.any Char.isAlphanum && part.getLast?.any Char.isAlphanum &&
    part.all fun c => c.isAlphanum || c = '-'

/-- Reads a mail address behind an opening angle bracket. -/
def readMail (text : List Char) : Option (List Char × List Char) :=
  let mailbox := text.takeWhile isMailboxChar
  match text.drop mailbox.length with
  | '@' :: rest =>
    let domain := rest.takeWhile fun c => c.isAlphanum || c = '-' || c = '.'
    if !mailbox.isEmpty && (domain.splitOn '.').all isDomainPart &&
        rest[domain.length]? = some '>' then
      some (mailbox ++ '@' :: domain, rest.drop (domain.length + 1))
    else none
  | _ => none

end Link

end ChatNotify.Markup
