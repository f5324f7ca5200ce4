import ChatNotify.Text.Alphanumeric
import ChatNotify.Markup.Delimiter
import ChatNotify.Markup.Html
import ChatNotify.Markup.Link

namespace ChatNotify.Markup.Inline

/-- What has been found so far: an item, or a bracket that may open a link or an image. -/
inductive Part where
  | found (item : Item)
  /-- `after` is the text behind the bracket; `crossed` holds when another bracket was opened
  later. -/
  | bracket (image : Bool) (after : List Char) (crossed : Bool)

/-- The parts found so far, nearest first. -/
structure State where
  parts : List Part := []
  /-- Holds when no bracket may open a link, because a link has ended since the last one. -/
  linksClosed : Bool := true
  /-- For every length the position of the run of backticks that was seen last as a possible end. -/
  lastTicks : List (Nat × Nat) := []
  /-- Holds when all runs of backticks have been seen. -/
  allTicksSeen : Bool := false
  /-- The kinds of enclosures of which one without an end has been seen. No other of the kind is opened
  from then on, and behind a comment without an end nothing that begins with an exclamation mark. -/
  unclosed : List Html.Enclosure := []

namespace Part

/-- The part as an item; a bracket is plain text. -/
def toItem : Part → Item
  | .found item => item
  | .bracket image _ _ => .finished (.text (if image then "![" else "["))

/-- The parts behind the nearest bracket, that bracket, and the parts in front of it. -/
def splitAtBracket (behind : List Part) :
    List Part → Option (List Part × (Bool × List Char × Bool) × List Part)
  | [] => none
  | .bracket image after crossed :: before => some (behind, (image, after, crossed), before)
  | part :: before => splitAtBracket (part :: behind) before

/-- The parts with the nearest bracket marked as crossed. -/
def crossNearest : List Part → List Part
  | [] => []
  | .bracket image after _ :: before => .bracket image after true :: before
  | part :: before => part :: crossNearest before

end Part

namespace State

/-- Adds a node. -/
def push (state : State) (node : Node) : State :=
  { state with parts := .found (.finished node) :: state.parts }

/-- Adds plain text. -/
def pushText (state : State) (text : List Char) : State :=
  state.push (.text (String.ofList text))

/-- Holds when the last part is a line break. -/
def endsInBreak (state : State) : Bool :=
  match state.parts with
  | .found (.finished (.branch .lineBreak _)) :: _ => true
  | _ => false

/-- Adds a bracket, where `after` is the text behind it. -/
def pushBracket (state : State) (image : Bool) (after : List Char) : State :=
  { state with
    parts := .bracket image after false :: Part.crossNearest state.parts
    linksClosed := state.linksClosed && image }

/-- The nodes that have been found. -/
def nodes (state : State) : List Node :=
  Item.resolve (state.parts.reverse.map Part.toItem)

end State

/-- Holds of the characters that may mean something other than themselves. -/
def isSpecial (c : Char) : Bool :=
  isLineEnd c || c ∈ ['\x60', '\\', '&', '<', '*', '_', '~', '[', ']', '!']

/-- The length of the text in front of what follows it. -/
def taken (text rest : List Char) : Nat :=
  text.length - rest.length

/-- Looks for a run of just `count` backticks, where `run` backticks stand right in front of the text,
which begins at `position`. Answers where that run begins, and the position of each run that was
passed, by its length. -/
def findTicks (count run position : Nat) (seen : List (Nat × Nat)) :
    List Char → Option Nat × List (Nat × Nat)
  | [] =>
    let seen := if 0 < run then (run, position - run) :: seen else seen
    (if run = count then some (position - run) else none, seen)
  | c :: rest =>
    if c = '\x60' then findTicks count (run + 1) (position + 1) seen rest
    else
      let seen := if 0 < run then (run, position - run) :: seen else seen
      if run = count then (some (position - run), seen)
      else findTicks count 0 (position + 1) seen rest

/-- The content of a code span: line ends are spaces, and one space at each end is dropped unless
nothing else is there. -/
def codeContent (text : List Char) : List Char :=
  let text := text.map fun c => if isLineEnd c then ' ' else c
  if 2 ≤ text.length && text.head? = some ' ' && text.getLast? = some ' ' &&
      text.any (fun c => c ≠ ' ') then (text.drop 1).dropLast
  else text

/-- A code span behind its first backtick, which stands at `position`, or the run of backticks itself
as text. A run of more than eighty opens nothing, and neither does one, once all runs have been seen,
that lies behind the run of its length seen last. -/
def stepTicks (position : Nat) (rest : List Char) (state : State) : State × Nat :=
  let more := (rest.takeWhile (· = '\x60')).length
  let text := state.pushText (List.replicate (more + 1) '\x60')
  let start := position + more + 1
  let last := (state.lastTicks.lookup (more + 1)).getD 0
  if 80 ≤ more || state.allTicksSeen && last ≤ start then (text, more)
  else
    let behind := rest.drop more
    match findTicks (more + 1) 0 start state.lastTicks behind with
    | (some finish, seen) =>
      let code := Node.verbatim .code (String.ofList (codeContent (behind.take (finish - start))))
      ({ state.push code with lastTicks := seen }, finish - position + more)
    | (none, seen) => ({ text with lastTicks := seen, allTicksSeen := true }, more)

/-- An escape behind its backslash: punctuation stands for itself, and a line end breaks the line. -/
def stepEscape (rest : List Char) (state : State) : State × Nat :=
  match rest with
  | c :: _ =>
    if c.isAsciiPunctuation then (state.pushText [c], 1)
    else if isLineEnd c then (state.push (.branch .lineBreak []), 1)
    else (state.pushText ['\\'], 0)
  | [] => (state.pushText ['\\'], 0)

/-- An address, raw HTML, or the angle bracket itself. -/
def stepAngle (rest : List Char) (state : State) : State × Nat :=
  let link (scheme : String) (address after : List Char) :=
    let text := String.ofList (Entity.replaceAll address)
    (state.push (.branch (.link (scheme ++ text) "") [.text text]), taken rest after)
  let opening := Html.Enclosure.opening? rest
  let hidden := opening.any (· ∈ state.unclosed) ||
    (Html.Enclosure.comment ∈ state.unclosed && rest.head? = some '!')
  let html := if hidden then none else Html.scanInline rest
  match Link.readAddress rest, Link.readMail rest, html with
  | some (address, after), _, _ => link "" address after
  | none, some (address, after), _ => link "mailto:" address after
  | none, none, some after =>
    let length := taken rest after
    (state.push (.verbatim .htmlInline (String.ofList ('<' :: rest.take length))), length)
  | none, none, none =>
    ({ state with unclosed := opening.toList ++ state.unclosed }.pushText ['<'], 0)

/-- A run of marks; `before` holds the characters in front of it, last first. Whether it opens or
closes emphasis depends on its neighbours, where tildes are passed over. A run of three or more
tildes does neither. -/
def stepMarks (mark : Char) (before rest : List Char) (state : State) : State × Nat :=
  let more := (rest.takeWhile (· = mark)).length
  let neighbour (text : List Char) := ((text.dropWhile (· = '~')).head?).getD '\n'
  let previous := neighbour before
  let next := neighbour (rest.drop more)
  let opens := !next.isBlank &&
    (!next.isPunctuation || previous.isBlank || previous.isPunctuation)
  let closes := !previous.isBlank &&
    (!previous.isPunctuation || next.isBlank || next.isPunctuation)
  let run : Run :=
    { mark
      length := more + 1
      left := more + 1
      opens := if mark = '_' then opens && (!closes || previous.isPunctuation) else opens
      closes := if mark = '_' then closes && (!opens || next.isPunctuation) else closes }
  if (run.opens || run.closes) && (mark ≠ '~' || run.length ≤ 2) then
    ({ state with parts := .found (.marks run) :: state.parts }, more)
  else (state.pushText (List.replicate (more + 1) mark), more)

/-- The target in parentheses behind a closing bracket, and what follows it. -/
def readInlineTarget : List Char → Option (Target × List Char)
  | '(' :: rest => do
    let (destination, rest) ← Link.readDestination (Link.skipSpace rest)
    let titleStart := Link.skipSpace rest
    let (title, rest) :=
      if titleStart.length = rest.length then ([], titleStart)
      else (Link.readTitle titleStart).getD ([], titleStart)
    match Link.skipSpace rest with
    | ')' :: rest => some (⟨Link.cleaned destination, Link.cleaned title⟩, rest)
    | _ => none
  | _ => none

/-- The target that a closing bracket leads to, and what follows it: a target in parentheses, the
definition of the label behind it, or that of the text between the brackets. -/
def findTarget (references : References) (label : List Char) (crossed : Bool) (rest : List Char) :
    Option (Target × List Char) :=
  match readInlineTarget rest with
  | some found => some found
  | none =>
    let explicit := Link.readLabel rest
    let find (label rest : List Char) :=
      (references.lookup (Link.normalizeLabel label)).map (·, rest)
    match explicit with
    | some (explicit, after) =>
      if explicit.isEmpty then if crossed then none else find label after
      else find explicit after
    | none => if crossed then none else find label rest

/-- A closing bracket, in front of `rest`. -/
def stepClose (references : References) (rest : List Char) (state : State) : State × Nat :=
  match Part.splitAtBracket [] state.parts with
  | none => (state.pushText [']'], 0)
  | some (behind, (image, after, crossed), before) =>
    let asText :=
      { state with
        parts := behind.reverse ++ Part.found (Part.bracket image after crossed).toItem :: before }
    if !image && state.linksClosed then (asText.pushText [']'], 0)
    else
      match findTarget references (after.take (after.length - rest.length - 1)) crossed rest with
      | none => (asText.pushText [']'], 0)
      | some (target, tail) =>
        let destination := String.ofList target.destination
        let title := String.ofList target.title
        let kind := if image then Branch.image destination title else .link destination title
        let node := Node.branch kind (Item.resolve (behind.map Part.toItem))
        ({ state with
           parts := .found (.finished node) :: before
           linksClosed := state.linksClosed || !image }, taken rest tail)

/-- Reads the construct that begins with `c`, in front of `rest` and behind `before`; the number is
that of the characters it takes up beyond `c`. -/
def step (references : References) (before : List Char) (c : Char) (rest : List Char)
    (state : State) : State × Nat :=
  match c with
  | '\n' | '\r' =>
    let hard := [' ', ' '].isPrefixOf before
    (state.push (.branch (if hard then .lineBreak else .softBreak) []),
      (rest.takeWhile isGap).length)
  | '\x60' => stepTicks before.length rest state
  | '\\' => stepEscape rest state
  | '&' =>
    match Entity.read rest with
    | some (chars, length) => (state.pushText chars, length)
    | none => (state.pushText ['&'], 0)
  | '<' => stepAngle rest state
  | '*' | '_' | '~' => stepMarks c before rest state
  | '[' => (state.pushBracket false rest, 0)
  | ']' => stepClose references rest state
  | '!' =>
    match rest with
    | '[' :: after =>
      if after.head? = some '^' then (state.pushText ['!'], 0) else (state.pushBracket true after, 1)
    | _ => (state.pushText ['!'], 0)
  | _ =>
    let more := rest.takeWhile fun c => !isSpecial c
    let text := c :: more
    let text :=
      if (rest.drop more.length).head?.any isLineEnd then Text.trimEndBy Char.isAsciiSpace text
      else text
    let text := if state.endsInBreak then text.dropWhile Char.isAsciiSpace else text
    (state.pushText text, more.length)

/-- Reads the text behind `before` of which `skip` characters have been taken up. -/
def scan (references : References) (before : List Char) (skip : Nat) :
    List Char → State → State
  | [], state => state
  | c :: rest, state =>
    match skip with
    | skip + 1 => scan references (c :: before) skip rest state
    | 0 =>
      let (state, skip) := step references before c rest state
      scan references (c :: before) skip rest state

/-- The nodes that the text of a paragraph, a heading or a table cell is made of. -/
def parse (references : References) (text : List Char) : List Node :=
  (scan references [] 0 (Text.trimEndBy Char.isAsciiSpace text) {}).nodes

end ChatNotify.Markup.Inline
