import ChatNotify.Telemetry.Level
import ChatNotify.Text.Alphanumeric

namespace ChatNotify.LogFilter

/-- Holds of the characters of a target. -/
def isTargetChar (c : Char) : Bool :=
  c.isAlphanumeric || c = '_' || c = ':' || c = '-'

/-- The level of a directive: a name, in either case, or one digit. -/
def level? (text : String) : Option LogLevel :=
  if text.length = 1 || (Text.count? text.toList).isNone && !text.isEmpty then LogLevel.ofText? text
  else none

/-- Passes a target. -/
def passTarget (text : List Char) : List Char :=
  text.dropWhile isTargetChar

/-- Passes a span, and says whether it asks for the value of a field. -/
def passSpan (text : List Char) : Option (Bool × List Char) :=
  match text with
  | '[' :: text =>
    let span := text.takeWhile (· ≠ ']')
    match text.drop span.length with
    | ']' :: rest => some ((span.dropWhile (· ≠ '\x7b')).contains '=', rest)
    | _ => none
  | text => some (false, text)

/-- The most that a directive lets through. The values of fields are not known in advance, and so a
directive that asks for one lets everything through. -/
def directive? (text : String) : Option LogLevel :=
  match level? text with
  | some level => some level
  | none => do
    let chars := text.toList
    let (asksForValue, rest) ← passSpan (passTarget chars)
    let rest := if chars.head? = some '[' then passTarget rest else rest
    guard (rest.length < chars.length)
    let level ←
      match rest with
      | [] | ['='] => some .trace
      | '=' :: name => level? (String.ofList name)
      | _ => none
    some (if asksForValue then .trace else level)

/-- The most that is logged anywhere, given the directives and the level of the settings. -/
def mostLogged (directives : String) (level : LogLevel) : LogLevel :=
  match (directives.toList.splitOn ',').filterMap fun text => directive? (String.ofList text) with
  | [] => level
  | first :: rest => rest.foldl LogLevel.mostOf first

end ChatNotify.LogFilter
