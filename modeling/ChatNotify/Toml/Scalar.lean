import ChatNotify.Settings.Value
import ChatNotify.Time.Timestamp

namespace ChatNotify.Toml

open Settings (Value)

/-- Groups of digits with underscores between them. -/
def groups? (base : Nat) (text : List Char) : Option (List Char) :=
  let groups := text.splitOn '_'
  if groups.all fun group => !group.isEmpty && group.all fun c => (Text.digit? base c).isSome then
    some groups.flatten
  else none

/-- Digits of a decimal number, which has no zeros in front. -/
def whole? (text : List Char) : Option (List Char) :=
  (groups? 10 text).filter fun digits => digits.head? ≠ some '0' || digits.length = 1

/-- Takes the sign off a number, and says whether it is a minus. -/
def splitSign : List Char → Bool × List Char
  | '-' :: rest => (true, rest)
  | '+' :: rest => (false, rest)
  | text => (false, text)

/-- An integer of 64 bits. Only decimal ones have a sign. -/
def integer? (text : List Char) : Option Int := do
  let value : Int ←
    match text with
    | '0' :: 'x' :: digits => ((groups? 16 digits).bind (Text.ofDigits? 16)).map Int.ofNat
    | '0' :: 'o' :: digits => ((groups? 8 digits).bind (Text.ofDigits? 8)).map Int.ofNat
    | '0' :: 'b' :: digits => ((groups? 2 digits).bind (Text.ofDigits? 2)).map Int.ofNat
    | text =>
      let (negative, digits) := splitSign text
      ((whole? digits).bind (Text.ofDigits? 10)).map fun value =>
        if negative then -(value : Int) else value
  guard (isSignedWord value)
  some value

/-- The double nearest to `digits · 10 ^ exponent`, if it is finite. -/
def nearest? (digits : Nat) (exponent : Int) : Option Float :=
  let places : Int := (Nat.toDigits 10 digits).length
  if digits = 0 || places + exponent < -400 then some 0
  else if 400 < places + exponent then none
  else
    let value := Float.ofScientific digits (exponent < 0) exponent.natAbs
    if value.isFinite then some value else none

/-- A number with a fraction, an exponent or both, or one that is not finite. -/
def real? (text : List Char) : Option Float := do
  let (negative, text) := splitSign text
  let size ←
    if text = ['i', 'n', 'f'] then some (1.0 / 0.0)
    else if text = ['n', 'a', 'n'] then some (0.0 / 0.0)
    else do
      let isPart := fun (c : Char) => c.isDigit || c = '_'
      let whole ← whole? (text.takeWhile isPart)
      let rest := text.dropWhile isPart
      let (fraction, rest) ←
        match rest with
        | '.' :: rest => (groups? 10 (rest.takeWhile isPart)).map (·, rest.dropWhile isPart)
        | rest => some ([], rest)
      let exponent : Int ←
        match rest with
        | [] => if fraction.isEmpty then none else some 0
        | e :: rest =>
          let (negative, digits) := splitSign rest
          if e = 'e' || e = 'E' then
            ((groups? 10 digits).bind (Text.ofDigits? 10)).map fun value =>
              if negative then -(value : Int) else value
          else none
      nearest? (← Text.ofDigits? 10 (whole ++ fraction)) (exponent - fraction.length)
  some (if negative then -size else size)

/-- Holds of times that exist. Any minute may have a leap second. -/
def isClock (clock : TimeOfDay) : Bool :=
  clock.second = 60 && { clock with second := 59 }.isValid || clock.isValid

/-- The text of an offset from UTC, which may be written as `Z`. -/
def offset? (text : List Char) : Option String :=
  match text with
  | [] => some ""
  | ['Z'] | ['z'] => some "Z"
  | text => (LocalTime.readOffset text).map fun offset =>
    if offset = 0 then "+00:00" else LocalTime.offsetText offset

/-- A date, a time, or both. -/
def dateTime? (text : List Char) : Option String :=
  match LocalTime.readDate text with
  | some (date, rest) => do
    guard date.isValid
    match rest with
    | [] => some (LocalTime.dateText date)
    | separator :: rest =>
      let (clock, rest) ← LocalTime.readTime rest
      guard (separator ∈ ['T', 't', ' '] && isClock clock)
      some (LocalTime.dateText date ++ "T" ++ LocalTime.clockText clock ++ (← offset? rest))
  | none => do
    let (clock, rest) ← LocalTime.readTime text
    guard (rest.isEmpty && isClock clock)
    some (LocalTime.clockText clock)

/-- The value that a text stands for. -/
def scalar? (text : List Char) : Option Value :=
  if text = ['t', 'r', 'u', 'e'] then some (.bool true)
  else if text = ['f', 'a', 'l', 's', 'e'] then some (.bool false)
  else ((integer? text).map Value.integer).or
    (((real? text).map Value.real).or ((dateTime? text).map Value.text))

/-- Holds of the characters of such values. -/
def isScalarChar (c : Char) : Bool :=
  c.isAlphanum || c = '+' || c = '-' || c = '.' || c = '_' || c = ':'

/-- Reads a value. A space may stand between a date and a time. -/
def readScalar (text : List Char) : Option (Value × List Char) :=
  let first := text.takeWhile isScalarChar
  let rest := text.drop first.length
  match rest with
  | ' ' :: time =>
    let second := time.takeWhile isScalarChar
    if (dateTime? first).isSome && (LocalTime.readTime second).isSome then
      (scalar? (first ++ ' ' :: second)).map (·, time.drop second.length)
    else (scalar? first).map (·, rest)
  | _ => (scalar? first).map (·, rest)

end ChatNotify.Toml
