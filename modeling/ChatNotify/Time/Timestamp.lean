import ChatNotify.Text.Digits
import ChatNotify.Time.Calendar

namespace ChatNotify

/-- A point in time, and the offset from UTC, in seconds, with which it is written. -/
structure LocalTime where
  instant : Instant
  offset : Int := 0
  deriving Repr, DecidableEq

namespace LocalTime

/-- The instant at which a clock in UTC shows what the clock at the offset shows. -/
def shown (time : LocalTime) : Instant :=
  ⟨time.instant.nanos + time.offset * nanosPerSecond⟩

/-- The point in time at which a clock at the offset shows a time of a date. -/
def ofShown (date : Date) (time : TimeOfDay) (offset : Int) : LocalTime :=
  { instant := ⟨(Instant.ofDateTime date time).nanos - offset * nanosPerSecond⟩
    offset := offset }

/-- The fraction of a second, without zeros at its end, and nothing if it is zero. -/
def fractionText (nanos : Nat) : String :=
  if nanos = 0 then ""
  else
    let digits := (Text.padded 9 nanos).toList
    "." ++ String.ofList ((digits.reverse.dropWhile (· = '0')).reverse)

/-- The text of an offset of whole minutes. -/
def offsetText (offset : Int) : String :=
  if offset = 0 then "Z"
  else
    let minutes := offset.natAbs / 60
    (if offset < 0 then "-" else "+") ++ Text.padded 2 (minutes / 60) ++ ":"
      ++ Text.padded 2 (minutes % 60)

/-- The text of a date whose year has four digits at most. -/
def dateText (date : Date) : String :=
  Text.padded 4 date.year.toNat ++ "-" ++ Text.padded 2 date.month ++ "-" ++ Text.padded 2 date.day

/-- The text of a time of day. -/
def clockText (clock : TimeOfDay) : String :=
  Text.padded 2 clock.hour ++ ":" ++ Text.padded 2 clock.minute ++ ":" ++ Text.padded 2 clock.second
    ++ fractionText clock.nanos

/-- The text of a point in time. There is none for years that have not four digits, and none for
offsets of a day or of parts of a minute. -/
def text? (time : LocalTime) : Option String :=
  let date := time.shown.date
  if 0 ≤ date.year && date.year ≤ 9999 && time.offset.natAbs < 86400 && time.offset % 60 = 0 then
    some (dateText date ++ "T" ++ clockText time.shown.timeOfDay ++ offsetText time.offset)
  else none

/-- Reads a number of exactly that many digits. -/
def readNumber (width : Nat) (text : List Char) : Option (Nat × List Char) :=
  if text.length < width then none
  else (Text.ofDigits? 10 (text.take width)).map (·, text.drop width)

/-- Passes one character. -/
def passChar (c : Char) (text : List Char) : Option (List Char) :=
  match text with
  | first :: rest => if first = c then some rest else none
  | [] => none

/-- Reads the date. -/
def readDate (text : List Char) : Option (Date × List Char) := do
  let (year, text) ← readNumber 4 text
  let text ← passChar '-' text
  let (month, text) ← readNumber 2 text
  let text ← passChar '-' text
  let (day, text) ← readNumber 2 text
  some (⟨year, month, day⟩, text)

/-- Reads the fraction of a second, if there is one, in nanoseconds. -/
def readFraction (text : List Char) : Option (Nat × List Char) :=
  match text with
  | '.' :: text =>
    let digits := text.takeWhile Char.isDigit
    (Text.ofDigits? 10 (digits.take 9)).map fun value =>
      (value * Nat.pow 10 (9 - digits.length), text.dropWhile Char.isDigit)
  | _ => some (0, text)

/-- Reads the time of day, whose values may be too large. -/
def readTime (text : List Char) : Option (TimeOfDay × List Char) := do
  let (hour, text) ← readNumber 2 text
  let text ← passChar ':' text
  let (minute, text) ← readNumber 2 text
  let text ← passChar ':' text
  let (second, text) ← readNumber 2 text
  let (nanos, text) ← readFraction text
  some (⟨hour, minute, second, nanos⟩, text)

/-- Reads the offset, which ends the text, in seconds. -/
def readOffset (text : List Char) : Option Int :=
  match text with
  | ['Z'] | ['z'] => some 0
  | sign :: text => do
    guard (sign = '+' || sign = '-')
    let (hours, text) ← readNumber 2 text
    let text ← passChar ':' text
    let (minutes, text) ← readNumber 2 text
    guard (hours < 24 && minutes < 60 && text.isEmpty)
    let seconds : Int := (hours * 60 + minutes) * 60
    some (if sign = '-' then -seconds else seconds)
  | [] => none

/-- Holds of the last second of a month, UTC. -/
def isEndOfMonth (instant : Instant) : Bool :=
  let date := instant.date
  let clock := instant.timeOfDay
  date.day = Date.monthLength date.year date.month && clock.hour = 23 && clock.minute = 59
    && clock.second = 59

/-- Reads a point in time. Any ASCII character may stand between date and time, digits beyond the
nanosecond are cut off, and a leap second, which is at the end of a month only, counts as the last
nanosecond before it. -/
def ofText? (text : String) : Option LocalTime := do
  let (date, rest) ← readDate text.toList
  let separator :: rest := rest | none
  guard (separator.val < 128)
  let (clock, rest) ← readTime rest
  let offset ← readOffset rest
  let isLeap := clock.second = 60
  let clock := if isLeap then { clock with second := 59, nanos := nanosPerSecond - 1 } else clock
  guard (date.isValid && clock.isValid)
  let time := ofShown date clock offset
  guard (!isLeap || isEndOfMonth time.instant)
  some time

end LocalTime

end ChatNotify
