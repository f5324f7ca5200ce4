import ChatNotify.Time.Instant

namespace ChatNotify

/-- A date. The months are counted from one. -/
structure Date where
  year : Int
  month : Nat
  day : Nat
  deriving Repr, DecidableEq

/-- A time of day. -/
structure TimeOfDay where
  hour : Nat
  minute : Nat
  second : Nat
  nanos : Nat
  deriving Repr, DecidableEq

namespace Date

/-- Holds of the years that have a day more. -/
def isLeapYear (year : Int) : Bool :=
  year % 4 = 0 && (year % 100 ≠ 0 || year % 400 = 0)

/-- The number of days of a month. -/
def monthLength (year : Int) (month : Nat) : Nat :=
  match month with
  | 2 => if isLeapYear year then 29 else 28
  | 4 | 6 | 9 | 11 => 30
  | _ => 31

/-- Holds of dates that exist. -/
def isValid (date : Date) : Bool :=
  1 ≤ date.month && date.month ≤ 12 && 1 ≤ date.day && date.day ≤ monthLength date.year date.month

/-- The days of four hundred years. -/
def cycleDays : Int := 146097

/-- The days from the first of March of the year zero to the start of 1970. -/
def daysBeforeEpoch : Int := 719468

/-- The days from the first of March to the first day of a month, the months counted from March. -/
def dayOfYear (month : Int) : Int :=
  (153 * month + 2) / 5

/-- The days since the start of 1970. Years are counted from March, so that the day of a leap year
comes last. -/
def dayNumber (date : Date) : Int :=
  let year := if date.month ≤ 2 then date.year - 1 else date.year
  let month : Int := (date.month + 9) % 12
  let ofCycle := year % 400
  let day := dayOfYear month + date.day - 1
  year / 400 * cycleDays + (365 * ofCycle + ofCycle / 4 - ofCycle / 100 + day) - daysBeforeEpoch

/-- The date of a number of days since the start of 1970. A cycle has four centuries, a century
twenty-five periods of four years, and such a period four years; the last of each may have one day
more than the others. -/
def ofDayNumber (days : Int) : Date :=
  let shifted := days + daysBeforeEpoch
  let inCycle := shifted % cycleDays
  let century := min 3 (inCycle / 36524)
  let inCentury := inCycle - 36524 * century
  let period := min 24 (inCentury / 1461)
  let inPeriod := inCentury - 1461 * period
  let ofPeriod := min 3 (inPeriod / 365)
  let day := inPeriod - 365 * ofPeriod
  let month := (5 * day + 2) / 153
  let year := shifted / cycleDays * 400 + 100 * century + 4 * period + ofPeriod
  { year := if month < 10 then year else year + 1
    month := (if month < 10 then month + 3 else month - 9).toNat
    day := (day - dayOfYear month + 1).toNat }

end Date

namespace TimeOfDay

/-- Holds of times that exist. -/
def isValid (time : TimeOfDay) : Bool :=
  time.hour < 24 && time.minute < 60 && time.second < 60 && time.nanos < nanosPerSecond

/-- The nanoseconds since midnight. -/
def nanosOfDay (time : TimeOfDay) : Nat :=
  ((time.hour * 60 + time.minute) * 60 + time.second) * nanosPerSecond + time.nanos

/-- The time that many nanoseconds after midnight. -/
def ofNanos (nanos : Nat) : TimeOfDay :=
  let seconds := nanos / nanosPerSecond
  { hour := seconds / 3600
    minute := seconds / 60 % 60
    second := seconds % 60
    nanos := nanos % nanosPerSecond }

end TimeOfDay

/-- The nanoseconds of a day. -/
def nanosPerDay : Nat := 86400 * nanosPerSecond

namespace Instant

/-- The date of an instant. -/
def date (instant : Instant) : Date :=
  Date.ofDayNumber (instant.nanos / nanosPerDay)

/-- The time of day of an instant. -/
def timeOfDay (instant : Instant) : TimeOfDay :=
  TimeOfDay.ofNanos (instant.nanos % nanosPerDay).toNat

/-- The instant at a time of a date. -/
def ofDateTime (date : Date) (time : TimeOfDay) : Instant :=
  ⟨date.dayNumber * nanosPerDay + time.nanosOfDay⟩

/-- Holds of the instants of the years from -9999 to 9999. -/
def isInCalendar (instant : Instant) : Bool :=
  -9999 ≤ instant.date.year && instant.date.year ≤ 9999

end Instant

end ChatNotify
