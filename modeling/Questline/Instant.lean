import Questline.Text.Decimal

/-!
# Instants

Points of universal time to the nanosecond, the whole seconds between two of them, and their text
as an Internet date and time in the Gregorian calendar.
-/

namespace Questline

/-- Seconds since the start of 1970, and the nanoseconds beyond them. A billion nanoseconds or more
stand for the leap second that follows the second. -/
structure Instant where
  seconds : Int
  nanos : Nat
deriving DecidableEq, Repr, Inhabited

namespace Instant

def billion : Nat := 1000000000

/-- The seconds from the first one of the year -262143 to the last one of the year 262142. -/
def InCalendar (seconds : Int) : Prop := -8334601228800 ≤ seconds ∧ seconds ≤ 8210266876799

instance (seconds : Int) : Decidable (InCalendar seconds) := inferInstanceAs (Decidable (_ ∧ _))

/-- The instant at a count of seconds and nanoseconds, if the calendar reaches it. A leap second
follows the last second of a minute only. -/
def ofUnix? (seconds : Int) (nanos : Nat) : Option Instant :=
  if InCalendar seconds ∧ (nanos < billion ∨ nanos < 2 * billion ∧ seconds.fmod 60 = 59) then
    some ⟨seconds, nanos⟩
  else none

def inLeapSecond (t : Instant) : Bool := billion ≤ t.nanos

def secondOfDay (t : Instant) : Nat := (t.seconds.fmod 86400).toNat

/-- Nanoseconds since the start of 1970, leap seconds before this one not counted. -/
def total (t : Instant) : Int := t.seconds * billion + t.nanos

/-- The leap second that a way from `start` to `finish` crosses: that of the instant with the
earlier time of day, in the direction of the way. -/
def leapBetween (start finish : Instant) : Int :=
  if start.secondOfDay < finish.secondOfDay ∧ start.inLeapSecond then 1
  else if finish.secondOfDay < start.secondOfDay ∧ finish.inLeapSecond then -1
  else 0

/-- Whole seconds from one instant to another; a fraction is dropped toward zero. -/
def secondsUntil (start finish : Instant) : Int :=
  (finish.total - start.total + start.leapBetween finish * billion).tdiv billion

structure Date where
  year : Int
  month : Nat
  day : Nat
deriving DecidableEq, Repr

/-- The date a number of days after the first of March of year 0. The calendar repeats every 146097
days, which are 400 years; within them centuries have 36524 days and four years 1461, save the last
ones. -/
def Date.ofMarchDays (days : Int) : Date :=
  let cycle := days.fdiv 146097
  let d := (days.fmod 146097).toNat
  let century := min (d / 36524) 3
  let d := d - century * 36524
  let four := min (d / 1461) 24
  let d := d - four * 1461
  let single := min (d / 365) 3
  let d := d - single * 365
  let m := (5 * d + 2) / 153
  let year := cycle * 400 + (century * 100 + four * 4 + single : Nat)
  { year := if m < 10 then year else year + 1
    month := if m < 10 then m + 3 else m - 9
    day := d - (153 * m + 2) / 5 + 1 }

def Date.ofDays (days : Int) : Date := Date.ofMarchDays (days + 719468)

def padded (width n : Nat) : String :=
  let digits := Nat.toDigits 10 n
  String.ofList (List.replicate (width - digits.length) '0' ++ digits)

/-- Years from 0 to 9999 have four digits, others a sign too. -/
def yearText (year : Int) : String :=
  if 0 ≤ year ∧ year ≤ 9999 then padded 4 year.toNat
  else (if year < 0 then "-" else "+") ++ padded 4 year.natAbs

/-- The shortest exact fraction of a second in groups of three digits, nothing for none. -/
def fractionText (nanos : Nat) : String :=
  if nanos = 0 then ""
  else if nanos % 1000000 = 0 then "." ++ padded 3 (nanos / 1000000)
  else if nanos % 1000 = 0 then "." ++ padded 6 (nanos / 1000)
  else "." ++ padded 9 nanos

/-- Date and time of day; a leap second is the second 60 of its minute. -/
def text (t : Instant) : String :=
  let date := Date.ofDays (t.seconds.fdiv 86400)
  let second := t.secondOfDay
  yearText date.year ++ "-" ++ padded 2 date.month ++ "-" ++ padded 2 date.day ++ "T" ++
    padded 2 (second / 3600) ++ ":" ++ padded 2 (second / 60 % 60) ++ ":" ++
    padded 2 (second % 60 + t.nanos / billion) ++ fractionText (t.nanos % billion) ++ "Z"

end Instant

end Questline
