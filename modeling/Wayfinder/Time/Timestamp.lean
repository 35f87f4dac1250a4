/-!
# Points in time

A point in time is a calendar date and a time of day in universal time.  A leap second is the
second 59 of a minute with a billion nanoseconds or more.
-/

namespace Wayfinder

/-- A date of the Gregorian calendar, extended to all years. -/
structure Date where
  year : Int
  month : Nat
  day : Nat
deriving DecidableEq, Repr

namespace Date

def isLeapYear (year : Int) : Bool := year % 4 = 0 && (year % 100 ≠ 0 || year % 400 = 0)

/-- The number of days of a month, and none for a number that is no month. -/
def daysIn (year : Int) (month : Nat) : Nat :=
  match month with
  | 2 => if isLeapYear year then 29 else 28
  | 4 | 6 | 9 | 11 => 30
  | 1 | 3 | 5 | 7 | 8 | 10 | 12 => 31
  | _ => 0

/-- The first and the last year that are told apart. -/
def firstYear : Int := -262143
def lastYear : Int := 262142

/-- Whether the date is in the calendar. -/
def isValid (d : Date) : Bool :=
  firstYear ≤ d.year && d.year ≤ lastYear && 1 ≤ d.day && d.day ≤ daysIn d.year d.month

/-- The day after. -/
def next (d : Date) : Date :=
  if d.day < daysIn d.year d.month then { d with day := d.day + 1 }
  else if d.month < 12 then ⟨d.year, d.month + 1, 1⟩
  else ⟨d.year + 1, 1, 1⟩

/-- The day before. -/
def prev (d : Date) : Date :=
  if 1 < d.day then { d with day := d.day - 1 }
  else if 1 < d.month then ⟨d.year, d.month - 1, daysIn d.year (d.month - 1)⟩
  else ⟨d.year - 1, 12, 31⟩

end Date

/-- A date and a time of day in universal time. -/
structure Timestamp where
  date : Date
  hour : Nat
  minute : Nat
  second : Nat
  nano : Nat
deriving DecidableEq, Repr

namespace Timestamp

/-- The start of the year 1970. -/
def epoch : Timestamp := ⟨⟨1970, 1, 1⟩, 0, 0, 0, 0⟩

instance : Inhabited Timestamp := ⟨epoch⟩

/-- The point in time that a clock shows that is `offset` minutes, less than a day, ahead. -/
def ofLocal (local_ : Timestamp) (offset : Int) : Timestamp :=
  let minutes : Int := local_.hour * 60 + local_.minute - offset
  let date := if minutes < 0 then local_.date.prev
    else if 1440 ≤ minutes then local_.date.next else local_.date
  let ofDay := (minutes % 1440).toNat
  { local_ with date, hour := ofDay / 60, minute := ofDay % 60 }

end Timestamp

end Wayfinder
