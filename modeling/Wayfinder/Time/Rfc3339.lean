import Wayfinder.Text.Blank
import Wayfinder.Text.Digits
import Wayfinder.Time.Timestamp

/-!
# Timestamps as text

`Timestamp.format` writes the date, `T`, the time and `Z`, with no, three, six or nine decimals of
a second, whichever is the fewest that loses nothing.  `Timestamp.parse` also reads other forms:
blanks around the parts of the date and the time, a small `t` or a blank between them, any number
of decimals, of which nine count, a signed year of any length, and a zone as `Z`, `UTC` or hours
and minutes ahead of universal time.
-/

namespace Wayfinder

open Text

/-- Why a text is no timestamp. -/
inductive TimeError where
  | tooShort
  | invalid
  | outOfRange
  | impossible
  | trailing
deriving DecidableEq, Repr

def TimeError.message : TimeError → String
  | .tooShort => "premature end of input"
  | .invalid => "input contains invalid characters"
  | .outOfRange => "input is out of range"
  | .impossible => "no possible date and time matching input"
  | .trailing => "trailing input"

namespace Timestamp

/-! ## Writing -/

/-- A year: four digits, or a sign and at least four digits for years beyond them. -/
def formatYear (y : Int) : List Char :=
  if 0 ≤ y ∧ y ≤ 9999 then padded 4 y.toNat
  else (if y < 0 then '-' else '+') :: padded 4 y.natAbs

/-- The decimals of a second. -/
def formatNano (n : Nat) : List Char :=
  if n = 0 then []
  else if n % 1000000 = 0 then '.' :: padded 3 (n / 1000000)
  else if n % 1000 = 0 then '.' :: padded 6 (n / 1000)
  else '.' :: padded 9 n

def format (t : Timestamp) : String :=
  let leap := 1000000000 ≤ t.nano
  let second := if leap then t.second + 1 else t.second
  let nano := if leap then t.nano - 1000000000 else t.nano
  String.ofList (formatYear t.date.year ++ '-' :: padded 2 t.date.month ++ '-' :: padded 2 t.date.day
    ++ 'T' :: padded 2 t.hour ++ ':' :: padded 2 t.minute ++ ':' :: padded 2 second
    ++ formatNano nano ++ ['Z'])

/-! ## Reading

Each reader yields a part of the timestamp and the text after it. -/

/-- A number of one to `width` digits. -/
def readNumber (width : Nat) (s : List Char) : Except TimeError (Nat × List Char) :=
  match s with
  | [] => .error .tooShort
  | _ =>
    let ds := (s.take width).takeWhile Char.isDigit
    if ds.isEmpty then .error .invalid else .ok (number ds, s.drop ds.length)

/-- A number behind blanks that has to lie between two bounds. -/
def readField (low high : Nat) (s : List Char) : Except TimeError (Nat × List Char) := do
  let (n, s) ← readNumber 2 (dropBlank s)
  if low ≤ n ∧ n ≤ high then .ok (n, s) else .error .outOfRange

/-- A year: four digits, or a sign and digits. -/
def readYear (s : List Char) : Except TimeError (Int × List Char) := do
  let checked (y : Int) (s : List Char) : Except TimeError (Int × List Char) :=
    if -2147483648 ≤ y ∧ y ≤ 2147483647 then .ok (y, s) else .error .outOfRange
  match dropBlank s with
  | '-' :: s => do
    let (n, s) ← readNumber s.length s
    checked (-n) s
  | '+' :: s => do
    let (n, s) ← readNumber s.length s
    checked n s
  | s => do
    let (n, s) ← readNumber 4 s
    checked n s

/-- A given character behind blanks. -/
def readMark (c : Char) (s : List Char) : Except TimeError (Unit × List Char) :=
  match dropBlank s with
  | [] => .error .tooShort
  | d :: s => if d = c then .ok ((), s) else .error .invalid

/-- The decimals of a second, if there are any, in nanoseconds. -/
def readNano : List Char → Except TimeError (Nat × List Char)
  | '.' :: s => do
    let (n, r) ← readNumber 9 s
    let used := s.length - r.length
    .ok (n * Nat.pow 10 (9 - used), r.dropWhile Char.isDigit)
  | s => .ok (0, s)

/-- Two digits, of which the first is at most `top`. -/
def readTwoDigits (top : Char) (s : List Char) : Except TimeError (Nat × List Char) :=
  match s with
  | [] => .error .tooShort
  | [c] => .error (if c.toNat < 128 then .tooShort else .invalid)
  | c :: d :: s =>
    if c.isDigit && d.isDigit then
      if c ≤ top then .ok (number [c, d], s) else .error .outOfRange
    else .error .invalid

/-- Hours and minutes ahead of universal time, in minutes. -/
def readOffset (s : List Char) : Except TimeError (Int × List Char) :=
  match s with
  | [] => .error .tooShort
  | sign :: s =>
    if sign = '+' ∨ sign = '-' ∨ sign = '−' then do
      let (h, s) ← readTwoDigits '9' s
      let (m, s) ← readTwoDigits '5' (s.dropWhile fun c => c = ':' || isBlank c)
      let ahead : Int := h * 60 + m
      .ok (if sign = '+' then ahead else -ahead, s)
    else .error .invalid

/-- A zone: universal time by name, or hours and minutes ahead of it. -/
def readZone (s : List Char) : Except TimeError (Int × List Char) :=
  match s with
  | c :: rest =>
    if c = 'Z' ∨ c = 'z' then .ok (0, rest)
    else if (s.take 3).map Char.toUpper = ['U', 'T', 'C'] then .ok (0, s.drop 3)
    else readOffset s
  | [] => .error .tooShort

/-- What separates the date from the time. -/
def readBetween (s : List Char) : Except TimeError (Unit × List Char) :=
  match s with
  | [] => .error .tooShort
  | c :: s => if c = 'T' ∨ c = 't' ∨ c = ' ' then .ok ((), s) else .error .invalid

/-- The point in time that the parts of a text denote: the parts have to be in the calendar, and so
has the date of that point in universal time. -/
def ofParts (date : Date) (hour minute second nano : Nat) (offset : Int) :
    Except TimeError Timestamp :=
  let clock : Timestamp := if second = 60 then ⟨date, hour, minute, 59, nano + 1000000000⟩
    else ⟨date, hour, minute, second, nano⟩
  let t := clock.ofLocal offset
  if !date.isValid || 1440 ≤ offset.natAbs then .error .outOfRange
  else if t.date.isValid then .ok t
  else .error .impossible

/-- The timestamp that a text denotes. -/
def parse (text : String) : Except TimeError Timestamp := do
  let (year, s) ← readYear text.toList
  let (_, s) ← readMark '-' s
  let (month, s) ← readField 1 12 s
  let (_, s) ← readMark '-' s
  let (day, s) ← readField 1 31 s
  let (_, s) ← readBetween s
  let (hour, s) ← readField 0 23 s
  let (_, s) ← readMark ':' s
  let (minute, s) ← readField 0 59 s
  let (_, s) ← readMark ':' s
  let (second, s) ← readField 0 60 s
  let (nano, s) ← readNano s
  let (offset, s) ← readZone (dropBlank s)
  if (dropBlank s).isEmpty then ofParts ⟨year, month, day⟩ hour minute second nano offset
  else .error .trailing

end Timestamp

end Wayfinder
