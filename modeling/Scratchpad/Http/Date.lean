import Scratchpad.Text.Character

/-!
# Dates

A header gives a time by a date in one of three forms, of which only the first is still written. The
day of the week must be that of the date. Times are seconds since the beginning of 1970.
-/

namespace Scratchpad.Http

/-- The second of a date, in the calendar that all years are counted by; weekdays count from Monday,
which is zero, and months from January, which is one. -/
structure Date where
  weekday : Nat
  year : Nat
  month : Nat
  day : Nat
  hour : Nat
  minute : Nat
  second : Nat
deriving DecidableEq, Repr

namespace Date

def isLeap (year : Nat) : Bool :=
  year % 4 == 0 && (year % 100 != 0 || year % 400 == 0)

/-- The lengths of the months of a year. -/
def monthLengths (year : Nat) : List Nat :=
  [31, if isLeap year then 29 else 28, 31, 30, 31, 30, 31, 31, 30, 31, 30, 31]

/-- How many of the years before this one were leap years. -/
def leapsBefore (year : Nat) : Nat :=
  (year - 1) / 4 - (year - 1) / 100 + (year - 1) / 400

/-- The days from the beginning of 1970 to a date that is not before it. -/
def days (d : Date) : Nat :=
  365 * (d.year - 1970) + (leapsBefore d.year - leapsBefore 1970) +
    ((monthLengths d.year).take (d.month - 1)).foldl (· + ·) 0 + (d.day - 1)

/-- The seconds from the beginning of 1970. -/
def seconds (d : Date) : Nat :=
  ((24 * d.days + d.hour) * 60 + d.minute) * 60 + d.second

/-- Is there such a date, on this weekday? The year 1970 began on a Thursday. -/
def isValid (d : Date) : Bool :=
  1970 ≤ d.year && d.year ≤ 9999 && 1 ≤ d.day &&
    ((monthLengths d.year)[d.month - 1]?).any (d.day ≤ ·) &&
    d.hour < 24 && d.minute < 60 && d.second < 60 && (d.days + 3) % 7 == d.weekday

def weekdays : List String :=
  ["Monday", "Tuesday", "Wednesday", "Thursday", "Friday", "Saturday", "Sunday"]

def months : List String :=
  ["Jan", "Feb", "Mar", "Apr", "May", "Jun", "Jul", "Aug", "Sep", "Oct", "Nov", "Dec"]

/-- A weekday by its whole name. -/
def weekday? (cs : List Char) : Option Nat :=
  weekdays.findIdx? (·.toList = cs)

/-- A weekday by the first three letters of its name. -/
def shortWeekday? (cs : List Char) : Option Nat :=
  weekdays.findIdx? (·.toList.take 3 = cs)

def month? (cs : List Char) : Option Nat :=
  (months.findIdx? (·.toList = cs)).map (· + 1)

/-- A number of digits only. -/
def number? (cs : List Char) : Option Nat :=
  if cs.all Char.isDigit then some (cs.foldl (fun n c => 10 * n + (c.toNat - '0'.toNat)) 0)
  else none

/-- A number that may have a blank for its first digit. -/
def padded? : List Char → Option Nat
  | ' ' :: cs => number? cs
  | cs => number? cs

/-- Two digits name a year from 1970 to 2069. -/
def century (n : Nat) : Nat :=
  if n < 70 then 2000 + n else 1900 + n

/-- The usual form, as in `Sun, 06 Nov 1994 08:49:37 GMT`. -/
def ofUsual? : List Char → Option Date
  | [w₁, w₂, w₃, ',', ' ', d₁, d₂, ' ', m₁, m₂, m₃, ' ', y₁, y₂, y₃, y₄, ' ', h₁, h₂, ':', n₁, n₂,
      ':', s₁, s₂, ' ', 'G', 'M', 'T'] => do
    return ⟨← shortWeekday? [w₁, w₂, w₃], ← number? [y₁, y₂, y₃, y₄], ← month? [m₁, m₂, m₃],
      ← number? [d₁, d₂], ← number? [h₁, h₂], ← number? [n₁, n₂], ← number? [s₁, s₂]⟩
  | _ => none

/-- The form with a long weekday and a short year, as in `Sunday, 06-Nov-94 08:49:37 GMT`. Any
character may part the year from the hour. -/
def ofShortYear? (cs : List Char) : Option Date :=
  match cs.dropWhile (· ≠ ',') with
  | [',', ' ', d₁, d₂, '-', m₁, m₂, m₃, '-', y₁, y₂, _, h₁, h₂, ':', n₁, n₂, ':', s₁, s₂, ' ',
      'G', 'M', 'T'] => do
    return ⟨← weekday? (cs.takeWhile (· ≠ ',')), century (← number? [y₁, y₂]),
      ← month? [m₁, m₂, m₃], ← number? [d₁, d₂], ← number? [h₁, h₂], ← number? [n₁, n₂],
      ← number? [s₁, s₂]⟩
  | _ => none

/-- The form without a zone, as in `Sun Nov  6 08:49:37 1994`. -/
def ofZoneless? : List Char → Option Date
  | [w₁, w₂, w₃, ' ', m₁, m₂, m₃, ' ', d₁, d₂, ' ', h₁, h₂, ':', n₁, n₂, ':', s₁, s₂, ' ', y₁, y₂,
      y₃, y₄] => do
    return ⟨← shortWeekday? [w₁, w₂, w₃], ← number? [y₁, y₂, y₃, y₄], ← month? [m₁, m₂, m₃],
      ← padded? [d₁, d₂], ← number? [h₁, h₂], ← number? [n₁, n₂], ← number? [s₁, s₂]⟩
  | _ => none

/-- Reads a date in any of the forms; blanks around it do not matter. -/
def ofString? (s : String) : Option Date := do
  let cs := Text.trim s.toList
  let d ← ofUsual? cs <|> ofShortYear? cs <|> ofZoneless? cs
  if s.toList.all (·.toNat < 128) && d.isValid then some d else none

end Date
end Scratchpad.Http
