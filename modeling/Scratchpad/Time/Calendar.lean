/-!
# Calendars

A moment names a second by its date and the time of day, in the calendar that all years are counted by.
Days are counted from the beginning of 1970, those before it backwards. Months and days that are out of
range are carried over: the thirtieth day of a February is one of its March.
-/

namespace Scratchpad.Time

/-- A date and a time of day, with the nanoseconds. -/
structure Moment where
  year : Int
  month : Int
  day : Int
  hour : Int
  minute : Int
  second : Int
  nano : Int := 0
deriving DecidableEq, Repr

namespace Calendar

/-- The days from the beginning of 1970 to a day; years begin in March for that, so that a day that comes
only every few years is the last one. -/
def days (year month day : Int) : Int :=
  let year := year + (month - 1) / 12
  let month := (month - 1) % 12 + 1
  let year := if month ≤ 2 then year - 1 else year
  let cycle := year / 400
  let inCycle := year % 400
  let before := (153 * ((month + 9) % 12) + 2) / 5
  cycle * 146097 + (inCycle * 365 + inCycle / 4 - inCycle / 100 + before + (day - 1)) - 719468

/-- The year, the month and the day of a day that is counted from the beginning of 1970. -/
def ofDays (n : Int) : Int × Int × Int :=
  let n := n + 719468
  let cycle := n / 146097
  let inCycle := n % 146097
  let years := (inCycle - inCycle / 1460 + inCycle / 36524 - inCycle / 146096) / 365
  let inYear := inCycle - (365 * years + years / 4 - years / 100)
  let month := (5 * inYear + 2) / 153
  let day := inYear - (153 * month + 2) / 5 + 1
  let month := if month < 10 then month + 3 else month - 9
  (years + cycle * 400 + (if month ≤ 2 then 1 else 0), month, day)

/-- The day of the week, counted from Sunday; the year 1970 began on a Thursday. -/
def weekday (days : Int) : Int :=
  (days + 4) % 7

def weekdays : List String :=
  ["Sunday", "Monday", "Tuesday", "Wednesday", "Thursday", "Friday", "Saturday"]

def months : List String :=
  ["January", "February", "March", "April", "May", "June", "July", "August", "September", "October",
    "November", "December"]

end Calendar

namespace Moment

def days (m : Moment) : Int :=
  Calendar.days m.year m.month m.day

/-- The seconds from the beginning of 1970. -/
def seconds (m : Moment) : Int :=
  ((m.days * 24 + m.hour) * 60 + m.minute) * 60 + m.second

/-- The moment of a second that is counted from the beginning of 1970. -/
def ofSeconds (n : Int) (nano : Int) : Moment :=
  let (year, month, day) := Calendar.ofDays (n / 86400)
  let inDay := n % 86400
  ⟨year, month, day, inDay / 3600, inDay / 60 % 60, inDay % 60, nano⟩

/-- The same time with everything in range. -/
def normal (m : Moment) : Moment :=
  ofSeconds m.seconds m.nano

def weekday (m : Moment) : Int :=
  Calendar.weekday m.days

/-- The day of the year, counted from zero. -/
def yearDay (m : Moment) : Int :=
  m.days - Calendar.days m.year 1 1

/-- The year that the week of a day belongs to, and the number of that week: weeks begin on Monday, and
the first one of a year has its first Thursday. -/
def week (m : Moment) : Int × Int :=
  let thursday := m.days + 3 - (m.weekday + 6) % 7
  let (year, _, _) := Calendar.ofDays thursday
  (year, (thursday - Calendar.days year 1 1) / 7 + 1)

end Moment
end Scratchpad.Time
