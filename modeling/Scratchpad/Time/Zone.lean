import Scratchpad.Time.Calendar

/-!
# Time zones

A zone has a name and the seconds that its clocks are ahead of those of Greenwich, and it may have
another name and other clocks in summer. Zones are written by these, with the days of a year on which
summer time begins and ends, or named after a place.
-/

namespace Scratchpad.Time

/-- A day of a year: a weekday of a month, where week five is the last one, a day of the year that is
counted from one, with a day that comes only every few years left out, or one that is counted from
zero. -/
inductive YearDay
  | weekday (month week day : Int)
  | counted (day : Int)
  | offset (day : Int)
deriving Repr

/-- Summer time: its name, the seconds ahead, and the days with the seconds of the day on which it begins
and ends. -/
structure Summer where
  name : List Char
  ahead : Int
  first : YearDay
  firstAt : Int
  last : YearDay
  lastAt : Int
deriving Repr

structure Zone where
  name : List Char
  ahead : Int
  summer : Option Summer
deriving Repr

namespace YearDay

/-- The day of this kind in a year, counted from the beginning of 1970. -/
def inYear (year : Int) : YearDay → Int
  | .weekday month week day =>
    let first := Calendar.days year month 1
    let n := first + (day - Calendar.weekday first) % 7 + 7 * (week - 1)
    if Calendar.days year (month + 1) 1 ≤ n then n - 7 else n
  | .counted day =>
    let isLeap := Calendar.days year 3 1 - Calendar.days year 2 1 = 29
    Calendar.days year 1 1 + day - (if isLeap && 60 ≤ day then 0 else 1)
  | .offset day => Calendar.days year 1 1 + day

end YearDay

namespace Zone

def universal : Zone := ⟨"UTC".toList, 0, none⟩

/-- What is in force at a time, in seconds since the beginning of 1970: the name, and the seconds
ahead. -/
def at_ (z : Zone) (seconds : Int) : List Char × Int :=
  match z.summer with
  | none => (z.name, z.ahead)
  | some s =>
    let year := (Moment.ofSeconds (seconds + z.ahead) 0).year
    let first := s.first.inYear year * 86400 + s.firstAt - z.ahead
    let last := s.last.inYear year * 86400 + s.lastAt - s.ahead
    let isSummer := if first < last then first ≤ seconds && seconds < last
      else first ≤ seconds || seconds < last
    if isSummer then (s.name, s.ahead) else (z.name, z.ahead)

/-- The moment of a time on the clocks of a zone. -/
def moment (z : Zone) (seconds nano : Int) : Moment :=
  .ofSeconds (seconds + (z.at_ seconds).2) nano

/-- The time at which the clocks of a zone show a moment, for the first time if they do twice. -/
def seconds (z : Zone) (m : Moment) : Int :=
  let usual := m.seconds - z.ahead
  match z.summer with
  | none => usual
  | some s =>
    let early := m.seconds - s.ahead
    if (z.at_ early).2 = s.ahead then early else usual

/-! ## Reading -/

def number? (cs : List Char) : Option (Int × List Char) :=
  let digits := cs.takeWhile Char.isDigit
  if digits = [] then none
  else
    some (digits.foldl (fun (n : Int) c => n * 10 + (c.toNat - '0'.toNat : Nat)) 0, cs.drop digits.length)

/-- Hours, and minutes and seconds behind colons, as seconds. -/
def clock? (cs : List Char) : Option (Int × List Char) := do
  let (hours, rest) ← number? cs
  match rest with
  | ':' :: rest =>
    let (minutes, rest) ← number? rest
    match rest with
    | ':' :: rest =>
      let (seconds, rest) ← number? rest
      return (hours * 3600 + minutes * 60 + seconds, rest)
    | rest => return (hours * 3600 + minutes * 60, rest)
  | rest => return (hours * 3600, rest)

/-- A time of a clock with a sign; what is behind Greenwich has none. -/
def signed? : List Char → Option (Int × List Char)
  | '-' :: cs => (clock? cs).map fun (n, rest) => (n, rest)
  | '+' :: cs => (clock? cs).map fun (n, rest) => (-n, rest)
  | cs => (clock? cs).map fun (n, rest) => (-n, rest)

/-- A name of three letters at least, or one between angle brackets. -/
def name? : List Char → Option (List Char × List Char)
  | '<' :: cs =>
    let name := cs.takeWhile (· ≠ '>')
    some (name, cs.drop (name.length + 1))
  | cs =>
    let name := cs.takeWhile Char.isAlpha
    if name.length < 3 then none else some (name, cs.drop name.length)

/-- A day of a year and the time of day, which is two o'clock if nothing is said. -/
def yearDay? (cs : List Char) : Option (YearDay × Int × List Char) := do
  let (day, rest) ← match cs with
    | 'M' :: cs => do
      let (month, rest) ← number? cs
      let (week, rest) ← number? (rest.drop 1)
      let (day, rest) ← number? (rest.drop 1)
      pure (YearDay.weekday month week day, rest)
    | 'J' :: cs => (number? cs).map fun (n, rest) => (YearDay.counted n, rest)
    | cs => (number? cs).map fun (n, rest) => (YearDay.offset n, rest)
  match rest with
  | '/' :: rest =>
    let (seconds, rest) ← clock? rest
    return (day, seconds, rest)
  | rest => return (day, 7200, rest)

/-- The days on which summer time begins and ends where nothing else is said: a Sunday in March and one
in November. -/
def usual : YearDay × YearDay :=
  (.weekday 3 2 0, .weekday 11 1 0)

/-- A zone that is written by its clocks. -/
def written? (cs : List Char) : Option Zone := do
  let (name, rest) ← name? cs
  match signed? rest with
  | none => return ⟨name, 0, none⟩
  | some (ahead, rest) =>
    match name? rest with
    | none => return ⟨name, ahead, none⟩
    | some (summer, rest) =>
      let (summerAhead, rest) := (signed? rest).getD (ahead + 3600, rest)
      let days := do
        let (first, firstAt, rest) ← yearDay? (rest.drop 1)
        let (last, lastAt, _) ← yearDay? (rest.drop 1)
        return (first, firstAt, last, lastAt)
      let (first, firstAt, last, lastAt) := days.getD (usual.1, 7200, usual.2, 7200)
      return ⟨name, ahead, some ⟨summer, summerAhead, first, firstAt, last, lastAt⟩⟩

/-- Zones that are named after places, by how they are written. -/
def places : List (String × String) :=
  [("UTC", "UTC0"), ("GMT", "GMT0"), ("Etc/UTC", "UTC0"), ("Etc/GMT", "GMT0"), ("Zulu", "UTC0"),
    ("Universal", "UTC0"), ("UCT", "UTC0"), ("Etc/GMT+5", "<-05>5"), ("Etc/GMT-3", "<+03>-3"),
    ("America/New_York", "EST5EDT,M3.2.0,M11.1.0"), ("US/Eastern", "EST5EDT,M3.2.0,M11.1.0"),
    ("America/Toronto", "EST5EDT,M3.2.0,M11.1.0"), ("America/Chicago", "CST6CDT,M3.2.0,M11.1.0"),
    ("US/Central", "CST6CDT,M3.2.0,M11.1.0"), ("America/Denver", "MST7MDT,M3.2.0,M11.1.0"),
    ("America/Phoenix", "MST7"), ("America/Los_Angeles", "PST8PDT,M3.2.0,M11.1.0"),
    ("US/Pacific", "PST8PDT,M3.2.0,M11.1.0"), ("America/Sao_Paulo", "<-03>3"),
    ("Europe/London", "GMT0BST,M3.5.0/1,M10.5.0"), ("Europe/Dublin", "GMT0IST,M3.5.0/1,M10.5.0"),
    ("Europe/Lisbon", "WET0WEST,M3.5.0/1,M10.5.0"), ("Europe/Paris", "CET-1CEST,M3.5.0,M10.5.0/3"),
    ("Europe/Berlin", "CET-1CEST,M3.5.0,M10.5.0/3"), ("Europe/Madrid", "CET-1CEST,M3.5.0,M10.5.0/3"),
    ("Europe/Rome", "CET-1CEST,M3.5.0,M10.5.0/3"), ("Europe/Amsterdam", "CET-1CEST,M3.5.0,M10.5.0/3"),
    ("Europe/Vienna", "CET-1CEST,M3.5.0,M10.5.0/3"), ("Europe/Zurich", "CET-1CEST,M3.5.0,M10.5.0/3"),
    ("Europe/Stockholm", "CET-1CEST,M3.5.0,M10.5.0/3"), ("Europe/Warsaw", "CET-1CEST,M3.5.0,M10.5.0/3"),
    ("Europe/Athens", "EET-2EEST,M3.5.0/3,M10.5.0/4"), ("Europe/Helsinki", "EET-2EEST,M3.5.0/3,M10.5.0/4"),
    ("Europe/Moscow", "MSK-3"), ("Europe/Istanbul", "<+03>-3"), ("Africa/Cairo", "EET-2"),
    ("Africa/Johannesburg", "SAST-2"), ("Asia/Dubai", "<+04>-4"), ("Asia/Karachi", "PKT-5"),
    ("Asia/Kolkata", "IST-5:30"), ("Asia/Calcutta", "IST-5:30"), ("Asia/Kathmandu", "<+0545>-5:45"),
    ("Asia/Shanghai", "CST-8"), ("Asia/Hong_Kong", "HKT-8"), ("Asia/Singapore", "<+08>-8"),
    ("Asia/Tokyo", "JST-9"), ("Japan", "JST-9"), ("Asia/Seoul", "KST-9"),
    ("Australia/Sydney", "AEST-10AEDT,M10.1.0,M4.1.0/3"), ("Pacific/Auckland", "NZST-12NZDT,M9.5.0,M4.1.0/3"),
    ("EST", "EST5"), ("MST", "MST7"), ("HST", "HST10"), ("CET", "CET-1CEST,M3.5.0,M10.5.0/3"),
    ("EET", "EET-2EEST,M3.5.0/3,M10.5.0/4")]

/-- The zone that a text names; nothing is said by no text, and a text without sense names a zone like
that of Greenwich. -/
def ofText (text : Option String) : Zone :=
  match text with
  | none => universal
  | some text =>
    let cs := match text.toList with
      | ':' :: cs => cs
      | cs => cs
    if cs = [] then { universal with name := "Universal".toList }
    else
      let cs := match places.lookup (String.ofList cs) with
        | some written => written.toList
        | none => cs
      (written? cs).getD { universal with name := [] }

end Zone
end Scratchpad.Time
