import Scratchpad.Time.Zone

/-!
# Times in words

A phrase says which time is meant: by a date, a time of day, a weekday, a zone, by steps from one of
these or from now, or by the seconds since the beginning of 1970. Each of these may be said once, in any
order. A phrase is read word by word; what a number is depends on the words around it.
-/

namespace Scratchpad.Time

namespace Phrase

/-- What steps are counted in. -/
inductive Stride
  | year
  | month
  | day
  | hour
  | minute
  | second
deriving DecidableEq, Repr

/-- A word of a phrase. A number has a sign or none, and may have a fraction, in nanoseconds. -/
inductive Word
  | number (sign : Option Char) (value : Nat) (digits : Nat)
  | fraction (sign : Option Char) (value nano : Nat)
  | half (afternoon : Bool)
  | month (n : Nat)
  | weekday (n : Nat)
  | zone (seconds : Int)
  | summer
  | letterT
  | unit (u : Stride) (times : Nat)
  | ordinal (n : Int)
  | shift (days : Int)
  | ago (sign : Int)
  | mark (c : Char)
deriving DecidableEq, Repr

/-! ## Words -/

def ordinals : List (String × Int) :=
  [("LAST", -1), ("THIS", 0), ("NEXT", 1), ("FIRST", 1), ("THIRD", 3), ("FOURTH", 4), ("FIFTH", 5),
    ("SIXTH", 6), ("SEVENTH", 7), ("EIGHTH", 8), ("NINTH", 9), ("TENTH", 10), ("ELEVENTH", 11),
    ("TWELFTH", 12)]

def units : List (String × Stride × Nat) :=
  [("YEAR", .year, 1), ("MONTH", .month, 1), ("FORTNIGHT", .day, 14), ("WEEK", .day, 7), ("DAY", .day, 1),
    ("HOUR", .hour, 1), ("MINUTE", .minute, 1), ("MIN", .minute, 1), ("SECOND", .second, 1),
    ("SEC", .second, 1)]

/-- Zones by their names, with the minutes ahead of Greenwich. -/
def zones : List (String × Int) :=
  [("GMT", 0), ("UT", 0), ("UTC", 0), ("WET", 0), ("WEST", 60), ("BST", 60), ("ART", -180), ("BRT", -180),
    ("BRST", -120), ("NST", -210), ("NDT", -150), ("AST", -240), ("ADT", -180), ("CLT", -240),
    ("CLST", -180), ("EST", -300), ("EDT", -240), ("CST", -360), ("CDT", -300), ("MST", -420),
    ("MDT", -360), ("PST", -480), ("PDT", -420), ("AKST", -540), ("AKDT", -480), ("HST", -600),
    ("HAST", -600), ("HADT", -540), ("SST", -720), ("WAT", 60), ("CET", 60), ("CEST", 120), ("MET", 60),
    ("MEZ", 60), ("MEST", 120), ("MESZ", 120), ("EET", 120), ("EEST", 180), ("CAT", 120), ("SAST", 120),
    ("EAT", 180), ("MSK", 180), ("MSD", 240), ("IST", 330), ("SGT", 480), ("KST", 540), ("JST", 540),
    ("GST", 600), ("NZST", 720), ("NZDT", 780)]

/-- The zone of one letter, in hours. -/
def letterZone? (c : Char) : Option Int :=
  let n : Int := (c.toNat : Int) - 'A'.toNat
  if c = 'Z' || c = 'J' then some 0
  else if 'A' ≤ c && c ≤ 'I' then some (n + 1)
  else if 'K' ≤ c && c ≤ 'M' then some n
  else if 'N' ≤ c && c ≤ 'Y' then some (12 - n)
  else none

/-- A name in a list, whole or by three letters, with one of its names for short. -/
def nameIn (names : List String) (word : List Char) : Option Nat :=
  let isShort := word.length = 3 || (word.length = 4 && word.getLast? = some '.')
  names.findIdx? fun name =>
    let name := name.toList.map Char.toUpper
    if isShort then name.take 3 = word.take 3 else name = word

/-- A word that leads from one time to another. -/
def relative? : String → Option Word
  | "TOMORROW" => some (.shift 1)
  | "YESTERDAY" => some (.shift (-1))
  | "TODAY" | "NOW" => some (.shift 0)
  | "AGO" => some (.ago (-1))
  | "HENCE" => some (.ago 1)
  | text => (ordinals.lookup text).map .ordinal

/-- The word that some letters make. -/
def wordOf? (letters : List Char) : Option Word :=
  let word := letters.map Char.toUpper
  let text := String.ofList word
  let strideOf (text : String) : Option Word := (units.lookup text).map fun (u, n) => .unit u n
  let zoneOf (text : String) : Option Word := (zones.lookup text).map fun n => .zone (n * 60)
  if text = "AM" || text = "A.M." then some (.half false)
  else if text = "PM" || text = "P.M." then some (.half true)
  else
    match nameIn Calendar.months word, nameIn Calendar.weekdays word with
    | some i, _ => some (.month (i + 1))
    | none, some i => some (.weekday i)
    | none, none =>
      if text = "SEPT" then some (.month 9)
      else if text = "TUES" then some (.weekday 2)
      else if text = "WEDNES" then some (.weekday 3)
      else if text = "THUR" || text = "THURS" then some (.weekday 4)
      else
        let plural := if word.getLast? = some 'S' then strideOf (String.ofList word.dropLast) else none
        let dst := if text = "DST" then some Word.summer else none
        let alone : Option Word := match word with
          | ['T'] => some .letterT
          | [c] => (letterZone? c).map fun n => .zone (n * 3600)
          | word => zoneOf (String.ofList (word.filter (· ≠ '.')))
        [zoneOf text, dst, strideOf text, plural, relative? text, alone].findSome? id

/-- Nanoseconds from the digits of a fraction. -/
def nanoOf (cs : List Char) : Nat :=
  ((cs.take 9) ++ List.replicate (9 - cs.length) '0').foldl (fun n c => n * 10 + (c.toNat - '0'.toNat)) 0

def value (cs : List Char) : Nat :=
  cs.foldl (fun n c => n * 10 + (c.toNat - '0'.toNat)) 0

/-- The words of a phrase; remarks in brackets are passed over. The fuel bounds the characters. -/
def wordsFrom : Nat → List Char → Option (List Word)
  | 0, _ => some []
  | fuel + 1, cs =>
    match cs with
    | [] => some []
    | c :: rest =>
      if c.isWhitespace then wordsFrom fuel rest
      else if c.isDigit || c = '-' || c = '+' then
        let sign : Option Char := if c.isDigit then none else some c
        let cs := if c.isDigit then cs else rest.dropWhile Char.isWhitespace
        let digits := cs.takeWhile Char.isDigit
        let rest := cs.drop digits.length
        if digits = [] then wordsFrom fuel rest
        else
          match rest with
          | p :: d :: more =>
            if (p = '.' || p = ',') && d.isDigit then
              let part := (d :: more).takeWhile Char.isDigit
              (wordsFrom fuel ((d :: more).drop part.length)).map fun ws =>
                .fraction sign (value digits) (nanoOf part) :: ws
            else (wordsFrom fuel rest).map fun ws => .number sign (value digits) digits.length :: ws
          | rest => (wordsFrom fuel rest).map fun ws => .number sign (value digits) digits.length :: ws
      else if c.isAlpha then
        let letters := cs.takeWhile fun c => c.isAlpha || c = '.'
        match wordOf? letters with
        | none => none
        | some w => (wordsFrom fuel (cs.drop letters.length)).map fun ws => w :: ws
      else if c = '(' then
        let depths := rest.foldl (fun (acc : Nat × Nat) c =>
          if acc.1 = 0 then acc
          else ((if c = '(' then acc.1 + 1 else if c = ')' then acc.1 - 1 else acc.1), acc.2 + 1)) (1, 0)
        wordsFrom fuel (rest.drop depths.2)
      else (wordsFrom fuel rest).map fun ws => .mark c :: ws

/-! ## What is said -/

/-- Steps from a time. -/
structure Steps where
  years : Int := 0
  months : Int := 0
  days : Int := 0
  hours : Int := 0
  minutes : Int := 0
  seconds : Int := 0

/-- What a phrase has said so far; of the things that may be said once it is counted how often they
were. -/
structure Said where
  year : Int := 0
  yearDigits : Nat := 0
  month : Int := 0
  day : Int := 0
  hour : Int := 0
  minute : Int := 0
  second : Int := 0
  nano : Int := 0
  half : Option Bool := none
  weekday : Int := 0
  weekdayOrdinal : Int := 0
  zone : Int := 0
  steps : Steps := {}
  dates : Nat := 0
  times : Nat := 0
  weekdays : Nat := 0
  zones : Nat := 0
  hasSteps : Bool := false

namespace Said

def step (s : Said) (n : Int) (u : Stride) (times : Nat) : Said :=
  let n := n * times
  let t := s.steps
  let t := match u with
    | .year => { t with years := t.years + n }
    | .month => { t with months := t.months + n }
    | .day => { t with days := t.days + n }
    | .hour => { t with hours := t.hours + n }
    | .minute => { t with minutes := t.minutes + n }
    | .second => { t with seconds := t.seconds + n }
  { s with steps := t, hasSteps := true }

def date (s : Said) (year : Option (Int × Nat)) (month day : Int) : Said :=
  let (year, digits) := year.getD (s.year, s.yearDigits)
  { s with year, yearDigits := digits, month, day, dates := s.dates + 1 }

def time (s : Said) (hour minute second nano : Int) (half : Option Bool) : Said :=
  { s with hour, minute, second, nano, half, times := s.times + 1 }

def onZone (s : Said) (seconds : Int) : Said :=
  { s with zone := seconds, zones := s.zones + 1 }

/-- A number that stands alone: a year, a date without separators, or a time. -/
def alone (s : Said) (n digits : Nat) : Said :=
  if s.dates ≠ 0 && s.yearDigits = 0 && !s.hasSteps && (s.times ≠ 0 || 2 < digits) then
    { s with year := n, yearDigits := digits }
  else if 4 < digits then s.date (some (n / 10000, digits - 4)) (n / 100 % 100 : Nat) (n % 100 : Nat)
  else if digits ≤ 2 then s.time n 0 0 0 none
  else s.time (n / 100 : Nat) (n % 100 : Nat) 0 0 none

end Said

def signed (sign : Char) (n : Nat) : Int :=
  if sign = '-' then -(n : Int) else n

/-- Seconds ahead of Greenwich from hours, or hours and minutes; nothing if they are more than a day. -/
def aheadOf? (sign : Char) (n digits : Nat) (minutes : Option Nat) : Option Int :=
  let total := match minutes with
    | some m => n * 60 + m
    | none => if digits ≤ 2 then n * 60 else n / 100 * 60 + n % 100
  if 1440 < total then none else some (signed sign total * 60)

/-- A zone behind a time of day, if there is one. -/
def zoneBehind (s : Said) : List Word → Option (Said × List Word)
  | .number (some sign) n digits :: .mark ':' :: .number none m _ :: rest =>
    (aheadOf? sign n digits (some m)).map fun z => (s.onZone z, rest)
  | .number (some sign) n digits :: rest =>
    (aheadOf? sign n digits none).map fun z => (s.onZone z, rest)
  | rest => some (s, rest)

/-- A time of day, if the words begin with one. -/
def timeOf? (s : Said) : List Word → Option (Option (Said × List Word))
  | .number none h _ :: .half p :: rest => some (some (s.time h 0 0 0 (some p), rest))
  | .number none h _ :: .mark ':' :: .number none m _ :: .mark ':' :: .number none sec _ :: .half p :: rest =>
    some (some (s.time h m sec 0 (some p), rest))
  | .number none h _ :: .mark ':' :: .number none m _ :: .mark ':' :: .fraction none sec nano :: .half p ::
      rest => some (some (s.time h m sec nano (some p), rest))
  | .number none h _ :: .mark ':' :: .number none m _ :: .mark ':' :: .number none sec _ :: rest =>
    some (zoneBehind (s.time h m sec 0 none) rest)
  | .number none h _ :: .mark ':' :: .number none m _ :: .mark ':' :: .fraction none sec nano :: rest =>
    some (zoneBehind (s.time h m sec nano none) rest)
  | .number none h _ :: .mark ':' :: .number none m _ :: .half p :: rest =>
    some (some (s.time h m 0 0 (some p), rest))
  | .number none h _ :: .mark ':' :: .number none m _ :: rest =>
    some (zoneBehind (s.time h m 0 0 none) rest)
  | _ => none

/-- A date, if the words begin with one. -/
def dateOf? (s : Said) : List Word → Option (Said × List Word)
  | .number none a da :: .mark '/' :: .number none b _ :: .mark '/' :: .number none c dc :: rest =>
    some (if 4 ≤ da then s.date (some (a, da)) b c else s.date (some (c, dc)) a b, rest)
  | .number none a _ :: .mark '/' :: .number none b _ :: rest => some (s.date none a b, rest)
  | .number none d _ :: .month m :: .number none y dy :: rest => some (s.date (some (y, dy)) m d, rest)
  | .number none d _ :: .month m :: .number (some sign) y dy :: rest =>
    some (s.date (some (-signed sign y, dy)) m d, rest)
  | .number none d _ :: .month m :: rest => some (s.date none m d, rest)
  | .month m :: .number (some a) d _ :: .number (some b) y dy :: rest =>
    some (s.date (some (-signed b y, dy)) m (-signed a d), rest)
  | .month m :: .number none d _ :: .mark ',' :: .number none y dy :: rest =>
    some (s.date (some (y, dy)) m d, rest)
  | .month m :: .number none d _ :: rest => some (s.date none m d, rest)
  | .number none y dy :: .number (some a) m _ :: .number (some b) d _ :: rest =>
    some (s.date (some (y, dy)) (-signed a m) (-signed b d), rest)
  | _ => none

/-- A step, which may lead back. -/
def stepOf? (s : Said) (ws : List Word) : Option (Said × List Word) :=
  let behind (n : Int) (u : Stride) (times : Nat) : List Word → Option (Said × List Word)
    | .ago sign :: rest => some (s.step (n * sign) u times, rest)
    | rest => some (s.step n u times, rest)
  match ws with
  | .ordinal n :: .unit u times :: rest => behind n u times rest
  | .number none n _ :: .unit u times :: rest => behind n u times rest
  | .number (some sign) n _ :: .unit u times :: rest => behind (signed sign n) u times rest
  | .unit u times :: rest => behind 1 u times rest
  | .shift n :: rest => some (s.step n .day 1, rest)
  | _ => none

/-- What is said by the next words. -/
def item? (s : Said) (ws : List Word) : Option (Said × List Word) :=
  match timeOf? s ws with
  | some found => found
  | none =>
    match dateOf? s ws with
    | some (s, .letterT :: rest) =>
      match timeOf? s rest with
      | some found => found
      | none =>
        match rest with
        | .number none h _ :: rest => zoneBehind (s.time h 0 0 0 none) rest
        | _ => none
    | some found => some found
    | none =>
      match stepOf? s ws with
      | some found => some found
      | none =>
        let onDay (n ordinal : Int) : Said :=
          { s with weekday := n, weekdayOrdinal := ordinal, weekdays := s.weekdays + 1 }
        match ws with
        | .weekday n :: .mark ',' :: rest | .weekday n :: rest => some (onDay n 0, rest)
        | .ordinal i :: .weekday n :: rest => some (onDay n i, rest)
        | .number none i _ :: .weekday n :: rest => some (onDay n i, rest)
        | .zone z :: .summer :: rest => some (s.onZone (z + 3600), rest)
        | .zone z :: .number (some sign) n _ :: .unit u times :: rest =>
          some ((s.onZone z).step (signed sign n) u times, rest)
        | .zone z :: .number (some sign) n _ :: .mark ':' :: .number none m _ :: rest =>
          some (s.onZone (z + signed sign (n * 60 + m) * 60), rest)
        | .zone z :: .number (some sign) n digits :: rest =>
          (aheadOf? sign n digits none).map fun more => (s.onZone (z + more), rest)
        | .zone z :: rest => some (s.onZone z, rest)
        | .letterT :: rest => some (s.onZone (-25200), rest)
        | .number none n digits :: .number (some sign) m _ :: .unit u times :: rest =>
          some ((s.alone n digits).step (signed sign m) u times, rest)
        | .number none h _ :: .number (some sign) n digits :: rest =>
          zoneBehind (s.time h 0 0 0 none) (.number (some sign) n digits :: rest)
        | .number none n digits :: rest => some (s.alone n digits, rest)
        | _ => none

/-- All that is said; the fuel bounds the words. -/
def items? : Nat → Said → List Word → Option Said
  | _, s, [] => some s
  | 0, _, _ => none
  | fuel + 1, s, ws => do
    let (s, rest) ← item? s ws
    items? fuel s rest

/-- The hour of the day, if there is one. -/
def hour? (h : Int) (half : Option Bool) : Option Int :=
  match half with
  | none => if 0 ≤ h && h < 24 then some h else none
  | some afternoon =>
    if h = 12 then some (if afternoon then 12 else 0)
    else if 0 < h && h < 12 then some (if afternoon then h + 12 else h)
    else none

/-- A year of two digits is one of the last or the next years. -/
def fullYear (year : Int) (digits : Nat) : Int :=
  if digits = 2 then (if year < 69 then year + 2000 else year + 1900) else year

/-- The time that is meant, in seconds and nanoseconds, when it is said on the clocks of a zone at some
time. -/
def Said.resolve? (s : Said) (zone : Zone) (now nano : Int) : Option (Int × Int) := do
  if 1 < s.dates || 1 < s.times || 1 < s.weekdays || 1 < s.zones then none
  let today := zone.moment now nano
  let day : Int × Int × Int :=
    if s.dates = 0 then (today.year, today.month, today.day)
    else (if s.yearDigits = 0 then today.year else fullYear s.year s.yearDigits, s.month, s.day)
  let (hour, minute, second, nano) ←
    if s.times ≠ 0 then (hour? s.hour s.half).map fun h => (h, s.minute, s.second, s.nano)
    else if s.hasSteps && s.dates = 0 && s.weekdays = 0 then
      some (today.hour, today.minute, today.second, nano)
    else some (0, 0, 0, 0)
  let m : Moment := ⟨day.1, day.2.1, day.2.2, hour, minute, second, nano⟩
  if m.normal ≠ m then none
  let m := if s.weekdays ≠ 0 && s.dates = 0 then
      { m with day := m.day + (s.weekday - m.weekday) % 7 + 7 * (s.weekdayOrdinal -
        (if 0 < s.weekdayOrdinal && m.weekday ≠ s.weekday then 1 else 0)) }
    else m
  let t := s.steps
  let m := { m with
    year := m.year + t.years, month := m.month + t.months, day := m.day + t.days }
  let seconds := if s.zones ≠ 0 then m.seconds - s.zone else zone.seconds m.normal
  return (seconds + t.hours * 3600 + t.minutes * 60 + t.seconds, nano)

/-- A zone that a phrase begins with, and what is left of the phrase. -/
def ownZone? (cs : List Char) : Option (Zone × List Char) :=
  match cs with
  | 'T' :: 'Z' :: '=' :: '"' :: rest =>
    let name := rest.takeWhile (· ≠ '"')
    some (Zone.ofText (some (String.ofList name)), rest.drop (name.length + 1))
  | _ => none

/-- The time that a phrase means, in seconds since the beginning of 1970 and nanoseconds, if it makes
sense. -/
def read? (zone : Zone) (now nano : Int) (text : String) : Option (Int × Int) := do
  let cs := text.toList.dropWhile Char.isWhitespace
  let (zone, cs) := (ownZone? cs).getD (zone, cs)
  let words ← wordsFrom (cs.length + 1) cs
  match words with
  | [.mark '@', .number sign n _] => some (signed (sign.getD '+') n, 0)
  | [.mark '@', .fraction sign n part] =>
    if sign = some '-' then some (-(n : Int) - 1, 1000000000 - part) else some (n, part)
  | words =>
    let s ← items? (words.length + 1) {} words
    s.resolve? zone now nano

end Phrase
end Scratchpad.Time
