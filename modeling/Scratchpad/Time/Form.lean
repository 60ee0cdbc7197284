import Scratchpad.Time.Zone

/-!
# Forms of times

A form shows a time: each directive in it stands for a part of the time, and may say how that is
padded. A directive without sense is left as it stands.
-/

namespace Scratchpad.Time

/-- A time to be shown: its seconds since the beginning of 1970, the nanoseconds, and the zone. -/
structure Shown where
  seconds : Int
  nano : Int
  zone : Zone

/-- How a part is padded: with what, to what width, and in which letters. -/
structure Padding where
  fill : Option Char
  width : Option Nat
  upper : Bool
  swapped : Bool

namespace Form

def digits (width : Nat) (fill : Char) (n : Int) : List Char :=
  let shown := Nat.toDigits 10 n.natAbs
  let sign : List Char := if n < 0 then ['-'] else []
  if fill = '0' then sign ++ List.replicate (width - sign.length - shown.length) '0' ++ shown
  else List.replicate (width - sign.length - shown.length) fill ++ sign ++ shown

/-- A number that has some digits at least unless its padding says otherwise. -/
def number (p : Padding) (least : Nat) (fill : Char) (n : Int) : List Char :=
  match p.fill with
  | some '-' => digits 0 '0' n
  | some '+' | some '0' => digits (max least (p.width.getD 0)) '0' n
  | some c => digits (max least (p.width.getD 0)) (if c = '_' then ' ' else c) n
  | none => digits (max least (p.width.getD 0)) fill n

/-- A year, which may have a sign if it has more than four digits. -/
def yearly (p : Padding) (least : Nat) (n : Int) : List Char :=
  (if p.fill = some '+' && 9999 < n then ['+'] else []) ++ number p least '0' n

/-- A text in the letters that are wanted, padded in front. -/
def text (p : Padding) (cs : List Char) : List Char :=
  let cs := if p.upper then cs.map Char.toUpper else cs
  let fill : Char := if p.fill = some '0' || p.fill = some '+' then '0' else ' '
  if p.fill = some '-' then cs
  else List.replicate (p.width.getD 0 - cs.length) fill ++ cs

/-- Seconds ahead of Greenwich, with so many colons; three of them show what is needed. Zeros fill the
room behind the sign, blanks that in front of it. -/
def ahead (p : Padding) (colons : Nat) (n : Int) : List Char :=
  let sign : Char := if n < 0 then '-' else '+'
  let (hours, minutes, seconds) := (n.natAbs / 3600, n.natAbs / 60 % 60, n.natAbs % 60)
  let two (n : Nat) : List Char := digits 2 '0' n
  let (least, body) : Nat × List Char := match colons with
    | 0 => (5, two hours ++ two minutes)
    | 1 => (6, two hours ++ ':' :: two minutes)
    | 2 => (9, two hours ++ ':' :: two minutes ++ ':' :: two seconds)
    | _ =>
      (3, if seconds ≠ 0 then two hours ++ ':' :: two minutes ++ ':' :: two seconds
        else if minutes ≠ 0 then two hours ++ ':' :: two minutes
        else two hours)
  let width := max least (p.width.getD 0)
  let bare := body.dropWhile (· = '0')
  let bare := if bare.head?.any Char.isDigit then bare else '0' :: bare
  match p.fill with
  | some '-' => sign :: bare
  | some '_' => List.replicate (width - 1 - bare.length) ' ' ++ sign :: bare
  | _ => sign :: List.replicate (width - 1 - body.length) '0' ++ body

/-- A name in a list. -/
def named (names : List String) (i : Int) : List Char :=
  (names.getD i.toNat "").toList

/-- The number of the week in a year whose first week begins with the first day of some kind. -/
def weekNumber (m : Moment) (first : Int) : Int :=
  (m.yearDay + 7 - (m.weekday - first) % 7) / 7

/-- What a directive that stands for others stands for. -/
def compound? : Char → Option String
  | 'c' => some "%a %b %e %H:%M:%S %Y"
  | 'D' | 'x' => some "%m/%d/%y"
  | 'F' => some "%+4Y-%m-%d"
  | 'r' => some "%I:%M:%S %p"
  | 'R' => some "%H:%M"
  | 'T' | 'X' => some "%H:%M:%S"
  | _ => none

/-- What a directive shows; `exact` says that it may show nanoseconds and quarters too. -/
def part? (s : Shown) (exact : Bool) (p : Padding) (colons : Nat) (c : Char) : Option (List Char) :=
  let m := s.zone.moment s.seconds s.nano
  let (zoneName, zoneAhead) := s.zone.at_ s.seconds
  let twelve : Int := (m.hour + 11) % 12 + 1
  let half : List Char := if m.hour < 12 then "AM".toList else "PM".toList
  let p' : Padding := if p.swapped then { p with upper := true } else p
  if 0 < colons then
    if c = 'z' && exact then some (ahead p colons zoneAhead) else none
  else
  match c with
  | '%' => some (text p ['%'])
  | 'n' => some (text p ['\n'])
  | 't' => some (text p ['\t'])
  | 'a' => some (text p' ((named Calendar.weekdays m.weekday).take 3))
  | 'A' => some (text p' (named Calendar.weekdays m.weekday))
  | 'b' | 'h' => some (text p' ((named Calendar.months (m.month - 1)).take 3))
  | 'B' => some (text p' (named Calendar.months (m.month - 1)))
  | 'C' => some (yearly p 2 (m.year.tdiv 100))
  | 'd' => some (number p 2 '0' m.day)
  | 'e' => some (number p 2 ' ' m.day)
  | 'g' => some (number p 2 '0' (m.week.1.natAbs % 100 : Nat))
  | 'G' => some (yearly p 4 m.week.1)
  | 'H' => some (number p 2 '0' m.hour)
  | 'I' => some (number p 2 '0' twelve)
  | 'j' => some (number p 3 '0' (m.yearDay + 1))
  | 'k' => some (number p 2 ' ' m.hour)
  | 'l' => some (number p 2 ' ' twelve)
  | 'm' => some (number p 2 '0' m.month)
  | 'M' => some (number p 2 '0' m.minute)
  | 'p' => some (text p (if p.swapped then half.map Char.toLower else half))
  | 'P' => some (text p (half.map Char.toLower))
  | 's' => some (number p 1 '0' s.seconds)
  | 'S' => some (number p 2 '0' m.second)
  | 'u' => some (number p 1 '0' ((m.weekday + 6) % 7 + 1))
  | 'U' => some (number p 2 '0' (weekNumber m 0))
  | 'V' => some (number p 2 '0' m.week.2)
  | 'w' => some (number p 1 '0' m.weekday)
  | 'W' => some (number p 2 '0' (weekNumber m 1))
  | 'y' => some (number p 2 '0' (m.year.natAbs % 100 : Nat))
  | 'Y' => some (yearly p (if exact then 4 else 1) m.year)
  | 'z' => some (ahead p 0 zoneAhead)
  | 'Z' => some (text p (if p.swapped then zoneName.map Char.toLower else zoneName))
  | 'q' => if exact then some (number p 1 '0' ((m.month - 1) / 3 + 1)) else none
  | 'N' =>
    if !exact then none
    else
      let all := digits 9 '0' s.nano
      let wanted := p.width.getD 9
      let shown := all.take wanted ++ List.replicate (wanted - 9) '0'
      let kept := (shown.reverse.dropWhile (· = '0')).reverse
      let kept := if kept = [] then ['0'] else kept
      some (if p.fill = some '_' then kept ++ List.replicate (shown.length - kept.length) ' ' else shown)
  | _ => none

/-- The flags of a directive. -/
def flagsOf (p : Padding) : List Char → Padding × List Char
  | '-' :: cs => flagsOf { p with fill := some '-' } cs
  | '_' :: cs => flagsOf { p with fill := some '_' } cs
  | '0' :: cs => flagsOf { p with fill := some '0' } cs
  | '+' :: cs => flagsOf { p with fill := some '+' } cs
  | '^' :: cs => flagsOf { p with upper := true } cs
  | '#' :: cs => flagsOf { p with swapped := true } cs
  | cs => (p, cs)

/-- A directive behind its sign: the padding, the colons, the letter and what is left; nothing if the form
ends too early. -/
def directive? (cs : List Char) : Option (Padding × Nat × Char × List Char) :=
  let (p, rest) := flagsOf ⟨none, none, false, false⟩ cs
  let width := rest.takeWhile Char.isDigit
  let rest := rest.drop width.length
  let p := if width = [] then p
    else { p with width := some (min 4096 (width.foldl (fun n c => n * 10 + (c.toNat - '0'.toNat)) 0)) }
  let rest := match rest with
    | 'E' :: r | 'O' :: r => r
    | r => r
  let colons := rest.takeWhile (· = ':')
  match rest.drop colons.length with
  | [] => none
  | c :: rest => some (p, colons.length, c, rest)

/-- A time in a form; the fuel bounds the characters of the form. -/
def showFrom (s : Shown) (exact : Bool) : Nat → List Char → List Char
  | 0, _ => []
  | fuel + 1, cs =>
    match cs with
    | [] => []
    | '%' :: rest =>
      match directive? rest with
      | none => '%' :: showFrom s exact fuel rest
      | some (p, colons, c, after) =>
        let written := '%' :: rest.take (rest.length - after.length)
        match (if colons = 0 then compound? c else none) with
        | some whole =>
          match c, p.width with
          | 'F', some width =>
            let year := "%+".toList ++ Nat.toDigits 10 (width - 6) ++ "Y-%m-%d".toList
            showFrom s exact fuel year ++ showFrom s exact fuel after
          | _, _ => text p (showFrom s exact fuel whole.toList) ++ showFrom s exact fuel after
        | none =>
          match part? s exact p colons c with
          | some shown => shown ++ showFrom s exact fuel after
          | none => written ++ showFrom s exact fuel after
    | c :: rest => c :: showFrom s exact fuel rest

/-- A time in a form. -/
def render (s : Shown) (exact : Bool) (form : String) : String :=
  String.ofList (showFrom s exact (form.length + 32) form.toList)

end Form
end Scratchpad.Time
