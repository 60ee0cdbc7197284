import Scratchpad.Text.Character

/-!
# Writing TOML strings

A string is written in the first of four forms that can hold it plainly: basic, literal, multi-line
basic, multi-line literal. If none can, it is escaped in a basic form, over several lines when it
has a line break.
-/

namespace Scratchpad.Toml

inductive Form
  | basic
  | literal
  | basicLines
  | literalLines
deriving DecidableEq, Repr

namespace Form

/-- A control character other than a tab or a line break. -/
def needsEscape (c : Char) : Bool :=
  (c.toNat < 0x20 || c.toNat == 0x7F) && c != '\t' && c != '\n'

/-- The length of the longest run of `c`. -/
def longestRun (c : Char) (cs : List Char) : Nat :=
  (cs.foldl (fun (run, best) d => if d = c then (run + 1, max best (run + 1)) else (0, best))
    (0, 0)).2

def choose (cs : List Char) : Form :=
  let escapes := cs.any needsEscape
  let backslash := cs.contains '\\'
  let lines := cs.contains '\n'
  let single := longestRun '\'' cs
  let double := longestRun '"' cs
  if !escapes && !backslash && double == 0 && !lines then .basic
  else if !escapes && single == 0 && !lines then .literal
  else if !escapes && !backslash && double ≤ 2 then .basicLines
  else if !escapes && single ≤ 2 then .literalLines
  else if lines then .basicLines
  else .basic

/-- A character other than a quote in one of the basic forms. -/
def escape (lines : Bool) (c : Char) : List Char :=
  match c with
  | '\x08' => "\\b".toList
  | '\t' => "\\t".toList
  | '\x0c' => "\\f".toList
  | '\r' => "\\r".toList
  | '\\' => "\\\\".toList
  | '\n' => if lines then ['\n'] else "\\n".toList
  | c =>
    if needsEscape c then "\\u00".toList ++
      [Text.upperHexDigit (c.toNat / 16), Text.upperHexDigit c.toNat] else [c]

/-- Over several lines only the third quote of a run is escaped; `run` counts the quotes that stand
directly before. -/
def basicChars (lines : Bool) (run : Nat) : List Char → List Char
  | [] => []
  | c :: rest =>
    if c = '"' then
      if !lines || run == 2 then '\\' :: '"' :: basicChars lines 0 rest
      else '"' :: basicChars lines (run + 1) rest
    else escape lines c ++ basicChars lines 0 rest

/-- The multi-line forms begin with a line break if the text has one, which a reader drops. -/
def write (form : Form) (cs : List Char) : List Char :=
  let opening := if cs.contains '\n' then ['\n'] else []
  match form with
  | .basic => ['"'] ++ basicChars false 0 cs ++ ['"']
  | .literal => ['\''] ++ cs ++ ['\'']
  | .basicLines => "\"\"\"".toList ++ opening ++ basicChars true 0 cs ++ "\"\"\"".toList
  | .literalLines => "'''".toList ++ opening ++ cs ++ "'''".toList

end Form

def writeString (s : String) : List Char :=
  (Form.choose s.toList).write s.toList

end Scratchpad.Toml
