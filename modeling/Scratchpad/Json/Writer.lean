import Scratchpad.Json.Value

/-!
# Writing JSON

The compact form has no blanks. The pretty form puts every item and member on a line of its own,
two spaces deeper than what holds it; an empty array or object stays on one line.
-/

namespace Scratchpad.Json

/-- Quotes, backslashes and control characters below `U+0020` are escaped, all else is raw. -/
def escape (c : Char) : List Char :=
  match c with
  | '"' => "\\\"".toList
  | '\\' => "\\\\".toList
  | '\x08' => "\\b".toList
  | '\x0c' => "\\f".toList
  | '\n' => "\\n".toList
  | '\r' => "\\r".toList
  | '\t' => "\\t".toList
  | c =>
    if c.toNat < 0x20 then
      "\\u00".toList ++ [Text.hexDigit (c.toNat / 16), Text.hexDigit c.toNat]
    else [c]

def quote (s : String) : List Char :=
  '"' :: s.toList.flatMap escape ++ ['"']

mutual

def compactChars : Json → List Char
  | .null => "null".toList
  | .bool true => "true".toList
  | .bool false => "false".toList
  | .number n => n.text
  | .string s => quote s
  | .array items => '[' :: compactItems items
  | .object members => '{' :: compactMembers members

/-- Items after the opening bracket, with the closing one. -/
def compactItems : List Json → List Char
  | [] => [']']
  | [x] => compactChars x ++ [']']
  | x :: rest => compactChars x ++ ',' :: compactItems rest

def compactMembers : List (String × Json) → List Char
  | [] => ['}']
  | [(k, x)] => quote k ++ ':' :: compactChars x ++ ['}']
  | (k, x) :: rest => quote k ++ ':' :: compactChars x ++ ',' :: compactMembers rest

end

/-- A new line at the given depth. -/
def newline (depth : Nat) : List Char :=
  '\n' :: List.replicate (2 * depth) ' '

mutual

/-- The pretty form of a value that stands at the given depth. -/
def prettyChars (depth : Nat) : Json → List Char
  | .null => "null".toList
  | .bool true => "true".toList
  | .bool false => "false".toList
  | .number n => n.text
  | .string s => quote s
  | .array [] => "[]".toList
  | .array (x :: rest) => '[' :: prettyItems depth (x :: rest)
  | .object [] => "\x7b\x7d".toList
  | .object (m :: rest) => '{' :: prettyMembers depth (m :: rest)

def prettyItems (depth : Nat) : List Json → List Char
  | [] => newline depth ++ [']']
  | [x] => newline (depth + 1) ++ prettyChars (depth + 1) x ++ newline depth ++ [']']
  | x :: rest =>
    newline (depth + 1) ++ prettyChars (depth + 1) x ++ ',' :: prettyItems depth rest

def prettyMembers (depth : Nat) : List (String × Json) → List Char
  | [] => newline depth ++ ['}']
  | [(k, x)] =>
    newline (depth + 1) ++ quote k ++ ": ".toList ++ prettyChars (depth + 1) x ++
      newline depth ++ ['}']
  | (k, x) :: rest =>
    newline (depth + 1) ++ quote k ++ ": ".toList ++ prettyChars (depth + 1) x ++
      ',' :: prettyMembers depth rest

end

def compact (v : Json) : String :=
  String.ofList v.compactChars

def pretty (v : Json) : String :=
  String.ofList (v.prettyChars 0)

end Scratchpad.Json
