import Scratchpad.Settings
import Scratchpad.Toml.Table
import Scratchpad.Toml.Writer

/-!
# Settings as TOML

A settings file has up to five keys; a key that is missing takes its default and a key that is not
known is passed over. The written form has all five in a fixed order and ends in an empty line.
-/

namespace Scratchpad.Settings

open Toml (Members Value)

def string? : Value → Option String
  | .scalar (.string s) => some s
  | _ => none

/-- An integer that fits 64 bits without a sign. -/
def number? : Value → Option UInt64
  | .scalar (.integer n) => if 0 ≤ n ∧ n < UInt64.size then some (UInt64.ofNat n.toNat) else none
  | _ => none

/-- The name of a policy, or a table whose one key is that name and holds nothing. -/
def policy? (v : Value) : Option Policy :=
  match string? v, v.members? with
  | some s, _ => Policy.ofName? s
  | none, some [(name, inner)] => if inner.isEmpty then Policy.ofName? name else none
  | none, _ => none

/-- The value of a key, or the default where the key is missing. -/
def field {α : Type} (members : Members) (key : String) (read : Value → Option α)
    (default : α) : Option α :=
  match Toml.Table.get? members key with
  | none => some default
  | some v => read v

def ofMembers? (members : Members) : Option Settings := do
  return {
    evalUrl := ← field members "eval_url" string? default.evalUrl
    examplesUrl := ← field members "examples_url" string? default.examplesUrl
    redrawIntervalMs := ← field members "redraw_interval_ms" number? default.redrawIntervalMs
    requestTimeoutSecs :=
      ← field members "request_timeout_secs" number? default.requestTimeoutSecs
    responsePolicy := ← field members "response_policy" policy? default.responsePolicy }

/-- Reads a settings file; `none` when it is not TOML or a known key has a value of another kind. -/
def ofText? (text : String) : Option Settings := do
  ofMembers? (← Toml.Table.read? text.toList)

def line (key : String) (value : List Char) : List Char :=
  key.toList ++ " = ".toList ++ value ++ ['\n']

def toChars (s : Settings) : List Char :=
  line "eval_url" (Toml.writeString s.evalUrl) ++
    line "examples_url" (Toml.writeString s.examplesUrl) ++
    line "redraw_interval_ms" (Nat.toDigits 10 s.redrawIntervalMs.toNat) ++
    line "request_timeout_secs" (Nat.toDigits 10 s.requestTimeoutSecs.toNat) ++
    line "response_policy" (Toml.writeString s.responsePolicy.name) ++ ['\n']

def toText (s : Settings) : String :=
  String.ofList s.toChars

end Scratchpad.Settings
