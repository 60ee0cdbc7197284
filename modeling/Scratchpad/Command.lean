import Scratchpad.Text.Character

/-!
# Line commands

A line of a session is a command when it is a colon, a known word, and then nothing or a blank and
more. Only `select` heeds what follows, and needs something there. Every other line is text.
-/

namespace Scratchpad

inductive Command
  | append (line : String)
  | clear
  | submit
  | select (name : String)
  | show
  | quit
deriving DecidableEq, Repr

namespace Command

/-- The command with this word and this trimmed argument. -/
def ofWord? (word : String) (arg : List Char) : Option Command :=
  match word with
  | "clear" => some .clear
  | "submit" => some .submit
  | "eval" => some .submit
  | "select" => if arg.isEmpty then none else some (.select (String.ofList arg))
  | "show" => some .show
  | "quit" => some .quit
  | "q" => some .quit
  | _ => none

def parse (line : String) : Command :=
  match line.toList with
  | ':' :: rest =>
    let word := rest.takeWhile (!Text.isBlank ·)
    let arg := Text.trim ((rest.dropWhile (!Text.isBlank ·)).drop 1)
    (ofWord? (String.ofList word) arg).getD (.append line)
  | _ => .append line

end Command
end Scratchpad
