import Scratchpad.Shell.Tools.Names
import Scratchpad.Time.Form
import Scratchpad.Time.Phrase

/-!
# Dates

The tool that shows times, the one that it is or others that are said in words.
-/

namespace Scratchpad.Shell

open Time (Shown Zone)

namespace Scene

/-- The zone whose clocks are meant. -/
def zone (s : Scene) : Zone :=
  .ofText (s.environment.lookup "TZ")

/-- The time that it is, in seconds and nanoseconds. -/
def now (s : Scene) : Int × Int :=
  (s.files.now / 1000000000, s.files.now % 1000000000)

/-- The time that a text means. -/
def time? (s : Scene) (zone : Zone) (text : String) : Option (Int × Int) :=
  Time.Phrase.read? zone s.now.1 s.now.2 text

end Scene

namespace Tools

open Deed (complaint ofWrites told)

/-- How much of a time a form shows that has a name. -/
def isoForms : List (String × String) :=
  [("hours", "%Y-%m-%dT%H%:z"), ("minutes", "%Y-%m-%dT%H:%M%:z"), ("date", "%Y-%m-%d"),
    ("seconds", "%Y-%m-%dT%H:%M:%S%:z"), ("ns", "%Y-%m-%dT%H:%M:%S,%N%:z")]

def rfcForms : List (String × String) :=
  [("date", "%Y-%m-%d"), ("seconds", "%Y-%m-%d %H:%M:%S%:z"), ("ns", "%Y-%m-%d %H:%M:%S.%N%:z")]

/-- The one value of a list that a text is or begins, or what is wrong with the text. -/
def chosen (forms : List (String × String)) (tool option text : String) : Except String String :=
  let fits := forms.filter fun (name, _) => text.toList.isPrefixOf name.toList
  match forms.lookup text, fits with
  | some form, _ => .ok form
  | none, [(_, form)] => .ok form
  | none, fits =>
    .error (tool ++ ": " ++ (if fits.isEmpty then "invalid" else "ambiguous") ++ " argument " ++
      Quoting.always text ++ " for " ++ Quoting.always option ++ "\nValid arguments are:\n" ++
      String.join (forms.map fun (name, _) => "  - " ++ Quoting.always name ++ "\n") ++
      "Try '" ++ tool ++ " --help' for more information.")

/-- The pattern that an option asks for. -/
def datePattern (o : String × String) : Option (Except String String) :=
  match o.1 with
  | "rfc-email" => some (.ok "%a, %d %b %Y %H:%M:%S %z")
  | "iso-8601" => some (if o.2 = "" then .ok "%Y-%m-%d" else chosen isoForms "date" "--iso-8601" o.2)
  | "rfc-3339" => some (chosen rfcForms "date" "--rfc-3339" o.2)
  | "resolution" => some (.ok "%s.%N")
  | _ => none

/-- Where the times come from that are shown. -/
inductive TimeSource
  | now
  | phrase (text : String)
  | lines (file : String)
  | file (name : String)
  | resolution

def usualPattern : String := "%a %b %e %H:%M:%S %Z %Y"

/-- Shows times. -/
def date (s : Scene) : Deed :=
  reading s "date" 1 [.valued 'd' "date", .valued 'f' "file", ⟨some 'I', "iso-8601", .perhaps⟩,
    .flag 'R' "rfc-email", .longFlag "rfc-822", .longFlag "rfc-2822", .longValued "rfc-3339",
    .valued 'r' "reference", .valued 's' "set", .flag 'u' "utc", .longFlag "universal",
    .longFlag "debug", .longFlag "resolution"] fun found operands =>
    let found : Options := found.map fun (name, value) =>
      (if name = "rfc-822" || name = "rfc-2822" then "rfc-email" else name, value)
    let failing (text : String) : Deed := complaint s (hint "date" text) 1
    let sources := ["date", "file", "reference", "resolution"].filter found.has
    let isUtc := found.has "utc" || found.has "universal"
    let zone := if isUtc then Zone.universal else s.zone
    let shown (pattern : String) (at_ : Int × Int) : Bytes :=
      Bytes.ofString (Time.Form.render ⟨at_.1, at_.2, zone⟩ true pattern ++ "\n")
    let asked := found.filterMap datePattern
    match asked.findSome? (fun p => match p with
      | .error text => some text
      | .ok _ => none), asked with
    | some text, _ => complaint s text 1
    | none, _ :: _ :: _ => complaint s "date: multiple output formats specified" 1
    | none, asked =>
      if 1 < sources.length then
        failing "the options to specify dates for printing are mutually exclusive"
      else if found.has "set" && !sources.isEmpty then
        failing "the options to print and set the time may not be used together"
      else
        let own := (asked.head?.bind Except.toOption)
        match operands with
        | _ :: extra :: _ => failing ("extra operand " ++ Quoting.always extra)
        | operands =>
          let form := operands.head?.bind fun text =>
            if text.startsWith "+" then some (String.ofList (text.toList.drop 1)) else none
          let pattern := (form.or own).getD usualPattern
          let one (text : String) : Except String Bytes :=
            match s.time? zone text with
            | some time => .ok (shown pattern time)
            | none => .error ("date: invalid date " ++ Quoting.always text)
          if operands ≠ [] && form.isNone then
            if !sources.isEmpty || found.has "set" then
              failing ("the argument " ++ Quoting.always (operands.headD "") ++
                " lacks a leading '+';\nwhen using an option to specify date(s), any non-option\n" ++
                "argument must be a format string beginning with '+'")
            else complaint s ("date: invalid date " ++ Quoting.always (operands.headD "")) 1
          else if form.isSome && own.isSome then
            complaint s "date: multiple output formats specified" 1
          else if found.has "set" then
            match one ((found.value? "set").getD "") with
            | .ok out => ofWrites s [told "date: cannot set date: Operation not permitted", (.out, out)] 1
            | .error said => complaint s said 1
          else
            match found.value? "date", found.value? "file", found.value? "reference" with
            | some text, _, _ =>
              match one text with
              | .ok out => ofWrites s [(.out, out)] 0
              | .error said => complaint s said 1
            | none, some file, _ =>
              finding s "date" plainly [file] fun f =>
                let answers := (linesOf f.bytes).map fun line => one (String.ofList (Text.Utf8.lossy line))
                let writes := answers.map fun
                  | .ok out => (Outlet.out, out)
                  | .error said => told said
                { ofWrites s (f.errors ++ writes)
                    (if f.isFine && answers.all Except.toBool then 0 else 1) with unread := f.unread }
            | none, none, some file =>
              match s.files.node? (Files.Path.ofString file) with
              | .ok node =>
                let at_ := node.traits.changed
                ofWrites s [(.out, shown pattern (at_ / 1000000000, at_ % 1000000000))] 0
              | .error e => complaint s ("date: " ++ plainly file e) 1
            | none, none, none =>
              if found.has "resolution" then ofWrites s [(.out, shown pattern (0, 1))] 0
              else ofWrites s [(.out, shown pattern s.now)] 0

end Tools
end Scratchpad.Shell
