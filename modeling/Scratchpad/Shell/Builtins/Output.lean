import Scratchpad.Shell.Builtins.Reading
import Scratchpad.Time.Form

/-!
# Commands that write

What `echo` and `printf` write. The plain dialect has escapes in all texts, the rich one only where
they are asked for.
-/

namespace Scratchpad.Shell.Builtins

/-- The dialect of formats of the commands in the rich dialect. -/
def richFormat (st : State) : Format.Dialect :=
  let zone := Time.Zone.ofText ((st.get? "TZ".toList).map ByteText.shown)
  let clock (n : Int) (form : String) : String :=
    let seconds := if n = -1 then st.nowNs / 1000000000 else if n = -2 then st.startedAt / 1000000000 else n
    Time.Form.render ⟨seconds, 0, zone⟩ false form
  .rich (fun cs => ByteText.toBytes (richlyEscaped cs)) clock

/-- A text with the escapes of `echo` in the rich dialect replaced, and whether it ends the output. The
fuel bounds the characters. -/
def unescape : Nat → List Char → List Char → List Char × Bool
  | 0, acc, _ => (acc.reverse, false)
  | _, acc, [] => (acc.reverse, false)
  | fuel + 1, acc, '\\' :: c :: r =>
    let plain (d : Char) := unescape fuel (d :: acc) r
    let kept (_ : Unit) := unescape fuel (c :: '\\' :: acc) r
    let code (base digits : Nat) (start : List Char) (wide : Bool) :=
      match ByteText.numberIn base digits start with
      | some (n, r) =>
        unescape fuel ((if wide then ByteText.ofCode n else [Char.ofNat (n % 256)]).reverse ++ acc) r
      | none => kept ()
    match c with
    | 'a' => plain '\x07'
    | 'b' => plain '\x08'
    | 'e' | 'E' => plain '\x1b'
    | 'f' => plain '\x0c'
    | 'n' => plain '\n'
    | 'r' => plain '\r'
    | 't' => plain '\t'
    | 'v' => plain '\x0b'
    | '\\' => plain '\\'
    | 'c' => (acc.reverse, true)
    | '0' =>
      match ByteText.numberIn 8 3 r with
      | some (n, r) => unescape fuel (Char.ofNat (n % 256) :: acc) r
      | none => plain '\x00'
    | 'x' => code 16 2 r false
    | 'u' => code 16 4 r true
    | 'U' => code 16 8 r true
    | _ => kept ()
  | fuel + 1, acc, c :: r => unescape fuel (c :: acc) r

def richEcho : Builtin := fun args st =>
  let isOption (arg : List Char) : Bool :=
    match arg with
    | '-' :: c :: cs => (c :: cs).all ['n', 'e', 'E'].contains
    | _ => false
  let options := args.takeWhile isOption
  let text := [' '].intercalate (args.drop options.length)
  let marks := options.flatMap (·.drop 1)
  let escapes : Bool := match (marks.filter (· ≠ 'n')).getLast? with
    | some c => c = 'e'
    | none => st.manners.contains "xpg_echo"
  let (text, stopped) := if escapes then unescape (text.length + 1) [] text else (text, false)
  let bytes := ByteText.toBytes text
  say "echo" (if stopped || marks.contains 'n' then bytes else bytes ++ [newline]) 0 st

def echo : Builtin := fun args st =>
  if st.isRich then richEcho args st
  else
    let (bare, words) := match args with
      | ['-', 'n'] :: words => (true, words)
      | words => (false, words)
    let text := [' '].intercalate words
    let (bytes, stopped) := Format.unescape .narrow (text.length + 1) [] text
    say "echo" (if bare || stopped then bytes else bytes ++ [newline]) 0 st

/-- Writes its arguments as a format says, or makes a variable hold what it would write. -/
def richPrintf : Builtin := fun args st =>
  let usage := "printf [-v var] format [arguments]"
  reading "printf" false "v:" usage args st fun found rest =>
    match rest with
    | [] => misused "printf" "" usage st
    | format :: args =>
      let (bytes, texts, code) := Format.run (richFormat st) format args
      let st := texts.foldl (fun (st : State) text => st.complain ("printf: " ++ text)) st
      match found.getLast? with
      | some (_, name) =>
        if Shell.isName (splitKey name).1 then
          (giveBy "printf" st name (ByteText.ofBytes (bytes.filter (· ≠ 0)))).withStatus code
        else fails "printf" (notAName name) 2 st
      | none => say "printf" bytes code st

def printf : Builtin := fun args st =>
  if st.isRich then richPrintf args st
  else
    reading "printf" false "" "" args st fun _ rest =>
      match rest with
      | [] => (st.complain "printf: usage: printf format [arg ...]").withStatus 2
      | format :: args =>
        let (bytes, texts, code) := Format.run .narrow format args
        let st := texts.foldl (fun (st : State) text => st.complain ("printf: " ++ text)) st
        say "printf" bytes code st

end Scratchpad.Shell.Builtins
