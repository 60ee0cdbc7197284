import Scratchpad.Shell.Builtins.Basic

/-!
# Limits

The permissions that new files do not get, what a shell and its programs may use up, and what they
have used.
-/

namespace Scratchpad.Shell.Builtins

/-- The permissions for the owner, the group and the others, from those for one. -/
def spread (positions bits : Nat) : Nat :=
  (if positions &&& 64 = 0 then 0 else bits <<< 6) ||| (if positions &&& 8 = 0 then 0 else bits <<< 3) |||
    (if positions &&& 1 = 0 then 0 else bits)

/-- The permissions that a letter stands for, where there were some before. -/
def permission? (before : Nat) (c : Char) : Option Nat :=
  match c with
  | 'r' => some 4
  | 'w' => some 2
  | 'x' => some 1
  | 'u' => some (before >>> 6 &&& 7)
  | 'g' => some (before >>> 3 &&& 7)
  | 'o' => some (before &&& 7)
  | 'X' => some (if before &&& 73 = 0 then 0 else 1)
  | 's' => some 0
  | _ => none

/-- The permissions that a symbolic mode leaves; `whose` says who is meant so far, and the fuel bounds
the changes. Gives the character that makes no sense, if there is one. -/
def changed (before : Nat) : Nat → Nat → Nat → List Char → Except Char Nat
  | 0, _, allowed, _ => .ok allowed
  | fuel + 1, whose, allowed, cs =>
    let who := cs.takeWhile ['a', 'u', 'g', 'o'].contains
    let whose := who.foldl (fun n c =>
      n ||| (match c with
        | 'a' => 73
        | 'u' => 64
        | 'g' => 8
        | _ => 1)) whose
    let whose := if whose = 0 then 73 else whose
    match cs.drop who.length with
    | [] => .ok allowed
    | sign :: r =>
      if ! ['=', '+', '-'].contains sign then .error sign
      else
        let letters := r.takeWhile fun c => (permission? before c).isSome
        let bits := letters.foldl (fun n c => n ||| (permission? before c).getD 0) 0
        let new := spread whose bits
        let allowed :=
          if sign = '+' then allowed ||| new
          else if sign = '-' then allowed &&& (511 ^^^ new)
          else new ||| (allowed &&& (511 ^^^ spread whose 7))
        match r.drop letters.length with
        | [] => .ok allowed
        | ',' :: r => changed before fuel 0 allowed r
        | c :: r =>
          if ['=', '+', '-'].contains c then changed before fuel whose allowed (c :: r) else .error c

/-- Shows or sets which permissions new files do not get. -/
def umask : Builtin := fun args st =>
  reading "umask" false (if st.isRich then "pS" else "S") "umask [-p] [-S] [mode]" args st
    fun found rest =>
      let letters (n : Nat) : String :=
        (if n &&& 4 = 0 then "" else "r") ++ (if n &&& 2 = 0 then "" else "w") ++
          (if n &&& 1 = 0 then "" else "x")
      let symbolic (mask : Nat) : String :=
        let allowed := 511 ^^^ mask
        "u=" ++ letters (allowed >>> 6) ++ ",g=" ++ letters (allowed >>> 3) ++ ",o=" ++ letters allowed
      match rest with
      | [] =>
        let text := if asked found 'S' then symbolic st.files.mask else Tools.padOctal 4 st.files.mask
        let lead := if asked found 'p' then (if asked found 'S' then "umask -S " else "umask ") else ""
        sayText "umask" (lead ++ text ++ "\n") 0 st
      | arg :: _ =>
        let text := ByteText.shown arg
        let setTo (mask : Nat) : State :=
          let st := { st with files := { st.files with mask }, status := 0 }
          if asked found 'S' && st.isRich then sayText "umask" (symbolic mask ++ "\n") 0 st else st
        if arg.head?.any Char.isDigit then
          if arg.all Format.isOctal then setTo (Format.octal arg % 512)
          else if st.isRich then fails "umask" (text ++ ": octal number out of range") 1 st
          else fails "umask" ("Illegal number: " ++ text) 2 st
        else
          match changed (511 ^^^ st.files.mask) (arg.length + 1) 0 (511 ^^^ st.files.mask) arg with
          | .ok allowed => setTo (511 ^^^ allowed)
          | .error c =>
            if st.isRich then
              fails "umask" ("`" ++ String.singleton c ++ "': invalid symbolic mode operator") 1 st
            else fails "umask" ("Illegal mode: " ++ text) 2 st

/-- What may be used up: the letter of a limit, what it is called, and the limit if there is one. -/
def limits : List (Char × String × Option Nat) :=
  [('t', "time(seconds)", none), ('f', "file(blocks)", none), ('d', "data(kbytes)", none),
    ('s', "stack(kbytes)", some 8192), ('c', "coredump(blocks)", some 0),
    ('m', "memory(kbytes)", none), ('l', "locked memory(kbytes)", some 8192),
    ('p', "process", none), ('n', "nofiles", some 20000), ('v', "vmemory(kbytes)", none),
    ('w', "locks", none), ('r', "rtprio", some 0)]

/-- Shows limits; setting one has no effect. -/
def ulimit : Builtin := fun args st =>
  reading "ulimit" false (if st.isRich then "HSabcdefiklmnpqrstuvxPRT" else "HSatfdscmlpnvwr")
    "ulimit [-SHabcdefiklmnpqrstuvxPRT] [limit]" args st fun found rest =>
      let shown (limit : Option Nat) : String := (limit.map Nat.repr).getD "unlimited"
      if asked found 'a' then
        sayText "ulimit" (String.join (limits.map fun (_, name, limit) =>
          Tools.padRight 20 name ++ " " ++ shown limit ++ "\n")) 0 st
      else
        match rest with
        | [] =>
          let asked := (found.filter fun (c, _) => c ≠ 'H' && c ≠ 'S').map (·.1)
          let limit := (limits.lookup (asked.getLastD 'f')).bind (·.2)
          sayText "ulimit" (shown limit ++ "\n") 0 st
        | arg :: _ =>
          if arg = "unlimited".toList || arg.all Char.isDigit then st.withStatus 0
          else if st.isRich then fails "ulimit" (ByteText.shown arg ++ ": invalid number") 1 st
          else fails "ulimit" "bad number" 2 st

/-- What has been used up is said to be nothing. -/
def times : Builtin := fun _ st =>
  let none := if st.isRich then "0m0.000s" else "0m0.000000s"
  let line := none ++ " " ++ none ++ "\n"
  sayText "times" (line ++ line) 0 st

end Scratchpad.Shell.Builtins
