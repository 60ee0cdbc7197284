import Scratchpad.Shell.Calculation
import Scratchpad.Shell.Expansion

/-!
# Variables

How variables are set. In the plain dialect a variable holds a text. In the rich one it may also hold
a list, and it may be marked: as a number, whose values are calculated, or as a text in letters of one
case only. Variables that are frozen keep their values.
-/

namespace Scratchpad.Shell

namespace Listing

def empty (keyed : Bool) : Listing := ⟨keyed, []⟩

/-- How keys are ordered in a list whose keys are numbers. -/
def keyNumber (key : List Char) : Nat :=
  key.foldl (fun n c => n * 10 + (c.toNat - '0'.toNat)) 0

def insert (l : Listing) (key value : List Char) : Listing :=
  if l.keyed then
    if l.items.any (·.1 = key) then
      { l with items := l.items.map fun (k, v) => (k, if k = key then value else v) }
    else { l with items := l.items ++ [(key, value)] }
  else
    let n := keyNumber key
    let smaller := l.items.takeWhile fun (k, _) => keyNumber k < n
    let rest := l.items.drop smaller.length
    { l with items := smaller ++ (key, value) :: rest.filter (·.1 ≠ key) }

def erase (l : Listing) (key : List Char) : Listing :=
  { l with items := l.items.filter (·.1 ≠ key) }

/-- The number behind the last key. -/
def nextKey (l : Listing) : Nat :=
  l.items.foldl (fun n (k, _) => max n (keyNumber k + 1)) 0

def ofList (values : List (List Char)) : Listing :=
  ⟨false, values.zipIdx.map fun (v, i) => (Nat.toDigits 10 i, v)⟩

/-- Where a key is kept in the table of a keyed list. -/
def bucket (key : List Char) : Nat :=
  (key.foldl (fun (n : UInt32) c => (n * 16777619) ^^^ c.toNat.toUInt32) 2166136261).toNat % 1024

/-- The members in the order in which they are kept. -/
def shown (l : Listing) : List (List Char × List Char) :=
  if l.keyed then l.items.reverse.mergeSort fun a b => bucket a.1 ≤ bucket b.1 else l.items

end Listing

namespace State

/-- The members of a variable: those of its list, or its one value. -/
def members (st : State) (name : List Char) : List (List Char × List Char) :=
  let name := st.aim name
  match (if st.isRich then st.keptList? name else none) with
  | some texts => (Listing.ofList texts).items
  | none =>
    match st.lists.lookup name with
    | some l => l.shown
    | none =>
      match st.vars.lookup name with
      | some value => [(['0'], value)]
      | none => []

def isKeyed (st : State) (name : List Char) : Bool :=
  let name := st.aim name
  match st.lists.lookup name with
  | some l => l.keyed
  | none => st.hasTrait name 'A'

/-- One member of a variable. -/
def member? (st : State) (name key : List Char) : Option (List Char) :=
  (st.members name).lookup key

/-- How calculations see the variables. -/
def surroundings (st : State) : Calculation.Surroundings where
  get place :=
    match place.key with
    | none => st.parameter? place.name
    | some key => st.member? place.name key
  keyed := st.isKeyed
  wary := st.has 'u'

/-- The variable that a reference stands for, or the member of one. -/
def aimed (st : State) (p : Calculation.Place) : Calculation.Place :=
  if st.traits.isEmpty then p
  else
    let name := st.aim p.name
    let base := name.takeWhile (· ≠ '[')
    if p.key.isNone && base.length < name.length then
      ⟨base, some ((name.drop (base.length + 1)).dropLast)⟩
    else ⟨name, p.key⟩

/-- Puts a text into a variable or a member of it, without asking whether it may. -/
def place (st : State) (p : Calculation.Place) (value : List Char) : State :=
  let p := st.aimed p
  let st := if st.has 'a' then st.expose p.name else st
  match p.key, st.lists.lookup p.name with
  | none, none =>
    if st.hasTrait p.name 'a' || st.hasTrait p.name 'A' then
      st.setList p.name ((Listing.empty (st.hasTrait p.name 'A')).insert ['0'] value)
    else st.set p.name value
  | none, some l => st.setList p.name (l.insert ['0'] value)
  | some key, some l => st.setList p.name (l.insert key value)
  | some key, none =>
    let before : Listing := match st.vars.lookup p.name with
      | some old => ⟨false, [(['0'], old)]⟩
      | none => Listing.empty (st.hasTrait p.name 'A')
    st.setList p.name (before.insert key value)

/-- Works out an expression and makes the assignments in it; `none` if it makes no sense, which `object`
tells. -/
def calculate (st : State) (object : State → String → State) (text : List Char) :
    State × Option Int :=
  match Calculation.evaluate st.surroundings text with
  | .ok (n, given) =>
    (given.foldl (fun (st : State) (p, n) => st.place p (toString n).toList) st, some n)
  | .error f => (object st f.message, none)

/-- The key that a text names in a list: the text itself, or the number that it comes to, counted from
the end if it is negative. -/
def keyOf (st : State) (object : State → String → State) (name text : List Char) :
    State × Option (List Char) :=
  let name := st.aim name
  if st.isKeyed name then (st, some text)
  else
    match st.calculate object text with
    | (st, none) => (st, none)
    | (st, some (.ofNat n)) => (st, some (Nat.toDigits 10 n))
    | (st, some n) =>
      let behind : Int := match st.lists.lookup name with
        | some l => l.nextKey
        | none => if (st.vars.lookup name).isSome then 1 else 0
      if 0 ≤ behind + n then (st, some (Nat.toDigits 10 (behind + n).toNat))
      else
        (object st (ByteText.shown (name ++ '[' :: text ++ [']']) ++ ": bad array subscript"), none)

/-- Gives a variable, or a member of it, a value as its marks want it. -/
def put (st : State) (object : State → String → State) (p : Calculation.Place) (adds : Bool)
    (value : List Char) : State :=
  let p := st.aimed p
  if st.frozen.contains p.name then
    object st (ByteText.shown p.name ++ ": readonly variable")
  else
    let old : List Char := match p.key with
      | none => (st.get? p.name).getD []
      | some key => (st.member? p.name key).getD []
    if st.hasTrait p.name 'i' then
      let text := if adds then old ++ '+' :: '(' :: value ++ [')'] else value
      let text := if adds && old = [] then value else text
      match st.calculate object text with
      | (st, some n) => st.place p (toString n).toList
      | (st, none) => st
    else
      let whole := if adds then old ++ value else value
      st.place p (if st.hasTrait p.name 'u' then whole.map Char.toUpper
        else if st.hasTrait p.name 'l' then whole.map Char.toLower
        else whole)

/-- Gives a variable a value. Where it is frozen the shell of the plain dialect ends, and that of the
rich one gives up the line. -/
def assign (st : State) (name value : List Char) : State :=
  if st.isRich then st.put giveUp ⟨name, none⟩ false value
  else if st.frozen.contains name then st.collapse (frozenText name)
  else st.set name value

end State
end Scratchpad.Shell
