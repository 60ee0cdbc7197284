import Scratchpad.Shell.Source
import Scratchpad.Shell.Variables

/-!
# Values of parameters

A parameter has one value, or many: those of the arguments or the members of a list, which an expansion
keeps apart or joins. What an expansion makes of one value it makes of each of many.
-/

namespace Scratchpad.Shell

/-- What a parameter stands for, once its index is known. -/
inductive Target
  | arguments (joined : Bool)
  | variable (p : Calculation.Place)
  | members (name : List Char) (joined : Bool)
  | literal (text : List Char)

inductive Value
  | one (text : Option (List Char))
  | many (texts : List (List Char)) (joined : Bool)

namespace Target

/-- The target of a name without an index. -/
def ofName (name : List Char) : Target :=
  if name = ['@'] then .arguments false
  else if name = ['*'] then .arguments true
  else .variable ⟨name, none⟩

/-- How a target is named in complaints. -/
def shown : Target → String
  | .arguments joined => if joined then "*" else "@"
  | .variable ⟨name, none⟩ => ByteText.shown name
  | .variable ⟨name, some key⟩ => ByteText.shown (name ++ '[' :: key ++ [']'])
  | .members name joined => ByteText.shown (name ++ (if joined then "[*]" else "[@]").toList)
  | .literal text => ByteText.shown text

end Target

namespace State

/-- Does a variable hold anything? -/
def holds (st : State) (name : List Char) : Bool :=
  (st.lists.any (·.1 = name)) || (st.parameter? name).isSome

/-- What a target holds. -/
def valueOf (st : State) : Target → Value
  | .arguments joined => .many st.args joined
  | .members name joined => .many ((st.members name).map (·.2)) joined
  | .literal text => .one (some text)
  | .variable ⟨name, none⟩ => .one (st.parameter? name)
  | .variable ⟨name, some key⟩ => .one (st.member? name key)

end State

/-- Where a part stands: is it quoted, and may it become several fields? -/
structure Mode where
  quoted : Bool
  splits : Bool

namespace Mode

def bare : Mode := ⟨false, true⟩

/-- One text as a piece of a word. -/
def piece (m : Mode) (cs : List Char) : List Piece :=
  [if m.quoted then .fixed cs true else .soft cs]

/-- Do several texts stay apart in the plain dialect? Outside of quotes they do only if there are
separators of one's own. -/
def keepsApart (m : Mode) (st : State) (joined : Bool) : Bool :=
  m.splits && if m.quoted then !joined else (st.get? ['I', 'F', 'S']).isSome

/-- Several texts as pieces of a word: they are joined where they have to be one field. In the plain
dialect what joins is the first separator wherever there are no fields, and texts that are split are
split together; in the rich one it is a blank unless joining was asked for. -/
def pieces (m : Mode) (st : State) (texts : List (List Char)) (joined : Bool) : List Piece :=
  if m.quoted && joined then m.piece (st.joint.intercalate texts)
  else if !m.splits then
    m.piece ((if st.isRich && !joined then [' '] else st.joint).intercalate texts)
  else if st.isRich then ((texts.map m.piece).intersperse [.border]).flatten
  else if m.quoted then [.apart texts]
  else m.piece ((if m.keepsApart st joined then [Fields.parting] else [' ']).intercalate texts)

end Mode

namespace Value

/-- Is there a value? With `filled`, one that is not empty? -/
def isPresent (v : Value) (rich filled : Bool) : Bool :=
  match v with
  | .one text => if filled then text.any (· ≠ []) else text.isSome
  | .many texts _ =>
    if filled then
      match texts with
      | [] => false
      | [text] => text ≠ []
      | _ => true
    else !rich || texts ≠ []

/-- A value as pieces of a word. What has no value is no piece outside of quotes. -/
def pieces (v : Value) (m : Mode) (st : State) : List Piece :=
  match v with
  | .one none => if m.quoted then m.piece [] else []
  | .one (some text) => m.piece text
  | .many texts joined => m.pieces st texts joined

/-- The value as one text. -/
def joinedBy (v : Value) (separator : List Char) : List Char :=
  match v with
  | .one text => text.getD []
  | .many texts _ => separator.intercalate texts

/-- Changes each text. -/
def map (v : Value) (f : List Char → List Char) : Value :=
  match v with
  | .one text => .one (text.map f)
  | .many texts joined => .many (texts.map f) joined

end Value

/-! ## Slices -/

/-- The part of some items from a place on, which is counted from the end if it is negative; nothing if
that is in front of the first. -/
def sliceFrom {α : Type} (items : List α) (start : Int) : Option (List α) :=
  match start with
  | .ofNat n => some (items.drop n)
  | n => if items.length + n < 0 then none else some (items.drop (items.length + n).toNat)

/-- A slice of a text; a negative size leaves so many characters at the end. Nothing if there are fewer. -/
def sliceText (cs : List Char) (start : Int) (size : Option Int) : Option (List Char) :=
  match sliceFrom cs start, size with
  | none, _ => some []
  | some rest, none => some rest
  | some rest, some (.ofNat n) => some (rest.take n)
  | some rest, some n =>
    if rest.length + n < 0 then none else some (rest.take (rest.length + n).toNat)

/-- A slice of many texts: arguments are counted from the name of the shell on, members of a list by
their keys. Nothing if the size is negative. -/
def sliceMany (st : State) (t : Target) (start : Int) (size : Option Int) : Option (List (List Char)) :=
  let found : List (List Char) := match t with
    | .members name _ =>
      let items := st.members name
      let behind := items.foldl (fun n (k, _) => max n (Listing.keyNumber k + 1)) 0
      let first := if start < 0 then behind + start else start
      if first < 0 then []
      else (items.filter fun (k, _) => first ≤ Listing.keyNumber k).map (·.2)
    | _ =>
      if start = 0 then st.name :: st.args
      else (sliceFrom (st.name :: st.args) start).getD []
  match size with
  | none => some found
  | some (.ofNat n) => some (found.take n)
  | some _ => none

/-! ## Transformations -/

/-- A text with the escapes of dollar quotes replaced. -/
def unescapedDollar (cs : List Char) : List Char :=
  match Script.escapedQuote (cs.length + 2) [] ((cs.flatMap fun c =>
    if c = '\'' then ['\\', '\''] else [c]) ++ ['\'']) with
  | some (text, _) => text
  | none => cs

/-- What a letter makes of a text, if it makes something of it. -/
def transformed (letter : Char) (cs : List Char) : Option (List Char) :=
  match letter with
  | 'Q' => some (if cs = [] then ['\'', '\''] else richlyQuoted cs)
  | 'U' => some (cs.map Char.toUpper)
  | 'L' => some (cs.map Char.toLower)
  | 'u' =>
    some (match cs with
      | c :: r => c.toUpper :: r
      | [] => [])
  | 'E' => some (unescapedDollar cs)
  | 'P' => some cs
  | _ => none

end Scratchpad.Shell
