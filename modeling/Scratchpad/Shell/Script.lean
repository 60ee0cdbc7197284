import Scratchpad.Shell.Layout
import Scratchpad.Shell.Source

/-!
# Scripts

A script is read a token at a time. What a token is depends on what is awaited: where a command may
begin, there are reserved words and aliases. Documents are read when the line ends on which they are
asked for; a command knows them by their numbers. The fuel of a reader bounds how many tokens and
parts it reads one after the other.

Words are read first, and commands are made of them; since there may be commands in words again, the
readers of words are given one for commands.
-/

namespace Scratchpad.Shell.Script

/-- What has been read of a simple command, each kind last one first. -/
structure Begun where
  settings : List (Setting Word) := []
  words : List Word := []
  declared : List (Setting Word) := []
  redirects : List (Redirect Word) := []

def Begun.isBare (b : Begun) : Bool :=
  b.settings.isEmpty && b.redirects.isEmpty && b.words.length = 1

/-- Is the command one that declares variables? -/
def Begun.declares (b : Begun) : Bool :=
  match b.words.getLast? with
  | some [.text cs] => declarers.contains (String.ofList cs)
  | _ => false

def Begun.command (b : Begun) (line : Nat) : Command :=
  .simple line b.settings.reverse b.words.reverse b.declared.reverse b.redirects.reverse

/-- The setting that a word is, where one may be. -/
def settingOf? (d : Dialect) (w : Word) : Option (Setting Word) :=
  match w with
  | .text cs :: rest =>
    let value (r : List Char) : Word := if r = [] then rest else .text r :: rest
    match d, settingIn? cs with
    | .plain, _ => (setting? cs).map fun (name, r) => ⟨name, none, false, .word (value r)⟩
    | .rich, some (name, none, adds, r) => some ⟨name, none, adds, .word (value r)⟩
    | .rich, _ => none
  | _ => none

/-- The parts of an expression between its semicolons. -/
def steps (ps : List Part) : List (List Part) :=
  ps.foldr (fun part acc =>
    match part with
    | .text cs =>
      match (cs.splitOn ';').reverse with
      | last :: before =>
        before.foldl (fun acc cs => [.text cs] :: acc)
          ((.text last :: acc.headD []) :: acc.tail)
      | [] => acc
    | part => (part :: acc.headD []) :: acc.tail) [[]]

/-- Reads something that began in a line; the rich dialect says so if its end is missing. -/
def atLine {α : Type} (line : Nat) (read : Reader α) : Reader α := fun s =>
  match read s with
  | .error f =>
    .error (match s.dialect, f.fault with
      | .rich, .unclosed _ | .rich, .missing _ => { f with line }
      | _, _ => f)
  | found => found

/-- The inner enclosure of an expansion in braces. -/
def innerOf : Enclosure → Enclosure
  | .quotedBraces _ inDocument => .quotedBraces false inDocument
  | .document => .quotedBraces false true
  | e => if e.isQuoted then .quotedBraces false false else .braces []

def exhausted {α : Type} : Reader α := fail (.unexpected .finish none)

/-- The name between braces. -/
def holder? (cs : List Char) : Option (List Char) :=
  match cs with
  | '\x7b' :: r =>
    let name := r.dropLast
    if r.getLast? = some '\x7d' && isName name then some name else none
  | _ => none

/-- A redirection from its sign on. -/
def redirection (holder : Option (List Char)) (fd : Option Nat) : Reader Token := do
  let rich ← isRich
  if ← accept '>' then
    if ← accept '>' then return .redirection holder fd .append false
    else if ← accept '|' then return .redirection holder fd .force false
    else if ← accept '&' then return .redirection holder fd .duplicateOut false
    else return .redirection holder fd .write false
  else
    skip
    if ← accept '<' then
      if ← accept '-' then return .redirection holder fd .here true
      else if ← acceptIf rich '<' then return .redirection holder fd .hereText false
      else return .redirection holder fd .here false
    else if ← accept '&' then return .redirection holder fd .duplicateIn false
    else if ← accept '>' then return .redirection holder fd .both false
    else return .redirection holder fd .read false

mutual

/-- The parts up to what ends the enclosure, which is left, and whether any of them is quoted. -/
def parts (commands : Reader Command) : Nat → Enclosure → List Part → Bool → Reader (List Part × Bool)
  | 0, _, _, _ => exhausted
  | fuel + 1, e, acc, quoted => do
    match ← glance with
    | none =>
      match e with
      | .word | .mark | .document | .group | .pattern _ | .index _ =>
        return (joinTexts acc.reverse, quoted)
      | .braces _ => fail (.missing "\x7d")
      | .quotedBraces _ inDocument =>
        fail (if inDocument || (← isRich) then .missing "\x7d" else .unclosed '"')
      | .quotes => fail (.unclosed '"')
      | .arithmetic _ => fail (.missing "))")
    | some c =>
      let d := (← get).dialect
      if e.endsAt c then
        if (← get).dialect = .rich && e = .word && (c = '<' || c = '>') &&
            (← get).rest[1]? = some '(' then
          let part ← channel commands fuel
          parts commands fuel e (part :: acc) quoted
        else return (joinTexts acc.reverse, quoted)
      else if c = '\n' then
        endLine
        parts commands fuel e (.text ['\n'] :: acc) quoted
      else if !e.heeds d c then
        let cs ← run fun c => !e.heeds d c
        parts commands fuel e (.text cs :: acc) quoted
      else if c = '\\' then
        skip
        match (← get).rest with
        | [] => parts commands fuel e (.quoted [.text ['\\']] :: acc) quoted
        | d :: _ =>
          skip
          if e.isQuoted then
            parts commands fuel e (.text (if e.frees d then [d] else ['\\', d]) :: acc) true
          else parts commands fuel e (.quoted [.text [d]] :: acc) true
      else if c = '`' && e ≠ .mark then
        skip
        let text ← backquoted e.isQuoted fuel []
        let script ← embedded commands fuel text
        parts commands fuel e (.output script :: acc) quoted
      else if c = '$' && e ≠ .mark then
        skip
        let (found, q) ← dollar commands fuel e
        parts commands fuel e (found.reverse ++ acc) (quoted || q)
      else if c = '\'' && (e.hasQuotes || e matches .index _) then
        let line := (← get).line
        skip
        let cs ← singleQuoted commands fuel [] line
        parts commands fuel e (.quoted (if cs = [] then [] else [.text cs]) :: acc) true
      else if c = '"' && e.hasQuotes then
        let line := (← get).line
        skip
        let (inner, _) ← atLine line (parts commands fuel .quotes [] false)
        skip
        parts commands fuel e (.quoted inner :: acc) true
      else
        match e, c with
        | .quotedBraces inner inDocument, '"' =>
          skip
          parts commands fuel (.quotedBraces (!inner) inDocument) acc true
        | .arithmetic _, '"' | .index _, '"' =>
          skip
          parts commands fuel e acc true
        | .arithmetic depth, '(' =>
          skip
          parts commands fuel (.arithmetic (depth + 1)) (.text ['('] :: acc) quoted
        | .arithmetic (depth + 1), ')' =>
          skip
          parts commands fuel (.arithmetic depth) (.text [')'] :: acc) quoted
        | .arithmetic 0, ')' =>
          skip
          if ← accept ')' then return (joinTexts acc.reverse, quoted)
          else if d = .rich then fail (.missing "))")
          else parts commands fuel e (.text [')'] :: acc) quoted
        | .pattern depth, '(' =>
          skip
          parts commands fuel (.pattern (depth + 1)) (.text ['('] :: acc) quoted
        | .pattern depth, ')' =>
          skip
          parts commands fuel (.pattern (depth - 1)) (.text [')'] :: acc) quoted
        | .index depth, '[' =>
          skip
          parts commands fuel (.index (depth + 1)) (.text ['['] :: acc) quoted
        | .index depth, ']' =>
          skip
          parts commands fuel (.index (depth - 1)) (.text [']'] :: acc) quoted
        | e, c =>
          if (← get).extended && isGroupSign (← get).rest then
            skip
            skip
            let (inner, q) ← parts commands fuel .group [] false
            skip
            parts commands fuel e (.text [')'] :: inner.reverse ++ .text [c, '('] :: acc) (quoted || q)
          else
            skip
            parts commands fuel e (.text [c] :: acc) quoted

/-- Text up to a single quote. -/
def singleQuoted (commands : Reader Command) : Nat → List Char → Nat → Reader (List Char)
  | 0, _, _ => exhausted
  | fuel + 1, acc, line => do
    let cs ← run fun c => c ≠ '\'' && c ≠ '\n'
    match (← get).rest with
    | [] => if ← isRich then failAt line (.unclosed '\'') else fail (.unclosed '\'')
    | '\n' :: _ =>
      endLine
      singleQuoted commands fuel (acc ++ cs ++ ['\n']) line
    | _ =>
      skip
      return acc ++ cs

/-- What stands behind a dollar sign, and whether it is quoted. -/
def dollar (commands : Reader Command) : Nat → Enclosure → Reader (List Part × Bool)
  | 0, _ => exhausted
  | fuel + 1, e => do
    let rich ← isRich
    let line := (← get).line
    match ← glance with
    | none => return ([.text ['$']], false)
    | some '(' =>
      skip
      if (← glance) = some '(' then
        let s ← get
        skip
        if rich then
          fun s' =>
            match parts commands fuel (.arithmetic 0) [] false s' with
            | .ok ((inner, _), s'') => .ok (([.arithmetic inner], false), s'')
            | .error f =>
              match substitution commands fuel s with
              | .ok (part, s'') => .ok (([part], false), s'')
              | .error g =>
                .error (match g.fault with
                  | .unexpected .finish _ => { f with line }
                  | _ => g)
        else
          let (inner, _) ← parts commands fuel (.arithmetic 0) [] false
          return ([.arithmetic inner], false)
      else
        let part ← substitution commands fuel
        return ([part], false)
    | some '{' =>
      let start := (← get).rest
      skip
      let part ← atLine line (if rich then richBraced commands fuel e ('$' :: start) else braced commands fuel e)
      return ([part], false)
    | some c =>
      if isNameStart c then
        let name ← gather isNameChar fuel []
        return ([.parameter ⟨name, none, false⟩ none], false)
      else if c.isDigit || isSpecial c then
        skip
        return ([.parameter ⟨[c], none, false⟩ none], false)
      else if rich && c = '\'' && e.hasQuotes then
        skip
        let s ← get
        match escapedQuote fuel [] s.rest with
        | some (text, rest) =>
          let lines := (s.rest.take (s.rest.length - rest.length)).count '\n'
          set { s with rest, line := s.line + lines }
          let text := text.takeWhile (· ≠ '\x00')
          if s.verbatim then
            patch (s.rest.length + 2)
              ('\'' :: (text.flatMap fun c => if c = '\'' then "'\\''".toList else [c]) ++ ['\''])
          return ([.quoted (if text = [] then [] else [.text text])], true)
        | none => failAt line (.unclosed '\'')
      else if rich && c = '"' && e.hasQuotes then return ([], false)
      else if rich && c = '[' then
        skip
        let (inner, _) ← parts commands fuel (.index 0) [] false
        skip
        return ([.arithmetic inner], false)
      else return ([.text ['$']], false)

/-- An expansion in braces, after the first of them. -/
def braced (commands : Reader Command) : Nat → Enclosure → Reader Part
  | 0, _ => exhausted
  | fuel + 1, e => do
    let change (name : List Char) : Reader Part := expansion commands fuel e ⟨name, none, false⟩
    match ← glance with
    | none => spoiled commands fuel e
    | some c =>
      if isNameStart c then change (← gather isNameChar fuel [])
      else if c.isDigit then change (← gather Char.isDigit fuel [])
      else if c = '}' then spoiled commands fuel e
      else
        skip
        if c = '#' then
          match ← glance with
          | none => change ['#']
          | some d =>
            if isNameStart d then size commands fuel e (← gather isNameChar fuel [])
            else if d.isDigit then size commands fuel e (← gather Char.isDigit fuel [])
            else
              let before ← get
              skip
              if d = '}' || (← glance) ≠ some '}' then
                set before
                change ['#']
              else if isSpecial d then size commands fuel e [d]
              else spoiled commands fuel e
        else if isSpecial c then change [c]
        else spoiled commands fuel e

/-- The size of a parameter, if the brace follows. -/
def size (commands : Reader Command) : Nat → Enclosure → List Char → Reader Part
  | 0, _, _ => exhausted
  | fuel + 1, e, name => do
    if ← accept '}' then return .size ⟨name, none, false⟩
    else spoiled commands fuel e

/-- An expansion that makes no sense. -/
def spoiled (commands : Reader Command) : Nat → Enclosure → Reader Part
  | 0, _ => exhausted
  | fuel + 1, e => do
    let _ ← parts commands fuel (innerOf e) [] false
    skip
    return .bad []

/-- What an expansion makes of its parameter. -/
def expansion (commands : Reader Command) : Nat → Enclosure → Reference Word → Reader Part
  | 0, _, _ => exhausted
  | fuel + 1, e, r => do
    let instead (mark : List Char) : Reader Part := do
      let (inner, _) ← parts commands fuel (innerOf e) [] false
      skip
      return .parameter r (some (.instead mark inner))
    match ← glance with
    | none => spoiled commands fuel e
    | some c =>
      skip
      if c = '}' then return .parameter r none
      else if c = ':' then
        match ← glance with
        | some d =>
          skip
          if ['-', '+', '?', '='].contains d then instead [':', d] else spoiled commands fuel e
        | none => spoiled commands fuel e
      else if ['-', '+', '?', '='].contains c then instead [c]
      else if c = '%' || c = '#' then
        let longest ← accept c
        let (inner, _) ← parts commands fuel (.braces []) [] false
        skip
        return .parameter r (some (.strip (c = '#') longest inner))
      else spoiled commands fuel e

/-- An expansion in braces of the rich dialect; `start` is the text from its beginning. -/
def richBraced (commands : Reader Command) : Nat → Enclosure → List Char → Reader Part
  | 0, _, _ => exhausted
  | fuel + 1, e, start => do
    let whole (name : List Char) (indirect : Bool) : Reader Part := do
      let index ← indexOf commands fuel
      richExpansion commands fuel e ⟨name, index, indirect⟩ start
    let simple (c : Char) : Bool := isNameStart c || c.isDigit
    let nameAt (c : Char) : Reader (List Char) :=
      gather (if isNameStart c then isNameChar else Char.isDigit) fuel []
    match ← glance with
    | none => richSpoiled commands fuel start
    | some c =>
      if simple c then whole (← nameAt c) false
      else if c = '}' then richSpoiled commands fuel start
      else
        skip
        let next ← glance
        if c = '#' then
          match next with
          | none => fail (.missing "\x7d")
          | some d =>
            if simple d then
              let name ← nameAt d
              let index ← indexOf commands fuel
              if ← accept '}' then return .size ⟨name, index, false⟩ else richSpoiled commands fuel start
            else
              let before ← get
              skip
              if d = '}' || (← glance) ≠ some '}' then
                set before
                whole ['#'] false
              else if isSpecial d then
                skip
                return .size ⟨[d], none, false⟩
              else richSpoiled commands fuel start
        else if c = '!' && next.any simple then
          let name ← nameAt (next.getD '_')
          let s ← get
          match s.rest with
          | '[' :: a :: ']' :: '}' :: rest =>
            if a = '@' || a = '*' then
              set { s with rest }
              return .keys name (a = '@')
            else whole name true
          | '*' :: '}' :: rest =>
            set { s with rest }
            return .names name false
          | '@' :: '}' :: rest =>
            set { s with rest }
            return .names name true
          | _ => whole name true
        else if isSpecial c then whole [c] false
        else richSpoiled commands fuel start

/-- The index of a list, if one follows. -/
def indexOf (commands : Reader Command) : Nat → Reader (Option Word)
  | 0 => exhausted
  | fuel + 1 => do
    match (← get).rest with
    | '[' :: r =>
      match settingIn?.bracket 0 [] r with
      | some _ =>
        skip
        let (inner, _) ← parts commands fuel (.index 0) [] false
        skip
        return some inner
      | none => return none
    | _ => return none

def richSpoiled (commands : Reader Command) : Nat → List Char → Reader Part
  | 0, _ => exhausted
  | fuel + 1, start => do
    let _ ← parts commands fuel (.quotedBraces false false) [] false
    skip
    let rest := (← get).rest
    return .bad (start.take (start.length - rest.length))

/-- What an expansion makes of its parameter in the rich dialect. -/
def richExpansion (commands : Reader Command) : Nat → Enclosure → Reference Word → List Char → Reader Part
  | 0, _, _, _ => exhausted
  | fuel + 1, e, r, start => do
    let inside (stops : List Char) : Reader Word := do
      let (inner, _) ← parts commands fuel (.braces stops) [] false
      return inner
    match ← glance with
    | some ':' =>
      let before ← get
      skip
      if (← glance).any ['-', '+', '?', '='].contains then
        set before
        expansion commands fuel e r
      else
        let first ← inside [':']
        if ← accept ':' then
          let second ← inside []
          skip
          return .parameter r (some (.slice first (some second)))
        else
          skip
          return .parameter r (some (.slice first none))
    | some '/' =>
      skip
      let mark ← glance
      let marked := mark.any ['/', '#', '%'].contains
      if marked then skip
      let pattern ← inside ['/']
      let other ← if ← accept '/' then inside [] else pure []
      skip
      return .parameter r (some (.replace (if marked then mark else none) pattern other))
    | some '@' =>
      skip
      match ← glance with
      | some c =>
        skip
        if ← accept '}' then return .parameter r (some (.transform c))
        else richSpoiled commands fuel start
      | none => richSpoiled commands fuel start
    | some c =>
      if c = '^' || c = ',' then
        skip
        let all ← accept c
        let pattern ← inside []
        skip
        return .parameter r (some (.recase (c = '^') all pattern))
      else if c = '}' || ['-', '+', '?', '=', '%', '#'].contains c then expansion commands fuel e r
      else richSpoiled commands fuel start
    | none => fail (.missing "\x7d")

/-- A command whose output is meant, behind the parenthesis in front of it. -/
def substitution (commands : Reader Command) : Nat → Reader Part
  | 0 => exhausted
  | fuel + 1 => do
    let before ← get
    let script ← enclosed commands fuel
    if before.verbatim then
      let text := Layout.shown (← get).documents script
      patch before.rest.length ((if text.head? = some '(' then ' ' :: text else text) ++ [')'])
    return .output script

/-- Commands up to a closing parenthesis. -/
def enclosed (commands : Reader Command) : Nat → Reader Command
  | 0 => exhausted
  | fuel + 1 => do
    let outside := (← get).awaited
    modify fun s => { s with awaited := [] }
    let script ← commands
    let t ← token commands fuel false false false
    if t.isSign ")" then
      modify fun s =>
        { s with
          documents := s.awaited.map (fun a => (a.id, [])) ++ s.documents
          awaited := outside }
      return script
    else if (← isRich) && t matches .finish then fail (.missing ")")
    else unexpected t (some (.sign ")"))

/-- Commands that another program reads from, or writes to. -/
def channel (commands : Reader Command) : Nat → Reader Part
  | 0 => exhausted
  | fuel + 1 => do
    skip
    skip
    let before ← get
    let script ← enclosed commands fuel
    if before.verbatim then
      patch before.rest.length (Layout.shown (← get).documents script ++ [')'])
    return .channel script

/-- The commands of a text inside of this one. -/
def embedded (commands : Reader Command) : Nat → List Char → Reader Command
  | 0, _ => exhausted
  | _ + 1, text => do
    let outside ← get
    let line := if outside.dialect = .rich then outside.line - text.count '\n' else 1
    set { outside with
      rest := text, line, onLine := text, lastLine := [], awaited := [], busy := [] }
    let script ← commands
    modify fun s => { outside with documents := s.documents, serial := s.serial }
    return script

/-- The lines of a document, in which there are expansions. -/
def documentLines (commands : Reader Command) : Nat → Awaited → List Part → Reader (List Part)
  | 0, _, _ => exhausted
  | fuel + 1, a, acc => do
    if ← atMark a then return joinTexts acc.reverse
    else
      let (found, _) ← parts commands fuel .document [] false
      let acc := found.reverse ++ acc
      if (← get).rest = [] then
        modify fun s => { s with cutOff := s.cutOff ++ [⟨a.mark, a.line, s.line - 1⟩] }
        return joinTexts acc.reverse
      else
        endLine
        documentLines commands fuel a (.text ['\n'] :: acc)

/-- Reads the documents that are due. -/
def documents (commands : Reader Command) : Nat → Reader Unit
  | 0 => exhausted
  | fuel + 1 => do
    match (← get).awaited with
    | [] => return
    | a :: rest =>
      modify fun s => { s with awaited := rest }
      let text ←
        if a.literal || (← get).verbatim then do
          let cs ← literalLines a fuel []
          pure [Part.text cs]
        else documentLines commands fuel a []
      modify fun s => { s with documents := (a.id, [.quoted text]) :: s.documents }
      documents commands fuel

/-- The next token, whatever it means. -/
def scan (commands : Reader Command) : Nat → Bool → Reader Token
  | 0, _ => exhausted
  | fuel + 1, settable => do
    match (← get).back with
    | some t =>
      modify fun s => { s with back := none }
      return t
    | none =>
      blanks fuel
      let _ ← glance
      modify fun s => { s with seen := s.rest }
      let rich ← isRich
      match (← get).rest with
      | [] =>
        documents commands fuel
        return .finish
      | '\n' :: _ =>
        endLine
        if rich then documents commands fuel
        return .newline
      | '&' :: _ =>
        skip
        if ← accept '&' then return .sign "&&"
        else if ← acceptIf rich '>' then
          return .redirection none none (if ← accept '>' then .appendBoth else .writeBoth) false
        else return .sign "&"
      | '|' :: _ =>
        skip
        if ← accept '|' then return .sign "||"
        else if ← acceptIf rich '&' then return .sign "|&"
        else return .sign "|"
      | ';' :: _ =>
        skip
        if ← accept ';' then
          if ← acceptIf rich '&' then return .sign ";;&" else return .sign ";;"
        else if ← acceptIf rich '&' then return .sign ";&"
        else return .sign ";"
      | '(' :: _ =>
        skip
        return .sign "("
      | ')' :: _ =>
        skip
        return .sign ")"
      | c :: after =>
        if (c = '<' || c = '>') && !(rich && after.head? = some '(') then redirection none none
        else
          match (if rich && settable then settingIn? (c :: after) else none) with
          | some (name, index, adds, r) =>
            if index.isSome || r.head? = some '(' then settingAt commands fuel name index.isSome adds
            else word commands fuel
          | none => word commands fuel

/-- A word, or the number of a descriptor in front of a redirection, or in braces the variable that is to
hold it. -/
def word (commands : Reader Command) : Nat → Reader Token
  | 0 => exhausted
  | fuel + 1 => do
    let (cs, w, quoted) ← written (parts commands fuel .word [] false)
    let w := if (← get).verbatim then [.text cs] else w
    match w, quoted, ← glance with
    | [.text cs], false, some c =>
      if (c = '<' || c = '>') && cs.all Char.isDigit && (cs.length = 1 || (← isRich)) then
        redirection none ((ByteText.numberIn 10 cs.length cs).map (·.1))
      else if (c = '<' || c = '>') && (← isRich) then
        match holder? cs with
        | some name => redirection (some name) none
        | none => return .word w true
      else return .word w true
    | w, quoted, _ => return .word w (!quoted)

/-- A setting of a list or of one of its members. -/
def settingAt (commands : Reader Command) : Nat → List Char → Bool → Bool → Reader Token
  | 0, _, _, _ => exhausted
  | fuel + 1, name, hasIndex, adds => do
    let line := (← get).line
    modify fun s => { s with rest := s.rest.drop name.length }
    let (cs, index) ← if hasIndex then written (indexOf commands fuel) else pure ([], none)
    let index := if (← get).verbatim && hasIndex then some [.text (cs.drop 1).dropLast] else index
    modify fun s => { s with rest := s.rest.drop (if adds then 2 else 1) }
    if ← accept '(' then
      let items ← items commands fuel line []
      return .setting ⟨name, index, adds, .list items⟩
    else
      let w ← member commands fuel
      return .setting ⟨name, index, adds, .word w⟩

/-- A word that is a value. -/
def member (commands : Reader Command) : Nat → Reader Word
  | 0 => exhausted
  | fuel + 1 => do
    let (cs, w, _) ← written (parts commands fuel .word [] false)
    return if (← get).verbatim then [.text cs] else w

/-- The members of a list up to a closing parenthesis, each with its key if it has one. -/
def items (commands : Reader Command) : Nat → Nat → List (Option Word × Word) → Reader (List (Option Word × Word))
  | 0, _, _ => exhausted
  | fuel + 1, line, acc => do
    blanks fuel
    match ← glance with
    | none => failAt line (.missing ")")
    | some c =>
      if c = ')' then
        skip
        return acc.reverse
      else if c = '\n' then
        endLine
        items commands fuel line acc
      else if c = '[' then
        let s ← get
        match settingIn?.bracket 0 [] (s.rest.drop 1) with
        | some (_, '=' :: _) =>
          skip
          let (cs, key, _) ← written (parts commands fuel (.index 0) [] false)
          let key := if s.verbatim then [.text cs] else key
          skip
          skip
          let w ← member commands fuel
          items commands fuel line ((some key, w) :: acc)
        | _ =>
          let w ← member commands fuel
          items commands fuel line ((none, w) :: acc)
      else if isMeta c then
        skip
        unexpected (.sign (String.singleton c)) none
      else
        let w ← member commands fuel
        items commands fuel line ((none, w) :: acc)

/-- The next token, where lines may be passed over and there may be reserved words and aliases. -/
def token (commands : Reader Command) : Nat → Bool → Bool → Bool → Reader Token
  | 0, _, _, _ => exhausted
  | fuel + 1, lines, keywords, aliases => do
    let t ← scan commands fuel aliases
    let goesOn ← leaveAliases
    match t with
    | .newline =>
      if lines then
        documents commands fuel
        token commands fuel lines keywords aliases
      else return t
    | .word [.text cs] true =>
      let d := (← get).dialect
      if keywords && d.reserved.contains (String.ofList cs) then
        return .keyword (String.ofList cs)
      else if aliases || goesOn then
        match ← alias? cs with
        | some value =>
          if value ≠ [] then readAlias cs value
          token commands fuel lines keywords true
        | none => return t
      else return t
    | t => return t

end

mutual

/-- The next token of a list of commands. -/
def nextToken : Nat → Bool → Bool → Bool → Reader Token
  | 0, _, _, _ => exhausted
  | fuel + 1, lines, keywords, aliases =>
    token (list fuel true true []) fuel lines keywords aliases

/-- A redirection after its sign. -/
def redirect : Nat → Option (List Char) → Option Nat → Redirection → Bool → Reader (Redirect Word)
  | 0, _, _, _, _ => exhausted
  | fuel + 1, holder, fd, kind, indented => do
    let usual := match kind with
      | .read | .both | .duplicateIn | .here | .hereText => 0
      | _ => 1
    let fd := fd.getD usual
    if kind = .here then
      blanks fuel
      let s ← get
      set { s with seen := s.rest }
      if s.rest.head?.all isMeta then
        let t ← nextToken fuel false false false
        unexpected t none
      else
        let (w, quoted) ← parts (list fuel true true []) fuel .mark [] false
        let s ← get
        let a : Awaited := ⟨s.serial, plainText w, indented, quoted, s.line⟩
        set { s with serial := s.serial + 1, awaited := s.awaited ++ [a] }
        let target : Word :=
          if s.verbatim then
            let mark := if quoted then '\'' :: a.mark ++ ['\''] else a.mark
            [.text (if indented then '-' :: mark else mark), .text a.mark, .document s.serial]
          else [.document s.serial]
        return { fd, kind, target, holder }
    else
      let t ← nextToken fuel false false false
      match t with
      | .word target _ => return { fd, kind, target, holder }
      | t => unexpected t none

/-- The commands of a list. Unless `lines` says to go on, it ends with the line; `checks` says whether
it may end before its first command. -/
def list : Nat → Bool → Bool → List Command → Reader Command
  | 0, _, _, _ => exhausted
  | fuel + 1, checks, lines, acc => do
    let whole : Command := match acc with
      | [c] => c
      | acc => .sequence acc.reverse
    let t ← nextToken fuel lines true true
    match t with
    | .newline =>
      documents (list fuel true true []) fuel
      return whole
    | .finish =>
      putBack .finish
      return whole
    | t =>
      putBack t
      if checks && t.endsList then return whole
      else
        let c ← junctions fuel
        let t ← nextToken fuel false false false
        let acc := (if t.isSign "&" then .background c else c) :: acc
        match t with
        | .newline | .finish =>
          putBack t
          list fuel lines lines acc
        | t =>
          if t.isSign "&" || t.isSign ";" then list fuel lines lines acc
          else if lines then
            putBack t
            return match acc with
              | [c] => c
              | acc => .sequence acc.reverse
          else unexpected t none

/-- Pipelines joined by `&&` and `||`. -/
def junctions : Nat → Reader Command
  | 0 => exhausted
  | fuel + 1 => do
    let c ← pipeline fuel
    joinedTo fuel c

/-- Goes on with a pipeline through those that are joined to it. -/
def joinedTo : Nat → Command → Reader Command
  | 0, _ => exhausted
  | fuel + 1, c => do
    let t ← nextToken fuel false false false
    if t.isSign "&&" || t.isSign "||" then
      let next ← nextToken fuel true true true
      putBack next
      let d ← pipeline fuel
      joinedTo fuel (if t.isSign "&&" then .both c d else .either c d)
    else
      putBack t
      return c

def pipeline : Nat → Reader Command
  | 0 => exhausted
  | fuel + 1 => do
    let t ← nextToken fuel false false false
    if t.isKeyword "!" then
      let next ← nextToken fuel false true true
      putBack next
      if ← isRich then
        if next.isSign ";" || next matches .newline || next matches .finish then
          return .negate (.sequence [])
        else
          let c ← pipeline fuel
          return .negate c
      else
        let c ← command fuel
        let c ← stages fuel [c] false
        return .negate c
    else if t.isKeyword "time" then
      let next ← nextToken fuel false true true
      let brief := next matches .word [.text ['-', 'p']] true
      let next ← if brief then nextToken fuel false true true else pure next
      putBack next
      if next.isSign ";" || next matches .newline || next matches .finish then
        return .timed brief (.sequence [])
      else
        let c ← pipeline fuel
        return .timed brief c
    else
      putBack t
      let c ← command fuel
      stages fuel [c] false

/-- The stages of a pipeline after the first one; those before are last one first. -/
def stages : Nat → List Command → Bool → Reader Command
  | 0, _, _ => exhausted
  | fuel + 1, acc, _ => do
    let t ← nextToken fuel false false false
    if t.isSign "|" || t.isSign "|&" then
      let acc :=
        if t.isSign "|&" then
          match acc with
          | c :: rest =>
            let r : Redirect Word := { fd := 2, kind := .duplicateOut, target := [.text ['1']] }
            .redirected 0 c [r] :: rest
          | [] => []
        else acc
      let next ← nextToken fuel true true true
      putBack next
      let c ← command fuel
      stages fuel (c :: acc) true
    else
      putBack t
      return match acc with
        | [c] => c
        | acc => .pipe acc.reverse

/-- One command. -/
def command : Nat → Reader Command
  | 0 => exhausted
  | fuel + 1 => do
    let line := (← get).line
    let t ← nextToken fuel false false false
    match t with
    | .keyword "if" =>
      let c ← branch fuel
      redirected fuel line c []
    | .keyword "while" | .keyword "until" =>
      let test ← list fuel false true []
      let t' ← nextToken fuel false false false
      if t'.isKeyword "do" then
        let body ← list fuel false true []
        closing fuel (.keyword "done") (t'.isKeyword "done")
        redirected fuel line (.loop test (t.isKeyword "until") body) []
      else unexpected t' (some (.keyword "do"))
    | .keyword "for" =>
      let c ← each fuel line
      redirected fuel line c []
    | .keyword "select" =>
      let c ← selection fuel line
      redirected fuel line c []
    | .keyword "case" =>
      let c ← choice fuel line
      redirected fuel line c []
    | .keyword "\x7b" =>
      let body ← list fuel false true []
      closing fuel (.keyword "\x7d") false
      redirected fuel line (.group body) []
    | .keyword "function" => functionNamed fuel
    | .keyword "[[" =>
      let c ← condition fuel
      let t ← nextToken fuel true false false
      match t with
      | .word [.text [']', ']']] true => redirected fuel line (.ask line c) []
      | t =>
        let s ← get
        fail (.condition "syntax error in conditional expression" (sightOf s t))
    | .sign "(" =>
      let s ← get
      if (← isRich) && s.rest.head? = some '(' then
        skip
        fun s' =>
          match written (parts (list fuel true true []) fuel (.arithmetic 0) [] false) s' with
          | .ok ((cs, inner, _), s'') =>
            let inner := if s'.verbatim then [.text (cs.take (cs.length - 2))] else inner
            redirected fuel line (.calculate line inner) [] s''
          | .error f =>
            match subshell fuel line s with
            | .ok found => .ok found
            | .error g =>
              .error (match g.fault with
                | .unexpected .finish _ => { f with line }
                | _ => g)
      else subshell fuel line
    | .word .. | .redirection .. | .setting .. =>
      putBack t
      simple fuel (← get).line {}
    | t => unexpected t none

/-- Commands in parentheses, after the first of them. -/
def subshell : Nat → Nat → Reader Command
  | 0, _ => exhausted
  | fuel + 1, line => do
    let body ← list fuel false true []
    closing fuel (.sign ")") false
    redirected fuel line (.subshell body) []

/-- Takes the token that has to close a command. -/
def closing : Nat → Sight → Bool → Reader Unit
  | 0, _, _ => exhausted
  | fuel + 1, wanted, _ => do
    let t ← nextToken fuel false false false
    let found := match wanted with
      | .sign text => t.isSign text
      | .keyword text => t.isKeyword text
      | _ => false
    if found then return else unexpected t (some wanted)

/-- The redirections after a command. -/
def redirected : Nat → Nat → Command → List (Redirect Word) → Reader Command
  | 0, _, _, _ => exhausted
  | fuel + 1, line, c, acc => do
    let t ← nextToken fuel false true true
    match t with
    | .redirection holder fd kind indented =>
      let r ← redirect fuel holder fd kind indented
      redirected fuel line c (r :: acc)
    | t =>
      putBack t
      return if acc.isEmpty then c else .redirected line c acc.reverse

/-- A branch after `if` or `elif`. -/
def branch : Nat → Reader Command
  | 0 => exhausted
  | fuel + 1 => do
    let test ← list fuel false true []
    closing fuel (.keyword "then") false
    let yes ← list fuel false true []
    let t ← nextToken fuel false false false
    if t.isKeyword "elif" then
      let no ← branch fuel
      return .branch test yes no
    else if t.isKeyword "else" then
      let no ← list fuel false true []
      closing fuel (.keyword "fi") false
      return .branch test yes no
    else if t.isKeyword "fi" then return .branch test yes (.sequence [])
    else unexpected t (some (.keyword "fi"))

/-- The commands of a loop over words. -/
def body : Nat → Reader Command
  | 0 => exhausted
  | fuel + 1 => do
    let t ← nextToken fuel true true true
    if t.isKeyword "do" then
      let c ← list fuel false true []
      closing fuel (.keyword "done") false
      return c
    else if (← isRich) && t.isKeyword "\x7b" then
      let c ← list fuel false true []
      closing fuel (.keyword "\x7d") false
      return c
    else unexpected t (some (.keyword "do"))

/-- A loop over words, after `for`. -/
def each : Nat → Nat → Reader Command
  | 0, _ => exhausted
  | fuel + 1, line => do
    let t ← nextToken fuel false false false
    let rich ← isRich
    let name : Option (List Char) := match t with
      | .word [.text cs] true => if rich || isName cs then some cs else none
      | _ => none
    match name, t with
    | none, .sign "(" =>
      if ← acceptIf rich '(' then
        let begun := (← get).rest
        let (inner, _) ← parts (list fuel true true []) fuel (.arithmetic 0) [] false
        let written := begun.take (begun.length - (← get).rest.length)
        let whole := if (← get).verbatim then [.text (written.take (written.length - 2))] else inner
        match steps whole with
        | [a, b, c] =>
          let t ← nextToken fuel false false false
          if !t.isSign ";" then putBack t
          let run ← body fuel
          return .count line a b c run
        | _ => fail (.arithmeticLoop (ByteText.shown ("((".toList ++ written)))
      else if rich then unexpected t none
      else fail .loopVariable
    | none, t => if rich then unexpected t none else fail .loopVariable
    | some name, _ =>
      let t ← nextToken fuel true true true
      if t.isKeyword "in" then
        let (words, head) ← loopWords fuel [] []
        let run ← body fuel
        return .each line name (some words) run head
      else
        if !t.isSign ";" then putBack t
        let run ← body fuel
        return .each line name none run "\"$@\"".toList

/-- A loop over choices, after `select`. -/
def selection : Nat → Nat → Reader Command
  | 0, _ => exhausted
  | fuel + 1, line => do
    let t ← nextToken fuel false false false
    match t with
    | .word [.text name] true =>
      let t ← nextToken fuel true true true
      if t.isKeyword "in" then
        let (words, head) ← loopWords fuel [] []
        let run ← body fuel
        return .select line name (some words) run head
      else
        if !t.isSign ";" then putBack t
        let run ← body fuel
        return .select line name none run "\"$@\"".toList
    | t => unexpected t none

/-- The words of a loop, up to the end of the line or a semicolon, and how they are written in the rich
dialect. -/
def loopWords : Nat → List Word → List (List Char) → Reader (List Word × List Char)
  | 0, _, _ => exhausted
  | fuel + 1, acc, shown => do
    let t ← nextToken fuel false false false
    let found := (acc.reverse, [' '].intercalate shown.reverse)
    match t with
    | .word w _ =>
      let s ← get
      loopWords fuel (w :: acc) (if s.dialect = .rich then s.passed :: shown else shown)
    | .newline => return found
    | t => if t.isSign ";" then return found else unexpected t none

/-- A choice, after `case`. -/
def choice : Nat → Nat → Reader Command
  | 0, _ => exhausted
  | fuel + 1, line => do
    let t ← nextToken fuel false false false
    match t with
    | .word subject _ =>
      let s ← get
      let head := if s.dialect = .rich then s.passed else []
      let t ← nextToken fuel true true true
      if t.isKeyword "in" then
        let found ← arms fuel []
        return .choose line subject found head
      else unexpected t (some (.keyword "in"))
    | t => unexpected t (some (.word ""))

/-- The arms of a choice: patterns up to a parenthesis, and commands up to two semicolons. -/
def arms : Nat → List (Arm Word Command) → Reader (List (Arm Word Command))
  | 0, _ => exhausted
  | fuel + 1, acc => do
    let t ← nextToken fuel true true false
    if t.isKeyword "esac" then return acc.reverse
    else
      let t ← if t.isSign "(" then nextToken fuel false false false else pure t
      let patterns ← alternatives fuel t []
      let body ← list fuel true true []
      let t ← nextToken fuel true true false
      let arm (ending : ArmEnd) : Arm Word Command := ⟨patterns, body, ending⟩
      if t.isKeyword "esac" then return (arm .stop :: acc).reverse
      else if t.isSign ";;" then arms fuel (arm .stop :: acc)
      else if t.isSign ";&" then arms fuel (arm .into :: acc)
      else if t.isSign ";;&" then arms fuel (arm .onward :: acc)
      else unexpected t (some (.sign ";;"))

/-- Patterns up to a parenthesis, from a token on. -/
def alternatives : Nat → Token → List Word → Reader (List Word)
  | 0, _, _ => exhausted
  | fuel + 1, t, acc => do
    let rich ← isRich
    let w : Option Word := match t with
      | .word w _ => some w
      | .keyword text => some [.text text.toList]
      | _ => if rich then none else some []
    match w with
    | none => unexpected t none
    | some w =>
      let t ← nextToken fuel false false false
      if t.isSign "|" then
        let next ← nextToken fuel false false false
        alternatives fuel next (w :: acc)
      else if t.isSign ")" then return (w :: acc).reverse
      else unexpected t (some (.sign ")"))

/-- A function after the word that says so. -/
def functionNamed : Nat → Reader Command
  | 0 => exhausted
  | fuel + 1 => do
    let t ← nextToken fuel false false false
    match t with
    | .word [.text name] _ =>
      let t ← nextToken fuel false false false
      if t.isSign "(" then closing fuel (.sign ")") false else putBack t
      functionBody fuel name
    | t => unexpected t none

/-- The body of a function. -/
def functionBody : Nat → List Char → Reader Command
  | 0, _ => exhausted
  | fuel + 1, name => do
    let t ← nextToken fuel true true true
    putBack t
    let text := (← get).seen
    let c ←
      if ← isRich then
        match t with
        | .keyword _ | .sign "(" => command fuel
        | t => do
          let _ ← nextToken fuel false false false
          unexpected t none
      else command fuel
    return .define name c text

/-- The rest of a simple command. -/
def simple : Nat → Nat → Begun → Reader Command
  | 0, _, _ => exhausted
  | fuel + 1, line, b => do
    let d := (← get).dialect
    let verbatim := (← get).verbatim
    let first := b.words.isEmpty
    let declares := d = .rich && b.declares
    let t ← nextToken fuel false false (first || declares)
    match t with
    | .setting s =>
      simple fuel line
        (if first then { b with settings := s :: b.settings }
        else if verbatim then { b with words := [.text (Layout.ofSetting s)] :: b.words }
        else { b with declared := s :: b.declared })
    | .word w _ =>
      match (if first then settingOf? d w else none) with
      | some s => simple fuel line { b with settings := s :: b.settings }
      | none => simple fuel line { b with words := w :: b.words }
    | .redirection holder fd kind indented =>
      let r ← redirect fuel holder fd kind indented
      simple fuel line { b with redirects := r :: b.redirects }
    | .sign "(" =>
      if b.isBare then
        let t ← nextToken fuel false false false
        if t.isSign ")" then
          match b.words with
          | [[.text name]] =>
            if d = .rich || (isName name && !specialNames.contains (String.ofList name)) then
              functionBody fuel name
            else fail .functionName
          | _ => if d = .rich then unexpected t none else fail .functionName
        else unexpected t (some (.sign ")"))
      else
        putBack t
        return b.command line
    | t =>
      putBack t
      return b.command line

/-- Conditions joined by `||`. -/
def condition : Nat → Reader (Condition Word)
  | 0 => exhausted
  | fuel + 1 => do
    let a ← conditions fuel
    let t ← nextToken fuel true false false
    if t.isSign "||" then
      let b ← condition fuel
      return .either a b
    else
      putBack t
      return a

/-- Conditions joined by `&&`. -/
def conditions : Nat → Reader (Condition Word)
  | 0 => exhausted
  | fuel + 1 => do
    let a ← oneCondition fuel
    let t ← nextToken fuel true false false
    if t.isSign "&&" then
      let b ← conditions fuel
      return .both a b
    else
      putBack t
      return a

def oneCondition : Nat → Reader (Condition Word)
  | 0 => exhausted
  | fuel + 1 => do
    let line := (← get).line
    let t ← nextToken fuel true false false
    let near (t : Token) (said : String) : Reader (Condition Word) := do
      let s ← get
      fail (.condition said (sightOf s t))
    match t with
    | .word [.text ['!']] true =>
      let c ← oneCondition fuel
      return .not c
    | .sign "(" =>
      let c ← condition fuel
      let t ← nextToken fuel true false false
      if t.isSign ")" then return .inner c
      else
        let seen := (sightOf (← get) t).written
        near t ("unexpected token `" ++ seen ++ "', expected `)'")
    | .word [.text [']', ']']] true => near t ""
    | .word w isPlain =>
      let subject := (← get).seen
      let subject := sightOf { (← get) with seen := subject } t
      let text : String := match w, isPlain with
        | [.text cs], true => String.ofList cs
        | _, _ => ""
      if unaryConditions.contains text then
        let t ← nextToken fuel false false false
        match t with
        | .word [.text [']', ']']] true =>
          near t "unexpected argument `]]' to conditional unary operator"
        | .word a _ => return .unary text a
        | t =>
          let seen := (sightOf (← get) t).written
          near t ("unexpected argument `" ++ seen ++ "' to conditional unary operator")
      else
        let t ← nextToken fuel false false false
        match t with
        | .word [.text [']', ']']] true =>
          putBack t
          return .word w
        | .word [.text cs] true =>
          let operator := String.ofList cs
          if binaryConditions.contains operator then compared fuel operator w
          else near t "conditional binary operator expected"
        | .redirection _ none .read _ => compared fuel "<" w
        | .redirection _ none .write _ => compared fuel ">" w
        | .sign text =>
          if ["&&", "||", ")"].contains text then
            putBack t
            return .word w
          else
            near t ("unexpected token `" ++ text ++ "', conditional binary operator expected")
        | .newline | .finish =>
          failAt line (.condition
            "unexpected token `newline', conditional binary operator expected" subject)
        | _ => near t "conditional binary operator expected"
    | .finish => fail (.missing "]]")
    | t => near t ""

/-- The second argument of a condition. -/
def compared : Nat → String → Word → Reader (Condition Word)
  | 0, _, _ => exhausted
  | fuel + 1, operator, a => do
    let near (t : Token) (said : String) : Reader (Condition Word) := do
      let s ← get
      fail (.condition said (sightOf s t))
    if operator = "=~" then
      blanks fuel
      let (cs, b, _) ← written (parts (list fuel true true []) fuel (.pattern 0) [] false)
      return .binary operator a (if (← get).verbatim then [.text cs] else b)
    else
      let extended := (← get).extended
      modify fun s => { s with extended := true }
      let t ← nextToken fuel false false false
      modify fun s => { s with extended }
      match t with
      | .word [.text [']', ']']] true =>
        near t "unexpected argument `]]' to conditional binary operator"
      | .word b _ => return .binary operator a b
      | t =>
        let seen := (sightOf (← get) t).written
        near t ("unexpected argument `" ++ seen ++ "' to conditional binary operator")

end

/-! ## Whole texts -/

/-- A text from its first line on. -/
def Source.start (d : Dialect) (text : List Char) (line : Nat) : Source where
  dialect := d
  extended := false
  verbatim := false
  patches := []
  rest := text
  line
  onLine := text
  lastLine := []
  seen := text
  back := none
  aliases := []
  busy := []
  awaited := []
  documents := []
  serial := 0
  cutOff := []

/-- The parts of a text that is quoted as a whole. -/
def parts? (d : Dialect) (text : List Char) : Option Word :=
  let fuel := 200 * text.length + 100000
  match lines fuel [] (Source.start d text 1) with
  | .ok (w, _) => some w
  | .error _ => none
where
  lines : Nat → List Part → Reader Word
    | 0, acc => return joinTexts acc.reverse
    | fuel + 1, acc => do
      let (found, _) ← parts (list fuel true true []) fuel .document [] false
      let acc := found.reverse ++ acc
      if (← get).rest = [] then return joinTexts acc.reverse
      else
        endLine
        lines fuel (.text ['\n'] :: acc)

/-- The one command that a text begins with, with its words as they are written, and the documents that
it asks for. -/
def verbatim? (text : List Char) : Option (Command × List (Nat × Word)) :=
  let s : Source := { Source.start .rich text 1 with extended := true, verbatim := true }
  let fuel := 200 * text.length + 100000
  let read : Reader Command := do
    let t ← nextToken fuel true true false
    putBack t
    command fuel
  match read s with
  | .ok (c, s) => some (c, s.documents)
  | .error _ => none

/-- Reads the commands of one line, and of those that belong to it. -/
def Source.nextLine (s : Source) : Except Flaw (Command × Source) :=
  list (200 * s.rest.length + 100000) false false [] { s with back := none, cutOff := [] }

end Scratchpad.Shell.Script
