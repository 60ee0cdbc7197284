import Scratchpad.Shell.State

/-!
# Redirections

A redirection leads an output descriptor to a file or to where another one leads, or makes a file, a
text or another input the input under some number. What is read from an input that has several
numbers is gone for all of them.
-/

namespace Scratchpad.Shell.State

open Files (Path System)

/-- What a redirection that fails is said to be. -/
def redirectionFailure (st : State) (creating : Bool) (target : String) (e : Files.Error) : String :=
  if st.isRich then
    target ++ ": " ++ (if e = .alreadyExists then "cannot overwrite existing file" else e.reason)
  else if creating then
    "cannot create " ++ target ++ ": " ++
      (if e = .noEntry then "Directory nonexistent" else e.reason)
  else "cannot open " ++ target ++ ": " ++ (if e = .noEntry then "No such file" else e.reason)

/-- The path from the root that a path means in the working directory. -/
def fullPath (st : State) (path : Path) : Path :=
  if path.isAbsolute then path
  else Path.join (st.files.cwd.flatMap fun name => Path.slash :: name) (
    if st.files.cwd = [] then Path.slash :: path else path)

/-- Leads a descriptor to a file, which is made if it is not there; a careful shell leaves one alone
that is. -/
def openFile (st : State) (fd : Nat) (append force : Bool) (target : List Char) :
    Except String State :=
  match ByteText.shown target with
  | "/dev/null" => .ok (st.setSink fd (some .null))
  | "/dev/stdout" => .ok (st.setSink fd (st.sink? 1))
  | "/dev/stderr" => .ok (st.setSink fd (st.sink? 2))
  | name =>
    let path := ByteText.toBytes target
    let isPipe := (st.files.node? path).toOption.any fun
      | .pipe .. => true
      | _ => false
    if st.has 'C' && !append && !force && st.files.isFile path then
      .error (st.redirectionFailure true name .alreadyExists)
    else
      match st.filesNow.writeWith path (fun before => if append || isPipe then before else []) with
      | .ok files => .ok ({ st with files }.setSink fd (some (.file (st.fullPath path))))
      | .error e => .error (st.redirectionFailure true name e)

/-- Puts back what was read from the input, if that is also known by another number. -/
def shareInput (st : State) : State :=
  match st.inputFrom with
  | some fd => { st with inputs := (fd, st.input) :: st.inputs.filter (·.1 ≠ fd) }
  | none => st

/-- Makes a flow the input under some number. -/
def setInput (st : State) (fd : Nat) (flow : Flow) : State :=
  if fd = 0 then { st.shareInput with input := flow, inputFrom := none }
  else { st with inputs := (fd, flow) :: st.inputs.filter (·.1 ≠ fd) }

def closeInput (st : State) (fd : Nat) : State :=
  if fd = 0 then { st.shareInput with input := .shut, inputFrom := none }
  else { st with inputs := st.inputs.filter (·.1 ≠ fd) }

/-- Makes a descriptor another name of one that is open. -/
def duplicate (st : State) (fd other : Nat) : Except String State :=
  match st.sink? other, (if other = 0 then some st.input else st.shareInput.inputs.lookup other) with
  | some sink, _ => .ok (st.setSink fd (some sink))
  | none, some flow =>
    if fd = other then .ok st
    else if fd = 0 then .ok { st.setInput 0 flow with inputFrom := some other }
    else .ok ({ st.setInput fd flow with
      inputFrom := if other = 0 then some fd else st.inputFrom })
  | none, none => .error (other.repr ++ ": Bad file descriptor")

/-- Makes a descriptor another name of the one that a text names, or closes it. -/
def duplicateNamed (st : State) (fd : Nat) (out : Bool) (target : List Char) : Except String State :=
  if target = ['-'] then .ok ((st.setSink fd none).closeInput fd)
  else
    match Tools.decimal? target with
    | some other =>
      if st.isRich || target.length = 1 then st.duplicate fd other
      else .error SyntaxFault.badDescriptor.message
    | none =>
      if !st.isRich then .error SyntaxFault.badDescriptor.message
      else if out && fd = 1 then do
        let st ← st.openFile 1 false false target
        return st.setSink 2 (st.sink? 1)
      else .error (ByteText.shown target ++ ": ambiguous redirect")

/-- Reads from a file. -/
def readFrom (st : State) (fd : Nat) (target : List Char) : Except String State :=
  let name := ByteText.shown target
  match Flow.named st.files st.input name with
  | .ok flow => .ok (st.setInput fd flow)
  | .error e => .error (st.redirectionFailure false name e)

/-- The first number of a descriptor that is not in use, among those that a shell gives out. -/
def freeDescriptor (st : State) : Nat :=
  let used := st.fds.map (·.1) ++ st.inputs.map (·.1)
  ((List.range 200).map (· + 10)).find? (!used.contains ·) |>.getD 10

/-- Carries out one redirection. -/
def redirect (st : State) (fd : Nat) (kind : Redirection) (target : List Char) :
    Except String State :=
  match kind with
  | .write => st.openFile fd false false target
  | .force => st.openFile fd false true target
  | .append => st.openFile fd true false target
  | .duplicateOut => st.duplicateNamed fd true target
  | .duplicateIn => st.duplicateNamed fd false target
  | .read => st.readFrom fd target
  | .both =>
    if st.files.pathExists (ByteText.toBytes target) then st.readFrom fd target
    else do
      let opened ← st.openFile fd true false target
      return opened.setInput fd .empty
  | .here => .ok (st.setInput fd (.ofBytes (ByteText.toBytes target)))
  | .hereText => .ok (st.setInput fd (.ofBytes (ByteText.toBytes target ++ [newline])))
  | .writeBoth => do
    let st ← st.openFile 1 false false target
    return st.setSink 2 (st.sink? 1)
  | .appendBoth => do
    let st ← st.openFile 1 true false target
    return st.setSink 2 (st.sink? 1)

/-- The descriptors that a redirection leads elsewhere. -/
def touched (rich : Bool) (r : Redirect Word) : List Nat :=
  if r.holder.isSome then []
  else
  match r.kind with
  | .writeBoth | .appendBoth => [1, 2]
  | .duplicateOut => if rich && r.fd = 1 then [1, 2] else [r.fd]
  | _ => [r.fd]

/-- Goes back from a state inside redirections to the descriptors outside of them. -/
def leaveRedirects (outer inner : State) (rs : List (Redirect Word)) : State :=
  if rs.isEmpty then inner
  else
    let isTouched (fd : Nat) : Bool := rs.any fun r => (touched outer.isRich r).contains fd
    let shared := inner.shareInput
    let here (fds : List (Nat × Sink)) := fds.filter fun (fd, _) => isTouched fd
    { inner with
      fds := here outer.fds ++ inner.fds.filter fun (fd, _) => !isTouched fd
      inputs := (outer.inputs.filter fun (fd, _) => isTouched fd) ++
        shared.inputs.filter fun (fd, _) => !isTouched fd
      inputFrom := if isTouched 0 then outer.inputFrom else inner.inputFrom
      input :=
        if isTouched 0 then
          (outer.inputFrom.bind fun fd => shared.inputs.lookup fd).getD outer.input
        else inner.input }

end Scratchpad.Shell.State
