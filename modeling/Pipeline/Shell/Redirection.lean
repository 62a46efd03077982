import Pipeline.Shell.Expansion

/-!
# Redirections

A redirection changes where a descriptor leads. They are carried out in order; the first that fails
is complained about and ends the rest. Text that is to be read becomes a source that whoever reads
it first uses up; a file that is written to is emptied first, or added to.
-/

namespace Pipeline.Shell
open Sh

/-- How a file is opened for writing. -/
inductive Opening where
  | anew
  | atEnd
deriving DecidableEq, Repr

/-- The descriptor that a path of the device directory stands for. -/
def deviceDescriptor (path : Raw) : Option Nat :=
  let front := "/dev/fd/".toList
  match String.ofList path with
  | "/dev/stdin" => some 0
  | "/dev/stdout" => some 1
  | "/dev/stderr" => some 2
  | _ =>
    let digits := path.drop front.length
    if front.isPrefixOf path ∧ digits ≠ [] ∧ digits.all Char.isDigit then some (digitsValue digits)
    else none

/-- What a shell says of a file that cannot be opened. -/
def openComplaint (dialect : Dialect) (writing : Bool) (path : Raw) (e : IoError) : Raw :=
  match dialect with
  | .bash => path ++ ": ".toList ++ e.reason.toList
  | .dash =>
    let missing : Bool := e = .noEntry ∨ e = .notDirectory
    let reason :=
      if !missing then e.reason else if writing then "Directory nonexistent" else "No such file"
    let failed := if writing then "cannot create " else "cannot open "
    failed.toList ++ path ++ ": ".toList ++ reason.toList

/-- Opens a file for reading. -/
def openInput (path : Raw) : Sh (Except IoError Channel) := do
  let s ← shell
  match deviceDescriptor path with
  | some fd => return (s.descriptors.lookup fd).elim (.error .noEntry) .ok
  | none =>
    match (← files).find s.here (Raw.toText path) with
    | .error e => return .error e
    | .ok (.file content _) =>
      return .ok (.source (← modifyMachine (·.newSource (Raw.ofBytes content))))
    | .ok _ => return .ok .null

/-- Opens a file for writing, which makes it if it is not there. -/
def openOutput (opening : Opening) (path : Raw) : Sh (Except IoError Channel) := do
  let s ← shell
  match deviceDescriptor path with
  | some fd => return (s.descriptors.lookup fd).elim (.error .noEntry) .ok
  | none =>
    let fs ← files
    match fs.writable s.here (Raw.toText path) with
    | .error e => return .error e
    | .ok place =>
      match fs.at? place, opening with
      | some .nullDevice, _ => return .ok .null
      | some (.file ..), .atEnd => return .ok (.file place)
      | _, _ => do
        setFiles (fs.fill place [])
        return .ok (.file place)

/-- Leads a descriptor of the shell to a channel. -/
def setDescriptor (fd : Nat) (channel : Channel) : Sh Unit :=
  modifyShell fun s => { s with descriptors := s.descriptors.set fd channel }

/-- Leads a descriptor of the shell nowhere. -/
def closeDescriptor (fd : Nat) : Sh Unit :=
  modifyShell fun s => { s with descriptors := s.descriptors.close fd }

/-- Complains about a redirection. -/
def failRedirect (text : Raw) : Sh Bool := do
  complain text
  return false

/-- Points a descriptor at a channel, or complains that it could not be opened. -/
def connect (writing : Bool) (fds : List Nat) (path : Raw) (opened : Except IoError Channel) :
    Sh Bool := do
  match opened with
  | .ok channel => do
    fds.forM fun fd => setDescriptor fd channel
    return true
  | .error e => failRedirect (openComplaint (← shell).dialect writing path e)

/-- Points a descriptor at what another one leads to. -/
def duplicate (fd : Nat) (target : Raw) : Sh Bool := do
  let digits := target.takeWhile Char.isDigit
  match digits, target.drop digits.length with
  | [], ['-'] => do
    closeDescriptor fd
    return true
  | _ :: _, ending => do
    if !ending.isEmpty ∧ ending ≠ ['-'] then
      return ← failRedirect (target ++ ": ambiguous redirect".toList)
    match (← shell).descriptors.lookup (digitsValue digits) with
    | none => failRedirect (digits ++ ": Bad file descriptor".toList)
    | some channel => do
      setDescriptor fd channel
      if ending = ['-'] then closeDescriptor (digitsValue digits)
      return true
  | _, _ => failRedirect (target ++ ": ambiguous redirect".toList)

/-- Carries a redirection out; false if it failed. -/
def redirect (sub : Substitution) (r : Redirect) : Sh Bool := do
  match r.kind with
  | .text => do
    let text ← expandText sub r.target
    setDescriptor (r.fd.getD 0) (.source (← modifyMachine (·.newSource text)))
    return true
  | kind => do
    let target ← expandTarget sub r.target
    match kind with
    | .text => return true
    | .input => connect false [r.fd.getD 0] target (← openInput target)
    | .inputOutput => connect false [r.fd.getD 0] target (← openInput target)
    | .output => connect true [r.fd.getD 1] target (← openOutput .anew target)
    | .append => connect true [r.fd.getD 1] target (← openOutput .atEnd target)
    | .both => connect true [1, 2] target (← openOutput .anew target)
    | .bothAppend => connect true [1, 2] target (← openOutput .atEnd target)
    | .dupInput => duplicate (r.fd.getD 0) target
    | .dupOutput =>
      let named := target ≠ ['-'] ∧ !(target.head?.any Char.isDigit)
      if r.fd.isNone ∧ (← shell).dialect = .bash ∧ named then
        connect true [1, 2] target (← openOutput .anew target)
      else duplicate (r.fd.getD 1) target

/-- Carries redirections out in order, up to one that fails. -/
def redirectAll (sub : Substitution) : List Redirect → Sh Bool
  | [] => return true
  | r :: rs => do if (← redirect sub r) then redirectAll sub rs else return false

end Pipeline.Shell
