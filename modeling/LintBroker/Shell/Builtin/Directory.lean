/-
  LintBroker.Shell.Builtin.Directory

  The commands about the directory of the shell.
-/
import LintBroker.Shell.Builtin.Basic

namespace LintBroker.Shell

open LintBroker.Files LintBroker.Program LintBroker.Text

/-- The directory that a path leads to. -/
def State.directory? (state : State) (path : Octets) : Option Place :=
  let path := Octets.toText path
  let names := Tree.namesOf path
  let start := if isAbsolute path then [] else state.directory
  let place := names.foldl (fun place name =>
    if name = "" ∨ name = "." then place
    else if name = ".." then place.dropLast
    else place ++ [name]) start
  match state.world.tree.walk [] place with
  | .ok place => if state.world.tree.entry? place = some .directory then some place else none
  | .error _ => none

/-- The path of the directory that a path leads to is given with two slashes in front: a path that
    begins with just two keeps them, and one that does not begin at the root keeps those of the
    directory. -/
def State.doubles (state : State) (path : Octets) : Bool :=
  match path with
  | '/' :: '/' :: rest => rest.head? != some '/'
  | '/' :: _ => false
  | _ => state.doubled

/-- The path of a name below a directory; the empty directory stands for the current one. -/
def underDirectory (directory name : Octets) : Octets :=
  if directory = [] then name else directory ++ '/' :: name

/-- A path is taken as it is, and not looked for: it begins with a slash or with dots for the
    directory or the one above. -/
def isPlacedPath (path : Octets) : Bool :=
  match path.takeWhile (· != '/') with
  | [] => !path.isEmpty
  | first => first == ['.'] || first == ['.', '.']

/-- Goes to another directory. -/
def changeDirectory : Builtin := fun args => do
  let (_, paths) ← takeOptions "LP" args
  let state ← get
  let (target, shown) := match paths with
    | [] => ((state.text? "HOME".toList).getD [], false)
    | ['-'] :: _ => ((state.text? "OLDPWD".toList).getD [], true)
    | path :: _ => (path, false)
  let path := if target = [] then ['.'] else target
  let among : List (Octets × Bool) :=
    if isPlacedPath path then []
    else
      match state.text? "CDPATH".toList with
      | none => []
      | some list => (splitAt ':' list).map fun directory =>
        (underDirectory directory path, directory != [])
  let found := (among ++ [(path, false)]).findSome? fun (path, far) =>
    (state.directory? path).map fun place => (place, state.doubles path, far)
  match found with
  | none => misuse ("can't cd to ".toList ++ target)
  | some (place, doubled, far) =>
    let before := state.directoryText
    let moved := { state with
      directory := place, doubled
      found := state.found.map fun p => (p.1, { p.2 with moved := true }) }
    let give (state : State) (name : String) (text : Octets) : State :=
      state.putVariable name.toList { text := some text, exported := true }
    let moved := give moved "OLDPWD" before
    set (give moved "PWD" moved.directoryText)
    if shown || far then put (moved.directoryText ++ ['\n'])
    return 0

/-- Writes the path of the directory. -/
def printDirectory : Builtin := fun args => do
  let _ ← takeOptions "LP" args
  put ((← get).directoryText ++ ['\n'])
  return 0

end LintBroker.Shell
