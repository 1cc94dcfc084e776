/-
  LintBroker.Shell.Meaning

  What names mean where a command is expected, and the commands that tell it.
-/
import LintBroker.Shell.Builtin
import LintBroker.Shell.ProgramCall

namespace LintBroker.Shell

open LintBroker.Files LintBroker.Text

/-! ## Meanings -/

/-- What a name means where a command is expected. -/
inductive Meaning where
  | reserved
  | replaced (text : Octets)
  | special
  | builtin
  | function
  | program (path : Octets) (remembered : Bool)
  deriving DecidableEq, Repr

/-- What a name means, if anything; programs may be looked for on another search path. -/
def State.meaning? (state : State) (searchPath : Option Octets) (name : Octets) : Option Meaning :=
  if reservedWords.contains name then some .reserved
  else
    match state.aliases.lookup name with
    | some text => some (.replaced text)
    | none =>
      if isSpecial name then some .special
      else if searchPath.isNone ∧ (state.functions.lookup name).isSome then some .function
      else if isBuiltin name then some .builtin
      else if name.contains '/' then
        if (state.facts.kind name).isSome then some (.program name false) else none
      else
        match if searchPath.isNone then state.found.lookup name else none with
        | some found => some (.program found.path true)
        | none =>
          (state.programPath (searchPath.getD state.searchPath) name).toOption.map
            fun path => .program path false

/-- The status for a name that means nothing. -/
def unknownName : Nat := 127

/-- Tells what a name means, in a sentence. -/
def describe (searchPath : Option Octets) (name : Octets) : Act Nat := do
  let meaning := (← get).meaning? searchPath name
  let words := match meaning with
    | some .reserved => " is a shell keyword".toList
    | some (.replaced text) => " is an alias for ".toList ++ text
    | some .special => " is a special shell builtin".toList
    | some .builtin => " is a shell builtin".toList
    | some .function => " is a shell function".toList
    | some (.program path true) => " is a tracked alias for ".toList ++ path
    | some (.program path false) => " is ".toList ++ path
    | none => ": not found".toList
  put (name ++ words ++ ['\n'])
  return if meaning.isSome then 0 else unknownName

/-- Tells what is started for a name. -/
def identify (searchPath : Option Octets) (name : Octets) : Act Nat := do
  match (← get).meaning? searchPath name with
  | none => return unknownName
  | some meaning => do
    put (match meaning with
      | .replaced text => "alias ".toList ++ aliasLine name text
      | .program path _ => path ++ ['\n']
      | _ => name ++ ['\n'])
    return 0

/-! ## Commands -/

/-- Tells what names mean. -/
def describeAll : Builtin := fun names => do
  names.foldlM (fun status name => do
    return max status (← describe none name)) 0

/-- Tells what a name means, as the options ask for; without them it does nothing. -/
def aboutCommand : Builtin := fun args => do
  let (options, names) ← takeOptions "pvV" args
  let searchPath := if gives options 'p' then some standardPath else none
  match names with
  | [] => return 0
  | name :: _ =>
    if gives options 'V' then describe searchPath name
    else if gives options 'v' then identify searchPath name
    else return 0

/-- The rows of the table of programs that were found. -/
def foundRows : Nat := 31

/-- Lists the programs that were found, forgets them, or finds more. -/
def rememberPrograms : Builtin := fun args => do
  let (options, names) ← takeOptions "r" args
  if gives options 'r' then
    modify fun state => { state with found := [] }
    return 0
  else if names = [] then
    (State.tableOrder foundRows (← get).found).forM fun (_, found) =>
      put (found.path ++ (if found.moved then "*\n" else "\n").toList)
    return 0
  else
    names.foldlM (fun status name => do
      modify fun state => { state with found := state.found.filter fun p => p.1 != name }
      let known := isBuiltin name || ((← get).functions.lookup name).isSome
      if known then return status
      else
        match ← findProgram name with
        | .ok _ => return status
        | .error e => do
          complain (refusal name e)
          return 1) 0

end LintBroker.Shell
