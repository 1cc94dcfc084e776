/-
  LintBroker.Shell.Builtin.Alias

  The commands that give words other texts.
-/
import LintBroker.Shell.Builtin.Basic

namespace LintBroker.Shell

open LintBroker.Text

/-- A word with its text, as a command gives it. -/
def aliasLine (name text : Octets) : Octets := name ++ '=' :: inQuotes text ++ ['\n']

/-- The words with a text for one of them; a word that has one keeps its place. -/
def putAlias (name text : Octets) : List (Octets × Octets) → List (Octets × Octets)
  | [] => [(name, text)]
  | (n, t) :: rest => if n = name then (n, text) :: rest else (n, t) :: putAlias name text rest

/-- Complains that a word has no other text. -/
def noAlias (command : String) (name : Octets) : Act Unit := do
  let message := (command ++ ": ").toList ++ name ++ " not found\n".toList
  let _ ← tell complaintChannel message

/-- Gives words other texts, or lists those that have some. -/
def giveAlias : Builtin := fun args => do
  if args.isEmpty then
    (State.tableOrder State.tableRows (← get).aliases).forM fun (name, text) =>
      put (aliasLine name text)
    return 0
  else
    args.foldlM (fun status arg => do
      let name := arg.take 1 ++ (arg.drop 1).takeWhile (· != '=')
      match arg.drop name.length with
      | _ :: text => do
        modify fun state => { state with aliases := putAlias name text state.aliases }
        return status
      | [] =>
        match (← get).aliases.lookup name with
        | some text => do
          put (aliasLine name text)
          return status
        | none => do
          noAlias "alias" name
          return 1) 0

/-- Takes the other texts of words away. -/
def dropAlias : Builtin := fun args => do
  let (options, names) ← takeOptions "a" args
  if gives options 'a' then
    modify fun state => { state with aliases := [] }
    return 0
  else
    names.foldlM (fun status name => do
      let state ← get
      if (state.aliases.lookup name).isSome then
        set { state with aliases := state.aliases.filter fun p => p.1 != name }
        return status
      else
        noAlias "unalias" name
        return 1) 0

/-- A word that was given a text has it. -/
theorem lookup_putAlias (name text : Octets) (aliases : List (Octets × Octets)) :
    (putAlias name text aliases).lookup name = some text := by
  induction aliases with
  | nil => simp [putAlias]
  | cons p rest ih =>
    obtain ⟨n, t⟩ := p
    by_cases h : n = name
    · simp [putAlias, h]
    · have : (name == n) = false := by simpa using fun e => h e.symm
      simpa only [putAlias, h, if_false, List.lookup_cons, this, cond_false] using ih

end LintBroker.Shell
