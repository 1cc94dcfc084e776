/-
  LintBroker.Program.Utility.Names

  The utilities for paths: their last part, what is in front of it, and the path of the
  directory.
-/
import LintBroker.Program.Utility.Basic

namespace LintBroker.Program.Utility

open LintBroker.Files LintBroker.Text

/-! ## Parts of paths -/

/-- A path without the slashes at its end. -/
def withoutEndSlashes (path : Octets) : Octets := (path.reverse.dropWhile (· == '/')).reverse

/-- The last part of a path; of one that consists of slashes a single slash. -/
def lastPart (path : Octets) : Octets :=
  match withoutEndSlashes path with
  | [] => path.take 1
  | short => lastName short

/-- A name without an ending, unless that is all of it. -/
def withoutEnding (ending name : Octets) : Octets :=
  if ending ≠ name ∧ name ≠ ['/'] ∧ ending.isSuffixOf name then
    name.take (name.length - ending.length)
  else name

/-- A path without its last part. -/
def firstParts (path : Octets) : Octets :=
  let short := withoutEndSlashes path
  let front := short.take (short.length - (lastName short).length)
  if front = [] then (if short = [] ∧ path ≠ [] then ['/'] else ['.'])
  else
    match withoutEndSlashes front with
    | [] => ['/']
    | cs => cs

/-- Without the ending that a name has there is less of it. -/
theorem length_withoutEnding_le (ending name : Octets) :
    (withoutEnding ending name).length ≤ name.length := by
  unfold withoutEnding
  split <;> simp

/-! ## Utilities -/

/-- How names are written: several of them, without an ending, and with another character behind
    each. -/
structure NameStyle where
  several : Bool := false
  ending : Octets := []
  terminator : Char := '\n'

/-- Complains that there is no operand. -/
def missingOperand {α : Type} : Task α := misuse "missing operand".toList

/-- Complains about an operand too many. -/
def extraOperand {α : Type} (operand : Octets) : Task α :=
  misuse ("extra operand ".toList ++ quoted operand)

/-- Writes the last parts of paths. -/
def baseNames : Utility := run 1 fun _ => do
  let (style, paths) ← takeLeading
    [.flag 'a' "multiple", .valued 's' "suffix", .flag 'z' "zero"] ({} : NameStyle)
    fun style key value => return match key with
      | "suffix" => { style with several := true, ending := value }
      | "zero" => { style with terminator := '\x00' }
      | _ => { style with several := true }
  match paths with
  | [] => missingOperand
  | path :: rest =>
    if style.several then
      paths.forM fun path => put (withoutEnding style.ending (lastPart path) ++ [style.terminator])
    else
      match rest with
      | _ :: extra :: _ => extraOperand extra
      | _ => put (withoutEnding (rest.head?.getD []) (lastPart path) ++ [style.terminator])

/-- Writes paths without their last parts. -/
def directoryNames : Utility := run 1 fun _ => do
  let (terminator, paths) ← takeOptions [.flag 'z' "zero"] '\n' fun _ _ _ => return '\x00'
  if paths = [] then missingOperand
  else paths.forM fun path => put (firstParts path ++ [terminator])

/-- The path of the directory. -/
def directoryPath (call : Call) : Octets :=
  Octets.ofText ("/" ++ "/".intercalate call.directory)

/-- The path of the directory that the environment gives, if it leads there without steps. -/
def givenPath? (call : Call) (world : World) : Option Octets := do
  let path ← call.environment.lookup "PWD".toList
  let plain := (splitAt '/' path).all fun part => part ≠ ['.'] ∧ part ≠ ['.', '.']
  let place := world.tree.resolve [] (Octets.toText path)
  if path.head? = some '/' ∧ plain ∧ place.toOption = some call.directory then some path else none

/-- Writes the absolute path of the directory. -/
def printDirectory : Utility := run 1 fun _ => do
  let (logical, words) ← takeOptions [.flag 'L' "logical", .flag 'P' "physical"] false
    fun _ key _ => return key == "logical"
  if words ≠ [] then complain "ignoring non-option arguments".toList
  let state ← get
  let given := if logical then givenPath? state.call state.world else none
  putLine (given.getD (directoryPath state.call))

end LintBroker.Program.Utility
