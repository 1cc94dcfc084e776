/-
  LintBroker.Program.Utility.Identity

  The utilities that tell who runs programs, and on what system.
-/
import LintBroker.Program.Utility.Names

namespace LintBroker.Program.Utility

open LintBroker.Text

/-- The name of the one who runs programs. -/
def userName : Octets := "root".toList

/-- Writes the name of the one who runs programs. -/
def tellUser : Utility := run 1 fun _ => do
  match ← takeStandard with
  | [] => putLine userName
  | extra :: _ => extraOperand extra

/-- Writes the numbers and names of the one who runs programs. -/
def tellIdentity : Utility := run 1 fun _ => do
  let (keys, names) ← takeOptions
    [.flag 'u' "user", .flag 'g' "group", .flag 'G' "groups", .flag 'n' "name",
      .flag 'r' "real", .letterOnly 'a', .flag 'z' "zero"] ([] : List String)
    fun keys key _ => return key :: keys
  let kinds := ["user", "group", "groups"].filter keys.contains
  if 1 < kinds.length then
    fail "cannot print \"only\" of more than one choice".toList
  let unknown := names.filter fun name => name ≠ userName ∧ name ≠ ['0']
  unknown.forM fun name => report (quoted name ++ ": no such user".toList)
  if unknown.isEmpty then
    if kinds.isEmpty then
      if keys.contains "name" ∨ keys.contains "real" then
        fail "cannot print only names or real IDs in default format".toList
      putLine "uid=0(root) gid=0(root) groups=0(root)".toList
    else putLine (if keys.contains "name" then userName else ['0'])

/-- Writes the name of the system. -/
def tellSystem : Utility := run 1 fun _ => do
  let (_, words) ← takeOptions
    [.flag 's' "kernel-name", .flag 'o' "operating-system"] () fun s _ _ => return s
  match words with
  | [] => putLine "Linux".toList
  | extra :: _ => extraOperand extra

end LintBroker.Program.Utility
