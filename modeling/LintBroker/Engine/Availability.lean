/-
  LintBroker.Engine.Availability

  Whether the program of an engine can be found: by its own path, or in one of the
  directories of the search path.
-/
import LintBroker.Engine.Basic
import LintBroker.Program.Search
import LintBroker.Shell.Words

namespace LintBroker

open LintBroker.Files LintBroker.Program LintBroker.Shell LintBroker.Text

/-- What keeps an engine from being run, if anything. -/
def checkEngine (disk : Disk) (searchPath : Option String) (engine : Engine) :
    Except Failure (Option String) :=
  match words engine.command with
  | .error _ => .ok (some ("Malformed command string: " ++ quoted engine.command))
  | .ok [] => .ok (some "Empty command")
  | .ok (program :: _) => do
    let looksLikePath := program.toList.any fun c => c == '/' || c == '\\'
    let isFile ← if looksLikePath then disk.isFile (normalize program) else pure false
    if isFile && disk.executable program then pure none
    else if isOnPath disk searchPath program then pure none
    else pure (some ("Command " ++ quoted program ++ " not found on PATH"))

end LintBroker
