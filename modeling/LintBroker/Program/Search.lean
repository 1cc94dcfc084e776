/-
  LintBroker.Program.Search

  Where a program is looked for: a name with a slash is a path of its own, any other
  name is tried in each directory of the search path.
-/
import LintBroker.Files.Disk
import LintBroker.Text.Split

namespace LintBroker.Program

open LintBroker.Files LintBroker.Text

/-- Where a program may be in a directory of the search path; the empty directory stands for the
    working directory. -/
def inDirectory (directory program : String) : String :=
  if directory = "" then program
  else if directory.toList.getLast? = some '/' then directory ++ program
  else directory ++ "/" ++ program

/-- The directories of a search path. -/
def searchDirectories (path : String) : List String := (splitAt ':' path.toList).map String.ofList

/-- The search path when the environment has none. -/
def defaultSearchPath : String := "/bin:/usr/bin"

/-- The name of a program is a path of its own. -/
def namesPath (program : String) : Bool := program.toList.contains '/'

/-- The paths at which a program is tried, in order. -/
def candidates (searchPath : Option String) (program : String) : List String :=
  if namesPath program then [program]
  else (searchDirectories (searchPath.getD defaultSearchPath)).map fun directory =>
    inDirectory directory program

/-- A program of this name can be found.  An empty search path holds no directory. -/
def isOnPath (disk : Disk) (searchPath : Option String) (program : String) : Bool :=
  (namesPath program || searchPath != some "")
    && (candidates searchPath program).any disk.isProgram

end LintBroker.Program
