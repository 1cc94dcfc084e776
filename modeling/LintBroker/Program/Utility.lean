/-
  LintBroker.Program.Utility

  The utilities of the system by their names.
-/
import LintBroker.Program.Utility.Copies
import LintBroker.Program.Utility.Counting
import LintBroker.Program.Utility.Identity
import LintBroker.Program.Utility.Letters
import LintBroker.Program.Utility.Listing
import LintBroker.Program.Utility.Printing
import LintBroker.Program.Utility.Selection
import LintBroker.Program.Utility.Sequence
import LintBroker.Program.Utility.Testing
import LintBroker.Program.Utility.Time

namespace LintBroker.Program.Utility

/-- The utilities by name. -/
def table : List (String × Utility) := [
    ("[", bracketTest), ("basename", baseNames), ("cat", concatenate), ("chmod", changeMode),
    ("cp", copy), ("cut", selectParts), ("dirname", directoryNames), ("echo", echo),
    ("env", withEnvironment), ("false", doNothing 1), ("head", firstPart), ("id", tellIdentity),
    ("ls", list), ("mkdir", makeDirectories), ("mv", move), ("printenv", printEnvironment),
    ("printf", printFormat), ("pwd", printDirectory), ("rm", remove), ("rmdir", removeDirectories),
    ("seq", sequence), ("sleep", sleep), ("sort", sortLines), ("tac", reverseLines),
    ("tail", finalPart), ("tee", splitOutput), ("test", test), ("timeout", limitTime),
    ("touch", touch), ("tr", changeLetters), ("true", doNothing 0), ("uname", tellSystem),
    ("uniq", joinRepeats), ("wc", count), ("which", findPrograms), ("whoami", tellUser) ]

end LintBroker.Program.Utility
