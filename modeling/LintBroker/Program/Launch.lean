/-
  LintBroker.Program.Launch

  Starting a program by its name: every path at which it may be is tried in turn, and
  when none can be started the refusal that says most is reported.
-/
import LintBroker.Program.Basic
import LintBroker.Program.Search

namespace LintBroker.Program

open LintBroker.Files

/-- The first path that can be started decides.  Of the refusals the first one counts that does
    not merely say that nothing is there, and else the last one; `kept` is the refusal to report so
    far, with a mark that it is final. -/
def tryEach (start : String → Except SystemError Result) (kept : SystemError × Bool) :
    List String → Except SystemError Result
  | [] => .error kept.1
  | path :: rest =>
    match start path with
    | .ok result => .ok result
    | .error e =>
      if kept.2 then tryEach start kept rest
      else tryEach start (e, e != .noEntry && e != .notDirectory) rest

/-- The longest text among the arguments and in the environment, in bytes. -/
def textLimit : Nat := 131071

/-- An entry of an environment as the program receives it. -/
def entryText (entry : String × String) : String := entry.1 ++ "=" ++ entry.2

/-- Starts a path unless one of the texts is too long for the system. -/
def startPath (launcher : Launcher) (command : List String) (environment : Environment)
    (path : String) : Except SystemError Result :=
  if (command ++ environment.map entryText).any fun s => textLimit < s.utf8ByteSize then
    .error .tooBig
  else launcher.execute path command environment

/-- Starts a command whose first word is the program, in an environment of its own if one is
    given.  Names with an equals sign cannot be in an environment, and no text may hold a NUL. -/
def launch (launcher : Launcher) (program : String) (args : List String)
    (environment : Option Environment) : Except Failure Result :=
  let given := environment.getD []
  let environment := environment.getD launcher.environment
  let paths := candidates (environment.get? "PATH") program
  if given.any fun entry => entry.1.toList.contains '=' then
    .error (.invalidValue "illegal environment variable name")
  else if (paths ++ program :: args ++ given.map entryText).any Disk.hasNul then .error nulInText
  else
    (tryEach (startPath launcher (program :: args) environment) (.noEntry, false) paths).mapError
      fun e => .system e (some program)

end LintBroker.Program
