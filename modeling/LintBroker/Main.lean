/-
  LintBroker.Main

  The program.  It takes a picture of the files around the working directory, does on it
  what the arguments ask for, and writes down what came of that.  Engines are started on
  the picture, too, so they have to be scripts.  The tool server reads one call a line, a
  JSON object with a name and arguments, and writes the texts of the replies.
-/
import LintBroker.Engine.Run
import LintBroker.Json.Reader
import LintBroker.Program.System
import LintBroker.Session.Serving

namespace LintBroker.Main

open LintBroker.Files LintBroker.Journal LintBroker.Number LintBroker.Text

/-! ## The picture -/

/-- How many directories deep the picture goes. -/
def pictureDepth : Nat := 8

/-- Where the bundled files are in the picture. -/
def bundledPlace : Place := ["usr", "share", "lint-broker"]

/-- A file of these bytes; scripts can be executed. -/
def fileEntry (bytes : List UInt8) : Entry :=
  .file bytes ([0x23, 0x21].isPrefixOf bytes)

/-- The directories that are left out. -/
def isLeftOut (name : String) : Bool := name = "node_modules" || name = ".git"

/-- Adds what is in the directory of an entry. -/
def addBelow : Nat → Place → Tree → IO.FS.DirEntry → IO Tree
  | 0, _, tree, _ => return tree
  | depth + 1, above, tree, entry => do
    let place := above ++ [entry.fileName]
    if ← entry.path.isDir then
      if isLeftOut entry.fileName then return tree
      (← entry.path.readDir).foldlM (addBelow depth place) (tree.put place .directory)
    else
      let bytes ← IO.FS.readBinFile entry.path
      return tree.put place (fileEntry bytes.toList)

/-- Adds a file by its path, if it is one. -/
def addFile (directory : String) (tree : Tree) (path : String) : IO Tree := do
  try
    let bytes ← IO.FS.readBinFile path
    let place := Tree.placeOf (absolute directory path)
    return (tree.withParents place).put place (fileEntry bytes.toList)
  catch _ => return tree

/-- The picture of the working directory, of the settings in the directories above it, and of the
    files that the arguments name. -/
def picture (directory : String) (args : List String) : IO Tree := do
  let here := Tree.placeOf directory
  let base := withBundled Program.systemTree bundledPlace
  let entries ← (← IO.currentDir).readDir
  let tree ← entries.foldlM (addBelow pictureDepth here) (base.withDirectory here)
  let settings := (ancestors directory).drop 1 |>.map fun above =>
    below (below above Project.directoryName) Project.configName
  (settings ++ args).foldlM (addFile directory) tree

/-! ## Results -/

/-- The seconds since 1970, as the system stamps a new file with them. -/
def seconds : IO Int := do
  let (_, path) ← IO.FS.createTempFile
  let stamp := (← path.metadata).modified
  IO.FS.removeFile path
  return stamp.sec

/-- Writes texts to the output and the error output, and ends with a code. -/
def finish (result : Cli.Finish) : IO UInt32 := do
  IO.print result.stdout
  IO.eprint result.stderr
  match result.crash with
  | some failure => IO.eprintln failure.message
  | none => pure ()
  return result.exit.toUInt32

/-- The call that a line of input asks for. -/
def eventOf (host : Host) (line : String) : Session.Event :=
  match Json.read line with
  | .ok (.table members) =>
    let name := ((Members.get members "name").text?).getD ""
    .call true name (Members.get members "arguments") host .nan
  | _ => .call true "" .null host .nan

/-- Serves the calls of the input. -/
def serve (host : Host) (tree : Tree) (here : Place) (project : Option String) : IO UInt32 := do
  let time := timeText (← seconds)
  match Session.start { host, tryOpen := tree.tryAppend here, time } [] project with
  | .error (.noSettings directory) =>
    finish { exit := 1, stderr := Session.noSettingsText directory }
  | .error (.failed failure _) => finish (Cli.crashed failure)
  | .ok serving =>
    let input ← (← IO.getStdin).readToEnd
    let calls := (lines input).filter (· != "")
    let (answers, _, book) := Session.serve serving time (calls.map (eventOf host))
    answers.forM fun answer =>
      match answer.result with
      | .ok reply => IO.println reply.text
      | .error failure => IO.eprintln failure.message
    book.streams.forM fun stream => stream.forM IO.eprintln
    book.files.forM fun (path, file) => do
      let old ← try IO.FS.readFile path catch _ => pure ""
      IO.FS.writeFile path (old ++ file.text)
    return 0

/-- Does what the arguments ask for. -/
def run (args : List String) : IO UInt32 := do
  let directory := (← IO.currentDir).toString
  let here := Tree.placeOf directory
  let tree ← picture directory args
  let searchPath ← IO.getEnv "PATH"
  let environment := (searchPath.map fun path => ("PATH", path)).toList
  let host : Host :=
    { disk := tree.disk here, dataDirectory := "/" ++ "/".intercalate bundledPlace, searchPath
      run := runEngine (Program.launcher tree here environment) }
  match Cli.invocation host.disk args with
  | .ok (.serve project) => serve host tree here project
  | _ =>
    match (Cli.run host args fun _ => pure { exit := 0 }).result with
    | .ok result => finish result
    | .error failure => finish (Cli.crashed failure)

end LintBroker.Main

/-- The program. -/
def main (args : List String) : IO UInt32 := LintBroker.Main.run args
