/-
  LintBroker.Journal.LogFile

  Log files and their rotation.  Before a line would fill a file up to its limit, the
  file is set aside under its name with a number; three files are set aside, and the
  oldest is given up.
-/
import LintBroker.Number.Decimal

namespace LintBroker.Journal

open LintBroker.Number

/-- The text of a log: its parts, the newest first, and the count of its bytes. -/
structure LogFile where
  parts : List String := []
  size : Nat := 0
  deriving DecidableEq, Repr

namespace LogFile

/-- The whole text. -/
def text (file : LogFile) : String := String.join file.parts.reverse

/-- The text with a line added to it. -/
def append (file : LogFile) (line : String) : LogFile :=
  { parts := (line ++ "\n") :: file.parts, size := file.size + line.utf8ByteSize + 1 }

end LogFile

/-- Log files by absolute path. -/
abbrev LogFiles := List (String × LogFile)

namespace LogFiles

/-- The limit on the size of a log file in bytes. -/
def sizeLimit : Nat := 5 * 1024 * 1024

/-- How many files are set aside. -/
def asideCount : Nat := 3

/-- The file at a path. -/
def get? (files : LogFiles) (path : String) : Option LogFile := files.lookup path

/-- Takes away the file at a path. -/
def remove (files : LogFiles) (path : String) : LogFiles := files.filter fun p => p.1 != path

/-- Puts a file at a path, in the stead of what is there. -/
def put (files : LogFiles) (path : String) (file : LogFile) : LogFiles :=
  (path, file) :: files.remove path

/-- Opening a file makes it if it is not there. -/
def touch (files : LogFiles) (path : String) : LogFiles :=
  match files.get? path with
  | some _ => files
  | none => files.put path {}

/-- The name under which a file is set aside. -/
def aside (path : String) (n : Nat) : String := path ++ "." ++ natText n

/-- Gives a file another name, at which any other file is given up. -/
def move (files : LogFiles) (source target : String) : LogFiles :=
  match files.get? source with
  | some file => (files.remove source).put target file
  | none => files

/-- Sets the file at a path aside and starts a new one; the ones set aside before move up by one. -/
def rotate (files : LogFiles) (path : String) : LogFiles :=
  let numbers := (List.range (asideCount - 1)).reverse.map (· + 1)
  -- The oldest file is moved first, so that its place is free for the next one.
  let shifted := numbers.foldl (fun files n => files.move (aside path n) (aside path (n + 1))) files
  (shifted.move path (aside path 1)).put path {}

/-- Writes a line to the file at a path. -/
def write (files : LogFiles) (path line : String) : LogFiles :=
  let current := (files.get? path).getD {}
  if sizeLimit ≤ current.size + line.utf8ByteSize + 1 then
    let files := files.rotate path
    files.put path (((files.get? path).getD {}).append line)
  else files.put path (current.append line)

end LogFiles

end LintBroker.Journal
