/-
  LintBroker.Files.Disk

  What the library asks of a file system: the kind of thing at a path, the bytes of
  a file, whether it may be executed, and the directory that relative paths start
  from.  Questions that can only be answered yes or no take some refusals as a no.
-/
import LintBroker.Failure
import LintBroker.Files.Path

namespace LintBroker.Files

/-- What can be at a path. -/
inductive FileKind where
  | regular
  | directory
  | other
  deriving DecidableEq, Repr

/-- The answers of a file system at one time; path texts are taken as they are. -/
structure Disk where
  /-- What is at a path. -/
  kind : String → Except SystemError FileKind
  /-- The bytes of a file. -/
  bytes : String → Except SystemError (List UInt8)
  /-- The path leads to something that may be executed. -/
  executable : String → Bool
  /-- The absolute path of the directory that relative paths start from. -/
  workingDirectory : String

namespace Disk

/-- A text with a NUL is no path. -/
def hasNul (path : String) : Bool := path.toList.contains (Char.ofNat 0)

/-- What is at a path, or why that cannot be told. -/
def status (disk : Disk) (path : String) : Except Failure FileKind :=
  if hasNul path then .error nulInText
  else (disk.kind path).mapError fun e => .system e (some path)

/-- Whether what is at a path passes a test.  A refusal that means that nothing is there is a no,
    as is a text that is no path; any other refusal is a failure. -/
def probe (disk : Disk) (test : FileKind → Bool) (path : String) : Except Failure Bool :=
  if hasNul path then .ok false
  else
    match disk.kind path with
    | .ok kind => .ok (test kind)
    | .error e => if e.meansAbsent then .ok false else .error (.system e (some path))

/-- A directory is at the path. -/
def isDirectory (disk : Disk) (path : String) : Except Failure Bool :=
  disk.probe (· == .directory) path

/-- A regular file is at the path. -/
def isFile (disk : Disk) (path : String) : Except Failure Bool := disk.probe (· == .regular) path

/-- Something is at the path. -/
def isPresent (disk : Disk) (path : String) : Except Failure Bool := disk.probe (fun _ => true) path

/-- A file or device at the path may be executed; every refusal is a no. -/
def isProgram (disk : Disk) (path : String) : Bool :=
  !hasNul path &&
    match disk.kind path with
    | .ok kind => kind != .directory && disk.executable path
    | .error _ => false

/-- The text of a file. -/
def readText (disk : Disk) (path : String) : Except Failure String :=
  if hasNul path then .error nulInText
  else
    match disk.bytes path with
    | .error e => .error (.system e (some path))
    | .ok bytes => (Text.Utf8.decode bytes).mapError .undecodable

end Disk

end LintBroker.Files
