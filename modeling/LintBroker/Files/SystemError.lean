/-
  LintBroker.Files.SystemError

  The numbered errors with which the operating system refuses a request, and their
  descriptions.
-/
import LintBroker.Number.Decimal

namespace LintBroker.Files

open LintBroker.Number

/-- An error of the operating system, given by its number. -/
structure SystemError where
  number : Nat
  deriving DecidableEq, Repr

namespace SystemError

/-- The descriptions by number. -/
def descriptions : List (Nat × String) := [
    (1, "Operation not permitted"), (2, "No such file or directory"), (3, "No such process"),
    (4, "Interrupted system call"), (5, "Input/output error"), (6, "No such device or address"),
    (7, "Argument list too long"), (8, "Exec format error"), (9, "Bad file descriptor"),
    (10, "No child processes"), (11, "Resource temporarily unavailable"),
    (12, "Cannot allocate memory"), (13, "Permission denied"), (14, "Bad address"),
    (15, "Block device required"), (16, "Device or resource busy"), (17, "File exists"),
    (18, "Invalid cross-device link"), (19, "No such device"), (20, "Not a directory"),
    (21, "Is a directory"), (22, "Invalid argument"), (23, "Too many open files in system"),
    (24, "Too many open files"), (25, "Inappropriate ioctl for device"), (26, "Text file busy"),
    (27, "File too large"), (28, "No space left on device"), (29, "Illegal seek"),
    (30, "Read-only file system"), (31, "Too many links"), (32, "Broken pipe"),
    (33, "Numerical argument out of domain"), (34, "Numerical result out of range"),
    (35, "Resource deadlock avoided"), (36, "File name too long"), (37, "No locks available"),
    (38, "Function not implemented"), (39, "Directory not empty"),
    (40, "Too many levels of symbolic links"), (61, "No data available"), (62, "Timer expired"),
    (71, "Protocol error"), (75, "Value too large for defined data type"),
    (84, "Invalid or incomplete multibyte or wide character"),
    (88, "Socket operation on non-socket"), (95, "Operation not supported"),
    (110, "Connection timed out"), (111, "Connection refused"), (116, "Stale file handle"),
    (122, "Disk quota exceeded"), (125, "Operation canceled") ]

/-- The words for an error. -/
def description (e : SystemError) : String :=
  (descriptions.lookup e.number).getD ("Unknown error " ++ natText e.number)

/-- Nothing of that name is there. -/
def noEntry : SystemError := ⟨2⟩

/-- The file has no form that can be executed. -/
def badFormat : SystemError := ⟨8⟩

/-- The entry is in use. -/
def inUse : SystemError := ⟨16⟩

/-- The device is not there. -/
def noDevice : SystemError := ⟨6⟩

/-- The channel is closed, or not open for what is asked. -/
def badChannel : SystemError := ⟨9⟩

/-- The request makes no sense for this file. -/
def invalid : SystemError := ⟨22⟩

/-- The device is full. -/
def noSpace : SystemError := ⟨28⟩

/-- The list of arguments is too long. -/
def tooBig : SystemError := ⟨7⟩

/-- The request is not permitted for this file. -/
def denied : SystemError := ⟨13⟩

/-- Something of that name is there. -/
def alreadyThere : SystemError := ⟨17⟩

/-- A directory holds something. -/
def notEmpty : SystemError := ⟨39⟩

/-- A path, or a row of interpreters, goes round in a circle. -/
def circular : SystemError := ⟨40⟩

/-- The file is a program that may be running. -/
def busy : SystemError := ⟨26⟩

/-- A part of the path that has to be a directory is not one. -/
def notDirectory : SystemError := ⟨20⟩

/-- The path leads to a directory. -/
def isDirectory : SystemError := ⟨21⟩

/-- A value does not fit in the type that holds it. -/
def tooLarge : SystemError := ⟨75⟩

/-- A name in the path, or the whole path, is too long. -/
def nameTooLong : SystemError := ⟨36⟩

/-- An error that only means that nothing is there: no entry, a bad handle, a path through a file,
    or a circle of links. -/
def meansAbsent (e : SystemError) : Bool := [2, 9, 20, 40].contains e.number

end SystemError

end LintBroker.Files
