/-
  LintBroker.Failure

  Everything that can end an operation early, as causes with their data, and the
  message of each.
-/
import LintBroker.Files.SystemError
import LintBroker.Text.Quoted
import LintBroker.Text.Utf8

namespace LintBroker

open LintBroker.Files LintBroker.Number LintBroker.Text

/-- The cause of a failure. -/
inductive Failure where
  /-- An engine could not be started, broke down or gave nothing that can be used. -/
  | engine (message : String)
  /-- No analyzer is there for the language. -/
  | unsupportedLanguage (language : String)
  /-- A value is of the right kind, but cannot be used. -/
  | invalidValue (message : String)
  /-- Bytes that had to be UTF-8 are not. -/
  | undecodable (fault : Utf8.Fault)
  /-- The operating system refused a request, about a path if one is given. -/
  | system (error : SystemError) (path : Option String)
  /-- The operating system refused a request in words of its own. -/
  | systemNote (message : String)
  /-- The target of an analysis is no file. -/
  | missingTarget (path : String)
  /-- A request that the protocol answers with an error code. -/
  | protocol (code : Int) (message : String)
  /-- A value of one kind was used as one of another kind. -/
  | wrongKind (message : String)
  /-- A member that was looked up is not there. -/
  | missingKey (key : String)
  /-- A number is beyond those that can be represented. -/
  | overflow (message : String)
  /-- A value was asked for a part that values of its kind lack. -/
  | missingPart (message : String)
  deriving DecidableEq

namespace Failure

/-- The words for a failure. -/
def message : Failure → String
  | .engine message => message
  | .unsupportedLanguage language => "Unsupported language: " ++ language
  | .invalidValue message => message
  | .undecodable fault => fault.message
  | .system error none => "[Errno " ++ natText error.number ++ "] " ++ error.description
  | .system error (some path) =>
    "[Errno " ++ natText error.number ++ "] " ++ error.description ++ ": " ++ quoted path
  | .systemNote message => message
  | .missingTarget path => "No such file: " ++ path
  | .protocol _ message => message
  | .wrongKind message => message
  | .missingKey key => quoted key
  | .overflow message => message
  | .missingPart message => message

/-- A failure of the operating system. -/
def isSystem : Failure → Bool
  | .system _ _ => true
  | .systemNote _ => true
  | .missingTarget _ => true
  | _ => false

/-- A failure about a value, the unsupported languages among them. -/
def isValue : Failure → Bool
  | .unsupportedLanguage _ => true
  | .invalidValue _ => true
  | .undecodable _ => true
  | _ => false

/-- A failure that stands for one of an engine: of the engine itself, of the operating system or
    about a value. -/
def isFault (f : Failure) : Bool :=
  match f with
  | .engine _ => true
  | f => f.isSystem || f.isValue

end Failure

/-- The complaint about a text in which a NUL stands where the operating system takes none. -/
def nulInText : Failure := .invalidValue "embedded null byte"

end LintBroker
