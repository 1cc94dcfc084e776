/-
  LintBroker.Language

  Languages of files: the known ones, and the one that the suffix of a path tells.
-/
import LintBroker.Files.Path
import LintBroker.Text.LowerCase

namespace LintBroker.Language

open LintBroker.Files LintBroker.Text

/-- The languages that can be analyzed. -/
def known : List String := ["javascript", "typescript", "html", "css", "python"]

/-- The word that asks for the language to be told from the path. -/
def auto : String := "auto"

/-- The language of a path that tells none. -/
def unknown : String := "unknown"

/-- The choices of a caller. -/
def choices : List String := known ++ [auto]

/-- The language of each suffix. -/
def ofSuffix : List (String × String) :=
  [(".js", "javascript"), (".ts", "typescript"), (".tsx", "typescript"), (".html", "html"),
    (".htm", "html"), (".css", "css"), (".py", "python")]

/-- The language that the suffix of the last piece of a path tells, in whatever case. -/
def detect (path : String) : String :=
  (ofSuffix.lookup (lower (String.ofList (suffixChars path.toList)))).getD unknown

/-- The language asked for; without one, or when it is to be told, that of the path. -/
def resolve (path : String) (hint : Option String) : String :=
  match hint with
  | none => detect path
  | some hint => if hint = auto then detect path else hint

end LintBroker.Language
