/-
  LintBroker.Data.Display

  How messages show a decoded value: texts between quotes, lists and tables in
  brackets, and the three constants by name.
-/
import LintBroker.Data.Datum
import LintBroker.Number.Shortest
import LintBroker.Text.Quoted

namespace LintBroker

open LintBroker.Number LintBroker.Text

/-- The spellings of the constants. -/
structure ConstantNames where
  null : String
  yes : String
  no : String

/-- Constants are written with a capital. -/
def ConstantNames.capital : ConstantNames := ⟨"None", "True", "False"⟩

namespace Datum

mutual
/-- The value as it is shown inside another one. -/
def display : Datum → String
  | .null => ConstantNames.capital.null
  | .bool b => if b then ConstantNames.capital.yes else ConstantNames.capital.no
  | .int n => intText n
  | .float x => floatText x
  | .text s => quoted s
  | .list items => "[" ++ ", ".intercalate (displayItems items) ++ "]"
  | .table members => "\x7b" ++ ", ".intercalate (displayMembers members) ++ "\x7d"
  | .moment _ iso => iso

/-- The items of a list as they are shown. -/
def displayItems : List Datum → List String
  | [] => []
  | item :: rest => display item :: displayItems rest

/-- The members of a table as they are shown. -/
def displayMembers : List (String × Datum) → List String
  | [] => []
  | (name, value) :: rest => (quoted name ++ ": " ++ display value) :: displayMembers rest
end

/-- The value as a text of its own: a text is taken as it is, anything else as it is shown. -/
def asText : Datum → String
  | .text s => s
  | value => display value

/-- The name of the kind of a value, as complaints give it. -/
def kindName : Datum → String
  | .null => "NoneType"
  | .bool _ => "bool"
  | .int _ => "int"
  | .float _ => "float"
  | .text _ => "str"
  | .list _ => "list"
  | .table _ => "dict"
  | .moment .dateAndTime _ => "datetime"
  | .moment .date _ => "date"
  | .moment .time _ => "time"

end Datum

end LintBroker
