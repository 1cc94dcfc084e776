/-
  LintBroker.Json.Printer

  JSON text of a decoded value, in ASCII alone: on one line, or with each item and
  member on a line of its own, indented by its depth.
-/
import LintBroker.Data.Datum
import LintBroker.Number.Shortest

namespace LintBroker.Json

open LintBroker.Number

/-! ## Texts -/

/-- A unit of sixteen bits as an escape. -/
def unitEscape (n : Nat) : List Char := '\\' :: 'u' :: hexChars 4 n

/-- One character of a JSON string.  Characters beyond the first plane take a pair of units. -/
def escapeChar (c : Char) : List Char :=
  let n := c.toNat
  if c = '"' then ['\\', '"']
  else if c = '\\' then ['\\', '\\']
  else if 0x20 ≤ n ∧ n ≤ 0x7e then [c]
  else if c = '\n' then ['\\', 'n']
  else if c = '\r' then ['\\', 'r']
  else if c = '\t' then ['\\', 't']
  else if n = 0x08 then ['\\', 'b']
  else if n = 0x0c then ['\\', 'f']
  else if n < 0x10000 then unitEscape n
  else unitEscape (0xd800 + (n - 0x10000) / 0x400) ++ unitEscape (0xdc00 + (n - 0x10000) % 0x400)

/-- A JSON string. -/
def stringChars (s : String) : List Char := '"' :: s.toList.flatMap escapeChar ++ ['"']

/-! ## Values -/

/-- Numbers are written like in messages, but the special ones have names of their own. -/
def numberLayout : FloatLayout :=
  { FloatLayout.plain with notANumber := "NaN", infinity := "Infinity" }

/-- Where the items of a list or table stand: one after the other on the same line, or each on a
    line of its own with so many blanks for each level. -/
inductive Layout where
  | inline
  | indented (width : Nat)
  deriving DecidableEq, Repr

/-- What stands before the first and after the last item at a depth. -/
def Layout.edge : Layout → Nat → List Char
  | .inline, _ => []
  | .indented width, depth => '\n' :: List.replicate (width * depth) ' '

/-- What stands between two items at a depth. -/
def Layout.between : Layout → Nat → List Char
  | .inline, _ => [',', ' ']
  | .indented width, depth => ',' :: Layout.edge (.indented width) depth

mutual
/-- The JSON text of a value that stands at a depth. -/
def valueChars (layout : Layout) (depth : Nat) : Datum → List Char
  | .null => "null".toList
  | .bool b => (if b then "true" else "false").toList
  | .int n => intChars n
  | .float x => numberLayout.chars x
  | .text s => stringChars s
  | .moment _ iso => stringChars iso
  | .list [] => ['[', ']']
  | .list (item :: rest) =>
    '[' :: layout.edge (depth + 1) ++ valueChars layout (depth + 1) item
      ++ restChars layout (depth + 1) rest ++ layout.edge depth ++ [']']
  | .table [] => ['\x7b', '\x7d']
  | .table ((name, value) :: rest) =>
    '\x7b' :: layout.edge (depth + 1) ++ stringChars name ++ [':', ' ']
      ++ valueChars layout (depth + 1) value ++ restMemberChars layout (depth + 1) rest
      ++ layout.edge depth ++ ['\x7d']

/-- The items after the first one of a list. -/
def restChars (layout : Layout) (depth : Nat) : List Datum → List Char
  | [] => []
  | item :: rest =>
    layout.between depth ++ valueChars layout depth item ++ restChars layout depth rest

/-- The members after the first one of a table. -/
def restMemberChars (layout : Layout) (depth : Nat) : List (String × Datum) → List Char
  | [] => []
  | (name, value) :: rest =>
    layout.between depth ++ stringChars name ++ [':', ' '] ++ valueChars layout depth value
      ++ restMemberChars layout depth rest
end

/-- The JSON text of a value on one line. -/
def inlineText (value : Datum) : String := String.ofList (valueChars .inline 0 value)

/-- The JSON text of a value with two blanks for each level. -/
def indentedText (value : Datum) : String := String.ofList (valueChars (.indented 2) 0 value)

end LintBroker.Json
