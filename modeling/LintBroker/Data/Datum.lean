/-
  LintBroker.Data.Datum

  Decoded values: what a JSON report, a configuration document or the arguments of
  a tool can hold.  Tables keep their members in the order of their first mention.
-/
import LintBroker.Number.Binary64

namespace LintBroker

open LintBroker.Number

/-- What a point in time is given by. -/
inductive MomentKind where
  | dateAndTime
  | date
  | time
  deriving DecidableEq, Repr

/-- A decoded value. -/
inductive Datum where
  | null
  | bool (b : Bool)
  | int (n : Int)
  | float (x : Binary64)
  | text (s : String)
  | list (items : List Datum)
  | table (members : List (String × Datum))
  /-- A date, a time or both, with its text in the international form. -/
  | moment (kind : MomentKind) (iso : String)

/-- The members of a table: names with their values. -/
abbrev Members := List (String × Datum)

namespace Members

/-- The value of a member. -/
def get? (members : Members) (name : String) : Option Datum := members.lookup name

/-- The value of a member, which counts as null when it is missing. -/
def get (members : Members) (name : String) : Datum := (members.get? name).getD .null

/-- Gives a member a value: a known member keeps its place, a new one comes last. -/
def put (members : Members) (name : String) (value : Datum) : Members :=
  match members with
  | [] => [(name, value)]
  | (n, v) :: rest => if n = name then (n, value) :: rest else (n, v) :: put rest name value

/-- The table of pairs in the order written: a repeated name keeps its first place and its last
    value. -/
def ofPairs (pairs : List (String × Datum)) : Members :=
  pairs.foldl (fun members p => put members p.1 p.2) []

end Members

namespace Datum

/-- The members of a table. -/
def table? : Datum → Option Members
  | .table members => some members
  | _ => none

/-- The items of a list. -/
def list? : Datum → Option (List Datum)
  | .list items => some items
  | _ => none

/-- The text of a text value. -/
def text? : Datum → Option String
  | .text s => some s
  | _ => none

/-- Empty, zero, false and null values count as false, all others as true. -/
def truthy : Datum → Bool
  | .null => false
  | .bool b => b
  | .int n => n != 0
  | .float (.finite _ m) => m.mantissa != 0
  | .float _ => true
  | .text s => s != ""
  | .list items => !items.isEmpty
  | .table members => !members.isEmpty
  | .moment _ _ => true

/-- The value equals an integer; truth values count as one and zero. -/
def equalsInt (value : Datum) (n : Int) : Bool :=
  match value with
  | .bool b => n == if b then 1 else 0
  | .int m => m == n
  | .float x => x.equalsInt n
  | _ => false

end Datum

end LintBroker
