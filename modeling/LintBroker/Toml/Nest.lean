/-
  LintBroker.Toml.Nest

  Tables inside tables, as keys of several names open them, and the rules that keep
  a key from opening or changing what is already settled.
-/
import LintBroker.Toml.Lexeme

namespace LintBroker.Toml

/-! ## Nests -/

/-- Changes the table that a key leads to, making tables on the way.  With `enterLists` a list of
    tables on the way stands for its last table.  Any other value on the way is in the way. -/
def updateNest (enterLists : Bool) (members : Members) (key : Key)
    (change : Members → Option Members) : Option Members :=
  match key with
  | [] => change members
  | name :: rest =>
    match members.get? name with
    | none => (updateNest enterLists [] rest change).map fun t => members.put name (.table t)
    | some (.table t) =>
      (updateNest enterLists t rest change).map fun t => members.put name (.table t)
    | some (.list items) =>
      match enterLists, items.getLast? with
      | true, some (.table t) =>
        (updateNest enterLists t rest change).map fun t =>
          members.put name (.list (items.dropLast ++ [.table t]))
      | _, _ => none
    | some _ => none

/-- Adds a member that must not be there yet. -/
def addMember (name : String) (value : Datum) (members : Members) : Option Members :=
  match members.get? name with
  | none => some (members.put name value)
  | some _ => none

/-- Adds an empty table to a list of tables, which is made if it is not there. -/
def addTable (name : String) (members : Members) : Option Members :=
  match members.get? name with
  | none => some (members.put name (.list [.table []]))
  | some (.list items) => some (members.put name (.list (items ++ [.table []])))
  | some _ => none

/-- The names before the last one of a key. -/
def keyPath (key : Key) : Key := key.dropLast

/-- The last name of a key. -/
def keyName (key : Key) : String := key.getLast?.getD ""

/-! ## Settled keys -/

/-- What is settled about keys: tables that were opened by a header or a longer key and cannot be
    opened again, keys whose opening takes effect with the next header, and values that are complete
    with all that is in them. -/
structure Settled where
  opened : List Key := []
  pending : List Key := []
  complete : List Key := []

namespace Settled

/-- The table cannot be opened by a header any more. -/
def isOpened (s : Settled) (key : Key) : Bool := s.opened.contains key

/-- The key leads into a complete value. -/
def isComplete (s : Settled) (key : Key) : Bool := s.complete.any fun k => k.isPrefixOf key

/-- Marks a table as opened. -/
def open_ (s : Settled) (key : Key) : Settled := { s with opened := key :: s.opened }

/-- Marks a value as complete. -/
def close (s : Settled) (key : Key) : Settled := { s with complete := key :: s.complete }

/-- Forgets all about a key and what is below it. -/
def forget (s : Settled) (key : Key) : Settled :=
  { s with
    opened := s.opened.filter fun k => !key.isPrefixOf k
    complete := s.complete.filter fun k => !key.isPrefixOf k }

/-- Marks tables as opened from the next header on. -/
def postpone (s : Settled) (keys : List Key) : Settled := { s with pending := keys ++ s.pending }

/-- Lets the postponed marks take effect. -/
def atHeader (s : Settled) : Settled := { s with opened := s.pending ++ s.opened, pending := [] }

end Settled

end LintBroker.Toml
