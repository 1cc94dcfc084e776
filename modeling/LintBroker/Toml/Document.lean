/-
  LintBroker.Toml.Document

  Reading a TOML document: values with their arrays and inline tables, the statements
  of a document line by line, and the table that they build.
-/
import LintBroker.Toml.Nest
import LintBroker.Toml.Scalar

namespace LintBroker.Toml

/-! ## Values -/

/-- A value that is complete in itself: nothing can be added to it later. -/
def isNested : Datum → Bool
  | .list _ => true
  | .table _ => true
  | _ => false

mutual
/-- A value at the start of the text; `fuel` bounds the nesting and the count of items. -/
def value : Nat → List Char → Step Datum
  | 0, _ => .error .malformed
  | fuel + 1, cs =>
    match cs with
    | '"' :: '"' :: '"' :: rest => (basicLines rest).map fun p => (.text (String.ofList p.1), p.2)
    | '"' :: rest => (basicString rest).map fun p => (.text (String.ofList p.1), p.2)
    | '\'' :: '\'' :: '\'' :: rest =>
      (literalLines rest).map fun p => (.text (String.ofList p.1), p.2)
    | '\'' :: rest => (literalString rest).map fun p => (.text (String.ofList p.1), p.2)
    | 't' :: 'r' :: 'u' :: 'e' :: rest => .ok (.bool true, rest)
    | 'f' :: 'a' :: 'l' :: 's' :: 'e' :: rest => .ok (.bool false, rest)
    | '[' :: rest =>
      match skipGaps rest.length rest with
      | .error fault => .error fault
      | .ok rest => (items fuel rest).map fun p => (.list p.1, p.2)
    | '\x7b' :: rest =>
      match skipBlanks rest with
      | '\x7d' :: rest => .ok (.table [], rest)
      | rest => (inlineMembers fuel [] {} rest).map fun p => (.table p.1, p.2)
    | cs => scalar cs

/-- The items of an array up to its closing bracket; a comma may follow the last one. -/
def items : Nat → List Char → Step (List Datum)
  | 0, _ => .error .malformed
  | fuel + 1, cs =>
    match cs with
    -- This is the end behind a comma as well as that of an empty array.
    | ']' :: rest => .ok ([], rest)
    | cs =>
      match value fuel cs with
      | .error fault => .error fault
      | .ok (item, rest) =>
        match skipGaps rest.length rest with
        | .error fault => .error fault
        | .ok (']' :: rest) => .ok ([item], rest)
        | .ok (',' :: rest) =>
          match skipGaps rest.length rest with
          | .error fault => .error fault
          | .ok rest => (items fuel rest).map fun p => (item :: p.1, p.2)
        | .ok _ => .error .malformed

/-- The members of an inline table up to its closing brace, added to those before. -/
def inlineMembers : Nat → Members → Settled → List Char → Step Members
  | 0, _, _, _ => .error .malformed
  | fuel + 1, members, settled, cs =>
    match keyValue fuel cs with
    | .error fault => .error fault
    | .ok ((key, v), rest) =>
      if settled.isComplete key then .error .malformed
      else
        match updateNest false members (keyPath key) (addMember (keyName key) v) with
        | none => .error .malformed
        | some members =>
          match skipBlanks rest with
          | '\x7d' :: rest => .ok (members, rest)
          | ',' :: rest =>
            -- A nested value takes no more members from the keys behind it.
            let settled := if isNested v then settled.close key else settled
            inlineMembers fuel members settled (skipBlanks rest)
          | _ => .error .malformed

/-- A key with its value. -/
def keyValue : Nat → List Char → Step (Key × Datum)
  | 0, _ => .error .malformed
  | fuel + 1, cs =>
    match key cs with
    | .error fault => .error fault
    | .ok (k, '=' :: rest) => (value fuel (skipBlanks rest)).map fun p => ((k, p.1), p.2)
    | .ok _ => .error .malformed
end

/-! ## Statements -/

/-- What the statements so far have built, and the table that the next ones add to. -/
structure Draft where
  members : Members := []
  settled : Settled := {}
  header : Key := []

namespace Draft

/-- Opens the table of a header. -/
def openTable (draft : Draft) (key : Key) : Option Draft :=
  if draft.settled.isOpened key || draft.settled.isComplete key then none
  else
    (updateNest true draft.members key some).map fun members =>
      { members, settled := draft.settled.open_ key, header := key }

/-- Opens a new table in the list of a header. -/
def openListItem (draft : Draft) (key : Key) : Option Draft :=
  if draft.settled.isComplete key then none
  else
    (updateNest true draft.members (keyPath key) (addTable (keyName key))).map fun members =>
      -- The new table is empty: what was settled about the one before does not count.
      { members, settled := (draft.settled.forget key).open_ key, header := key }

/-- The tables on the way to a member, from the one of the header on. -/
def tablesOnWay (header key : Key) : List Key :=
  (List.range (key.length - 1)).map fun n => header ++ key.take (n + 1)

/-- Adds a member to the table of the last header. -/
def add (draft : Draft) (key : Key) (v : Datum) : Option Draft :=
  let way := tablesOnWay draft.header key
  let path := draft.header ++ keyPath key
  -- A table that has a header of its own is not changed from another one.
  if way.any draft.settled.isOpened || draft.settled.isComplete path then none
  else
    (updateNest true draft.members path (addMember (keyName key) v)).map fun members =>
      let settled := draft.settled.postpone way
      { draft with
        members
        settled := if isNested v then settled.close (draft.header ++ key) else settled }

end Draft

/-- A draft, or a malformed document. -/
def orMalformed (draft : Option Draft) (rest : List Char) : Step Draft :=
  match draft with
  | some draft => .ok (draft, rest)
  | none => .error .malformed

/-- The header of a table or of a list of tables, after its first bracket. -/
def header (draft : Draft) (cs : List Char) : Step Draft :=
  let draft := { draft with settled := draft.settled.atHeader }
  match cs with
  | '[' :: rest =>
    match key (skipBlanks rest) with
    | .error fault => .error fault
    | .ok (k, ']' :: ']' :: rest) => orMalformed (draft.openListItem k) rest
    | .ok _ => .error .malformed
  | rest =>
    match key (skipBlanks rest) with
    | .error fault => .error fault
    | .ok (k, ']' :: rest) => orMalformed (draft.openTable k) rest
    | .ok _ => .error .malformed

/-- A statement at the start of a line; nothing and a comment are statements that do nothing. -/
def statement (fuel : Nat) (draft : Draft) (cs : List Char) : Step Draft :=
  match cs with
  | [] => .ok (draft, [])
  | '\n' :: rest => .ok (draft, '\n' :: rest)
  | '#' :: rest => .ok (draft, '#' :: rest)
  | '[' :: rest => header draft rest
  | c :: rest =>
    if isBareKeyChar c || c == '"' || c == '\'' then
      match keyValue fuel (c :: rest) with
      | .error fault => .error fault
      | .ok ((k, v), rest) => orMalformed (draft.add k v) rest
    else .error .malformed

/-- All statements; `fuel` bounds their number. -/
def statements : Nat → Draft → List Char → Except Fault Members
  | 0, _, _ => .error .malformed
  | fuel + 1, draft, cs =>
    match statement (cs.length + 2) draft (skipBlanks cs) with
    | .error fault => .error fault
    | .ok (draft, rest) =>
      match skipComment (skipBlanks rest) with
      | .error fault => .error fault
      | .ok [] => .ok draft.members
      | .ok ('\n' :: rest) => statements fuel draft rest
      | .ok _ => .error .malformed

/-- The table that a document writes. -/
def read (cs : List Char) : Except Fault Members := statements (cs.length + 1) {} cs

end LintBroker.Toml
