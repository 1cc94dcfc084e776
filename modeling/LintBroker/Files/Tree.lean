/-
  LintBroker.Files.Tree

  A file system given by its entries: each directory, file, program and device under
  its place, the list of names from the root.  A path is walked name by name as the operating
  system does it, so a path through a file, a missing name and a name that is too long
  are told apart.
-/
import LintBroker.Files.Disk

namespace LintBroker.Files

open LintBroker.Text

/-! ## Entries -/

/-- Where an entry is: the names from the root down to it. -/
abbrev Place := List String

/-- A device: one that is always empty, one that is always full, or the terminal, which is not
    there. -/
inductive Device where
  | empty
  | full
  | terminal
  deriving DecidableEq, Repr

/-- What is at a place.  A program is one of the system, known by its name. -/
inductive Entry where
  | directory
  | file (bytes : List UInt8) (executable : Bool)
  | program (name : String)
  | device (device : Device)
  deriving DecidableEq

/-- The kind of an entry. -/
def Entry.kind : Entry → FileKind
  | .directory => .directory
  | .file _ _ => .regular
  | .program _ => .regular
  | .device _ => .other

/-- The bytes with which programs of the system begin. -/
def programBytes : List UInt8 := [0x7f, 0x45, 0x4c, 0x46]

/-- All entries by place; the root is a directory that needs no entry. -/
abbrev Tree := List (Place × Entry)

namespace Tree

/-- The entry at a place. -/
def entry? (tree : Tree) : Place → Option Entry
  | [] => some .directory
  | place => tree.lookup place

/-- Puts an entry at a place, in the stead of what is there. -/
def put (tree : Tree) (place : Place) (entry : Entry) : Tree :=
  match tree with
  | [] => [(place, entry)]
  | (p, e) :: rest => if p = place then (place, entry) :: rest else (p, e) :: put rest place entry

/-- Takes away the entry at a place. -/
def erase (tree : Tree) (place : Place) : Tree := tree.filter fun p => p.1 != place

/-- The names in a directory, in the order of their octets. -/
def namesIn (tree : Tree) (place : Place) : List String :=
  let names := tree.filterMap fun p =>
    if p.1 ≠ [] ∧ p.1.dropLast = place then p.1.getLast? else none
  names.mergeSort fun x y => x ≤ y

/-- The entries at a place and below it, those above others first. -/
def within (tree : Tree) (place : Place) : Tree :=
  (tree.filter fun p => place.isPrefixOf p.1).mergeSort fun x y => x.1.length ≤ y.1.length

/-- Makes every directory on the way to a place that is not there yet. -/
def withParents (tree : Tree) (place : Place) : Tree :=
  (List.range place.length).foldl (fun tree n =>
    let above := place.take n
    match tree.entry? above with
    | none => tree.put above .directory
    | some _ => tree) tree

/-- Makes a directory and those above it. -/
def withDirectory (tree : Tree) (place : Place) : Tree :=
  match tree.entry? place with
  | some _ => tree
  | none => (tree.withParents place).put place .directory

/-- Puts a file at a place and makes the directories above it. -/
def withFile (tree : Tree) (place : Place) (bytes : List UInt8) (executable : Bool) : Tree :=
  (tree.withParents place).put place (.file bytes executable)

/-! ## Walking paths -/

/-- The longest name in a directory, in bytes. -/
def nameLimit : Nat := 255

/-- The longest path, in bytes. -/
def pathLimit : Nat := 4095

/-- One step of a walk from a place that was reached. -/
def step (tree : Tree) (place : Place) (name : String) : Except SystemError Place :=
  if tree.entry? place ≠ some .directory then .error .notDirectory
  else if name = "" ∨ name = "." then .ok place
  -- The root is above itself.
  else if name = ".." then .ok place.dropLast
  else if nameLimit < name.utf8ByteSize then .error .nameTooLong
  else
    match tree.entry? (place ++ [name]) with
    | some _ => .ok (place ++ [name])
    | none => .error .noEntry

/-- The place that a walk through names leads to. -/
def walk (tree : Tree) (place : Place) : List String → Except SystemError Place
  | [] => .ok place
  | name :: rest =>
    match tree.step place name with
    | .error e => .error e
    | .ok next => walk tree next rest

/-- The names of an absolute path. -/
def placeOf (path : String) : Place := (pathPieces path.toList).map String.ofList

/-- The names that a path text is walked through: empty ones stand for the directory reached. -/
def namesOf (path : String) : List String := (splitAt '/' path.toList).map String.ofList

/-- The place of an existing entry for a path text as seen from a directory.  A slash at the end
    asks for a directory. -/
def resolve (tree : Tree) (directory : Place) (path : String) : Except SystemError Place :=
  if path = "" then .error .noEntry
  else if pathLimit < path.utf8ByteSize then .error .nameTooLong
  else tree.walk (if isAbsolute path then [] else directory) (namesOf path)

/-- The entry for a path text as seen from a directory. -/
def find (tree : Tree) (directory : Place) (path : String) : Except SystemError Entry :=
  match tree.resolve directory path with
  | .error e => .error e
  | .ok place =>
    match tree.entry? place with
    | some entry => .ok entry
    | none => .error .noEntry

/-- The place where a path text would create a file: its directory has to be there. -/
def creationPlace (tree : Tree) (directory : Place) (path : String) : Except SystemError Place :=
  match tree.resolve directory path with
  | .ok place => .ok place
  | .error e =>
    if e ≠ .noEntry ∨ path = "" then .error e
    else
      let names := namesOf path
      let name := names.getLast?.getD ""
      match tree.walk (if isAbsolute path then [] else directory) names.dropLast with
      | .error e => .error e
      | .ok above =>
        -- A slash at the end asks for a directory, which is not made.
        if name = "" then .error .isDirectory
        else if tree.entry? above ≠ some .directory then .error .notDirectory
        else .ok (above ++ [name])

/-- Whether the file at a path text can be opened for appending, which makes it if it is not
    there. -/
def tryAppend (tree : Tree) (directory : Place) (path : String) : Except Failure Unit :=
  if Disk.hasNul path then .error nulInText
  else
    match tree.creationPlace directory path with
    | .error e => .error (.system e (some path))
    | .ok place =>
      if tree.entry? place = some .directory then .error (.system .isDirectory (some path))
      else .ok ()

/-! ## The tree as a file system -/

/-- The answers of a tree as seen from a directory. -/
def disk (tree : Tree) (directory : Place) : Disk where
  kind path := (tree.find directory path).map Entry.kind
  bytes path :=
    match tree.find directory path with
    | .error e => .error e
    | .ok .directory => .error .isDirectory
    | .ok (.file bytes _) => .ok bytes
    | .ok (.program _) => .ok programBytes
    | .ok (.device _) => .ok []
  executable path :=
    match tree.find directory path with
    | .ok .directory => true
    | .ok (.file _ executable) => executable
    | .ok (.program _) => true
    | _ => false
  workingDirectory := "/" ++ "/".intercalate directory

end Tree

end LintBroker.Files
