/-
  LintBroker.Files.Path

  Path texts.  A normalized path has no empty and no single-dot pieces; pieces that
  lead upwards stay.  Two leading slashes are kept apart from one, more count as one.
-/
import LintBroker.Text.Split

namespace LintBroker.Files

open LintBroker.Text

/-! ## Pieces -/

/-- The pieces of a path without the empty ones and the single dots. -/
def pathPieces (cs : List Char) : List (List Char) :=
  (splitAt '/' cs).filter fun piece => piece ≠ [] ∧ piece ≠ ['.']

/-- What a path begins with: nothing, the root, or the root written with two slashes. -/
def pathAnchor : List Char → List Char
  | '/' :: '/' :: '/' :: _ => ['/']
  | '/' :: '/' :: _ => ['/', '/']
  | '/' :: _ => ['/']
  | _ => []

/-- Pieces with a slash between each two. -/
def joinPieces (pieces : List (List Char)) : List Char := List.intercalate ['/'] pieces

/-- The normalized form of a path; a path without pieces is the root or the single dot. -/
def normalizeChars (cs : List Char) : List Char :=
  match pathAnchor cs ++ joinPieces (pathPieces cs) with
  | [] => ['.']
  | out => out

/-- The normalized form of a path text. -/
def normalize (path : String) : String := String.ofList (normalizeChars path.toList)

/-! ## Names and suffixes -/

/-- The last piece of a path, empty when it has none. -/
def nameChars (cs : List Char) : List Char := (pathPieces cs).getLast?.getD []

/-- The last piece of a path text. -/
def baseName (path : String) : String := String.ofList (nameChars path.toList)

/-- The end of a name from its last dot on, unless that dot is its first or last character. -/
def nameSuffix (name : List Char) : List Char :=
  let after := (name.reverse.takeWhile (· != '.')).reverse
  let stem := name.length - after.length - 1
  if after.length < name.length ∧ 0 < stem ∧ after ≠ [] then '.' :: after else []

/-- The suffix of the last piece of a path. -/
def suffixChars (cs : List Char) : List Char := nameSuffix (nameChars cs)

/-! ## Building paths -/

/-- A path text behind another one; a slash comes between them where there is none. -/
def behind (front path : List Char) : List Char :=
  if front = [] ∨ front.getLast? = some '/' then front ++ path else front ++ '/' :: path

/-- A normalized path below another one. -/
def below (directory : String) (name : String) : String :=
  String.ofList (normalizeChars (behind directory.toList name.toList))

/-- The normalized path of the directory that a path text lies in.  The root and the single dot lie
    in themselves. -/
def parent (path : String) : String :=
  let cs := path.toList
  normalize (String.ofList (pathAnchor cs ++ joinPieces (pathPieces cs).dropLast))

/-- A path text starts at the root. -/
def isAbsolute (path : String) : Bool :=
  match path.toList with
  | '/' :: _ => true
  | _ => false

/-- Pieces in which every step upwards is taken, as far as there is something above. -/
def withoutSteps (pieces : List (List Char)) : List (List Char) :=
  pieces.foldl (fun out piece => if piece = ['.', '.'] then out.dropLast else out ++ [piece]) []

/-- The absolute form of a path text as seen from a directory, without steps upwards. -/
def absolute (directory path : String) : String :=
  let full := if isAbsolute path then path.toList else behind directory.toList path.toList
  String.ofList (pathAnchor full ++ joinPieces (withoutSteps (pathPieces full)))

/-- An absolute path with all directories above it, the nearest first, the root last. -/
def ancestors (path : String) : List String :=
  let pieces := pathPieces path.toList
  (List.range (pieces.length + 1)).map fun n =>
    String.ofList ('/' :: joinPieces (pieces.take (pieces.length - n)))

end LintBroker.Files
