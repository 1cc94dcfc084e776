/-
  LintBroker.Shell.Field

  What words are expanded to.  Each octet keeps its origin, which tells whether it can
  separate fields and whether it has a meaning in patterns; from this the fields are cut,
  and those that are patterns are replaced by the names of files.
-/
import LintBroker.Files.Tree
import LintBroker.Shell.Pattern

namespace LintBroker.Shell

open LintBroker.Files LintBroker.Text

/-! ## Glyphs -/

/-- Where an octet comes from: the script itself, quotes, or the value of something. -/
inductive Origin where
  | plain
  | quoted
  | expanded
  deriving DecidableEq, Repr

/-- An octet with its origin, a cut between two fields, a mark that there is a field even if it is
    empty, or a mark that a value begins, which may be the list of all parameters in quotes. -/
inductive Glyph where
  | octet (c : Char) (origin : Origin)
  | cut
  | present
  | value (listed : Bool)
  deriving DecidableEq, Repr

namespace Glyph

/-- The octets of a text, all of one origin. -/
def ofText (origin : Origin) (cs : Octets) : List Glyph := cs.map fun c => .octet c origin

/-- A text that is a field of its own even if it is empty. -/
def ofQuoted (cs : Octets) : List Glyph := .present :: ofText .quoted cs

/-- A value, quoted or not. -/
def ofValue (quoted : Bool) (cs : Octets) : List Glyph :=
  if quoted then ofQuoted cs else .value false :: ofText .expanded cs

/-- What stands in the script itself counts as a value. -/
def asValue (glyph : Glyph) : Glyph :=
  match glyph with
  | .octet c .plain => .octet c .expanded
  | glyph => glyph

/-- The text of a single field; a cut becomes a blank. -/
def text (glyphs : List Glyph) : Octets :=
  glyphs.filterMap fun
    | .octet c _ => some c
    | .cut => some ' '
    | _ => none

/-- The octets with a mark whether they have a meaning in patterns. -/
def marked (glyphs : List Glyph) : Pattern.Marked :=
  glyphs.filterMap fun
    | .octet c origin => some (c, origin != .quoted)
    | .cut => some (' ', false)
    | _ => none

/-- The text of a value is the value. -/
theorem text_ofValue (quoted : Bool) (cs : Octets) : text (ofValue quoted cs) = cs := by
  have plain (origin : Origin) : text (ofText origin cs) = cs := by
    induction cs with
    | nil => rfl
    | cons c rest ih => simpa [text, ofText] using ih
  cases quoted
  · simpa [text, ofText, ofValue] using plain .expanded
  · simpa [text, ofText, ofValue, ofQuoted] using plain .quoted

end Glyph

/-! ## Fields -/

/-- A blank separator. -/
def isBlankSeparator (separators : Octets) (c : Char) : Bool :=
  separators.contains c && (c == ' ' || c == '\t' || c == '\n')

/-- What is known of the glyphs in front of some others. -/
structure FieldState where
  /-- The current field in reverse, if there is one. -/
  field : Option (List Glyph) := none
  /-- Blank separators have just ended a field, so that one other separator belongs to them. -/
  afterBlanks : Bool := false
  /-- The value that was begun last is the list of all parameters in quotes. -/
  listed : Bool := false
  /-- Each blank separator of the value that was begun last ends a field of its own; this is so
      behind the list of all parameters in quotes. -/
  single : Bool := false

/-- Ends the current field, which is there even if it is empty. -/
def FieldState.ended (s : FieldState) : List Glyph := (s.field.getD []).reverse

/-- The fields of some glyphs behind others. -/
def fieldsFrom (separators : Octets) (s : FieldState) : List Glyph → List (List Glyph)
  | [] => (s.field.map List.reverse).toList
  | .value listed :: rest => fieldsFrom separators { s with listed, single := s.listed } rest
  | .present :: rest =>
    fieldsFrom separators { s with field := some (s.field.getD []), afterBlanks := false } rest
  | .cut :: rest =>
    if s.single ∧ !s.afterBlanks then
      s.ended :: fieldsFrom separators { s with field := none } rest
    else
      match s.field with
      | some _ =>
        s.ended :: fieldsFrom separators { s with field := none, afterBlanks := true } rest
      | none => fieldsFrom separators s rest
  | .octet c origin :: rest =>
    if origin ≠ .expanded ∨ !separators.contains c then
      let field := some (.octet c origin :: s.field.getD [])
      fieldsFrom separators { s with field, afterBlanks := false } rest
    -- A row of blank separators ends one field, and none if there is no field yet.
    else if isBlankSeparator separators c ∧ !s.single then
      match s.field with
      | some _ =>
        s.ended :: fieldsFrom separators { s with field := none, afterBlanks := true } rest
      | none => fieldsFrom separators s rest
    -- This separator belongs to the blank ones in front of it.
    else if s.afterBlanks then fieldsFrom separators { s with afterBlanks := false } rest
    else s.ended :: fieldsFrom separators { s with field := none } rest

/-- The fields of some glyphs. -/
def fields (separators : Octets) (glyphs : List Glyph) : List (List Glyph) :=
  fieldsFrom separators {} glyphs

/-! ## Names of files -/

/-- The names in a directory, in ascending order; the directory itself and the one above it have
    names, too. -/
def namesIn (tree : Tree) (place : Place) : List Octets :=
  let names := (tree.namesIn place).map Octets.ofText
  (['.'] :: ['.', '.'] :: names).mergeSort Octets.atMost

/-- The pattern stands for the name of a file; names that begin with a dot are only meant by
    patterns that begin with one. -/
def meansName (pattern : Pattern) (name : Octets) : Bool :=
  (name.head? != some '.' || pattern.head? == some (.one '.')) && pattern.matchesAll name

/-- The parts of a marked path between its slashes. -/
def pathParts : Pattern.Marked → List Pattern.Marked
  | [] => [[]]
  | (c, active) :: rest =>
    if c = '/' then [] :: pathParts rest
    else
      match pathParts rest with
      | [] => [[(c, active)]]
      | part :: parts => ((c, active) :: part) :: parts

/-- The paths that the parts of a pattern stand for, below a directory; each begins with `front`. -/
def pathsBelow (tree : Tree) (place : Place) (front : Octets) : List Pattern.Marked → List Octets
  | [] => [front]
  | part :: rest =>
    let pattern := Pattern.read part
    let slash : Octets := if rest.isEmpty then [] else ['/']
    let enter (name : Octets) : List Octets :=
      match tree.step place (Octets.toText name) with
      | .ok next => pathsBelow tree next (front ++ name ++ slash) rest
      | .error _ => []
    if pattern.isPlain then enter (part.map (·.1))
    else ((namesIn tree place).filter (meansName pattern)).flatMap enter

/-- The names of files that a field stands for, or its text if there are none. -/
def namesFor (tree : Tree) (directory : Place) (field : List Glyph) : List Octets :=
  let marked := Glyph.marked field
  if (Pattern.read marked).isPlain then [Glyph.text field]
  else
    let found := match pathParts marked with
      | [] :: rest => pathsBelow tree [] ['/'] rest
      | parts => pathsBelow tree directory [] parts
    if found.isEmpty then [Glyph.text field] else found

end LintBroker.Shell
