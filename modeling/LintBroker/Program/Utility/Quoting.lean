/-
  LintBroker.Program.Utility.Quoting

  Texts of others in the complaints of utilities: between quotes with all that cannot be
  shown escaped, or in a form that a shell would read back.
-/
import LintBroker.Text.Octets
import LintBroker.Text.Printable

namespace LintBroker.Program.Utility

open LintBroker.Number LintBroker.Text

/-! ## Characters -/

/-- The letters that stand for characters behind a backslash. -/
def shownEscapes : List (Char × Char) :=
  [('\x07', 'a'), ('\x08', 'b'), ('\x0c', 'f'), ('\n', 'n'), ('\r', 'r'), ('\t', 't'),
    ('\x0b', 'v')]

/-- An octet as a backslash with three digits of base eight. -/
def octalEscape (c : Char) : Octets := '\\' :: padZeros 3 (Nat.toDigits 8 c.toNat)

/-- A piece of a text that is shown as a unit: a character with its octets, or an octet that belongs
    to none. -/
structure Shown where
  octets : Octets
  character : Option Char

/-- The units of a text. -/
def shownUnits (cs : Octets) : List Shown :=
  (Utf8.pieces (Octets.toBytes cs)).flatMap fun
    | .scalar c => [⟨Octets.ofBytes (Utf8.encodeChar c), some c⟩]
    | .broken bytes _ => (Octets.ofBytes bytes).map fun c => ⟨[c], none⟩

/-- The unit can be shown as it is. -/
def Shown.isPlain (unit : Shown) : Bool := unit.character.any isPrintable

/-- The unit with all that cannot be shown escaped. -/
def Shown.escaped (unit : Shown) : Octets :=
  if unit.isPlain then unit.octets
  else
    match unit.octets with
    | [c] => ((shownEscapes.lookup c).map fun d => ['\\', d]).getD (octalEscape c)
    | cs => cs.flatMap octalEscape

/-! ## Quotes -/

/-- A text between curved quotes. -/
def quoted (cs : Octets) : Octets :=
  let shown := (shownUnits cs).flatMap fun unit =>
    if unit.character = some '\\' then ['\\', '\\']
    else if unit.character = some '’' then '\\' :: unit.octets
    else unit.escaped
  Octets.ofText "‘" ++ shown ++ Octets.ofText "’"

/-- A text between double quotes. -/
def doubleQuoted (cs : Octets) : Octets :=
  let shown := (shownUnits cs).flatMap fun unit =>
    if unit.character = some '\\' ∨ unit.character = some '"' then '\\' :: unit.octets
    else unit.escaped
  '"' :: shown ++ ['"']

/-! ## Words of a shell -/

/-- The unit at this place of a text has no meaning that double quotes would leave to it. -/
def Shown.isHarmless (unit : Shown) (place : Nat) : Bool :=
  match unit.character with
  | some c =>
    isPrintable c && !"\\\x7b\x7d!\"$&()*;<=>[^`|?".toList.contains c
      && (place == 0 || (c != '#' && c != '~'))
  | none => false

/-- The unit has a meaning in a script, at the place where it is in a text of this length. -/
def Shown.needsQuotes (unit : Shown) (place length : Nat) : Bool :=
  match unit.character with
  | none => true
  | some c =>
    !isPrintable c || "\\ !\"$&()*;<=>[^`|?'".toList.contains c
      || ((c == '\x7b' || c == '\x7d') && length == 1)
      || ((c == '#' || c == '~') && place == 0)

/-- The text between single quotes for some units; what cannot be shown has quotes of its own, which
    may be open. -/
def singleQuotedFrom (opened : Bool) : List Shown → Octets
  | [] => []
  | unit :: rest =>
    if !unit.isPlain then
      (if opened then [] else "'$'".toList) ++ unit.escaped ++ singleQuotedFrom true rest
    else if unit.character = some '\'' then "'\\''".toList ++ singleQuotedFrom false rest
    else (if opened then "''".toList else []) ++ unit.octets ++ singleQuotedFrom false rest

/-- A text in single quotes. -/
def singleQuoted (cs : Octets) : Octets := '\'' :: singleQuotedFrom false (shownUnits cs) ++ ['\'']

/-- A text as a word that is always in quotes. -/
def inQuotes (cs : Octets) : Octets :=
  let harmless := (shownUnits cs).zipIdx.all fun (unit, place) => unit.isHarmless place
  if cs.contains '\'' && harmless then doubleQuoted cs else singleQuoted cs

/-- A text as a word that is in quotes only if it has to be. -/
def asWord (cs : Octets) : Octets :=
  let units := shownUnits cs
  let needed := units.zipIdx.any fun (unit, place) => unit.needsQuotes place cs.length
  if cs = [] ∨ needed then inQuotes cs else cs

end LintBroker.Program.Utility
