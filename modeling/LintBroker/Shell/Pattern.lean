/-
  LintBroker.Shell.Pattern

  Patterns for texts: a star stands for any text, a question mark for any octet, and
  brackets for one octet of a set.
-/
import LintBroker.Text.Octets

namespace LintBroker.Shell

open LintBroker.Text

/-! ## Patterns -/

/-- A member of a set of octets. -/
inductive Member where
  | range (first last : Char)
  | named (name : Octets)
  deriving DecidableEq, Repr

/-- An element of a pattern. -/
inductive Element where
  | one (c : Char)
  | anyOne
  | anyRun
  | oneOf (negated : Bool) (members : List Member)
  deriving DecidableEq, Repr

/-- A pattern as its elements from left to right. -/
abbrev Pattern := List Element

/-- The sets of octets that have names. -/
def namedSets : List (String × (Char → Bool)) :=
  let punctuation (c : Char) := '!' ≤ c && c ≤ '~' && !c.isAlphanum
  [("alpha", Char.isAlpha), ("digit", Char.isDigit), ("alnum", Char.isAlphanum),
    ("upper", Char.isUpper), ("lower", Char.isLower),
    ("space", fun c => c == ' ' || ('\t' ≤ c && c ≤ '\r')),
    ("blank", fun c => c == ' ' || c == '\t'),
    ("punct", punctuation), ("print", fun c => ' ' ≤ c && c ≤ '~'),
    ("graph", fun c => '!' ≤ c && c ≤ '~'), ("cntrl", fun c => c < ' ' || c == '\x7f'),
    ("xdigit", fun c => c.isDigit || ('a' ≤ c && c ≤ 'f') || ('A' ≤ c && c ≤ 'F'))]

/-- An octet is in a member of a set. -/
def Member.admits (m : Member) (c : Char) : Bool :=
  match m with
  | .range first last => first ≤ c && c ≤ last
  | .named name => ((namedSets.lookup (String.ofList name)).map (· c)).getD false

/-- An element stands for this octet. -/
def Element.admits (e : Element) (c : Char) : Bool :=
  match e with
  | .one d => c == d
  | .anyOne => true
  | .anyRun => false
  | .oneOf negated members => members.any (·.admits c) != negated

namespace Pattern

/-! ## Reading -/

/-- Characters with a mark whether they have a meaning in patterns. -/
abbrev Marked := List (Char × Bool)

/-- The name of a set in brackets and colons, and what follows it. -/
def setName? (cs : Marked) : Option (Octets × Marked) :=
  match cs with
  | (':', true) :: rest =>
    let name := rest.takeWhile fun p => p.1 != ':' && p.1 != ']'
    match rest.drop name.length with
    | (':', _) :: (']', _) :: after => some (name.map (·.1), after)
    | _ => none
  | _ => none

/-- The members of a set up to the bracket that closes it, and what follows it. -/
def members : Nat → Bool → Marked → Option (List Member × Marked)
  | 0, _, _ => none
  | _, _, [] => none
  | fuel + 1, first, (c, active) :: rest =>
    let single (c : Char) (rest : Marked) : Option (List Member × Marked) :=
      match rest with
      | ('-', true) :: (d, a) :: after =>
        if d = ']' ∧ a then more fuel (.range c c) rest else more fuel (.range c d) after
      | _ => more fuel (.range c c) rest
    if c = ']' ∧ active ∧ !first then some ([], rest)
    else if c = '[' ∧ active then
      match setName? rest with
      | some (name, after) => more fuel (.named name) after
      | none => single c rest
    else if c = '\\' ∧ active then
      match rest with
      | (d, _) :: after => single d after
      | [] => none
    else single c rest
where
  more (fuel : Nat) (m : Member) (rest : Marked) : Option (List Member × Marked) :=
    (members fuel false rest).map fun (ms, after) => (m :: ms, after)

/-- The pattern that marked characters write.  A bracket that is not closed stands for itself. -/
def ofMarked : Nat → Marked → Pattern
  | 0, _ => []
  | _, [] => []
  | fuel + 1, (c, active) :: rest =>
    if !active then .one c :: ofMarked fuel rest
    else if c = '*' then .anyRun :: ofMarked fuel rest
    else if c = '?' then .anyOne :: ofMarked fuel rest
    else if c = '\\' then
      match rest with
      | (d, _) :: after => .one d :: ofMarked fuel after
      | [] => [.one c]
    else if c = '[' then
      let (negated, inside) := match rest with
        | ('!', true) :: inside => (true, inside)
        | _ => (false, rest)
      match members inside.length true inside with
      | some (ms, after) => .oneOf negated ms :: ofMarked fuel after
      | none => .one c :: ofMarked fuel rest
    else .one c :: ofMarked fuel rest

/-- The pattern of marked characters. -/
def read (cs : Marked) : Pattern := ofMarked cs.length cs

/-- The pattern stands for one text only. -/
def isPlain (pattern : Pattern) : Bool :=
  pattern.all fun
    | .one _ => true
    | _ => false

/-! ## Matching -/

/-- A text with every way to take something from its front. -/
def ends : Octets → List Octets
  | [] => [[]]
  | c :: rest => (c :: rest) :: ends rest

/-- The pattern stands for this text, as a whole. -/
def matchesAll : Pattern → Octets → Bool
  | [], cs => cs.isEmpty
  | .anyRun :: rest, cs => (ends cs).any fun tail => matchesAll rest tail
  | e :: rest, c :: cs => e.admits c && matchesAll rest cs
  | _ :: _, [] => false

/-- A pattern of single octets stands for the text of these. -/
theorem matchesAll_plain (cs : Octets) : matchesAll (cs.map .one) cs = true := by
  induction cs with
  | nil => rfl
  | cons c rest ih => simp [matchesAll, Element.admits, ih]

/-- The lengths of the beginnings of a text that a pattern stands for, in ascending order. -/
def beginnings (pattern : Pattern) (cs : Octets) : List Nat :=
  (List.range (cs.length + 1)).filter fun n => matchesAll pattern (cs.take n)

/-- The text without its shortest or longest beginning that the pattern stands for. -/
def trimStart (pattern : Pattern) (longest : Bool) (cs : Octets) : Octets :=
  let found := beginnings pattern cs
  match if longest then found.getLast? else found.head? with
  | some n => cs.drop n
  | none => cs

/-- The text without its shortest or longest end that the pattern stands for. -/
def trimEnd (pattern : Pattern) (longest : Bool) (cs : Octets) : Octets :=
  let found := (List.range (cs.length + 1)).filter fun n => matchesAll pattern (cs.drop n)
  match if longest then found.head? else found.getLast? with
  | some n => cs.take n
  | none => cs

end Pattern

end LintBroker.Shell
