/-
  LintBroker.Program.Utility.Letters

  The utility that replaces, deletes and joins octets.  Sets of octets are written with
  backslashes, ranges, classes and repeats.
-/
import LintBroker.Program.Utility.Echo
import LintBroker.Program.Utility.Names

namespace LintBroker.Program.Utility

open LintBroker.Files LintBroker.Number LintBroker.Text

/-! ## Sets -/

/-- A part of a set: a row of octets, a class of letters of one case, or an octet that is repeated,
    as often as needed if the count is missing. -/
inductive SetPart where
  | row (cs : Octets)
  | lower
  | upper
  | repeats (c : Char) (count : Option Nat)
  deriving DecidableEq, Repr

/-- All octets. -/
def allOctets : Octets := (List.range 256).map Char.ofNat

/-- The octets of a class. -/
def octetClass? (name : Octets) : Option (Char → Bool) :=
  [("alnum", Char.isAlphanum), ("alpha", Char.isAlpha),
    ("blank", fun c : Char => c == ' ' || c == '\t'),
    ("cntrl", fun c => c.toNat < 0x20 || c.toNat == 0x7f), ("digit", Char.isDigit),
    ("graph", fun c => 0x20 < c.toNat && c.toNat < 0x7f), ("lower", Char.isLower),
    ("print", fun c => 0x20 ≤ c.toNat && c.toNat < 0x7f),
    ("punct", fun c => 0x20 < c.toNat && c.toNat < 0x7f && !c.isAlphanum),
    ("space", isSpace), ("upper", Char.isUpper), ("xdigit", isDigitOf 16)].lookup
    (String.ofList name)

/-- The text with its backslashes replaced; each octet has a mark whether it was behind one. -/
def unescapedSet : Nat → Octets → List (Char × Bool)
  | 0, _ => []
  | _, [] => []
  | fuel + 1, '\\' :: c :: rest =>
    if isOctalDigit c then
      let (digits, after) := leadingDigits isOctalDigit 3 (c :: rest)
      let (digits, after) :=
        -- A third digit that leads beyond the last octet stands for itself.
        if 255 < digitsValue 8 digits then (digits.take 2, digits.drop 2 ++ after)
        else (digits, after)
      (octetOf 8 digits, true) :: unescapedSet fuel after
    else
      let octet := if c = 'e' then c else (backslashLetters.lookup c).getD c
      (octet, true) :: unescapedSet fuel rest
  | fuel + 1, c :: rest => (c, false) :: unescapedSet fuel rest

/-- An octet in a complaint. -/
def shownOctet (c : Char) : Octets := (Shown.mk [c] (some c)).escaped

/-- A part in brackets at the front of a set, and how much of the set it takes. -/
def bracketPart? (cs : List (Char × Bool)) : Task (Option (SetPart × Nat)) := do
  match cs with
  | ('[', false) :: (mark, false) :: rest =>
    if mark = ':' ∨ mark = '=' then
      let inner := rest.zipIdx.find? fun (p, i) =>
        p == (mark, false) && rest[i + 1]? == some (']', false)
      match inner with
      | none => return none
      | some (_, n) =>
        let name := (rest.take n).map (·.1)
        if mark = ':' then
          if name = [] then fail "missing character class name '[::]'".toList
          if name = "lower".toList then return some (.lower, n + 4)
          else if name = "upper".toList then return some (.upper, n + 4)
          else
            match octetClass? name with
            | some test => return some (.row (allOctets.filter test), n + 4)
            | none => fail ("invalid character class ".toList ++ quoted name)
        else
          match name with
          | [c] => return some (.row [c], n + 4)
          | [] => fail "missing equivalence class character '[==]'".toList
          | _ => fail (name ++ ": equivalence class operand must be a single character".toList)
    else return repeatPart (mark, false) rest
  | ('[', false) :: c :: rest => return repeatPart c rest
  | _ => return none
where
  /-- An octet that is repeated, behind the bracket. -/
  repeatPart (c : Char × Bool) (rest : List (Char × Bool)) : Option (SetPart × Nat) :=
    match rest with
    | ('*', false) :: more =>
      let digits := more.takeWhile fun p => p.1.isDigit && !p.2
      match more.drop digits.length with
      | (']', false) :: _ =>
        let cs := digits.map (·.1)
        let base := if cs.head? = some '0' then 8 else 10
        let n := digitsValue base cs
        some (.repeats c.1 (if n = 0 then none else some n), digits.length + 4)
      | _ => none
    | _ => none

/-- The parts of a set. -/
def setParts : Nat → List (Char × Bool) → Task (List SetPart)
  | 0, _ => return []
  | _, [] => return []
  | fuel + 1, first :: rest => do
    match ← bracketPart? (first :: rest) with
    | some (part, taken) => return part :: (← setParts fuel ((first :: rest).drop taken))
    | none =>
      match rest with
      | ('-', false) :: last :: more =>
        if last.1 < first.1 then
          fail ("range-endpoints of '".toList ++ shownOctet first.1 ++ '-' :: shownOctet last.1
            ++ "' are in reverse collating sequence order".toList)
        let row := allOctets.filter fun c => first.1 ≤ c && c ≤ last.1
        return .row row :: (← setParts fuel more)
      | _ => return .row [first.1] :: (← setParts fuel rest)

/-- The parts of the set that a text writes. -/
def readSet (cs : Octets) : Task (List SetPart) := setParts cs.length (unescapedSet cs.length cs)

/-- The octets of a part. -/
def SetPart.octets : SetPart → Octets
  | .row cs => cs
  | .lower => allOctets.filter Char.isLower
  | .upper => allOctets.filter Char.isUpper
  | .repeats c count => List.replicate (count.getD 0) c

/-- The octets of a set. -/
def setOctets (parts : List SetPart) : Octets := parts.flatMap SetPart.octets

/-- The octets of a set that is to have a certain length. -/
def setOctetsTo (length : Nat) (parts : List SetPart) : Octets :=
  let known := (setOctets parts).length
  parts.flatMap fun
    | .repeats c none => List.replicate (length - known) c
    | part => part.octets

/-! ## Changing texts -/

/-- What is replaced by what: an octet by the last one that it is given. -/
def replaceOctets (pairs : List (Char × Char)) (cs : Octets) : Octets :=
  cs.map fun c => ((pairs.reverse.lookup c)).getD c

/-- A text in which rows of one octet of a set are a single one. -/
def joinOctets (set : Octets) : Octets → Octets
  | x :: y :: rest =>
    if x = y ∧ set.contains x then joinOctets set (y :: rest) else x :: joinOctets set (y :: rest)
  | cs => cs
termination_by cs => cs.length

/-- The pairs of a replacement; letters of one case are replaced by those of the other where both
    sets have them at the same place. -/
def replacementPairs (truncating : Bool) (first second : List SetPart) : List (Char × Char) :=
  let froms := setOctets first
  let tos := setOctetsTo froms.length second
  let padded :=
    if truncating then tos
    else tos ++ List.replicate (froms.length - tos.length) (tos.getLast?.getD '\x00')
  froms.zip padded

/-- What is done to a text. -/
structure Changing where
  complement : Bool := false
  deleting : Bool := false
  squeezing : Bool := false
  truncating : Bool := false

/-- The set, or all other octets. -/
def Changing.set (changing : Changing) (parts : List SetPart) : Octets :=
  let octets := setOctets parts
  if changing.complement then allOctets.filter fun c => !octets.contains c else octets

/-- Complains about operands that are missing, with the reason. -/
def needsTwo {α : Type} (operand : Octets) (reason : String) : Task α := do
  complain ("missing operand after ".toList ++ quoted operand)
  complainRaw reason.toList
  seeHelp

/-- What is done to a text, as the options and the operands say. -/
def Changing.function (changing : Changing) : List Octets → Task (Octets → Octets)
  | [] => missingOperand
  | [text] => do
    if changing.deleting ∧ changing.squeezing then
      needsTwo text "Two strings must be given when both deleting and squeezing repeats."
    if !changing.deleting ∧ !changing.squeezing then
      needsTwo text "Two strings must be given when translating."
    let set := changing.set (← readSet text)
    return if changing.deleting then fun cs => cs.filter fun c => !set.contains c
      else joinOctets set
  | [one, two] => do
    if changing.deleting ∧ !changing.squeezing then
      complain ("extra operand ".toList ++ quoted two)
      complainRaw "Only one string may be given when deleting without squeezing repeats.".toList
      seeHelp
    let first ← readSet one
    let second ← readSet two
    if first.any fun part => part matches .repeats _ none then
      fail "the [c*] repeat construct may not appear in string1".toList
    if changing.deleting then
      let set := changing.set first
      let joined := setOctets second
      return fun cs => joinOctets joined (cs.filter fun c => !set.contains c)
    else
      if second.isEmpty ∧ !changing.truncating then
        fail "when not truncating set1, string2 must be non-empty".toList
      let first := if changing.complement then [.row (changing.set first)] else first
      let pairs := replacementPairs changing.truncating first second
      let joined := if changing.squeezing then setOctetsTo (setOctets first).length second else []
      return fun cs => joinOctets joined (replaceOctets pairs cs)
  | _ :: _ :: extra :: _ => extraOperand extra

/-- Replaces, deletes and joins octets of the input. -/
def changeLetters : Utility := run 1 fun _ => do
  let (changing, sets) ← takeLeading
    [.flag 'c' "complement", { Choice.letterOnly 'C' with key := "complement" },
      .flag 'd' "delete", .flag 's' "squeeze-repeats", .flag 't' "truncate-set1"]
    ({} : Changing) fun changing key _ => return match key with
      | "complement" => { changing with complement := true }
      | "delete" => { changing with deleting := true }
      | "squeeze-repeats" => { changing with squeezing := true }
      | _ => { changing with truncating := true }
  let change ← changing.function sets
  match ← readInput with
  | .error e => fail (withReason "read error".toList e)
  | .ok text => put (change text)

end LintBroker.Program.Utility
