/-
  LintBroker.Shell.Condition

  Conditions in scripts: tests of texts, numbers and files, joined by words.  What a
  word means depends on the words behind it.
-/
import LintBroker.Files.Tree
import LintBroker.Shell.State

namespace LintBroker.Shell

open LintBroker.Files LintBroker.Text

/-- What a condition can ask of the files: what is at a path, the length of the file there, whether
    it may be executed, where it is, and when that place was changed last. -/
structure Facts where
  kind : Octets → Option FileKind
  size : Octets → Nat
  executable : Octets → Bool
  place : Octets → Option Place
  changed : Place → Nat

/-- The result of a condition, or a complaint. -/
abbrev Verdict := Except Octets

/-! ## Operators -/

/-- The number that an operand writes. -/
def operandNumber (cs : Octets) : Verdict Int :=
  match wholeText? cs with
  | some n => .ok n
  | none => .error ("Illegal number: ".toList ++ cs)

/-- A test of one operand. -/
abbrev UnaryTest := Facts → Octets → Verdict Bool

/-- A test of two operands. -/
abbrev BinaryTest := Facts → Octets → Octets → Verdict Bool

/-- The path leads to something of this kind. -/
def hasKind (kind : FileKind) : UnaryTest := fun facts path => .ok (facts.kind path == some kind)

/-- The path leads to something. -/
def isThere : UnaryTest := fun facts path => .ok (facts.kind path).isSome

/-- There is nothing of the kind that is asked for. -/
def isNever : UnaryTest := fun _ _ => .ok false

/-- The tests of one operand. -/
def unaryTests : List (String × UnaryTest) := [
    ("-n", fun _ cs => .ok (cs ≠ [])), ("-z", fun _ cs => .ok (cs = [])),
    ("-e", isThere), ("-r", isThere), ("-w", isThere), ("-O", isThere), ("-G", isThere),
    ("-f", hasKind .regular), ("-d", hasKind .directory), ("-c", hasKind .other),
    ("-x", fun facts path => .ok (facts.executable path)),
    ("-s", fun facts path => .ok ((facts.kind path).isSome && facts.size path != 0)),
    ("-t", fun _ cs => do
      let _ ← operandNumber cs
      .ok false),
    ("-b", isNever), ("-p", isNever), ("-S", isNever), ("-h", isNever), ("-L", isNever),
    ("-u", isNever), ("-g", isNever), ("-k", isNever) ]

/-- A comparison of two numbers. -/
def comparesNumbers (compare : Int → Int → Bool) : BinaryTest := fun _ x y => do
  let n ← operandNumber x
  let m ← operandNumber y
  .ok (compare n m)

/-- A comparison of two files that are there. -/
def comparesFiles (compare : Facts → Place → Place → Bool) : BinaryTest := fun facts x y =>
  match facts.place x, facts.place y with
  | some x, some y => .ok (compare facts x y)
  | _, _ => .ok false

/-- The first place was changed before the second one. -/
def isOlder (facts : Facts) (x y : Place) : Bool := facts.changed x < facts.changed y

/-- The tests of two operands. -/
def binaryTests : List (String × BinaryTest) := [
    ("=", fun _ x y => .ok (x = y)), ("!=", fun _ x y => .ok (x ≠ y)),
    ("<", fun _ x y => .ok (x < y)), (">", fun _ x y => .ok (y < x)),
    ("-eq", comparesNumbers fun n m => n = m), ("-ne", comparesNumbers fun n m => n ≠ m),
    ("-lt", comparesNumbers fun n m => n < m), ("-le", comparesNumbers fun n m => n ≤ m),
    ("-gt", comparesNumbers fun n m => n > m), ("-ge", comparesNumbers fun n m => n ≥ m),
    ("-nt", comparesFiles fun facts x y => isOlder facts y x), ("-ot", comparesFiles isOlder),
    ("-ef", comparesFiles fun _ x y => x = y) ]

/-- What a word means in a condition; none where the words have come to an end. -/
inductive Token where
  | none
  | operand
  | unary (test : UnaryTest)
  | binary (test : BinaryTest)
  | not
  | and
  | or
  | opening
  | closing

/-- What a word means as an operator. -/
def operator? (word : Octets) : Option Token :=
  let name := String.ofList word
  match unaryTests.lookup name, binaryTests.lookup name with
  | some test, _ => some (.unary test)
  | _, some test => some (.binary test)
  | _, _ =>
    match name with
    | "!" => some .not
    | "-a" => some .and
    | "-o" => some .or
    | "(" => some .opening
    | ")" => some .closing
    | _ => Option.none

/-- The word compares two operands. -/
def isComparison (word : Octets) : Bool := (operator? word).any (· matches .binary _)

/-- What the first of some words means.  A test of one operand is an operand itself when nothing
    follows, or a comparison with one more word. -/
def token (words : List Octets) : Token :=
  match words with
  | [] => .none
  | word :: rest =>
    match operator? word, rest with
    | some (.unary _), [] => .operand
    | some (.unary test), [_] => .unary test
    | some (.unary test), second :: _ => if isComparison second then .operand else .unary test
    | some .opening, [] => .operand
    | some token, _ => token
    | Option.none, _ => .operand

/-! ## Conditions -/

/-- How closely the parts of a condition are bound: joined by `or`, joined by `and`, negated, or not
    joined at all. -/
inductive Rank where
  | alternatives
  | conjunction
  | negation
  | single
  deriving DecidableEq, Repr

/-- The condition at the front of some words, whose first one has a meaning; gives the words from
    the last one that was used on. -/
def condition (facts : Facts) : Nat → Rank → Token → List Octets → Verdict (Bool × List Octets)
  | 0, _, _, words => .ok (false, words)
  | fuel + 1, .alternatives, first, words => do
    let (x, words) ← condition facts fuel .conjunction first words
    match token (words.drop 1) with
    | .or => do
      let rest := words.drop 2
      let (y, words) ← condition facts fuel .alternatives (token rest) rest
      .ok (x || y, words)
    | _ => .ok (x, words)
  | fuel + 1, .conjunction, first, words => do
    let (x, words) ← condition facts fuel .negation first words
    match token (words.drop 1) with
    | .and => do
      let rest := words.drop 2
      let (y, words) ← condition facts fuel .conjunction (token rest) rest
      .ok (x && y, words)
    | _ => .ok (x, words)
  | fuel + 1, .negation, first, words =>
    match first with
    | .not => do
      let rest := words.drop 1
      let (x, words) ←
        condition facts fuel .negation (token rest) (if rest = [] then words else rest)
      .ok (!x, words)
    | _ => condition facts fuel .single first words
  | fuel + 1, .single, first, words =>
    match first, words with
    | .none, _ => .ok (false, words)
    | .opening, _ :: rest =>
      match token rest with
      | .closing => .ok (false, rest)
      | second => do
        let (x, words) ← condition facts fuel .alternatives second rest
        match token (words.drop 1) with
        | .closing => .ok (x, words.drop 1)
        | _ => .error "closing paren expected".toList
    | .unary test, word :: rest =>
      match rest with
      | operand :: _ => do .ok (← test facts operand, rest)
      | [] => .error (word ++ ": argument expected".toList)
    | _, x :: op :: rest =>
      match token (op :: rest) with
      | .binary test =>
        match rest with
        | y :: _ => do .ok (← test facts x y, rest)
        | [] => .error (op ++ ": argument expected".toList)
      | _ => .ok (x ≠ [], words)
    | _, x :: _ => .ok (x ≠ [], words)
    | _, [] => .ok (false, [])

/-- The result of a condition whose first word has a meaning, and that takes up all its words. -/
def holdsFrom (facts : Facts) (first : Token) (words : List Octets) : Verdict Bool := do
  match ← condition facts (8 * (words.length + 1)) .alternatives first words with
  | (_, word :: _ :: _) =>
    .error ((if word = [] then [] else word ++ ": ".toList) ++ "unexpected operator".toList)
  | (x, _) => .ok x

/-- The result of a condition.  Three words with a comparison in the middle are one; brackets around
    one or two words, and an exclamation mark in front of two or three, count whatever the words
    mean.  Of several exclamation marks in front only one turns the result around. -/
def holds (facts : Facts) : List Octets → Verdict Bool
  | [] => .ok false
  | words => negated false words.length words
where
  /-- The result for some words, turned around if that was asked for. -/
  negated (turned : Bool) : Nat → List Octets → Verdict Bool
    | 0, words => do .ok ((← holdsFrom facts (token words) words) != turned)
    | fuel + 1, words => do
      let isShort := words.length = 3 ∨ words.length = 4
      let isCompared := words.length = 3 ∧ (words[1]?.any isComparison)
      if isCompared then .ok ((← holdsFrom facts .operand words) != turned)
      else if isShort ∧ words.head? = some ['('] ∧ words.getLast? = some [')'] then
        let inner := words.dropLast.drop 1
        .ok ((← holdsFrom facts (token inner) inner) != turned)
      else if isShort ∧ words.head? = some ['!'] then negated true fuel (words.drop 1)
      else .ok ((← holdsFrom facts (token words) words) != turned)

end LintBroker.Shell
