/-
  LintBroker.Shell.Sum

  Sums in scripts: whole numbers of 64 bits, variables, and the usual operators by
  their ranks.  A sum that cannot be read to its end is still a sum, as what was read of
  it is worked out before the breach is met.
-/
import LintBroker.Number.Whole
import LintBroker.Shell.Cursor

namespace LintBroker.Shell

open LintBroker.Number LintBroker.Text

/-! ## Sums -/

/-- An operator on two numbers. -/
inductive Operator where
  | orElse | andAlso
  | bitOr | bitXor | bitAnd
  | equal | unequal
  | below | above | atMost | atLeast
  | shiftLeft | shiftRight
  | plus | minus
  | times | divided | modulo
  deriving DecidableEq, Repr

/-- A sum.  One that is broken off gives a complaint, once what was read of it has been worked out
    as far as that is possible. -/
inductive Sum where
  | number (n : Int)
  | variable (name : Octets)
  | negative (x : Sum)
  | complement (x : Sum)
  | isZero (x : Sum)
  | binary (op : Operator) (x y : Sum)
  | choice (test yes no : Sum)
  | assign (name : Octets) (op : Option Operator) (x : Sum)
  | broken (complaint : String)
  | brokenBehind (x : Sum) (complaint : String)

/-- The operators by rank, each with its mark, longer marks before those they begin with. -/
def ranks : List (List (String × Operator)) := [
    [("||", .orElse)], [("&&", .andAlso)], [("|", .bitOr)], [("^", .bitXor)], [("&", .bitAnd)],
    [("==", .equal), ("!=", .unequal)],
    [("<=", .atMost), (">=", .atLeast), ("<", .below), (">", .above)],
    [("<<", .shiftLeft), (">>", .shiftRight)], [("+", .plus), ("-", .minus)],
    [("*", .times), ("/", .divided), ("%", .modulo)] ]

/-- The marks of assignments. -/
def assignments : List (String × Option Operator) := [
    ("<<=", some .shiftLeft), (">>=", some .shiftRight), ("+=", some .plus), ("-=", some .minus),
    ("*=", some .times), ("/=", some .divided), ("%=", some .modulo), ("&=", some .bitAnd),
    ("|=", some .bitOr), ("^=", some .bitXor), ("=", none) ]

/-! ## Reading -/

/-- Readers of a part of a sum, which stop with one that is broken off. -/
abbrev SumRead := StateT Octets (Except Sum)

/-- Reads a part of a sum; one that is broken off stands in the place that it would have taken. -/
def brokenIn (place : Sum → Sum) (reader : SumRead Sum) : SumRead Sum := fun cs =>
  (reader cs).mapError place

/-- Reads a part of a sum and puts it in its place, also if it is broken off. -/
def placed (place : Sum → Sum) (reader : SumRead Sum) : SumRead Sum := place <$> brokenIn place reader

/-- Behind blanks. -/
def withoutBlanks (cs : Octets) : Octets :=
  cs.dropWhile fun c => c == ' ' || c == '\t' || c == '\n'

/-- The mark at the front of a text, among all marks of operators and assignments. -/
def sumMark (cs : Octets) : String :=
  let all := assignments.map (·.1) ++ ["<<", ">>", "<=", ">=", "==", "!=", "&&", "||", "|", "^",
    "&", "<", ">", "+", "-", "*", "/", "%", "(", ")", "?", ":", "~", "!"]
  -- The longest mark counts, so that `<<=` is not read as `<<`.
  let found := all.filter fun m => m.toList.isPrefixOf cs
  found.foldl (fun best m => if best.length < m.length then m else best) ""

/-- The readers for what can be nested in a sum: assignments and all else, choices and all of a
    higher rank, and what stands between operators. -/
structure SumLevel where
  whole : SumRead Sum
  choice : SumRead Sum
  primary : SumRead Sum

/-- A number, a variable, a sum in brackets, or one of these behind an operator. -/
def primaryWith (level : SumLevel) : SumRead Sum := do
  let cs := withoutBlanks (← get)
  match wholeNumber? cs with
  | some (n, rest) =>
    set rest
    return .number (min n greatest)
  | none =>
    let name := cs.takeWhile inName
    if name ≠ [] then
      set (cs.drop name.length)
      return .variable name
    else
      match cs with
      | '(' :: rest => do
        set rest
        let x ← level.whole
        match withoutBlanks (← get) with
        | ')' :: rest => do
          set rest
          return x
        | _ => throw (.brokenBehind x "expecting ')'")
      | '-' :: rest => do
        set rest
        placed .negative level.primary
      | '+' :: rest => do
        set rest
        level.primary
      | '~' :: rest => do
        set rest
        placed .complement level.primary
      | '!' :: rest => do
        set rest
        placed .isZero level.primary
      | _ => throw (.broken "expecting primary")

/-- The further operands of a rank, from left to right; `next` reads one of them. -/
def operands (next : SumRead Sum) (rank : List (String × Operator)) : Nat → Sum → SumRead Sum
  | 0, first => return first
  | fuel + 1, first => do
    let cs := withoutBlanks (← get)
    let m := sumMark cs
    match rank.lookup m with
    | none => return first
    | some op => do
      set (cs.drop m.length)
      operands next rank fuel (← placed (.binary op first) next)

/-- A sum of the operators of some ranks. -/
def ranked (level : SumLevel) : List (List (String × Operator)) → SumRead Sum
  | [] => level.primary
  | rank :: above => do
    let next := ranked level above
    let first ← next
    operands next rank ((← get).length + 1) first

/-- A choice, or a sum of operators.  The part behind the colon of a choice is not an assignment. -/
def choiceWith (level : SumLevel) : SumRead Sum := do
  let test ← ranked level ranks
  let nothing : Sum := .number 0
  match withoutBlanks (← get) with
  | '?' :: rest => do
    set rest
    let yes ← brokenIn (fun yes => .choice test yes nothing) level.whole
    match withoutBlanks (← get) with
    | ':' :: rest => do
      set rest
      placed (.choice test yes) level.choice
    | _ => throw (.choice test (.brokenBehind yes "expecting ':'") nothing)
  | _ => return test

/-- An assignment, a choice, or a sum of operators. -/
def wholeWith (level : SumLevel) : SumRead Sum := do
  let cs := withoutBlanks (← get)
  let name := cs.takeWhile inName
  let after := withoutBlanks (cs.drop name.length)
  let m := sumMark after
  match assignments.lookup m, isName name with
  | some op, true => do
    set (after.drop m.length)
    placed (.assign name op) level.whole
  | _, _ => choiceWith level

/-- The readers for sums nested no deeper than some bound. -/
def sumLevel : Nat → SumLevel
  | 0 =>
    let tooDeep : SumRead Sum := throw (.broken "nested too deeply")
    ⟨tooDeep, tooDeep, tooDeep⟩
  | n + 1 =>
    let level := sumLevel n
    ⟨wholeWith level, choiceWith level, primaryWith level⟩

/-- Reads a sum, which has to take up a whole text. -/
def Sum.read (cs : Octets) : Sum :=
  match ((sumLevel (cs.length + 2)).whole).run cs with
  | .error x => x
  | .ok (x, rest) => if withoutBlanks rest = [] then x else .brokenBehind x "expecting EOF"

/-! ## Numbers -/

/-- A number cut to 64 bits. -/
def wrapped (n : Int) : Int := n.bmod (Nat.pow 2 64)

/-- The number whose bits are those of `n`, cut to 64 of them. -/
def bits (n : Int) : Nat := (n.emod (Int.pow 2 64)).toNat

/-- The number for a condition. -/
def truth (b : Bool) : Int := if b then 1 else 0

/-- An operator applied to two numbers; nothing can be divided by zero. -/
def Operator.result? (op : Operator) (x y : Int) : Option Int :=
  match op with
  | .orElse => some (truth (x != 0 || y != 0))
  | .andAlso => some (truth (x != 0 && y != 0))
  | .bitOr => some (wrapped (bits x ||| bits y : Nat))
  | .bitXor => some (wrapped (bits x ^^^ bits y : Nat))
  | .bitAnd => some (wrapped (bits x &&& bits y : Nat))
  | .equal => some (truth (x == y))
  | .unequal => some (truth (x != y))
  | .below => some (truth (x < y))
  | .above => some (truth (x > y))
  | .atMost => some (truth (x ≤ y))
  | .atLeast => some (truth (x ≥ y))
  | .shiftLeft => some (wrapped (x * Int.pow 2 (bits y % 64)))
  | .shiftRight => some (x.fdiv (Int.pow 2 (bits y % 64)))
  | .plus => some (wrapped (x + y))
  | .minus => some (wrapped (x - y))
  | .times => some (wrapped (x * y))
  | .divided => if y = 0 then none else some (wrapped (x.tdiv y))
  | .modulo => if y = 0 then none else some (x.tmod y)

/-- Division fails only by zero, and nothing else fails. -/
theorem result?_eq_none_iff (op : Operator) (x y : Int) :
    op.result? x y = none ↔ (op = .divided ∨ op = .modulo) ∧ y = 0 := by
  cases op <;> simp [Operator.result?]

/-- The number that the text of a variable writes, which has to fit in 64 bits; nothing is zero. -/
def variableValue? (text : Octets) : Option Int :=
  let cs := withoutBlanks text
  let (negative, digits) := match cs with
    | '-' :: rest => (true, rest)
    | '+' :: rest => (false, rest)
    | _ => (false, cs)
  if cs = [] then some 0
  else
    match wholeNumber? digits with
    | none => none
    | some (n, rest) =>
      let value : Int := if negative then -(n : Int) else n
      if withoutBlanks rest = [] ∧ least ≤ value ∧ value ≤ greatest then some value else none

end LintBroker.Shell
