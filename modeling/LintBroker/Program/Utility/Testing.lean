/-
  LintBroker.Program.Utility.Testing

  The utility that tests conditions.  Up to four arguments are taken for a condition by their
  number; more are joined by words, of which `and` binds closer than `or`.
-/
import LintBroker.Number.Whole
import LintBroker.Program.Utility.Echo
import LintBroker.Program.Utility.Entries

namespace LintBroker.Program.Utility

open LintBroker.Files LintBroker.Number LintBroker.Text

/-! ## Tests -/

/-- The arguments that have not been used, and the last of all. -/
structure Remaining where
  args : List Octets
  last : Octets

/-- A step through the arguments of a condition. -/
abbrev Testing := StateT Remaining Task

/-- Ends with a complaint about the condition. -/
def wrongCondition {α : Type} (message : Octets) : Testing α := fun _ => fail message

/-- Ends because arguments are missing. -/
def conditionEnds {α : Type} : Testing α := do
  wrongCondition ("missing argument after ".toList ++ quoted (← get).last)

/-- Goes over an argument, behind which there may have to be another one. -/
def goOver (needed : Bool) : Testing Unit := do
  modify fun r => { r with args := r.args.drop 1 }
  if needed ∧ (← get).args.isEmpty then conditionEnds

/-- The whole number that an argument writes. -/
def testNumber (cs : Octets) : Testing Int := do
  let bare := cs.dropWhile isSpace
  let (negative, digitsOn) := match bare with
    | '-' :: rest => (true, rest)
    | '+' :: rest => (false, rest)
    | _ => (false, bare)
  let digits := digitsOn.takeWhile Char.isDigit
  if digits = [] ∨ !(digitsOn.drop digits.length).all isSpace then
    wrongCondition ("invalid integer ".toList ++ quoted cs)
  let n : Int := digitsValue 10 digits
  return if negative then -n else n

/-- What is at a path, if anything. -/
def testedEntry (path : Octets) : Testing (Option (Place × Entry)) := fun r => do
  match ← placeOf path with
  | .error _ => return (none, r)
  | .ok place => return ((← entryAt place).map fun entry => (place, entry), r)

/-- The letters of tests of one argument. -/
def unaryLetters : List Char := "bcdefghkLnprstuwxzGNOS".toList

/-- A test of one argument. -/
def unaryTest (letter : Char) (cs : Octets) : Testing Bool := do
  let entry := (← testedEntry cs).map (·.2)
  if letter = 'n' then return cs ≠ []
  else if letter = 'z' then return cs = []
  else if letter = 't' then
    let _ ← testNumber cs
    return false
  else if "erwOG".toList.contains letter then return entry.isSome
  else if letter = 'f' then return entry.any fun e => e.kind == .regular
  else if letter = 'd' then return entry.any fun e => e.kind == .directory
  else if letter = 'c' then return entry.any fun e => e.kind == .other
  else if letter = 's' then
    return entry.any fun
      | .file bytes _ => !bytes.isEmpty
      | .device _ => false
      | _ => true
  else if letter = 'x' then
    return entry.any fun
      | .file _ executable => executable
      | .device _ => false
      | _ => true
  else return false

/-- The tests of two numbers. -/
def numberTests : List (String × (Int → Int → Bool)) := [
    ("-eq", fun n m => n = m), ("-ne", fun n m => n ≠ m), ("-lt", fun n m => n < m),
    ("-le", fun n m => n ≤ m), ("-gt", fun n m => n > m), ("-ge", fun n m => n ≥ m) ]

/-- The tests of two texts. -/
def textTests : List (String × (Octets → Octets → Bool)) := [
    ("=", fun x y => x = y), ("==", fun x y => x = y), ("!=", fun x y => x ≠ y) ]

/-- The tests of two files. -/
def fileTests : List String := ["-nt", "-ot", "-ef"]

/-- The word is a test of two arguments. -/
def isBinaryTest (cs : Octets) : Bool :=
  let name := String.ofList cs
  (numberTests.lookup name).isSome || (textTests.lookup name).isSome || fileTests.contains name

/-- A test of two arguments. -/
def binaryTest (x op y : Octets) : Testing Bool := do
  let name := String.ofList op
  match numberTests.lookup name, textTests.lookup name with
  | some test, _ => do
    let n ← testNumber x
    return test n (← testNumber y)
  | _, some test => return test x y
  | _, _ => do
    let first ← testedEntry x
    let second ← testedEntry y
    fun r => do
      let world := (← get).world
      let changed (entry : Option (Place × Entry)) : Option Nat :=
        entry.map fun p => world.changed p.1
      let result := match name, changed first, changed second with
        | "-nt", some n, some m => m < n
        | "-nt", some _, none => true
        | "-ot", some n, some m => n < m
        | "-ot", none, some _ => true
        | "-ef", some _, some _ => first.map (·.1) == second.map (·.1)
        | _, _, _ => false
      return (result, r)

/-! ## Conditions -/

/-- The word looks like a test of one argument. -/
def looksUnary (cs : Octets) : Bool := cs.length == 2 && cs.head? == some '-'

/-- The test of one argument that is next. -/
def nextUnary : Testing Bool := do
  match (← get).args with
  | op :: cs :: rest => do
    if !unaryLetters.contains (op.getD 1 ' ') then
      wrongCondition (quoted op ++ ": unary operator expected".toList)
    modify fun r => { r with args := rest }
    unaryTest (op.getD 1 ' ') cs
  | op :: _ => do
    if !unaryLetters.contains (op.getD 1 ' ') then
      wrongCondition (quoted op ++ ": unary operator expected".toList)
    conditionEnds
  | [] => conditionEnds

/-- The test of two arguments that is next. -/
def nextBinary : Testing Bool := do
  match (← get).args with
  | x :: op :: y :: rest => do
    modify fun r => { r with args := rest }
    binaryTest x op y
  | _ => conditionEnds

/-- The next argument, which is true if it is not empty. -/
def nextText : Testing Bool := do
  let text := (← get).args.head?.getD []
  goOver false
  return text ≠ []

/-- The condition of two arguments that is next. -/
def nextTwo : Testing Bool := do
  match (← get).args with
  | ['!'] :: _ => do
    goOver false
    return !(← nextText)
  | op :: _ => if looksUnary op then nextUnary else conditionEnds
  | [] => conditionEnds

mutual

/-- The condition that is next, which begins with this rank of words: joined by `or`, joined by
    `and`, or a single one. -/
def nextJoined : Nat → Nat → Testing Bool
  | 0, _ => return false
  | fuel + 1, rank => do
    if rank = 2 then nextSingle fuel
    else
      let first ← nextJoined fuel (rank + 1)
      let word := if rank = 0 then "-o".toList else "-a".toList
      if (← get).args.head? = some word then
        goOver false
        -- The second condition is looked at in any case, as it may be wrong.
        let second ← nextJoined fuel rank
        return if rank = 0 then first || second else first && second
      else return first

/-- The single condition that is next, which may be negated or stand in brackets. -/
def nextSingle : Nat → Testing Bool
  | 0 => return false
  | fuel + 1 => do
    match (← get).args with
    | [] => conditionEnds
    | ['!'] :: _ => do
      goOver true
      return !(← nextSingle fuel)
    | ['('] :: rest => do
      goOver true
      let inner := (rest.drop 1).takeWhile (· != [')'])
      -- Brackets around few arguments take these for a condition by their number.
      let closed := inner.length + 1 < rest.length
      let result ← nextByCount fuel
        (if closed ∧ inner.length < 4 then inner.length + 1 else rest.length)
      match (← get).args with
      | [] => wrongCondition (quoted [')'] ++ " expected".toList)
      | [')'] :: _ => do
        goOver false
        return result
      | other :: _ =>
        wrongCondition (quoted [')'] ++ " expected, found ".toList ++ quoted other)
    | first :: rest =>
      if 2 ≤ rest.length ∧ rest.head?.any isBinaryTest then nextBinary
      else if looksUnary first then nextUnary
      else nextText

/-- The condition that is next, of so many arguments. -/
def nextByCount : Nat → Nat → Testing Bool
  | 0, _ => return false
  | fuel + 1, count => do
    let args := (← get).args
    if count = 1 then nextText
    else if count = 2 then nextTwo
    else if count = 3 then nextThree fuel
    else if count = 4 ∧ args.head? = some ['!'] then
      goOver true
      return !(← nextThree fuel)
    else if count = 4 ∧ args.head? = some ['('] ∧ args[3]? = some [')'] then
      goOver false
      let result ← nextTwo
      goOver false
      return result
    else nextJoined fuel 0

/-- The condition of three arguments that is next. -/
def nextThree : Nat → Testing Bool
  | 0 => return false
  | fuel + 1 => do
    match (← get).args with
    | first :: second :: third :: _ =>
      -- A test of two arguments goes before all that the first one could mean.
      if isBinaryTest second then nextBinary
      else if first = ['!'] then
        goOver true
        return !(← nextTwo)
      else if first = ['('] ∧ third = [')'] then
        goOver false
        let result ← nextText
        goOver false
        return result
      else if second = "-a".toList ∨ second = "-o".toList then nextJoined fuel 0
      else wrongCondition (quoted second ++ ": binary operator expected".toList)
    | _ => conditionEnds

end

/-! ## The utility -/

/-- Tests the condition that some arguments make up. -/
def testArgs (args : List Octets) : Task Unit := do
  if args.isEmpty then leave 1
  let start : Remaining := ⟨args, args.getLast?.getD []⟩
  let (result, rest) ← (nextByCount (4 * args.length + 8) args.length).run start
  match rest.args with
  | extra :: _ => fail ("extra argument ".toList ++ quoted extra)
  | [] => leave (if result then 0 else 1)

/-- Tests a condition. -/
def test : Utility := run 2 fun _ => do testArgs (← operands)

/-- Tests a condition that ends with a bracket. -/
def bracketTest : Utility := run 2 fun _ => do
  let args ← operands
  answerAlone 0 args
  if args.getLast? = some [']'] then testArgs args.dropLast
  else fail ("missing ".toList ++ quoted [']'])

end LintBroker.Program.Utility
