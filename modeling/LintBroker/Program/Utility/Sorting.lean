/-
  LintBroker.Program.Utility.Sorting

  The utility that puts lines in order.  A line is compared by its keys, which are parts of it,
  each in an order of its own; lines that are equal by their keys are compared as a whole.
-/
import LintBroker.Number.Numeral
import LintBroker.Program.Utility.Entries
import LintBroker.Program.Utility.Parts

namespace LintBroker.Program.Utility

open LintBroker.Files LintBroker.Number LintBroker.Text

/-! ## Orders -/

/-- How parts of lines are compared; each letter asks for one of these. -/
structure LineOrder where
  letters : List Char := []
  deriving DecidableEq, Repr

/-- The letters that ask for an order. -/
def orderLetters : List Char := "bdfghiMnRrV".toList

namespace LineOrder

/-- The order is asked for with a letter. -/
def has (order : LineOrder) (c : Char) : Bool := order.letters.contains c

/-- The order with a letter. -/
def adding (order : LineOrder) (c : Char) : LineOrder := { letters := c :: order.letters }

/-- A blank between fields. -/
def isFieldBlank (c : Char) : Bool := c == ' ' || c == '\t' || c == '\n'

/-- What is compared of a text. -/
def seen (order : LineOrder) (cs : Octets) : Octets :=
  let cs := if order.has 'f' then cs.map Char.toUpper else cs
  let cs := if order.has 'd' then cs.filter fun c => isFieldBlank c || c.isAlphanum else cs
  if order.has 'i' then cs.filter fun c => 0x20 ≤ c.toNat && c.toNat ≤ 0x7e else cs

/-- The decimal number at the front of a text behind blanks: whether it is below zero, its digits,
    those behind the point, and what follows. -/
def decimalFront (cs : Octets) : Bool × Octets × Octets × Octets :=
  let cs := cs.dropWhile isFieldBlank
  let (negative, cs) := match cs with
    | '-' :: rest => (true, rest)
    | _ => (false, cs)
  let whole := cs.takeWhile Char.isDigit
  match cs.drop whole.length with
  | '.' :: rest =>
    let behind := rest.takeWhile Char.isDigit
    (negative, whole, behind, rest.drop behind.length)
  | rest => (negative, whole, [], rest)

/-- The order of two decimal numbers. -/
def compareDecimals (x y : Octets) : Ordering :=
  let (xNegative, xWhole, xBehind, _) := decimalFront x
  let (yNegative, yWhole, yBehind, _) := decimalFront y
  let places := max xBehind.length yBehind.length
  let scaled (negative : Bool) (whole behind : Octets) : Int :=
    let n : Int := digitsValue 10 (whole ++ behind) * Int.pow 10 (places - behind.length)
    if negative then -n else n
  compare (scaled xNegative xWhole xBehind) (scaled yNegative yWhole yBehind)

/-- The rank of the unit behind a number. -/
def unitRank (cs : Octets) : Nat :=
  ((["K", "M", "G", "T", "P", "E", "Z", "Y"].map String.toList).findIdx? fun unit =>
    unit.head? == cs.head?.map Char.toUpper).elim 0 (· + 1)

/-- The order of two numbers with units. -/
def compareUnits (x y : Octets) : Ordering :=
  let rank (cs : Octets) : Int :=
    let (negative, whole, behind, rest) := decimalFront cs
    if (whole ++ behind).all (· == '0') then 0
    else if negative then -(unitRank rest + 1 : Nat) else (unitRank rest + 1 : Nat)
  (compare (rank x) (rank y)).then (compareDecimals x y)

/-- The rank and the value of a binary number: what is none comes first, then what is not finite as
    far as it is below the others. -/
def realRank (cs : Octets) : Int × Ratio × Bool :=
  match Numeral.read? .extended cs with
  | none => (0, .whole 0, false)
  | some numeral =>
    match numeral.value with
    | .nan _ => (1, .whole 0, false)
    | .infinite true => (2, .whole 0, false)
    | .infinite false => (4, .whole 0, false)
    | .finite negative mantissa power => (3, Rounded.ratioOf mantissa power, negative)

/-- The order of two binary numbers. -/
def compareReals (x y : Octets) : Ordering :=
  let (xRank, xRatio, xNegative) := realRank x
  let (yRank, yRatio, yNegative) := realRank y
  let signed (negative : Bool) (n : Nat) : Int := if negative then -(n : Int) else n
  (compare xRank yRank).then
    (compare (signed xNegative (xRatio.num * yRatio.den))
      (signed yNegative (yRatio.num * xRatio.den)))

/-- The number of the month that a text begins with. -/
def monthRank (cs : Octets) : Nat :=
  let name := ((cs.dropWhile isFieldBlank).take 3).map Char.toUpper
  (["JAN", "FEB", "MAR", "APR", "MAY", "JUN", "JUL", "AUG", "SEP", "OCT", "NOV", "DEC"].findIdx?
    fun month => month.toList == name).elim 0 (· + 1)

/-- The order of two texts by their octets. -/
def compareTexts (x y : Octets) : Ordering :=
  if x < y then .lt else if y < x then .gt else .eq

/-- The order of two parts of lines. -/
def compareParts (order : LineOrder) (x y : Octets) : Ordering :=
  let result :=
    if order.has 'n' then compareDecimals x y
    else if order.has 'h' then compareUnits x y
    else if order.has 'g' then compareReals x y
    else if order.has 'M' then compare (monthRank x) (monthRank y)
    else compareTexts (order.seen x) (order.seen y)
  if order.has 'r' then result.swap else result

/-- The letters that cannot stand together, if there are some. -/
def clash? (order : LineOrder) : Option Octets :=
  let kinds := ['g', 'h', 'M', 'n'].filter order.has
  let textual := ['d', 'i', 'R', 'V'].any order.has
  if 1 < kinds.length + (if textual then 1 else 0) then
    some ("dfghiMnRV".toList.filter order.has)
  else none

end LineOrder

/-! ## Keys -/

/-- A place in a line: a field, and a character in it. -/
structure KeyPlace where
  field : Nat
  character : Nat := 0
  skipsBlanks : Bool := false

/-- A part of lines by which they are compared. -/
structure SortKey where
  first : KeyPlace
  last : Option KeyPlace := none
  order : LineOrder := {}

/-- What is behind some fields at the front of a text; with a separator it is left in front. -/
def behindFields (separator : Option Char) : Nat → Octets → Octets
  | 0, cs => cs
  | n + 1, cs =>
    match separator with
    | some c =>
      let rest := cs.dropWhile (· != c)
      if n = 0 then rest else behindFields separator n (rest.drop 1)
    | none =>
      let rest := cs.dropWhile LineOrder.isFieldBlank
      behindFields separator n (rest.dropWhile fun c => !LineOrder.isFieldBlank c)

/-- What is left of a line from the place at which a key begins. -/
def KeyPlace.from (separator : Option Char) (place : KeyPlace) (line : Octets) : Octets :=
  let rest := behindFields separator (place.field - 1) line
  let rest := if separator.isSome ∧ 1 < place.field then rest.drop 1 else rest
  let rest := if place.skipsBlanks then rest.dropWhile LineOrder.isFieldBlank else rest
  rest.drop (place.character - 1)

/-- What is left of a line behind the place at which a key ends. -/
def KeyPlace.behind (separator : Option Char) (place : KeyPlace) (line : Octets) : Octets :=
  if place.character = 0 then behindFields separator place.field line
  else
    let rest := behindFields separator (place.field - 1) line
    let rest := if separator.isSome ∧ 1 < place.field then rest.drop 1 else rest
    let rest := if place.skipsBlanks then rest.dropWhile LineOrder.isFieldBlank else rest
    rest.drop place.character

/-- The part of a line that a key stands for. -/
def SortKey.part (separator : Option Char) (key : SortKey) (line : Octets) : Octets :=
  let front := key.first.from separator line
  match key.last with
  | none => front
  | some place => front.take (front.length - (place.behind separator line).length)

/-- The place at the front of a text that describes keys, and what follows it. -/
def keyPlace? (what : String) (spec cs : Octets) : Task (KeyPlace × Octets) := do
  let wrong {α : Type} (message : String) : Task α :=
    fail (message.toList ++ ": invalid field specification ".toList ++ quoted spec)
  let digits := cs.takeWhile Char.isDigit
  if digits = [] then
    fail (what.toList ++ ": invalid count at start of ".toList ++ quoted cs)
  let field := digitsValue 10 digits
  if field = 0 then wrong "field number is zero"
  match cs.drop digits.length with
  | '.' :: rest =>
    let digits := rest.takeWhile Char.isDigit
    if digits = [] then
      fail ("invalid number after '.': invalid count at start of ".toList ++ quoted rest)
    let character := digitsValue 10 digits
    if character = 0 ∧ what = "invalid number at field start" then
      wrong "character offset is zero"
    return ({ field, character }, rest.drop digits.length)
  | rest => return ({ field }, rest)

/-- The key that a text describes. -/
def sortKey (spec : Octets) : Task SortKey := do
  let wrong {α : Type} : Task α :=
    fail ("stray character in field spec: invalid field specification ".toList ++ quoted spec)
  let (first, rest) ← keyPlace? "invalid number at field start" spec spec
  let letters := rest.takeWhile orderLetters.contains
  let first := { first with skipsBlanks := letters.contains 'b' }
  match rest.drop letters.length with
  | [] => return { first, order := ⟨letters⟩ }
  | ',' :: rest => do
    let (last, rest) ← keyPlace? "invalid number after ','" spec rest
    let more := rest.takeWhile orderLetters.contains
    if rest.drop more.length ≠ [] then wrong
    let last := { last with skipsBlanks := more.contains 'b' }
    return { first, last := some last, order := ⟨letters ++ more⟩ }
  | _ => wrong

/-! ## The utility -/

/-- How lines are sorted. -/
structure Sorting where
  order : LineOrder := {}
  keys : List SortKey := []
  separator : Option Char := none
  unique : Bool := false
  stable : Bool := false
  /-- The order is only checked, and what disturbs it is shown or not. -/
  checking : Option Bool := none
  output : Option Octets := none
  terminator : Char := '\n'
  /-- The files are in order already. -/
  merging : Bool := false

namespace Sorting

/-- The keys; those without an order of their own have the order of all. -/
def effectiveKeys (sorting : Sorting) : List SortKey :=
  match sorting.keys with
  | [] =>
    [{ first := { field := 1, skipsBlanks := sorting.order.has 'b' }, order := sorting.order }]
  | keys => keys.map fun key =>
    if key.order.letters.isEmpty then
      let skipsBlanks := sorting.order.has 'b'
      { first := { key.first with skipsBlanks }
        last := key.last.map fun place => { place with skipsBlanks }, order := sorting.order }
    else key

/-- The order of two lines by their keys. -/
def compareKeys (sorting : Sorting) (x y : Octets) : Ordering :=
  sorting.effectiveKeys.foldl (fun result key =>
    result.then (key.order.compareParts (key.part sorting.separator x)
      (key.part sorting.separator y))) .eq

/-- The order of two lines. -/
def compare (sorting : Sorting) (x y : Octets) : Ordering :=
  let byKeys := sorting.compareKeys x y
  if sorting.unique || sorting.stable then byKeys
  else
    let whole := LineOrder.compareTexts x y
    byKeys.then (if sorting.order.has 'r' then whole.swap else whole)

/-- Lines without those that are equal to the one before by their keys. -/
def withoutEqual (sorting : Sorting) : List Octets → List Octets
  | x :: y :: rest =>
    if sorting.compareKeys x y = .eq then withoutEqual sorting (x :: rest)
    else x :: withoutEqual sorting (y :: rest)
  | lines => lines
termination_by lines => lines.length

/-- Lines in order. -/
def sort (sorting : Sorting) (lines : List Octets) : List Octets :=
  let sorted := lines.mergeSort fun x y => (sorting.compare x y).isLE
  if sorting.unique then sorting.withoutEqual sorted else sorted

/-- Rows of lines, each in order, merged into one. -/
def merge (sorting : Sorting) (rows : List (List Octets)) : List Octets :=
  let merged := rows.foldl (fun out row => out.merge row fun x y => (sorting.compare x y).isLE) []
  if sorting.unique then sorting.withoutEqual merged else merged

/-- The first line that does not follow in order on the one before it, with its number. -/
def disorder? (sorting : Sorting) : Nat → List Octets → Option (Nat × Octets)
  | n, x :: y :: rest =>
    let result := sorting.compare x y
    if result = .gt ∨ (sorting.unique ∧ result = .eq) then some (n + 1, y)
    else disorder? sorting (n + 1) (y :: rest)
  | _, _ => none

end Sorting

/-- The lines of a text without what ends them. -/
def bareLines (terminator : Char) (cs : Octets) : List Octets :=
  (linesWith terminator cs).map fun line =>
    if line.getLast? = some terminator then line.dropLast else line

/-- The lines of a file. -/
def sortedInput (terminator : Char) (name : Octets) : Task (List Octets) := do
  match ← streamOf name with
  | .error e => fail (withReason ("cannot read: ".toList ++ asWord name) e)
  | .ok stream =>
    match ← if namesInput name then readInput else readStream stream with
    | .error e => fail (withReason ("read failed: ".toList ++ asWord name) e)
    | .ok text => return bareLines terminator text

/-- The separator that an argument gives. -/
def separatorOf (value : Octets) : Task Char := do
  match value with
  | [] => fail "empty tab".toList
  | [c] => return c
  | ['\\', '0'] => return '\x00'
  | _ => fail ("multi-character tab ".toList ++ quoted value)

/-- What an option changes. -/
def Sorting.with (sorting : Sorting) (key : String) (value : Octets) : Task Sorting := do
  match key with
  | "key" => return { sorting with keys := sorting.keys ++ [← sortKey value] }
  | "field-separator" => return { sorting with separator := some (← separatorOf value) }
  | "unique" => return { sorting with unique := true }
  | "stable" => return { sorting with stable := true }
  | "check" =>
    let silent := value = "quiet".toList ∨ value = "silent".toList
    return { sorting with checking := some (!silent) }
  | "C" => return { sorting with checking := some false }
  | "output" => return { sorting with output := some value }
  | "zero-terminated" => return { sorting with terminator := '\x00' }
  | "merge" => return { sorting with merging := true }
  | _ =>
    match key.toList with
    | [c] => return { sorting with order := sorting.order.adding c }
    | _ => return sorting

/-- The options that ask for an order, by their names. -/
def orderChoices : List Choice :=
  [('b', "ignore-leading-blanks"), ('d', "dictionary-order"), ('f', "ignore-case"),
    ('g', "general-numeric-sort"), ('h', "human-numeric-sort"), ('i', "ignore-nonprinting"),
    ('M', "month-sort"), ('n', "numeric-sort"), ('R', "random-sort"), ('r', "reverse"),
    ('V', "version-sort")].map fun (c, name) =>
      { Choice.flag c name with key := String.singleton c }

/-- Puts the lines of files in order. -/
def sortLines : Utility := run 2 fun _ => do
  let (sorting, names) ← takeOptions
    (orderChoices ++ [.valued 'k' "key", .valued 't' "field-separator", .flag 'u' "unique",
      .flag 's' "stable", { Choice.nameOnly "check" with taking := .possible },
      { Choice.letterOnly 'c' with key := "check" }, .letterOnly 'C', .valued 'o' "output",
      .flag 'z' "zero-terminated", .flag 'm' "merge", .valued 'S' "buffer-size",
      .valued 'T' "temporary-directory", { Choice.nameOnly "parallel" with taking := .needed }])
    ({} : Sorting) fun sorting key value => sorting.with key value
  for key in sorting.effectiveKeys do
    if let some letters := key.order.clash? then
      fail ("options '-".toList ++ letters ++ "' are incompatible".toList)
  match sorting.checking with
  | some shown =>
    let name := (inputsOf names).head?.getD []
    if let extra :: _ := names.drop 1 then
      fail ("extra operand ".toList ++ inQuotes extra ++ " not allowed with -".toList
        ++ [if shown then 'c' else 'C'])
    match sorting.disorder? 1 (← sortedInput sorting.terminator name) with
    | none => return
    | some (n, line) => do
      if shown then
        complain (name ++ ':' :: natChars n ++ ": disorder: ".toList ++ line)
      leave 1
  | none =>
    let rows ← (inputsOf names).mapM (sortedInput sorting.terminator)
    let lines := if sorting.merging then sorting.merge rows else sorting.sort rows.flatten
    let text := lines.flatMap fun line => line ++ [sorting.terminator]
    match sorting.output with
    | none => put text
    | some path =>
      match ← openForWriting .emptying path with
      | .error e => fail (withReason ("open failed: ".toList ++ asWord path) e)
      | .ok n =>
        match (← get).world.write n text with
        | .ok world => modifyWorld fun _ => world
        | .error e => fail (withReason ("write failed: ".toList ++ asWord path) e)

end LintBroker.Program.Utility
