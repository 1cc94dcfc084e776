/-
  LintBroker.Program.Utility.Counting

  The utility that counts the lines, words, characters and octets of texts.
-/
import LintBroker.Program.Utility.Concatenation
import LintBroker.Text.Blank

namespace LintBroker.Program.Utility

open LintBroker.Files LintBroker.Number LintBroker.Text

/-! ## Counts -/

/-- What is counted in a text, and the width of its widest line. -/
structure Counts where
  lines : Nat := 0
  words : Nat := 0
  characters : Nat := 0
  octets : Nat := 0
  widest : Nat := 0
  deriving DecidableEq, Repr

/-- The counts of two texts together. -/
def Counts.add (x y : Counts) : Counts where
  lines := x.lines + y.lines
  words := x.words + y.words
  characters := x.characters + y.characters
  octets := x.octets + y.octets
  widest := max x.widest y.widest

/-- Nothing adds nothing. -/
theorem Counts.add_nothing (x : Counts) : x.add {} = x := by
  cases x
  simp [Counts.add]

/-- A character that stands between words. -/
def isBetweenWords (c : Char) : Bool :=
  (isBlank c && !(0x1c ≤ c.toNat && c.toNat ≤ 0x1f) && c.toNat != 0x85) || c.toNat == 0x2060

/-- How many words begin in a row of characters, behind a word or not. -/
def wordsFrom (inWord : Bool) : List Char → Nat
  | [] => 0
  | c :: rest =>
    let between := isBetweenWords c
    (if !between && !inWord then 1 else 0) + wordsFrom (!between) rest

/-- The width of the widest line of a row of characters; `width` is that of the line so far. -/
def widestFrom (width : Nat) : List Char → Nat
  | [] => width
  | c :: rest =>
    if c = '\n' ∨ c = '\r' ∨ c = '\x0c' then max width (widestFrom 0 rest)
    else if c = '\t' then widestFrom (width / 8 * 8 + 8) rest
    else widestFrom (if isPrintable c then width + 1 else width) rest

/-- The counts of a text.  Octets that are part of no character are not counted as characters. -/
def countsOf (text : Octets) : Counts :=
  let characters := (Utf8.pieces (Octets.toBytes text)).filterMap fun
    | .scalar c => some c
    | .broken _ _ => none
  { lines := text.count '\n', words := wordsFrom false characters
    characters := characters.length, octets := text.length
    widest := widestFrom 0 characters }

/-! ## The utility -/

/-- The kinds of counts, in the order in which they are written. -/
def countKinds : List (String × (Counts → Nat)) :=
  [("lines", Counts.lines), ("words", Counts.words), ("chars", Counts.characters),
    ("bytes", Counts.octets), ("max-line-length", Counts.widest)]

/-- A line of counts, each brought to a width. -/
def countLine (kinds : List (Counts → Nat)) (width : Nat) (counts : Counts) (name : Octets) :
    Octets :=
  let numbers := kinds.map fun kind =>
    let digits := natChars (kind counts)
    List.replicate (width - digits.length) ' ' ++ digits
  List.intercalate [' '] numbers ++ (if name = [] then [] else ' ' :: name)

/-- The length of a file that is one; none of anything else. -/
def fileLength (name : Octets) : Task (Option (Option Nat)) := do
  let state ← get
  return match ← streamOf name with
    | .ok (.file file) => some (some (state.world.fileBytes file.place).length)
    | .ok _ => some none
    | .error _ => none

/-- The width of counts, which depends on the lengths of the files. -/
def countWidth (single : Bool) (names : List Octets) : Task Nat := do
  if single ∧ names.length = 1 then return 1
  else
    let lengths := (← names.mapM fileLength).filterMap id
    let total := (lengths.filterMap id).foldl (· + ·) 0
    let least := if lengths.any Option.isNone then 7 else 1
    return max least (natChars total).length

/-- Writes the counts of one file; gives them. -/
def putCounts (kinds : List (Counts → Nat)) (width : Nat) (given : Bool) (name : Octets) :
    Task Counts := do
  let shown := if given then name else []
  let failed (e : SystemError) : Task Unit :=
    report (withReason (if given then asWord name else "standard input".toList) e)
  match ← streamOf name with
  | .error e => do
    failed e
    return {}
  | .ok stream =>
    match ← if namesInput name then readInput else readStream stream with
    | .error e => do
      failed e
      putLine (countLine kinds width {} shown)
      return {}
    | .ok text => do
      let counts := countsOf text
      putLine (countLine kinds width counts shown)
      return counts

/-- Writes the counts of files, and their sums. -/
def count : Utility := run 1 fun _ => do
  let (keys, names) ← takeOptions
    [.flag 'l' "lines", .flag 'w' "words", .flag 'm' "chars", .flag 'c' "bytes",
      .flag 'L' "max-line-length"]
    ([] : List String) fun keys key _ => return key :: keys
  let keys := if keys.isEmpty then ["lines", "words", "bytes"] else keys
  let kinds := countKinds.filterMap fun p => if keys.contains p.1 then some p.2 else none
  let inputs := inputsOf names
  let width ← countWidth (kinds.length = 1) inputs
  let all ← inputs.mapM (putCounts kinds width (!names.isEmpty))
  if 1 < inputs.length then
    putLine (countLine kinds width (all.foldl Counts.add {}) "total".toList)

end LintBroker.Program.Utility
