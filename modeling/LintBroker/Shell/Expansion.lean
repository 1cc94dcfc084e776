/-
  LintBroker.Shell.Expansion

  Expanding the words of a script: parameters, the output of commands, and sums are put
  in, then fields are cut and patterns are replaced by names of files.
-/
import LintBroker.Shell.Field
import LintBroker.Shell.State
import LintBroker.Shell.Sum

namespace LintBroker.Shell

open LintBroker.Number LintBroker.Text

/-! ## Sums -/

/-- Complains about a sum. -/
def sumMisuse {α : Type} (source : Octets) (complaint : String) : Act α :=
  misuse (("arithmetic expression: " ++ complaint ++ ": \"").toList ++ source ++ ['"'])

/-- The number that a variable holds. -/
def variableNumber (name : Octets) : Act Int := do
  let text := ((← get).text? name).getD []
  match variableValue? text with
  | some n => return n
  | none => misuse ("Illegal number: ".toList ++ text)

/-- An operator applied to two numbers in a sum. -/
def operate (source : Octets) (op : Operator) (n m : Int) : Act Int :=
  match op.result? n m with
  | some result => return result
  | none => sumMisuse source "division by zero"

/-- Works a sum out from left to right; its variables are changed on the way.  A part that does not
    count is gone through for its breaches only. -/
def Sum.value (source : Octets) (counts : Bool) : Sum → Act Int
  | .number n => return n
  | .variable name => if counts then variableNumber name else return 0
  | .negative x => do return wrapped (-(← x.value source counts))
  | .complement x => do return -(← x.value source counts) - 1
  | .isZero x => do return truth ((← x.value source counts) == 0)
  | .binary .orElse x y => do
    let n ← x.value source counts
    let m ← y.value source (counts && n == 0)
    return truth (n != 0 || m != 0)
  | .binary .andAlso x y => do
    let n ← x.value source counts
    let m ← y.value source (counts && n != 0)
    return truth (n != 0 && m != 0)
  | .binary op x y => do
    let n ← x.value source counts
    let m ← y.value source counts
    if counts then operate source op n m else return m
  | .choice test yes no => do
    let n ← test.value source counts
    let m ← yes.value source (counts && n != 0)
    let k ← no.value source (counts && n == 0)
    return if n != 0 then m else k
  | .assign name op x => do
    let m ← x.value source counts
    if !counts then return m
    let n ← match op with
      | none => pure m
      | some op => operate source op (← variableNumber name) m
    Shell.assign name (intChars n)
    return n
  | .broken complaint => sumMisuse source complaint
  | .brokenBehind x complaint => do
    let _ ← x.value source counts
    sumMisuse source complaint

/-- The number of a sum, as a text. -/
def sumText (cs : Octets) : Act Octets := do return intChars (← (Sum.read cs).value cs true)

/-! ## Parameters -/

/-- The name stands for all parameters together. -/
def namesAll (name : Octets) : Bool := name == ['@'] || name == ['*']

/-- What stands between all parameters when they are joined to one text; nothing if each of them is
    a field of its own. -/
def jointText? (state : State) (quoted splitting : Bool) (name : Octets) : Option Octets :=
  if name = ['@'] ∧ quoted ∧ splitting then none
  else
    match state.text? "IFS".toList with
    -- Without separators at all a blank stands between parameters.
    | none => some [' ']
    | some separators => if splitting ∧ !quoted then none else some (separators.take 1)

/-- The texts of a parameter, if it has a value: one, or one for each field.  All parameters together
    have a value even if there are none. -/
def parameterTexts (state : State) (quoted splitting : Bool) (name : Octets) :
    Option (List Octets) :=
  if namesAll name then
    match jointText? state quoted splitting name with
    | some between => some [between.intercalate state.params]
    | none => some state.params
  else (state.parameter? name).map ([·])

/-- What the texts of a parameter are expanded to. -/
def textGlyphs (quoted splitting : Bool) (name : Octets) (texts : List Octets) : List Glyph :=
  let listed := name = ['@'] ∧ quoted ∧ splitting ∧ texts ≠ []
  let glyphs := List.intercalate [.cut] (texts.map fun text =>
    if quoted then Glyph.ofQuoted text else Glyph.ofText .expanded text)
  if quoted ∧ !listed then glyphs else .value listed :: glyphs

/-- The value of a parameter, if it has one. -/
def parameterGlyphs (state : State) (quoted splitting : Bool) (name : Octets) :
    Option (List Glyph) :=
  (parameterTexts state quoted splitting name).map (textGlyphs quoted splitting name)

/-- Texts without what matches at the front of the first; if all of it matches and the longest match
    is taken, nothing is left of the others either. -/
def withoutFront (pattern : Pattern) (longest : Bool) : List Octets → List Octets
  | [] => []
  | text :: rest =>
    if longest ∧ pattern.matchesAll text then [[]] else pattern.trimStart longest text :: rest

/-- Texts without what matches at the end of one of them, and without those behind it: the longest
    match is looked for in the first text only, and the shortest in all of them, from the last
    on. -/
def withoutEnd (pattern : Pattern) (longest : Bool) (texts : List Octets) : List Octets :=
  let trim (text : Octets) : Option Octets :=
    if pattern.matchesAll [] ∨ pattern.trimEnd longest text ≠ text then
      some (pattern.trimEnd longest text)
    else none
  let looked := if longest then texts.take 1 else texts
  -- Each text that is trimmed takes those behind it away; the last such cut counts.
  let kept := looked.zipIdx.filterMap fun (text, n) =>
    (trim text).map fun trimmed => texts.take n ++ [trimmed]
  kept.getLast?.getD texts

/-- What a parameter without a value gives; it ends the shell if the script asked for that. -/
def missingParameter (state : State) (quoted : Bool) (name : Octets) : Act (List Glyph) :=
  if state.has .nounset then misuse (name ++ ": parameter not set".toList)
  else return Glyph.ofValue quoted []

/-! ## Words -/

/-- The end of the output of a command that is not put in. -/
def withoutLastLines (cs : Octets) : Octets := (cs.reverse.dropWhile (· == '\n')).reverse

/-- How a word is expanded: into fields or into one text, and as an assignment or not. -/
structure Manner where
  splitting : Bool := false
  assigning : Bool := false

/-- The same without fields. -/
def Manner.joint (manner : Manner) : Manner := { manner with splitting := false }

/-- The home directories of the users of the system. -/
def homeDirectories : List (String × String) := [
    ("root", "/root"), ("daemon", "/usr/sbin"), ("bin", "/bin"), ("sys", "/dev"),
    ("sync", "/bin"), ("games", "/usr/games"), ("man", "/var/cache/man"),
    ("lp", "/var/spool/lpd"), ("mail", "/var/mail"), ("news", "/var/spool/news"),
    ("uucp", "/var/spool/uucp"), ("proxy", "/bin"), ("www-data", "/var/www"),
    ("backup", "/var/backups"), ("list", "/var/list"), ("irc", "/run/ircd"),
    ("_apt", "/nonexistent"), ("nobody", "/nonexistent") ]

/-- The home directory of a user, or of the one who runs the shell. -/
def State.home? (state : State) (user : Octets) : Option Octets :=
  if user = [] then state.text? "HOME".toList
  else (homeDirectories.lookup (String.ofList user)).map String.toList

mutual

/-- What a part of a word is expanded to; `output` runs a command and gives its output. -/
def expandPiece (output : Command → Act Octets) (manner : Manner) : Piece → Act (List Glyph)
  | .text quoted chars =>
    return if quoted then Glyph.ofQuoted chars else Glyph.ofText .plain chars
  | .home always user => do
    let state ← get
    let directory := if always || manner.assigning then state.home? user else none
    return (directory.map (Glyph.ofText .quoted)).getD (Glyph.ofText .plain ('~' :: user))
  | .parameter quoted name use => expandUse output manner quoted name use
  | .substitution quoted body => do
    let text ← output body
    return Glyph.ofValue quoted (withoutLastLines (text.filter (· != '\x00')))
  | .arithmetic quoted expression => do
    let glyphs ← expandPieces output manner.joint expression
    return Glyph.ofValue quoted (← sumText (Glyph.text glyphs))

/-- What a parameter is expanded to. -/
def expandUse (output : Command → Act Octets) (manner : Manner) (quoted : Bool)
    (name : Octets) :
    Use → Act (List Glyph)
  | .value => do
    let state ← get
    match parameterGlyphs state quoted manner.splitting name with
    | some glyphs => return glyphs
    | none => missingParameter state quoted name
  | .final word => do
    let state ← get
    let value ← match parameterGlyphs state quoted manner.splitting name with
      | some glyphs => pure glyphs
      | none => missingParameter state quoted name
    let glyphs ← expandPieces output manner word
    return value ++ glyphs
  | .length => do
    let state ← get
    let glyphs ← match parameterGlyphs state false false name with
      | some glyphs => pure glyphs
      | none => missingParameter state false name
    return Glyph.ofValue quoted (natChars (Glyph.text glyphs).length)
  | .fallback empty word => do
    match given (← get) manner.splitting empty with
    | some glyphs => return glyphs
    | none =>
      let glyphs ← expandPieces output manner word
      return inserted glyphs
  | .assign empty word => do
    match given (← get) manner.splitting empty with
    | some glyphs => return glyphs
    | none =>
      -- Only a variable can be given a value.
      if !(name.head?.any fun c => c.isAlpha || c == '_') then
        misuse (name ++ ": bad variable name".toList)
      else
        let text := Glyph.text (← expandPieces output manner.joint word)
        assign name text
        return Glyph.ofValue quoted text
  | .require empty word => do
    match given (← get) manner.splitting empty with
    | some glyphs => return glyphs
    | none =>
      let message := Glyph.text (← expandPieces output manner.joint word)
      let standard := if empty then "parameter not set or null" else "parameter not set"
      misuse (name ++ ": ".toList ++ if word.isEmpty then standard.toList else message)
  | .alternative empty word => do
    match given (← get) false empty with
    | some _ =>
      let glyphs ← expandPieces output manner word
      return inserted glyphs
    | none => return if quoted ∧ name ≠ ['@'] then [.present] else []
  | .trim atEnd longest word => do
    let state ← get
    match parameterTexts state quoted manner.splitting name with
    | none => missingParameter state quoted name
    | some texts =>
      let pattern := Pattern.read (Glyph.marked (← expandPieces output manner.joint word))
      let trimmed :=
        if atEnd then withoutEnd pattern longest texts else withoutFront pattern longest texts
      return textGlyphs quoted manner.splitting name trimmed
  | .malformed => misuse "Bad substitution".toList
where
  /-- The value of the parameter, unless it has none or an empty one counts as none. -/
  given (state : State) (splitting empty : Bool) : Option (List Glyph) :=
    (parameterGlyphs state quoted splitting name).filter fun glyphs =>
      !(empty && (Glyph.text glyphs).isEmpty)
  /-- A word that is put in for the value. -/
  inserted (glyphs : List Glyph) : List Glyph :=
    if quoted then .present :: glyphs else glyphs.map Glyph.asValue

/-- What a word is expanded to. -/
def expandPieces (output : Command → Act Octets) (manner : Manner) : List Piece → Act (List Glyph)
  | [] => return []
  | piece :: rest => do
    let first ← expandPiece output manner piece
    let others ← if piece.endsWord then pure [] else expandPieces output manner rest
    return first ++ others

end

/-- A word as one text. -/
def expandText (output : Command → Act Octets) (word : Word) : Act Octets :=
  return Glyph.text (← expandPieces output {} word)

/-- A word as the text of an assignment. -/
def expandAssigned (output : Command → Act Octets) (word : Word) : Act Octets :=
  return Glyph.text (← expandPieces output { assigning := true } word)

/-- A word as a pattern. -/
def expandPattern (output : Command → Act Octets) (word : Word) : Act Pattern :=
  return Pattern.read (Glyph.marked (← expandPieces output {} word))

/-- A word as fields. -/
def expandFields (output : Command → Act Octets) (word : Word) : Act (List Octets) := do
  let glyphs ← expandPieces output { splitting := true } word
  let state ← get
  let cut := fields state.separators glyphs
  if state.has .noglob then return cut.map Glyph.text
  else return cut.flatMap (namesFor state.world.tree state.directory)

/-- Words as fields, one after the other. -/
def expandAll (output : Command → Act Octets) : List Word → Act (List Octets)
  | [] => return []
  | word :: rest => do
    let first ← expandFields output word
    return first ++ (← expandAll output rest)

/-- Words as fields up to the first word that gives one; and the words behind it. -/
def expandFirst (output : Command → Act Octets) : List Word → Act (List Octets × List Word)
  | [] => return ([], [])
  | word :: rest => do
    match ← expandFields output word with
    | [] => expandFirst output rest
    | fields => return (fields, rest)

/-- Arguments as fields, where those that look like assignments are taken for such. -/
def expandDeclared (output : Command → Act Octets) : List Word → Act (List Octets)
  | [] => return []
  | word :: rest => do
    let first ←
      if looksLikeAssignment word then pure [← expandAssigned output word]
      else expandFields output word
    return first ++ (← expandDeclared output rest)

end LintBroker.Shell
