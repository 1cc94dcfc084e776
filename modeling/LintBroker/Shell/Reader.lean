/-
  LintBroker.Shell.Reader

  The commands of a script.  A script is read one complete command line at a time, so
  what stands before a breach of the rules is run before the breach is met.
-/
import LintBroker.Shell.Parts

namespace LintBroker.Shell

open LintBroker.Text

/-! ## Documents -/

/-- The lines of a document up to the line that ends it, and what follows that line. -/
def documentText (document : Announced) : Nat → Octets → Octets × Octets
  | 0, cs => ([], cs)
  | _, [] => ([], [])
  | fuel + 1, cs =>
    let cs := if document.withoutTabs then cs.dropWhile (· == '\t') else cs
    let line := cs.takeWhile (· != '\n')
    let rest := cs.drop (line.length + 1)
    -- The line that ends the document is no part of it.
    if line = document.ending then ([], rest)
    else
      let (text, after) := documentText document fuel rest
      (line ++ (cs.drop line.length).take 1 ++ text, after)

/-- Reads the document that was announced first. -/
def readDocument (level : Level) (document : Announced) : Read Unit := do
  let cs ← remaining
  let (text, after) := documentText document cs.length cs
  let passed := cs.take (cs.length - after.length)
  let line := (← get).line + passed.count '\n'
  let word ← if document.quoted then pure [Piece.text true text]
    else within text (level.word .document)
  moveTo after
  modify fun cursor => { cursor with line, documents := cursor.documents ++ [word] }

/-- Goes to the next line; documents that were announced in this one are read. -/
def endLine (level : Level) : Read Unit := do
  let cursor ← get
  set { cursor with rest := cursor.rest.drop 1, line := cursor.line + 1, announced := [] }
  cursor.announced.forM (readDocument level)

/-- Skips blanks and the ends of lines. -/
def skipLines (level : Level) : Nat → Read Unit
  | 0 => return
  | fuel + 1 => do
    skipBlanks
    match ← remaining with
    | '\n' :: _ => do
      endLine level
      skipLines level fuel
    | _ => return

/-- Skips all blanks and ends of lines that follow. -/
def skipToToken (level : Level) : Read Unit := do skipLines level ((← remaining).length + 1)

/-- Takes a reserved word that has to come next. -/
def expectWord (level : Level) (word : String) : Read Unit := do
  skipToToken level
  let cs ← remaining
  if reserved? cs = some word.toList then moveTo (cs.drop word.length) else unexpected (some (.token word))

/-! ## Redirections -/

/-- A word that has to come next. -/
def expectedWord (level : Level) (expected : Option Expected) : Read Word := do
  replaceNextWord
  match ← remaining with
  | [] => unexpected expected
  | c :: _ => if endsWord c then unexpected expected else level.word .bare

/-- The redirection that begins with a mark. -/
def redirectOf (level : Level) (channel : Option Nat) (mark : List Char) :
    Read (Option Redirect) := do
  let input := channel.getD 0
  let output := channel.getD 1
  let cs ← remaining
  let wordThen (make : Word → Redirect) : Read (Option Redirect) := do
    moveTo (cs.drop mark.length)
    return some (make (← expectedWord level none))
  match String.ofList mark with
  | "<" => wordThen (.input input)
  | ">" => wordThen (.output output .emptying)
  | ">|" => wordThen (.output output .overwriting)
  | ">>" => wordThen (.output output .appending)
  | "<>" => wordThen (.both input)
  | "<&" => wordThen (.copy input)
  | ">&" => wordThen (.copy output)
  | "<<" => document input false
  | "<<-" => document input true
  | _ => return none
where
  document (channel : Nat) (withoutTabs : Bool) : Read (Option Redirect) := do
    moveTo ((← remaining).drop mark.length)
    let word ← expectedWord level none
    match plainText? word with
    | none => breach "Syntax error: Illegal eof marker for << redirection"
    | some (ending, quoted) =>
      let cursor ← get
      let announced : Announced := ⟨ending, quoted, withoutTabs⟩
      set { cursor with announced := cursor.announced ++ [announced] }
      return some (.document channel (cursor.documents.length + cursor.announced.length))

/-- A redirection, if one comes next; a digit in front of it names the channel. -/
def redirect? (level : Level) : Read (Option Redirect) := do
  replaceNextWord
  let cs ← remaining
  let leading := cs.takeWhile Char.isDigit
  let after := cs.drop leading.length
  match mark? after with
  | none => return none
  | some m =>
    -- A row of several digits is a word of its own.
    if (m.head? ≠ some '<' ∧ m.head? ≠ some '>') ∨ 1 < leading.length then return none
    else
      moveTo after
      let channel := if leading = [] then none else some (Number.digitsValue 10 leading)
      redirectOf level channel m

/-- All redirections that follow. -/
def redirects (level : Level) : Nat → Read (List Redirect)
  | 0 => return []
  | fuel + 1 => do
    match ← redirect? level with
    | none => return []
    | some r => return r :: (← redirects level fuel)

/-! ## Simple commands -/

/-- An argument.  One that looks like an assignment is read like one. -/
def argument (level : Level) : Read Word := do
  match assignment? (← remaining) with
  | some (name, rest) => do
    moveTo rest
    let value ← level.word (.assigned false)
    let front : Piece := .text false (name ++ ['='])
    return match value with
      | .text false chars :: others => .text false (name ++ '=' :: chars) :: others
      | others => front :: others
  | none => level.word .bare

/-- The parts of a simple command that were read so far, each list in reverse, and the line on which
    the first one ended. -/
structure SimpleParts where
  line : Option Nat := none
  assignments : List (Octets × Word) := []
  words : List Word := []
  redirects : List Redirect := []

/-- A function is defined when a bracket follows a single word; if that is not plain, the name of
    the function is empty. -/
def SimpleParts.functionName? (parts : SimpleParts) : Option Octets :=
  match parts.assignments, parts.words, parts.redirects with
  | [], [[.text false name]], [] => some name
  | [], [_], [] => some []
  | _, _, _ => none

/-- The rest of a simple command.  Its line is the one on which its first word ends. -/
def simpleFrom (level : Level) : Nat → SimpleParts → Read Command
  | 0, _ => unexpected none
  | fuel + 1, parts => do
    let line := parts.line.getD (← get).line
    -- Behind assignments and redirections a command is still to come.
    if parts.words.isEmpty && !(parts.assignments.isEmpty && parts.redirects.isEmpty) then
      modify fun cursor => { cursor with replacesNext := true }
    match ← redirect? level with
    | some r => simpleFrom level fuel { parts with line, redirects := r :: parts.redirects }
    | none => do
      let cs ← remaining
      let begins := match cs with
        | c :: _ => !endsWord c
        | [] => false
      if begins then
        match assignment? cs, parts.words with
        | some (name, rest), [] => do
          moveTo rest
          let value ← level.word (.assigned true)
          let line := parts.line.getD (← get).line
          simpleFrom level fuel
            { parts with line, assignments := (name, value) :: parts.assignments }
        | _, _ => do
          let word ← argument level
          let line := parts.line.getD (← get).line
          simpleFrom level fuel { parts with line, words := word :: parts.words }
      else
        match cs, parts.functionName? with
        | '(' :: rest, some name => do
          moveTo rest
          skipBlanks
          match ← remaining with
          | ')' :: rest => moveTo rest
          | _ => unexpectedWord (.token ")")
          if isName name && !specialNames.contains name then
            skipToToken level
            return .define name (← level.command)
          else breach "Syntax error: Bad function name"
        | _, _ =>
          if parts.assignments.isEmpty ∧ parts.words.isEmpty ∧ parts.redirects.isEmpty then
            unexpected none
          else
            return .simple line parts.assignments.reverse parts.words.reverse
              parts.redirects.reverse

/-! ## Compound commands -/

/-- The words up to the end of a line or a semicolon. -/
def wordsToEnd (level : Level) : Nat → Read (List Word)
  | 0 => return []
  | fuel + 1 => do
    replaceNextWord
    match ← remaining with
    | [] => return []
    | c :: _ => if endsWord c then return [] else
      let word ← level.word .bare
      return word :: (← wordsToEnd level fuel)

/-- What follows the test of a condition, from the word that opens its commands on. -/
def conditionalFrom (level : Level) : Nat → Read Command
  | 0 => unexpected none
  | fuel + 1 => do
    let test ← level.commands false
    expectWord level "then"
    let yes ← level.commands false
    skipToToken level
    let cs ← remaining
    let word := reserved? cs
    if word = some "elif".toList then
      moveTo (cs.drop 4)
      return .conditional test yes (some (← conditionalFrom level fuel))
    else if word = some "else".toList then
      moveTo (cs.drop 4)
      let no ← level.commands false
      expectWord level "fi"
      return .conditional test yes (some no)
    else
      expectWord level "fi"
      return .conditional test yes none

/-- The commands between the words that open and close the body of a loop. -/
def loopBody (level : Level) : Read Command := do
  expectWord level "do"
  let body ← level.commands false
  expectWord level "done"
  return body

/-- A loop over words, from behind its first word. -/
def forEachFrom (level : Level) (line : Nat) : Read Command := do
  replaceNextWord
  let cs ← remaining
  if !(cs.head?.any fun c => !endsWord c) then
    moveOver (cs.take 1) (cs.drop 1)
    breach "Syntax error: Bad for loop variable"
  let word ← expectedWord level none
  match plainText? word with
  | some (name, false) =>
    if !isName name then breach "Syntax error: Bad for loop variable" else
    skipToToken level
    replaceCommandWord
    let cs ← remaining
    if reserved? cs = some "in".toList then
      moveTo (cs.drop 2)
      let items ← wordsToEnd level (cs.length)
      match ← remaining with
      | '\n' :: _ => endLine level
      | ';' :: rest => if rest.head? = some ';' then unexpected none else moveTo rest
      | _ => unexpected none
      return .forEach line name (some items) (← loopBody level)
    else
      match cs with
      | ';' :: rest => moveTo rest
      | _ => pure ()
      return .forEach line name none (← loopBody level)
  | _ => breach "Syntax error: Bad for loop variable"

/-- Takes any token but a word. -/
def passMark (level : Level) : Read Unit := do
  let cs ← remaining
  match mark? cs, cs with
  | some m, _ => moveTo (cs.drop m.length)
  | none, '\n' :: _ => endLine level
  | none, _ => return

/-- The patterns of a branch up to the bracket that closes them.  A mark in the place of a pattern
    stands for the word before it, which is `last`. -/
def patterns (level : Level) : Nat → Word → Read (List Word)
  | 0, _ => unexpected none
  | fuel + 1, last => do
    replaceNextWord
    let word ← match ← remaining with
      | [] => pure last
      | c :: _ =>
        if endsWord c then do
          passMark level
          pure last
        else level.word .bare
    skipBlanks
    match ← remaining with
    | '|' :: rest =>
      if rest.head? = some '|' then unexpected (some (.token ")")) else do
      moveTo rest
      return word :: (← patterns level fuel word)
    | ')' :: rest => do
      moveTo rest
      return [word]
    | _ => unexpectedWord (.token ")")

/-- The branches of a choice up to the word that closes it. -/
def branches (level : Level) : Nat → Read (List (List Word × Command))
  | 0 => unexpected none
  | fuel + 1 => do
    skipToToken level
    let cs ← remaining
    if reserved? cs = some "esac".toList then
      moveTo (cs.drop 4)
      return []
    else
      match cs with
      -- A bracket may open the patterns of a branch.
      | '(' :: rest => moveTo rest
      | _ => pure ()
      let choices ← patterns level (cs.length + 1) [.text false "in".toList]
      let body ← level.commands true
      skipToToken level
      let cs ← remaining
      if reserved? cs = some "esac".toList then
        moveTo (cs.drop 4)
        return [(choices, body)]
      else
        expectText ";;"
        return (choices, body) :: (← branches level fuel)

/-- A compound command that begins with a reserved word, if one does. -/
def compound? (level : Level) : Read (Option Command) := do
  let cs ← remaining
  let line := (← get).line
  match reserved? cs with
  | none =>
    match cs with
    | '(' :: rest => do
      moveTo rest
      let body ← level.commands false
      expectText ")"
      return some (.subshell body)
    | _ => return none
  | some word =>
    let inside := moveTo (cs.drop word.length)
    match String.ofList word with
    | "\x7b" => do
      inside
      let body ← level.commands false
      expectWord level "\x7d"
      return some body
    | "if" => do
      inside
      return some (← conditionalFrom level cs.length)
    | "while" => do
      inside
      let test ← level.commands false
      return some (.repeated false test (← loopBody level))
    | "until" => do
      inside
      let test ← level.commands false
      return some (.repeated true test (← loopBody level))
    | "for" => do
      inside
      return some (← forEachFrom level line)
    | "case" => do
      inside
      let subject ← expectedWord level (some .anyWord)
      expectWord level "in"
      return some (.select line subject (← branches level (cs.length + 1)))
    | _ => unexpected none

/-- A single command with its redirections. -/
def commandWith (level : Level) : Read Command := do
  replaceCommandWord
  let line := (← get).line
  match ← compound? level with
  | none => simpleFrom level ((← remaining).length + 1) {}
  | some body =>
    match ← redirects level (← remaining).length with
    | [] => return body
    | rs => return .redirected line body rs

/-! ## Lists of commands -/

/-- The commands of a pipeline behind the first one. -/
def pipelineFrom (level : Level) : Nat → Read (List Command)
  | 0 => return []
  | fuel + 1 => do
    skipBlanks
    match ← remaining with
    | '|' :: rest =>
      -- Two bars join pipelines and end this one.
      if rest.head? = some '|' then return [] else do
      moveTo rest
      skipToToken level
      let part ← commandWith level
      return part :: (← pipelineFrom level fuel)
    | _ => return []

/-- A pipeline; an exclamation mark in front of it turns its success around. -/
def pipeline (level : Level) : Read Command := do
  skipBlanks
  let cs ← remaining
  let turned := reserved? cs = some ['!']
  if turned then moveTo (cs.drop 1)
  let first ← commandWith level
  let body := match ← pipelineFrom level (← remaining).length with
    | [] => first
    | parts => Command.pipeline (first :: parts)
  return if turned then .negated body else body

/-- The pipelines that are joined to the ones read so far. -/
def joinedFrom (level : Level) : Nat → Command → Read Command
  | 0, first => return first
  | fuel + 1, first => do
    skipBlanks
    let goOn (junction : Junction) (rest : Octets) : Read Command := do
      moveTo rest
      skipToToken level
      joinedFrom level fuel (.joined junction first (← pipeline level))
    match ← remaining with
    | '&' :: '&' :: rest => goOn .whenTrue rest
    | '|' :: '|' :: rest => goOn .whenFalse rest
    | _ => return first

/-- Pipelines with the junctions between them. -/
def joined (level : Level) : Read Command := do
  let first ← pipeline level
  joinedFrom level (← remaining).length first

/-- The next token ends a list of commands. -/
def closesList (cs : Octets) : Bool :=
  match cs with
  | [] => true
  | ')' :: _ => true
  | ';' :: ';' :: _ => true
  | _ =>
    match reserved? cs with
    | some word => closingWords.contains word
    | none => false

/-- A list of commands up to a token that ends it, behind the commands that were read, which stand
    in reverse. -/
def commandsFrom (level : Level) (optional : Bool) : Nat → List Command → Read Command
  | 0, before => return .sequence before.reverse
  | fuel + 1, before => do
    skipToToken level
    replaceCommandWord
    skipToToken level
    let cs ← remaining
    if cs = [] ∨ ((optional ∨ before ≠ []) ∧ closesList cs) then return .sequence before.reverse
    else
      let command ← joined level
      skipBlanks
      match ← remaining with
      | '&' :: rest => do
        moveTo rest
        commandsFrom level optional fuel (.background command :: before)
      | ';' :: rest =>
        if rest.head? = some ';' then return .sequence (command :: before).reverse
        else do
          moveTo rest
          commandsFrom level optional fuel (command :: before)
      | '\n' :: _ => commandsFrom level optional fuel (command :: before)
      | _ => return .sequence (command :: before).reverse

/-- A list of commands. -/
def commandsWith (level : Level) (optional : Bool) : Read Command := do
  commandsFrom level optional ((← remaining).length + 1) []

/-- The readers for what is nested no deeper than some bound. -/
def levelOf : Nat → Level
  | 0 =>
    let tooDeep {α : Type} : Read α := breach "Syntax error: nested too deeply"
    ⟨fun _ => tooDeep, tooDeep, fun _ => tooDeep⟩
  | n + 1 =>
    let level := levelOf n
    ⟨commandsWith level, commandWith level, wordWith level⟩

/-- How deeply commands and words can be nested. -/
def nestingLimit : Nat := 400

/-! ## Command lines -/

/-- The commands of a line behind those that were read, which stand in reverse. -/
def lineFrom (level : Level) : Nat → List Command → Read Command
  | 0, before => return .sequence before.reverse
  | fuel + 1, before => do
    replaceCommandWord
    match ← remaining with
    | [] => return .sequence before.reverse
    | '\n' :: _ => do
      endLine level
      return .sequence before.reverse
    | _ => do
      let command ← joined level
      skipBlanks
      match ← remaining with
      | [] => return .sequence (command :: before).reverse
      | '\n' :: _ => lineFrom level fuel (command :: before)
      | '&' :: rest => do
        moveTo rest
        lineFrom level fuel (.background command :: before)
      | ';' :: rest =>
        if rest.head? = some ';' then unexpected none
        else do
          moveTo rest
          lineFrom level fuel (command :: before)
      | _ => unexpected none

/-- A text as a word in which parameters, commands and sums are put in. -/
def textWord (text : Octets) : Except Breach Word :=
  ((levelOf nestingLimit).word .document |>.run { rest := text }).map Prod.fst

/-- The next complete command line, which may take up several lines of the script; none at its
    end. -/
def nextLine (cursor : Cursor) : Except Breach (Option (Command × Cursor)) :=
  if cursor.rest = [] then .ok none
  else ((lineFrom (levelOf nestingLimit) (cursor.rest.length + 1) []).run cursor).map some

end LintBroker.Shell
