/-
  LintBroker.Shell.Parts

  The words of a script: plain and quoted text, parameters with what is made of their
  values, commands whose output is put in, and sums.
-/
import LintBroker.Shell.Cursor

namespace LintBroker.Shell

open LintBroker.Text

/-! ## Settings -/

/-- What a part of a word stands in: nothing, the text behind the equals sign of an assignment or of
    an argument that looks like one, double quotes, the braces of a parameter (whose text may be
    quoted, and which may stand in double quotes), the text of a document, or a sum. -/
inductive Setting where
  | bare
  | assigned (always : Bool)
  | double
  | braces (quoted enclosed : Bool)
  | document
  | sum
  deriving DecidableEq, Repr

namespace Setting

/-- Text in this setting is quoted. -/
def quotes : Setting → Bool
  | .bare => false
  | .assigned _ => false
  | .braces quoted _ => quoted
  | _ => true

/-- This setting is within double quotes. -/
def isEnclosed : Setting → Bool
  | .double => true
  | .braces _ enclosed => enclosed
  | _ => false

/-- Single and double quotes have their meaning. -/
def hasQuotes : Setting → Bool
  | .bare => true
  | .assigned _ => true
  | .braces quoted _ => !quoted
  | _ => false

/-- A backslash takes away the meaning of this character. -/
def escapes (setting : Setting) (c : Char) : Bool :=
  setting.hasQuotes || c == '$' || c == '`' || c == '\\'
    || (c == '"' && setting != .document) || (c == '}' && setting matches .braces true _)

/-- A character without a meaning of its own in this setting. -/
def isOrdinary (setting : Setting) (c : Char) : Bool :=
  !(c == '\\' || c == '$' || c == '`') && match setting with
    | .bare => !endsWord c && c != '\'' && c != '"'
    | .assigned _ => !endsWord c && c != '\'' && c != '"' && c != ':'
    | .double => c != '"'
    | .braces quoted _ => c != '}' && c != '"' && (quoted || c != '\'')
    | .document => true
    | .sum => c != '(' && c != ')'

/-- The setting of a whole word, which ends at a blank or a mark. -/
def isWord : Setting → Bool
  | .bare => true
  | .assigned _ => true
  | _ => false

/-- A tilde in this setting stands for a directory in any case, if it is at a place where it can. -/
def homeAlways? : Setting → Option Bool
  | .bare => some true
  | .assigned always => some always
  | .braces quoted _ => if quoted then none else some true
  | _ => none

end Setting

/-- Readers for what can be nested: the commands up to something that ends them, which may be none
    at all, a single command, and a word. -/
structure Level where
  commands : Bool → Read Command
  command : Read Command
  word : Setting → Read Word

/-! ## Parts -/

/-- Adds a part to a word whose parts stand in reverse; text of one kind is kept together. -/
def addPiece (piece : Piece) : Word → Word
  | .text quoted chars :: before =>
    match piece with
    | .text q cs =>
      if q = quoted then .text quoted (chars ++ cs) :: before
      else piece :: .text quoted chars :: before
    | _ => piece :: .text quoted chars :: before
  | before => piece :: before

/-- Adds parts to a word whose parts stand in reverse. -/
def addPieces (pieces : List Piece) (before : Word) : Word :=
  pieces.foldl (fun word piece => addPiece piece word) before

/-- Adds what stands in double quotes.  It makes a field even if it is empty, unless it is just the
    list of all parameters. -/
def addQuoted (inner : Word) (before : Word) : Word :=
  match inner with
  | [.parameter _ ['@'] .value] => addPieces inner before
  | _ => addPieces (.text true [] :: inner) before

/-- The characters that name a parameter by themselves. -/
def specialParameters : List Char := ['@', '*', '#', '?', '-', '$', '!']

/-- The name of a parameter in braces at the front of a text. -/
def parameterName (cs : Octets) : Octets :=
  match cs with
  | [] => []
  | c :: _ =>
    if beginsName c then cs.takeWhile inName
    else if c.isDigit then cs.takeWhile Char.isDigit
    else if specialParameters.contains c then [c]
    else []

/-- What is made of a parameter, from the character behind its name to the closing brace. -/
def use (level : Level) (quoted enclosed : Bool) : Read Use := do
  let cs ← remaining
  let (empty, rest) := match cs with
    | ':' :: rest => (true, rest)
    | _ => (false, cs)
  let wordUse (rest : Octets) (make : Word → Use) : Read Use := do
    moveTo rest
    return make (← level.word (.braces quoted enclosed))
  let trimUse (rest : Octets) (atEnd longest : Bool) : Read Use := do
    moveTo rest
    return .trim atEnd longest (← level.word (.braces false enclosed))
  match rest with
  | '-' :: rest => wordUse rest (.fallback empty)
  | '=' :: rest => wordUse rest (.assign empty)
  | '?' :: rest => wordUse rest (.require empty)
  | '+' :: rest => wordUse rest (.alternative empty)
  | _ =>
    match cs with
    | '}' :: rest => do
      moveTo rest
      return .value
    | '%' :: '%' :: rest => trimUse rest true true
    | '%' :: rest => trimUse rest true false
    | '#' :: '#' :: rest => trimUse rest false true
    | '#' :: rest => trimUse rest false false
    -- A lone colon lets the word go on behind the brace as if it belonged to the value.
    | ':' :: '}' :: rest => wordUse rest .final
    | _ => do
      moveOver (rest.take 1) (rest.drop 1)
      -- What is malformed is read to its end; it matters only when it is expanded.
      let _ ← level.word (.braces quoted enclosed)
      return .malformed

/-- A parameter in braces, from behind the opening brace. -/
def bracedParameter (level : Level) (quoted enclosed : Bool) : Read Piece := do
  let cs ← remaining
  match cs with
  | '#' :: rest =>
    let name := parameterName rest
    match rest.drop name.length with
    | '}' :: after =>
      if name ≠ [] then
        moveTo after
        return .parameter quoted name .length
    | _ => pure ()
  | _ => pure ()
  let name := parameterName cs
  moveTo (cs.drop name.length)
  if name = [] then
    let _ ← level.word (.braces quoted enclosed)
    return .parameter quoted [] .malformed
  else return .parameter quoted name (← use level quoted enclosed)

/-- What follows a dollar sign. -/
def dollar (level : Level) (quoted enclosed : Bool) : Read Piece := do
  let cs ← remaining
  match cs with
  | '(' :: '(' :: rest =>
    moveTo rest
    return .arithmetic quoted (← level.word .sum)
  | '(' :: rest =>
    moveTo rest
    let body ← level.commands true
    expectText ")"
    return .substitution quoted body
  | '{' :: rest =>
    moveTo rest
    bracedParameter level quoted enclosed
  | c :: rest =>
    if beginsName c then
      let name := cs.takeWhile inName
      moveTo (cs.drop name.length)
      return .parameter quoted name .value
    else if c.isDigit || specialParameters.contains c then
      moveTo rest
      return .parameter quoted [c] .value
    else return .text quoted ['$']
  | [] => return .text quoted ['$']

/-- Reads a text of its own to its end.  The replaced words that are being read stay so. -/
def within {α : Type} (text : Octets) (reader : Read α) : Read α := do
  let cursor ← get
  let unread := cursor.replaced.filter fun r => r.behind < cursor.rest.length
  let kept : List Replaced := unread.map fun r => { r with behind := 0, endsBlank := false }
  set { cursor with rest := text, replaced := kept }
  let result ← reader
  if (← remaining) ≠ [] then unexpected none
  modify fun after => { after with replaced := cursor.replaced }
  return result

/-- The text between back quotes, freed of the backslashes that protect something in it, and what
    follows it. -/
def backQuoted (quoted : Bool) : Octets → Option (Octets × Octets)
  | [] => none
  | '`' :: rest => some ([], rest)
  | '\\' :: c :: rest =>
    (backQuoted quoted rest).map fun (text, after) =>
      if c == '`' || c == '\\' || c == '$' || (quoted && c == '"') then (c :: text, after)
      else ('\\' :: c :: text, after)
  | c :: rest => (backQuoted quoted rest).map fun (text, after) => (c :: text, after)

/-- A command in back quotes, from behind the first one. -/
def backQuotedCommand (level : Level) (quoted : Bool) : Read Piece := do
  let cs ← remaining
  match backQuoted quoted cs with
  | none => do
    moveOver cs []
    breach "Syntax error: EOF in backquote substitution"
  | some (text, after) =>
    let body ← within text (level.commands true)
    moveTo after
    return .substitution quoted body

/-- Text in single quotes, from behind the first one. -/
def singleQuoted : Read Piece := do
  let cs ← remaining
  let text := cs.takeWhile (· != '\'')
  match cs.drop text.length with
  | [] => do
    moveOver text []
    breach "Syntax error: Unterminated quoted string"
  | _ :: rest =>
    moveOver text rest
    return .text true text

/-! ## Words -/

/-- The user whose directory a tilde at the front of a text stands for: the name goes up to a slash
    or to the end of the word, and in an assignment up to a colon. -/
def homeUser? (setting : Setting) (cs : Octets) : Option Octets :=
  let assigned := match setting with
    | .assigned _ => true
    | _ => false
  let braced := setting matches .braces false _
  let ends (c : Char) : Bool :=
    c == '/' || (c == ':' && assigned) || (c == '}' && braced) || (endsWord c && !braced)
  match cs with
  | '~' :: rest =>
    let user := rest.takeWhile fun c => !ends c && !beginsPart c
    match rest.drop user.length with
    | [] => some user
    | c :: _ => if ends c then some user else none
  | _ => none

/-- The complaint about a script that ends in this setting. -/
def unclosed {α : Type} (setting : Setting) : Read α :=
  if setting = .sum then breach "Syntax error: Missing '))'"
  else if setting.isEnclosed then breach "Syntax error: Unterminated quoted string"
  else breach "Syntax error: Missing '\x7d'"

/-- The parts of a word from here on, behind those that were read, which stand in reverse; `opened`
    counts the brackets of a sum, or the double quotes in quoted braces, that are not closed. -/
def partsFrom (level : Level) (setting : Setting) : Nat → Nat → Word → Read Word
  | 0, _, before => return before.reverse
  | fuel + 1, opened, before => do
    let quoted := setting.quotes
    let go (opened : Nat) (piece : Piece) : Read Word :=
      partsFrom level setting fuel opened (addPiece piece before)
    let cs ← remaining
    let run := cs.takeWhile setting.isOrdinary
    let after := cs.drop run.length
    if run ≠ [] then
      moveOver run after
      go opened (.text quoted run)
    else
      match after with
      | [] =>
        if setting.isWord ∨ setting = .document then return before.reverse else unclosed setting
      | ['\\'] =>
        moveTo []
        go opened (.text true ['\\'])
      | '\\' :: '\n' :: rest =>
        moveOver ['\n'] rest
        partsFrom level setting fuel opened before
      | '\\' :: c :: rest =>
        if setting.escapes c then
          moveTo rest
          go opened (.text true [c])
        else
          moveTo (c :: rest)
          go opened (.text quoted ['\\'])
      | '$' :: rest =>
        moveTo rest
        go opened (← dollar level quoted setting.isEnclosed)
      | '`' :: rest =>
        moveTo rest
        go opened (← backQuotedCommand level quoted)
      | '\'' :: rest =>
        moveTo rest
        go opened (← singleQuoted)
      | '"' :: rest =>
        moveTo rest
        if setting = .double then return before.reverse
        else if setting.hasQuotes then
          let inner ← level.word .double
          partsFrom level setting fuel opened (addQuoted inner before)
        -- Inner quotes in quoted braces are dropped, and protect a brace between them.
        else partsFrom level setting fuel (1 - opened) before
      | '}' :: rest =>
        moveTo rest
        if opened = 0 then return before.reverse else go opened (.text quoted ['\x7d'])
      | '(' :: rest =>
        if setting = .sum then
          moveTo rest
          go (opened + 1) (.text quoted ['('])
        else return before.reverse
      | ')' :: rest =>
        if setting ≠ .sum then return before.reverse
        -- The sum ends at two brackets that close nothing inside it.
        else if opened ≠ 0 then
          moveTo rest
          go (opened - 1) (.text quoted [')'])
        else
          match rest with
          | ')' :: rest =>
            moveTo rest
            return before.reverse
          | _ => do
            moveTo rest
            go opened (.text quoted [')'])
      | ':' :: rest =>
        moveTo rest
        match homeUser? setting rest, setting.homeAlways? with
        | some user, some always => do
          moveTo (rest.drop (user.length + 1))
          let before := addPiece (.text quoted [':']) before
          partsFrom level setting fuel opened (.home always user :: before)
        | _, _ => go opened (.text quoted [':'])
      | c :: rest =>
        if setting.isWord then return before.reverse
        else
          moveTo rest
          go opened (.text quoted [c])

/-- A word in a setting, to the end of the setting. -/
def wordWith (level : Level) (setting : Setting) : Read Word := do
  let cs ← remaining
  match homeUser? setting cs, setting.homeAlways? with
  | some user, some always => do
    moveTo (cs.drop (user.length + 1))
    partsFrom level setting (cs.length + 1) 0 [.home always user]
  | _, _ => partsFrom level setting (cs.length + 1) 0 []

end LintBroker.Shell
