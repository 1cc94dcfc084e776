/-
  LintBroker.Program.Utility.Environment

  The utilities for the environment: one writes it, the other changes it and starts a
  program in it.  The words of a command can be given as one text that is split.
-/
import LintBroker.Number.Whole
import LintBroker.Program.Search
import LintBroker.Program.Start
import LintBroker.Program.Utility.Names

namespace LintBroker.Program.Utility

open LintBroker.Files LintBroker.Number LintBroker.Text

/-! ## Splitting a text into words -/

/-- The quotes that are open. -/
inductive OpenQuote where
  | none
  | single
  | double
  deriving DecidableEq, Repr

/-- The words of a text so far, the latest first, each in reverse, and whether a new one is to
    begin. -/
structure SplitWords where
  words : List Octets := []
  between : Bool := true

/-- Begins a word if one is to begin. -/
def SplitWords.begin (split : SplitWords) : SplitWords :=
  if split.between then { words := [] :: split.words, between := false } else split

/-- Adds an octet to the last word. -/
def SplitWords.add (split : SplitWords) (c : Char) : SplitWords :=
  match split.begin.words with
  | word :: words => { split.begin with words := (c :: word) :: words }
  | [] => split

/-- The words in order. -/
def SplitWords.list (split : SplitWords) : List Octets := (split.words.map List.reverse).reverse

/-- The characters for letters behind a backslash. -/
def splitLetters : List (Char × Char) :=
  [('f', '\x0c'), ('n', '\n'), ('r', '\r'), ('t', '\t'), ('v', '\x0b'), ('"', '"'), ('#', '#'),
    ('$', '$'), ('\'', '\''), ('\\', '\\')]

/-- The name of a variable in braces behind a dollar sign, and what follows it. -/
def bracedName? (cs : Octets) : Option (Octets × Octets) :=
  match cs with
  | '\x7b' :: c :: rest =>
    let name := c :: rest.takeWhile fun c => c.isAlphanum || c == '_'
    match rest.drop (name.length - 1) with
    | '\x7d' :: after => if c.isAlpha ∨ c = '_' then some (name, after) else none
    | _ => none
  | _ => none

/-- Splits a text at its blanks outside of quotes; values of variables are put in.  A sign for
    numbers in front of a word begins a comment. -/
def splitWords (environment : List (Octets × Octets)) :
    Nat → OpenQuote → SplitWords → Octets → Except Octets SplitWords
  | 0, _, split, _ => .ok split
  | _, quote, split, [] =>
    if quote = .none then .ok split else .error "no terminating quote in -S string".toList
  | fuel + 1, quote, split, c :: rest =>
    let go := splitWords environment fuel
    let plain (_ : Unit) := go quote (split.add c) rest
    match c with
    | '\'' =>
      if quote = .double then plain ()
      else go (if quote = .single then .none else .single) split.begin rest
    | '"' =>
      if quote = .single then plain ()
      else go (if quote = .double then .none else .double) split.begin rest
    -- Within a word this sign is like any other character.
    | '#' => if split.between then .ok split else plain ()
    | '\\' =>
      match rest with
      | [] => if quote = .single then plain ()
              else .error "invalid backslash at end of string in -S".toList
      | d :: after =>
        if quote = .single ∧ d ≠ '\\' ∧ d ≠ '\'' then plain ()
        -- This stands for a blank: within quotes for itself, else for the end of a word.
        else if d = '_' then
          if quote = .double then go quote (split.add ' ') after
          else go quote { split with between := true } after
        else if d = 'c' then
          if quote = .double then
            .error "'\\c' must not appear in double-quoted -S string".toList
          else .ok split
        else
          match splitLetters.lookup d with
          | some e => go quote (split.add e) after
          | none => .error ("invalid sequence '\\".toList ++ d :: "' in -S".toList)
    | '$' =>
      if quote = .single then plain ()
      else
        match bracedName? rest with
        | none =>
          let wanted := "only $\x7bVARNAME\x7d expansion is supported, error at: ".toList
          .error (wanted ++ c :: rest)
        | some (name, after) =>
          match environment.lookup name with
          | some value => go quote (value.foldl SplitWords.add split.begin) after
          | none => go quote split after
    | _ =>
      if isSpace c ∧ quote = .none then go quote { split with between := true } rest
      else plain ()

/-! ## Changing the environment -/

/-- What a program is started with. -/
structure Setting where
  /-- The environment is empty at first. -/
  emptied : Bool := false
  removed : List Octets := []
  directory : Option Octets := none
  terminator : Char := '\n'
  /-- What is done is told. -/
  told : Bool := false

/-- The advice for the first lines of scripts. -/
def splitAdvice : Octets := "use -[v]S to pass options in shebang lines".toList

/-- The options; blanks are among the letters because they come from first lines of scripts. -/
def settingChoices : List Choice :=
  [.flag 'i' "ignore-environment", .valued 'u' "unset", .flag '0' "null", .valued 'C' "chdir",
    .valued 'S' "split-string", .flag 'v' "debug",
    { Choice.nameOnly "default-signal" with taking := .possible },
    { Choice.nameOnly "ignore-signal" with taking := .possible },
    { Choice.nameOnly "block-signal" with taking := .possible },
    .nameOnly "list-signal-handling"]
    ++ [' ', '\t', '\n', '\x0b', '\x0c', '\r'].map Choice.letterOnly

/-- Tells what is done. -/
def tell (setting : Setting) (message : Octets) : Task Unit := do
  if setting.told then complainRaw message

/-- Tells how a text is split. -/
def tellSplit (setting : Setting) (text : Octets) (words : List Octets) : Task Unit := do
  tell setting ("split -S:  ".toList ++ quoted text)
  words.zipIdx.forM fun (word, n) =>
    tell setting ((if n = 0 then " into:    " else "     &    ").toList ++ quoted word)

/-- Takes the options in front of the other arguments; a text that is split takes its place among
    the arguments. -/
def takeSetting : Nat → Setting → List Octets → Task (Setting × List Octets)
  | 0, setting, args => return (setting, args)
  | fuel + 1, setting, args => do
    let (chosen, words) :=
      readChosen (settingChoices ++ standardChoices) false "split-string" none args
    let use (state : Setting × Option Octets) (key : String) (value : Octets) :
        Task (Setting × Option Octets) := do
      let (setting, _) := state
      match key with
      | "ignore-environment" => return ({ setting with emptied := true }, none)
      | "unset" => return ({ setting with removed := setting.removed ++ [value] }, none)
      | "null" => return ({ setting with terminator := '\x00' }, none)
      | "chdir" => return ({ setting with directory := some value }, none)
      | "debug" => return ({ setting with told := true }, none)
      | "split-string" => return (setting, some value)
      | _ =>
        if key.length = 1 then
          complain ("invalid option -- '".toList ++ key.toList ++ ['\''])
          complain splitAdvice
          seeHelp
        else return (setting, none)
    let (setting, text) ← takeChosen use (setting, none) chosen
    match text with
    | none => return (setting, words)
    | some text =>
      match splitWords (← get).call.environment (text.length + 1) .none {} text with
      | .error message => fail message
      | .ok split => do
        tellSplit setting text split.list
        takeSetting fuel setting (split.list ++ words)

/-- Gives a name a text; a name that is there keeps its place. -/
def putEntry (environment : List (Octets × Octets)) (name text : Octets) :
    List (Octets × Octets) :=
  if environment.any fun p => p.1 == name then
    environment.map fun p => if p.1 = name then (name, text) else p
  else environment ++ [(name, text)]

/-- Takes the arguments that give names texts. -/
def takeEntries (environment : List (Octets × Octets)) :
    List Octets → List (Octets × Octets) × List Octets
  | [] => (environment, [])
  | arg :: rest =>
    let name := arg.takeWhile (· != '=')
    match arg.drop name.length with
    | _ :: text => takeEntries (putEntry environment name text) rest
    | [] => (environment, arg :: rest)

/-! ## Starting a program -/

/-- Starts a program in the place of the utility. -/
def becomeProgram (start : Start) (args : List Octets)
    (environment : List (Octets × Octets)) : Task SystemError := do
  let state ← get
  let name := args.head?.getD []
  let call := { state.call with args, environment }
  if name = [] then return .noEntry
  else
    let searchPath := (environment.lookup "PATH".toList).map Octets.toText
    -- The program is looked for where the new environment says.
    let paths := (candidates searchPath (Octets.toText name)).map Octets.ofText
    match start.first call state.world .noEntry paths with
    | .ok (outcome, world) => do
      set { state with world }
      throw (.outcome outcome)
    | .error e => return e

/-- Enters the directory that is asked for. -/
def enterDirectory (path : Octets) : Task Unit := do
  let state ← get
  let place := state.world.tree.resolve state.call.directory (Octets.toText path)
  let refused {α : Type} (e : SystemError) : Task α :=
    fail (withReason ("cannot change directory to ".toList ++ inQuotes path) e)
  match place with
  | .error e => refused e
  | .ok directory =>
    if state.world.tree.entry? directory ≠ some .directory then refused .notDirectory
    else set { state with call := { state.call with directory } }

/-- Runs a program in a changed environment, or writes the environment. -/
def withEnvironment : Utility := run 125 fun start => do
  let args ← operands
  let (setting, args) ← takeSetting (args.flatten.length + args.length + 1) {} args
  let lone := args.head? = some ['-']
  let setting := if lone then { setting with emptied := true } else setting
  let args := if lone then args.drop 1 else args
  let inherited := (← get).call.environment
  -- An empty environment has nothing to be removed, so the names are not looked at.
  if setting.emptied then tell setting "cleaning environ".toList
  else
    setting.removed.forM fun name => do
      if name = [] ∨ name.contains '=' then
        fail (withReason ("cannot unset ".toList ++ quoted name) .invalid)
      tell setting ("unset:    ".toList ++ name)
  let kept :=
    if setting.emptied then [] else inherited.filter fun p => !setting.removed.contains p.1
  let (environment, rest) := takeEntries kept args
  (args.take (args.length - rest.length)).forM fun entry =>
    tell setting ("setenv:   ".toList ++ entry)
  let args := rest
  match args with
  | [] =>
    if setting.directory.isSome then
      misuse "must specify command with --chdir (-C)".toList
    else
      put (environment.flatMap fun p => p.1 ++ '=' :: p.2 ++ [setting.terminator])
  | program :: _ =>
    if setting.terminator ≠ '\n' then
      misuse "cannot specify --null (-0) with command".toList
    if let some path := setting.directory then
      tell setting ("chdir:    ".toList ++ inQuotes path)
      enterDirectory path
    tell setting ("executing: ".toList ++ program)
    args.zipIdx.forM fun (arg, n) =>
      tell setting ("   arg[".toList ++ natChars n ++ "]= ".toList ++ quoted arg)
    let e ← becomeProgram start args environment
    complain (withReason (quoted program) e)
    if e = .noEntry ∧ program.any isSpace then complain splitAdvice
    leave (if e = .noEntry then 127 else 126)

/-- Writes the environment, or the texts of some names. -/
def printEnvironment : Utility := run 2 fun _ => do
  let (terminator, names) ← takeLeading [.flag '0' "null"] '\n' fun _ _ _ => return '\x00'
  let environment := (← get).call.environment
  if names.isEmpty then
    put (environment.flatMap fun p => p.1 ++ '=' :: p.2 ++ [terminator])
  else
    let found := names.map fun name => if name.contains '=' then none else environment.lookup name
    found.forM fun text => do
      if let some text := text then put (text ++ [terminator])
    leave (if found.all Option.isSome then 0 else 1)

/-! ## Looking for programs -/

/-- Writes where programs are found. -/
def findPrograms : Utility := run 1 fun _ => do
  let words ← operands
  let all := words.contains "-a".toList
  let names := words.filter fun word => word ≠ "-a".toList ∧ word ≠ ['-', '-']
  let state ← get
  let disk := state.world.tree.disk state.call.directory
  let searchPath := (state.call.environment.lookup "PATH".toList).map Octets.toText
  let found ← names.mapM fun name => do
    let paths := (candidates searchPath (Octets.toText name)).filter disk.isProgram
    (if all then paths else paths.take 1).forM fun path => putLine (Octets.ofText path)
    return !paths.isEmpty
  leave (if names ≠ [] ∧ found.all id then 0 else 1)

end LintBroker.Program.Utility
