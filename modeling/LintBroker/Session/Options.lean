/-
  LintBroker.Session.Options

  The arguments of the server program, which knows two options.  A long option may be
  shortened as long as it is clear which one is meant.  What is neither an option nor
  the value of one is refused at the end.
-/
import LintBroker.Text.Digit
import LintBroker.Text.Quoted

namespace LintBroker.Session

open LintBroker.Text

/-! ## Texts -/

/-- The name of the server program. -/
def serverName : String := "code-analyzer-mcp"

/-- How the server is called. -/
def serverUsage : String := "usage: " ++ serverName ++ " [-h] [--project PROJECT]\n"

/-- The help of the server. -/
def serverHelp : String :=
  serverUsage ++ "\nCode analyzer MCP server\n\noptions:\n"
    ++ "  -h, --help         show this help message and exit\n"
    ++ "  --project PROJECT  Project root holding .code-analyzer/ (auto-discovered if\n"
    ++ "                     omitted)\n"

/-! ## Options -/

/-- The options of the server. -/
inductive ServerOption where
  | help
  | project
  deriving DecidableEq, Repr

/-- The option as complaints name it. -/
def ServerOption.heading : ServerOption → String
  | .help => "-h/--help"
  | .project => "--project"

/-- The spellings of the options. -/
def spellings : List (String × ServerOption) :=
  [("-h", .help), ("--help", .help), ("--project", .project)]

/-- What can be wrong with the arguments. -/
inductive OptionsFault where
  | ambiguous (arg : String) (spellings : List String)
  | valueIgnored (option : ServerOption) (value : String)
  | valueMissing (option : ServerOption)
  | unrecognized (args : List String)
  deriving DecidableEq, Repr

/-- The words for a fault. -/
def OptionsFault.message : OptionsFault → String
  | .ambiguous arg spellings =>
    "ambiguous option: " ++ arg ++ " could match " ++ ", ".intercalate spellings
  | .valueIgnored option value =>
    "argument " ++ option.heading ++ ": ignored explicit argument " ++ quoted value
  | .valueMissing option => "argument " ++ option.heading ++ ": expected one argument"
  | .unrecognized args => "unrecognized arguments: " ++ " ".intercalate args

/-- The complaint about the arguments. -/
def OptionsFault.report (fault : OptionsFault) : String :=
  serverUsage ++ serverName ++ ": error: " ++ fault.message ++ "\n"

/-! ## Kinds of arguments -/

/-- What an argument is taken for: a value, two dashes that end the options, an option with the
    value joined to it, the short option for help with letters joined to it, or an option that is
    not known. -/
inductive ArgKind where
  | value
  | divider
  | option (option : ServerOption) (joined : Option String)
  | helpLetters (letters : List Char)
  | unknown
  deriving DecidableEq, Repr

/-- The part before the first equals sign and the part after it. -/
def splitJoined (cs : List Char) : List Char × Option String :=
  if cs.contains '=' then
    (cs.takeWhile (· != '='), some (String.ofList ((cs.dropWhile (· != '=')).drop 1)))
  else (cs, none)

/-- The end of a text, which a line feed may stand before. -/
def isEnd (cs : List Char) : Bool := cs.isEmpty || cs == ['\n']

/-- A text that writes a number below zero is a value. -/
def isNegativeNumber (cs : List Char) : Bool :=
  match cs with
  | '-' :: rest =>
    let whole := rest.takeWhile isDecimal
    match rest.dropWhile isDecimal with
    | '.' :: places =>
      !(places.takeWhile isDecimal).isEmpty && isEnd (places.dropWhile isDecimal)
    | after => !whole.isEmpty && isEnd after
  | _ => false

/-- The long spellings that begin with a text. -/
def beginningWith (cs : List Char) : List (String × ServerOption) :=
  spellings.filter fun s => cs.isPrefixOf s.1.toList

/-- What an argument in front of two dashes is taken for. -/
def kindOf (arg : String) : Except OptionsFault ArgKind :=
  match arg.toList with
  | '-' :: '-' :: rest =>
    let (name, joined) := splitJoined ('-' :: '-' :: rest)
    -- The whole argument goes before its part in front of an equals sign.
    match spellings.lookup arg, spellings.lookup (String.ofList name) with
    | some option, _ => .ok (.option option none)
    | none, some option => .ok (.option option joined)
    | none, none =>
      match beginningWith name with
      | [(_, option)] => .ok (.option option joined)
      -- A blank makes a value of what no option begins with.
      | [] => .ok (if rest.contains ' ' then .value else .unknown)
      | several => .error (.ambiguous arg (several.map Prod.fst))
  | ['-'] => .ok .value
  | ['-', 'h'] => .ok (.option .help none)
  | '-' :: 'h' :: '=' :: letters => .ok (.helpLetters letters)
  | '-' :: 'h' :: letters => .ok (.helpLetters letters)
  | '-' :: rest =>
    .ok (if isNegativeNumber ('-' :: rest) || rest.contains ' ' then .value else .unknown)
  | _ => .ok .value

/-- The arguments with what they are taken for; behind two dashes all are values. -/
def classify : List String → Except OptionsFault (List (String × ArgKind))
  | [] => .ok []
  | arg :: rest =>
    if arg = "--" then .ok ((arg, .divider) :: rest.map fun a => (a, .value))
    else do
      let kind ← kindOf arg
      let others ← classify rest
      pure ((arg, kind) :: others)

/-! ## Reading -/

/-- What the arguments ask for. -/
inductive ServerCall where
  | help
  | serve (project : Option String)
  deriving DecidableEq, Repr

/-- Letters behind the short option for help: each of the same letter asks for help again, up to
    the last one.  Others, and none at all, are a value, which the option does not take. -/
def helpLetters : List Char → Except OptionsFault ServerCall
  | ['h'] => .ok .help
  | 'h' :: rest => helpLetters rest
  | letters => .error (.valueIgnored .help (String.ofList letters))

/-- What the arguments ask for; `project` is the last one given so far, `extras` what was not
    recognized.  Two dashes joined to the option are no value and take back the one before. -/
def readFrom (project : Option String) (extras : List String) :
    List (String × ArgKind) → Except OptionsFault ServerCall
  | [] => if extras.isEmpty then .ok (.serve project) else .error (.unrecognized extras)
  | (_, .option .help none) :: _ => .ok .help
  | (_, .option .help (some value)) :: _ => .error (.valueIgnored .help value)
  | (_, .helpLetters letters) :: _ => helpLetters letters
  | (_, .option .project (some "--")) :: rest => readFrom none extras rest
  | (_, .option .project (some value)) :: rest => readFrom (some value) extras rest
  | (_, .option .project none) :: (value, .value) :: rest => readFrom (some value) extras rest
  | (_, .option .project none) :: _ => .error (.valueMissing .project)
  | (arg, _) :: rest => readFrom project (extras ++ [arg]) rest

/-- What the arguments ask for. -/
def readOptions (args : List String) : Except OptionsFault ServerCall := do
  readFrom none [] (← classify args)

end LintBroker.Session
