/-
  LintBroker.Program.Utility.Choice

  The options of utilities: letters behind a dash, which can be put together, and names
  behind two dashes, which can be shortened.  An option may take a value: the rest of its
  word, what follows an equals sign, or the next word.
-/
import LintBroker.Text.Octets

namespace LintBroker.Program.Utility

open LintBroker.Text

/-! ## Options -/

/-- Whether an option takes a value. -/
inductive Taking where
  | nothing
  | needed
  | possible
  deriving DecidableEq, Repr

/-- An option: what it is called by the utility, its letter, its name, and whether it takes a
    value. -/
structure Choice where
  key : String
  letter : Option Char := none
  name : Option String := none
  taking : Taking := .nothing
  deriving DecidableEq, Repr

namespace Choice

/-- An option with a letter and a name. -/
def flag (letter : Char) (name : String) : Choice := { key := name, letter := letter, name := name }

/-- An option with a letter and a name that takes a value. -/
def valued (letter : Char) (name : String) : Choice := { flag letter name with taking := .needed }

/-- An option with a letter only. -/
def letterOnly (letter : Char) : Choice := { key := String.singleton letter, letter := letter }

/-- An option with a name only. -/
def nameOnly (name : String) : Choice := { key := name, name := name }

/-- The option with a letter. -/
def ofLetter? (choices : List Choice) (c : Char) : Option Choice :=
  choices.find? fun choice => choice.letter == some c

/-- The options whose names begin with a text; the one with that very name alone if there is one. -/
def ofName (choices : List Choice) (cs : Octets) : List Choice :=
  let named (choice : Choice) : Octets := (choice.name.getD "").toList
  match choices.find? fun choice => choice.name.isSome && named choice == cs with
  | some choice => [choice]
  | none => choices.filter fun choice => choice.name.isSome && cs.isPrefixOf (named choice)

end Choice

/-! ## Reading -/

/-- What was read: an option with its value, or a complaint about a wrong one. -/
inductive Chosen where
  | choice (key : String) (value : Option Octets)
  | wrong (complaint : Octets)
  deriving DecidableEq, Repr

/-- An option that waits for its value, with what it is called in the complaint if none follows. -/
structure Waiting where
  key : String
  complaint : Octets

/-- The options of one word behind its dash. -/
def readLetters (choices : List Choice) : Octets → List Chosen × Option Waiting
  | [] => ([], none)
  | c :: rest =>
    match Choice.ofLetter? choices c with
    | none => ([.wrong ("invalid option -- '".toList ++ [c, '\''])], none)
    | some choice =>
      match choice.taking, rest with
      | .nothing, _ =>
        let (others, waiting) := readLetters choices rest
        (.choice choice.key none :: others, waiting)
      | .needed, [] =>
        let complaint := "option requires an argument -- '".toList ++ [c, '\'']
        ([], some ⟨choice.key, complaint⟩)
      | _, _ => ([.choice choice.key (if rest = [] then none else some rest)], none)

/-- The option of one word behind its two dashes. -/
def readName (choices : List Choice) (cs : Octets) : List Chosen × Option Waiting :=
  let name := cs.takeWhile (· != '=')
  let given : Option Octets := match cs.drop name.length with
    | _ :: value => some value
    | [] => none
  let shown (cs : Octets) : Octets := "option '--".toList ++ cs ++ ['\'']
  let found := Choice.ofName choices name
  match found with
  | [] => ([.wrong ("unrecognized ".toList ++ shown cs)], none)
  | choice :: others =>
    if others.any fun other => other.key != choice.key || other.taking != choice.taking then
      let names := found.flatMap fun one => " '--".toList ++ (one.name.getD "").toList ++ ['\'']
      ([.wrong (shown cs ++ " is ambiguous; possibilities:".toList ++ names)], none)
    else
      let full := shown (choice.name.getD "").toList
      match choice.taking, given with
      | .nothing, some _ => ([.wrong (full ++ " doesn't allow an argument".toList)], none)
      | .needed, none => ([], some ⟨choice.key, full ++ " requires an argument".toList⟩)
      | _, _ => ([.choice choice.key given], none)

/-- The options among some words, and the words that are none.  Words behind two lone dashes are not
    looked at, and unless the options may stand anywhere those behind the first other word.  Where
    an option ends the reading, the words behind it are left as they are. -/
def readChosen (choices : List Choice) (anywhere : Bool) (last : String) :
    Option Waiting → List Octets → List Chosen × List Octets
  | some waiting, [] => ([.wrong waiting.complaint], [])
  | some waiting, value :: rest =>
    if waiting.key = last then ([.choice waiting.key (some value)], rest)
    else
      let (chosen, words) := readChosen choices anywhere last none rest
      (.choice waiting.key (some value) :: chosen, words)
  | none, [] => ([], [])
  | none, word :: rest =>
    let continued (read : List Chosen × Option Waiting) : List Chosen × List Octets :=
      let ends := read.1.any fun
        | .choice key _ => key == last
        | .wrong _ => false
      if ends then (read.1, rest)
      else
        let (chosen, words) := readChosen choices anywhere last read.2 rest
        (read.1 ++ chosen, words)
    match word with
    | ['-', '-'] => ([], rest)
    | '-' :: '-' :: cs => continued (readName choices cs)
    | '-' :: c :: cs => continued (readLetters choices (c :: cs))
    | _ =>
      if anywhere then
        let (chosen, words) := readChosen choices anywhere last none rest
        (chosen, word :: words)
      else ([], word :: rest)

/-- Words without a dash in front are no options. -/
theorem readChosen_operands (choices : List Choice) (anywhere : Bool) (words : List Octets)
    (h : ∀ word ∈ words, word.head? ≠ some '-') :
    readChosen choices anywhere "" none words = ([], words) := by
  induction words with
  | nil => rfl
  | cons word rest ih =>
    have tail := ih fun other member => h other (List.mem_cons_of_mem word member)
    have front := h word List.mem_cons_self
    cases word with
    | nil => cases anywhere <;> simp [readChosen, tail]
    | cons c cs =>
      have : c ≠ '-' := fun e => front (by simp [e])
      cases anywhere <;> simp [readChosen, tail, this]

end LintBroker.Program.Utility
