/-
  LintBroker.Shell.Redirection

  Changing the channels of a command: all words are expanded before the first channel
  is changed.
-/
import LintBroker.Shell.Copy

namespace LintBroker.Shell

open LintBroker.Files LintBroker.Number LintBroker.Program LintBroker.Text

/-! ## Changes -/

/-- A redirection whose word has been expanded. -/
inductive Change where
  | input (channel : Nat) (path : Octets)
  | output (channel : Nat) (manner : OutputManner) (path : Octets)
  | both (channel : Nat) (path : Octets)
  | copy (channel source : Nat)
  | close (channel : Nat)
  | document (channel index : Nat)
  deriving DecidableEq, Repr

/-- Expands the word of a redirection. -/
def expandRedirect (output : Command → Act Octets) : Redirect → Act Change
  | .input channel word => return .input channel (← expandText output word)
  | .output channel manner word => return .output channel manner (← expandText output word)
  | .both channel word => return .both channel (← expandText output word)
  | .copy channel word => do
    match ← expandText output word with
    | ['-'] => return .close channel
    | [c] =>
      if c.isDigit then return .copy channel (digitsValue 10 [c])
      else misuse "Syntax error: Bad fd number".toList
    | _ => misuse "Syntax error: Bad fd number".toList
  | .document channel index => return .document channel index

/-! ## Channels -/

/-- The words for a refusal to open or make a file, or to run a program. -/
def refusalText (e : SystemError) (absent : String) : Octets :=
  (if e = .noEntry ∨ e = .notDirectory then absent else e.description).toList

/-- The channel of the shell that a path stands for. -/
def channelPath? (path : Octets) : Option Nat :=
  let numbered : Octets := "/dev/fd/".toList
  let named := [("/dev/stdin", 0), ("/dev/stdout", 1), ("/dev/stderr", 2)]
  match named.lookup (String.ofList path) with
  | some n => some n
  | none =>
    let digits := path.drop numbered.length
    if numbered.isPrefixOf path ∧ digits ≠ [] ∧ digits.all Char.isDigit then
      some (digitsValue 10 digits)
    else none

/-- Binds a channel to a stream. -/
def bind (channel stream : Nat) : Act Unit := modify fun state => state.bindChannel channel stream

/-- Complains about a file that cannot be opened. -/
def cannot {α : Type} (action : String) (path : Octets) (e : SystemError) (absent : String) :
    Act α :=
  misuse ("cannot ".toList ++ action.toList ++ ' ' :: path ++ ": ".toList ++ refusalText e absent)

/-- Complains about a file that cannot be read. -/
def cannotOpen {α : Type} (path : Octets) (e : SystemError) : Act α :=
  cannot "open" path e "No such file"

/-- Complains about a file that cannot be made. -/
def cannotCreate {α : Type} (path : Octets) (e : SystemError) : Act α :=
  cannot "create" path e "Directory nonexistent"

/-- Makes a channel write to a file. -/
def openOutput (channel : Nat) (path : Octets) (opening : World.Opening) : Act Unit := do
  let state ← get
  match channelPath? path with
  | some n =>
    match state.channels.lookup n with
    | some stream => bind channel stream
    | none => cannotCreate path .noEntry
  | none =>
    match state.world.writing state.directory path opening with
    | .ok (stream, world) => do
      set { state with world }
      bind channel (← addStream stream)
    | .error e => cannotCreate path e

/-- Makes a channel read from a file. -/
def openInput (channel : Nat) (path : Octets) : Act Unit := do
  let state ← get
  match channelPath? path with
  | some n =>
    match state.channels.lookup n with
    | some stream => bind channel stream
    | none => cannotOpen path .noEntry
  | none =>
    match state.world.reading state.directory path with
    | .ok stream => bind channel (← addStream stream)
    | .error e => cannotOpen path e

/-- Changes one channel. -/
def applyChange (output : Command → Act Octets) : Change → Act Unit
  | .input channel path => openInput channel path
  | .output channel manner path => do
    let state ← get
    match manner with
    | .appending => openOutput channel path .appending
    | .overwriting => openOutput channel path .emptying
    | .emptying =>
      if !state.has .noclobber then openOutput channel path .emptying
      -- A directory is refused as such before it is found to be there already.
      else if state.facts.kind path = some .directory then cannotOpen path .isDirectory
      else openOutput channel path .creating
  | .both channel path => openOutput channel path .updating
  | .copy channel source => do
    if channel ≠ source then
      match (← get).channels.lookup source with
      | some n => bind channel n
      | none =>
        misuse (natChars source ++ ": ".toList ++ SystemError.badChannel.description.toList)
  | .close channel =>
    modify fun state => { state with channels := state.channels.filter fun p => p.1 != channel }
  | .document channel index => do
    let word := (← get).documents[index]?.getD []
    let text ← expandText output word
    let time := (← get).world.clock
    bind channel (← addStream (.source text (some time)))

/-- Changes channels, and tells whether all changes were possible. -/
def applyChanges (output : Command → Act Octets) (changes : List Change) : Act Bool := do
  match ← attempt (changes.forM (applyChange output)) with
  | .ok () => return true
  | .error .misuse => return false
  | .error stop => throw stop

/-! ## Streams that are let go -/

/-- The redirections of a command that are made in the process that runs it. -/
def Command.outerRedirects : Command → List Redirect
  | .simple _ _ _ redirects => redirects
  | .redirected _ _ redirects => redirects
  | _ => []

/-- The command holds none of the streams that others read; `outputs` are the channels that lead to
    such streams at first. -/
def Command.isDetached (outputs : List Nat) (command : Command) : Bool :=
  let change (held : List Nat) : Redirect → List Nat
    | .input channel _ => held.filter (· != channel)
    | .output channel _ _ => held.filter (· != channel)
    | .both channel _ => held.filter (· != channel)
    | .document channel _ => held.filter (· != channel)
    | .copy channel word =>
      let others := held.filter (· != channel)
      match plainText? word with
      | some (digits, _) =>
        if digits.all Char.isDigit ∧ held.contains (digitsValue 10 digits) then channel :: others
        else others
      | none => others
  (command.outerRedirects.foldl change outputs).isEmpty

/-- The channels that lead to streams that others read. -/
def State.outputs (state : State) : List Nat :=
  state.channels.filterMap fun (channel, n) =>
    match state.world.streams[n]? with
    | some (.sink _) => some channel
    | _ => none

end LintBroker.Shell
