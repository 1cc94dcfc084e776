/-
  LintBroker.Program.Utility.Time

  The utilities for time: one waits, the other ends a program that takes too long.
-/
import LintBroker.Number.Numeral
import LintBroker.Program.Signal
import LintBroker.Program.Utility.Environment

namespace LintBroker.Program.Utility

open LintBroker.Files LintBroker.Number LintBroker.Text

/-! ## Spans -/

/-- A span of time: some microseconds, or without an end. -/
inductive Span where
  | micros (n : Nat)
  | endless
  deriving DecidableEq, Repr

/-- The seconds in a unit of time. -/
def unitSeconds? (cs : Octets) : Option Nat :=
  [("", 1), ("s", 1), ("m", 60), ("h", 3600), ("d", 86400)].lookup (String.ofList cs)

/-- The span of a number of seconds, rounded up; none for one below zero. -/
def spanOf? (unit : Nat) : Rounded → Option Span
  | .nan _ => none
  | .infinite negative => if negative then none else some .endless
  | .finite negative mantissa power =>
    if negative ∧ mantissa ≠ 0 then none
    else
      let ratio := Rounded.ratioOf mantissa power
      some (.micros ((ratio.num * 1000000 * unit + ratio.den - 1) / ratio.den))

/-- The span that a text writes. -/
def span? (cs : Octets) : Option Span := do
  let numeral ← Numeral.read? .double cs
  let unit ← unitSeconds? numeral.rest
  spanOf? unit numeral.value

/-- Two spans one after the other. -/
def Span.add : Span → Span → Span
  | .micros n, .micros m => .micros (n + m)
  | _, _ => .endless

/-! ## Utilities -/

/-- Complains about a text that writes no span. -/
def invalidSpan (cs : Octets) : Octets := "invalid time interval ".toList ++ quoted cs

/-- Waits for the sum of some spans. -/
def sleep : Utility := run 1 fun _ => do
  let texts ← takeStandard
  if texts = [] then missingOperand
  else
    let wrong := texts.filter fun text => (span? text).isNone
    wrong.forM fun text => complain (invalidSpan text)
    if wrong ≠ [] then seeHelp
    match (texts.filterMap span?).foldl Span.add (.micros 0) with
    | .endless => throw (.outcome .endless)
    | .micros n => modify fun state => { state with world := state.world.wait n }

/-! ## Limits -/

/-- How a program is ended that takes too long. -/
structure Limiting where
  signal : Nat := 15
  /-- The status of the program counts even then. -/
  preserving : Bool := false
  told : Bool := false

/-- The limit that a text writes; one of zero is none. -/
def limitOf (text : Octets) : Task Span := do
  match span? text with
  | some (.micros 0) => return .endless
  | some span => return span
  | none => misuse (invalidSpan text)

/-- The signal that a text names. -/
def signalOf (text : Octets) : Task Nat := do
  let bare := if "SIG".toList.isPrefixOf (text.map Char.toUpper) then text.drop 3 else text
  match signalNumber? true bare with
  | some n => return n
  | none => misuse (quoted text ++ ": invalid signal".toList)

/-- Runs a program, and ends it if it takes longer than a limit. -/
def limitTime : Utility := run 125 fun start => do
  let (limiting, args) ← takeLeading
    [.valued 's' "signal", .valued 'k' "kill-after", .flag 'v' "verbose",
      .nameOnly "preserve-status", .nameOnly "foreground"]
    ({} : Limiting) fun limiting key value => do
      match key with
      | "signal" => return { limiting with signal := ← signalOf value }
      | "kill-after" => do
        let _ ← limitOf value
        return limiting
      | "preserve-status" => return { limiting with preserving := true }
      | "verbose" => return { limiting with told := true }
      | _ => return limiting
  match args with
  | [] | [_] => seeHelp
  | text :: program :: rest =>
    let limit ← limitOf text
    let state ← get
    let searchPath := (state.call.environment.lookup "PATH".toList).map Octets.toText
    let paths := (candidates searchPath (Octets.toText program)).map Octets.ofText
    let world := state.world.withWriter
    let call :=
      { state.call with
        args := program :: rest, process := state.world.nextProcess, parent := state.call.process }
    match start.first call world .noEntry paths with
    | .error e => do
      complain (withReason ("failed to run command ".toList ++ quoted program) e)
      leave (if e = .noEntry then 127 else 126)
    | .ok (outcome, after) =>
      let outcome := if after.stuck then Outcome.endless else outcome
      let after := { after with writer := state.world.writer, stuck := false }
      let overtime? : Option Nat := match limit with
        | .endless => none
        | .micros n =>
          let last := state.world.clock + n
          if outcome = Outcome.endless ∨ last < after.clock then some last else none
      match overtime? with
      | none => do
        set { state with world := after }
        match outcome with
        | .ended (.exited status) => leave status
        | outcome => throw (Leaving.outcome outcome)
      | some time => do
        set { state with world := { after.silence world.writer time with clock := time } }
        if limiting.told then
          complain ("sending signal ".toList ++ (signalNames.getD limiting.signal "").toList
            ++ " to command ".toList ++ quoted program)
        if limiting.signal = 9 then throw (Leaving.outcome (.ended (.killed 9)))
        leave (if limiting.preserving then signalStatusBase + limiting.signal else 124)

end LintBroker.Program.Utility
