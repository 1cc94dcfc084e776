/-
  LintBroker.Shell.Loop

  Repeating a part of a script.  The rounds of a loop are bounded; one that goes beyond
  the bound counts as one that never ends.
-/
import LintBroker.Shell.State

namespace LintBroker.Shell

open LintBroker.Text

/-- The rounds after which a loop counts as endless. -/
def roundLimit : Nat := 100000

/-- How a round of a loop ended: it was the last one, the loop was left, or the next one follows. -/
inductive Round where
  | last
  | left
  | next
  deriving DecidableEq, Repr

/-- Repeats a round for as long as another one follows.  The status of the loop is that of the round
    before the last one, or of the command that left the loop. -/
def rounds (round : Act Round) : Nat → Nat → Act Unit
  | 0, _ => throw .endless
  | n + 1, status => fun state =>
    match (round.run state : Except Stop Round × State) with
    | (.ok .next, after) => rounds round n after.status after
    | (.ok .left, after) => (.ok (), after)
    | (.ok .last, after) => (.ok (), { after with status })
    | (.error stop, after) => (.error stop, after)

/-- Runs a round in a loop. -/
def inLoop (round : Act Round) : Act Round := do
  modify fun state => { state with loops := state.loops + 1 }
  let result ← attempt round
  modify fun state => { state with loops := state.loops - 1 }
  match result with
  | .ok r => return r
  | .error (.leave n) => if 1 < n then throw (.leave (n - 1)) else return .left
  | .error (.again n) => if 1 < n then throw (.again (n - 1)) else return .next
  | .error stop => throw stop

/-- A round for each of some texts, until the loop is left. -/
def roundsFor (round : Octets → Act Round) : List Octets → Act Unit
  | [] => return
  | text :: rest => do
    if (← round text) = .next then roundsFor round rest

end LintBroker.Shell
