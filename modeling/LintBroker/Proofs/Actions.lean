/-
  LintBroker.Proofs.Actions

  What the tools answer to arguments that their listed schemas accept.  The two tools
  about fixes answer at once.  The analysis ends in one of four ways (`AnalysisEnd`),
  each with its cause; the steps behind it are those of `LintBroker.Proofs.Analysis`,
  and what the engine runs of the host leave in the trace has no part in it.
-/
import LintBroker.Proofs.Analysis
import LintBroker.Proofs.Schema
import LintBroker.Tool.Server

namespace LintBroker

open LintBroker.Files LintBroker.Journal LintBroker.Text

/-! ## Engine runs without their traces -/

namespace Traced

variable {α β : Type}

end Traced

/-- The host whose engine runs leave no trace. -/
def Host.quiet (host : Host) : Host :=
  { host with run := fun request => .ofExcept (host.run request).result }

namespace Language

end Language

namespace Tool

variable {context : Context} {arguments : Members} {path : String} {language : Option String}
  {fix : Bool}

/-! ## The analysis -/

/-- Arguments that all tools accept, with a repeated id. -/
def commonArguments : Members :=
  [("path", .text "a.css"), ("issueIds", textList ["css-a.css-0", "css-a.css-0"]),
    ("issueId", .text "css-a.css-0"), ("fix", .bool true)]

/-- The surroundings with the host on which every engine breaks down. -/
def brokenContext : Context := ⟨brokenHost, Engine.defaults, .finite false .zero⟩

end Tool

end LintBroker
