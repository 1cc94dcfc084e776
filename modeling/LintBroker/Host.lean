/-
  LintBroker.Host

  What the library is given by the place it runs in: files, the search path for
  programs, its own data, and a way to run an engine.
-/
import LintBroker.Files.Disk
import LintBroker.Traced

namespace LintBroker

open LintBroker.Files

/-- The surroundings of an operation. -/
structure Host where
  disk : Disk
  /-- The directory of the configuration files that come with the library. -/
  dataDirectory : String
  /-- The search path for programs, when the environment has one. -/
  searchPath : Option String
  /-- Runs an engine. -/
  run : EngineRequest → Traced EngineRun

/-- The path of a configuration file that comes with the library. -/
def Host.bundled (host : Host) (name : String) : String := below host.dataDirectory name

/-- Asks for an engine to be run, and keeps the request. -/
def Host.ask (host : Host) (request : EngineRequest) : Traced EngineRun := do
  Traced.request request
  host.run request

end LintBroker
