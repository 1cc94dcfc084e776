/-
  LintBroker.Proofs.CommandParts

  What an argument list is made of.  It is the words of the command, the extra arguments
  and one argument for each template, in this order, and the path of the target is seen in
  no other place than the arguments whose templates show it: its content can neither add
  an argument nor take one away, nor change another one.  An analysis makes the same
  request whether it is to fix or not, up to one extra argument of two of the linters
  (`commands_agree`).
-/
import LintBroker.Proofs.Analysis
import LintBroker.Proofs.Filling

namespace LintBroker

open LintBroker.Files LintBroker.Shell

/-! ## Arguments without the file -/

/-- A text without the mark is left as it is. -/
theorem fillFrom_of_not_infix {b : Char} {m cs : List Char} (h : ¬ (b :: m) <:+: cs)
    (value : List Char) : fillFrom (b :: m) value 0 cs = cs := by
  induction cs with
  | nil => rfl
  | cons c rest ih =>
    rw [List.infix_cons_iff, not_or] at h
    rw [fillFrom_cons_of_no_mark h.1, ih h.2]

/-- The file is not seen in an argument whose template has no place for it. -/
theorem fillArg_congr_file {arg : String} (h : ¬ Engine.filePlace.toList <:+: arg.toList)
    (file file' config : String) : fillArg file config arg = fillArg file' config arg := by
  rw [toList_filePlace] at h
  simp only [fillArg, fill, toList_filePlace, fillFrom_of_not_infix h]

/-- What the building of two argument lists of an engine comes to, with different files.  Both fail
    alike, or both are the same words and extra arguments with one argument for each template
    behind them, which is the same in both unless its template shows the file. -/
inductive Engine.Agrees (engine : Engine) (extraArgs : List String) :
    Except Failure (List String) → Except Failure (List String) → Prop where
  | malformed {fault : WordsFault} (hwords : words engine.command = .error fault) :
      engine.Agrees extraArgs (.error (.invalidValue (malformedCommand engine fault)))
        (.error (.invalidValue (malformedCommand engine fault)))
  | built {base out out' : List String} (hwords : words engine.command = .ok base)
      (hlength : out.length = engine.args.length) (hlength' : out'.length = engine.args.length)
      (hsame : ∀ (i : Nat) (arg : String), engine.args[i]? = some arg →
        ¬ Engine.filePlace.toList <:+: arg.toList → out[i]? = out'[i]?) :
      engine.Agrees extraArgs (.ok (base ++ extraArgs ++ out)) (.ok (base ++ extraArgs ++ out'))

theorem agrees_buildCommand (engine : Engine) (configPath : String) (extraArgs : List String)
    (file file' : String) :
    engine.Agrees extraArgs (buildCommand { engine, file, configPath, extraArgs })
      (buildCommand { engine, file := file', configPath, extraArgs }) := by
  unfold buildCommand
  cases hwords : words engine.command with
  | error fault => exact .malformed hwords
  | ok base =>
    refine .built hwords (List.length_map ..) (List.length_map ..) fun i arg harg hplace => ?_
    rw [List.getElem?_map, List.getElem?_map, harg, Option.map_some, Option.map_some,
      fillArg_congr_file hplace file file' configPath]

/-! ## Requests of an analysis -/

/-- The configuration that a linter gives its engine. -/
def Linter.configPath (linter : Linter) (host : Host) : String :=
  match linter with
  | .script => host.bundled scriptRulesName
  | .page => host.bundled pageRulesName
  | .style => ""
  | .python => ""

/-- The arguments that ask the engine of a linter to fix what it can; two of them fix nothing. -/
def Linter.fixing : Linter → List String
  | .script => ["--fix"]
  | .page => []
  | .style => ["--fix"]
  | .python => []

/-- The request that a linter makes for a target. -/
def Linter.request (linter : Linter) (host : Host) (engine : Engine) (target : String)
    (fix : Bool) : EngineRequest where
  engine
  file := target
  configPath := linter.configPath host
  extraArgs := if fix then linter.fixing else []

variable {host : Host} {linter : Linter}

/-- A linter that does not balk at its target makes its request and no other one. -/
theorem Linter.requests_lint (host : Host) (linter : Linter) (engine : Engine) (target : String) :
    (linter.Balks host.disk target ∧ ∀ fix, (linter.lint host engine target fix).requests = [])
      ∨ ∀ fix, (linter.lint host engine target fix).requests
        = (host.ask (linter.request host engine target fix)).requests := by
  cases linter with
  | script => exact Or.inr fun fix => Traced.requests_bind_of_within within_scriptIssues
  | page =>
    unfold Linter.lint lintPage Linter.Balks
    cases host.disk.readText target with
    | error failure => exact Or.inl ⟨⟨rfl, fun _ h => by cases h⟩, fun fix => rfl⟩
    | ok text =>
      refine Or.inr fun fix => ?_
      have hask : ({ engine, file := target, configPath := host.bundled pageRulesName }
          : EngineRequest) = Linter.page.request host engine target fix := by
        cases fix <;> rfl
      rw [← hask]
      exact Traced.requests_bind_of_within (within_pageIssues target)
  | style => exact Or.inr fun fix => Traced.requests_bind_of_within within_styleIssues
  | python =>
    refine Or.inr fun fix => ?_
    have hask : ({ engine, file := target } : EngineRequest)
        = Linter.python.request host engine target fix := by
      cases fix <;> rfl
    rw [← hask]
    exact Traced.requests_bind_of_within (within_pythonIssues target)

/-- Settling a failure asks for no engine. -/
theorem Linter.requests_handle_settle (linter : Linter) (x : Traced Outcome) :
    (x.handle linter.settle).requests = x.requests := by
  cases hx : x.result with
  | ok outcome => rw [Traced.handle_of_ok hx]
  | error failure =>
    rw [Traced.handle_of_error hx]
    unfold Linter.settle
    split
    · exact List.append_nil _
    · exact List.append_nil _

/-- An analysis that is blocked or has no engine makes no request; any other one makes that of its
    linter for the normalized path.  Which of the two does not depend on whether it is to fix. -/
theorem requests_analyzeFile (host : Host) (table : EngineTable) (path : String)
    {language : String} (hlanguage : Linter.ofLanguage language = .ok linter) :
    ((linter.Blocked host.disk path
        ∨ (if table.isEmpty then Engine.defaults else table).get? linter.engineName = none)
      ∧ ∀ fix, (analyzeFile host table path language fix).requests = [])
      ∨ ∃ engine, (if table.isEmpty then Engine.defaults else table).get? linter.engineName
          = some engine
        ∧ ∀ fix, (analyzeFile host table path language fix).requests
          = (host.ask (linter.request host engine (normalize path) fix)).requests := by
  unfold analyzeFile
  simp only [hlanguage, Traced.ofExcept_ok_bind]
  cases EngineTable.get? (if table.isEmpty then Engine.defaults else table) linter.engineName with
  | none => exact Or.inl ⟨Or.inr rfl, fun fix => rfl⟩
  | some engine =>
    simp only [Linter.requests_handle_settle, Linter.attempt]
    cases htarget : requireTarget host.disk path linter.acceptsDirectory with
    | error failure =>
      exact Or.inl ⟨Or.inl (Linter.blocked_of_requireTarget htarget), fun fix => rfl⟩
    | ok target =>
      obtain ⟨rfl, -⟩ := requireTarget_eq_ok_iff.mp htarget
      have hlint : ∀ fix, ((linter.lint host engine (normalize path) fix) >>= fun issues =>
          (pure (.found issues) : Traced Outcome)).requests
            = (linter.lint host engine (normalize path) fix).requests :=
        fun fix => Traced.requests_bind_of_within fun _ => Traced.within_pure _
      simp only [Traced.ofExcept_ok_bind, hlint]
      rcases linter.requests_lint host engine (normalize path) with ⟨hbalks, hnone⟩ | hasked
      · exact Or.inl ⟨Or.inl (Or.inr (Or.inr hbalks)), hnone⟩
      · exact Or.inr ⟨engine, rfl, hasked⟩

/-! ## The choice to fix -/

/-- The requests of an analysis that is not to fix and those of the same one that is.  There is at
    most one, and both are the same but for the extra arguments: where the command can be cut into
    words, the arguments of the linter for fixing follow them directly, and nothing else changes. -/
inductive Linter.FixAdds (linter : Linter) : List EngineRequest → List EngineRequest → Prop where
  | none : linter.FixAdds [] []
  | one (request : EngineRequest) (hplain : request.extraArgs = [])
      (hmalformed : ∀ fault, words request.engine.command = .error fault →
        buildCommand { request with extraArgs := linter.fixing } = buildCommand request)
      (hcommands : ∀ base, words request.engine.command = .ok base →
        ∃ args, buildCommand request = .ok (base ++ args)
          ∧ buildCommand { request with extraArgs := linter.fixing }
            = .ok (base ++ linter.fixing ++ args)) :
      linter.FixAdds [request] [{ request with extraArgs := linter.fixing }]

theorem Linter.fixAdds_request (linter : Linter) (host : Host) (engine : Engine)
    (target : String) :
    linter.FixAdds [linter.request host engine target false]
      [linter.request host engine target true] := by
  have hcommand : ∀ fix base, words engine.command = .ok base →
      buildCommand (linter.request host engine target fix)
        = .ok (base ++ (if fix then linter.fixing else [])
          ++ engine.args.map (fillArg target (linter.configPath host))) := by
    intro fix base hwords
    simp only [buildCommand, Linter.request, hwords]
  refine .one (linter.request host engine target false) rfl ?_ ?_
  · intro fault (hwords : words engine.command = .error fault)
    simp only [buildCommand, Linter.request, hwords]
  · intro base hwords
    refine ⟨engine.args.map (fillArg target (linter.configPath host)), ?_,
      hcommand true base hwords⟩
    rw [hcommand false base hwords, if_neg Bool.false_ne_true, List.append_nil]

namespace Traced

variable {α β : Type}

/-- Two computations end alike and log the same; they may differ in what they ask for. -/
structure Alike (x y : Traced α) : Prop where
  result : x.result = y.result
  records : x.records = y.records

theorem Alike.refl (x : Traced α) : x.Alike x := ⟨rfl, rfl⟩

theorem Alike.bind {x y : Traced α} (h : x.Alike y) (next : α → Traced β) :
    (x >>= next).Alike (y >>= next) := by
  obtain ⟨result, records, asked⟩ := x
  obtain ⟨result', records', asked'⟩ := y
  obtain ⟨rfl, rfl⟩ : result = result' ∧ records = records' := ⟨h.result, h.records⟩
  cases result with
  | error failure => exact ⟨rfl, rfl⟩
  | ok a => exact ⟨rfl, rfl⟩

theorem Alike.handle {x y : Traced α} (h : x.Alike y) (handler : Failure → Traced α) :
    (x.handle handler).Alike (y.handle handler) := by
  obtain ⟨result, records, asked⟩ := x
  obtain ⟨result', records', asked'⟩ := y
  obtain ⟨rfl, rfl⟩ : result = result' ∧ records = records' := ⟨h.result, h.records⟩
  cases result with
  | error failure => exact ⟨rfl, rfl⟩
  | ok a => exact ⟨rfl, rfl⟩

end Traced

/-- The engines of a host do the same with these extra arguments as without any. -/
def Host.Overlooks (host : Host) (extraArgs : List String) : Prop :=
  ∀ request : EngineRequest, (host.run { request with extraArgs := [] }).Alike
    (host.run { request with extraArgs })

theorem Host.Overlooks.alike_ask {extraArgs : List String} (h : host.Overlooks extraArgs)
    (request : EngineRequest) :
    (host.ask { request with extraArgs := [] }).Alike (host.ask { request with extraArgs }) :=
  ⟨(h request).result, congrArg ([] ++ ·) (h request).records⟩

/-- A linter leaves nothing but the extra arguments to the choice to fix. -/
theorem Linter.alike_lint (h : host.Overlooks linter.fixing) (engine : Engine) (target : String) :
    (linter.lint host engine target false).Alike (linter.lint host engine target true) := by
  cases linter with
  | script => exact (h.alike_ask (Linter.script.request host engine target false)).bind _
  | page => exact .refl _
  | style => exact (h.alike_ask (Linter.style.request host engine target false)).bind _
  | python => exact .refl _

theorem alike_analyzeFile (h : host.Overlooks linter.fixing) (table : EngineTable) (path : String)
    {language : String} (hlanguage : Linter.ofLanguage language = .ok linter) :
    (analyzeFile host table path language false).Alike
      (analyzeFile host table path language true) := by
  unfold analyzeFile
  simp only [hlanguage, Traced.ofExcept_ok_bind]
  cases EngineTable.get? (if table.isEmpty then Engine.defaults else table) linter.engineName with
  | none => exact .refl _
  | some engine =>
    refine Traced.Alike.handle ?_ linter.settle
    unfold Linter.attempt
    cases requireTarget host.disk path linter.acceptsDirectory with
    | error failure => exact .refl _
    | ok target =>
      simp only [Traced.ofExcept_ok_bind]
      exact (linter.alike_lint h engine target).bind _

/-- Two argument lists of an engine that differ in their files agree in all but the arguments whose
    templates show the file.  And two analyses that differ in whether they are to fix make requests
    that differ by the arguments of the linter for fixing, right behind the words of the command;
    where the engine overlooks these, the analyses end alike. -/
theorem commands_agree :
    (∀ (engine : Engine) (configPath : String) (extraArgs : List String) (file file' : String),
        engine.Agrees extraArgs (buildCommand { engine, file, configPath, extraArgs })
          (buildCommand { engine, file := file', configPath, extraArgs }))
      ∧ ∀ (host : Host), (∀ request, (host.run request).requests = []) →
          ∀ (table : EngineTable) (path language : String) (linter : Linter),
            Linter.ofLanguage language = .ok linter →
        linter.FixAdds (analyzeFile host table path language false).requests
            (analyzeFile host table path language true).requests
          ∧ (host.Overlooks linter.fixing →
            (analyzeFile host table path language false).Alike
              (analyzeFile host table path language true)) := by
  refine ⟨agrees_buildCommand, ?_⟩
  intro host hrun table path language linter hlanguage
  refine ⟨?_, fun hoverlooks => alike_analyzeFile hoverlooks table path hlanguage⟩
  rcases requests_analyzeFile host table path hlanguage with
    ⟨-, hnone⟩ | ⟨engine, -, hasked⟩
  · rw [hnone, hnone]
    exact .none
  · rw [hasked, hasked, Host.requests_ask_of_run (hrun _), Host.requests_ask_of_run (hrun _)]
    exact linter.fixAdds_request host engine (normalize path)

theorem commands_agree_brokenHost :
    (∀ request, (brokenHost.run request).requests = [])
      ∧ Linter.ofLanguage "css" = .ok .style
      ∧ brokenHost.Overlooks Linter.style.fixing
      ∧ Linter.style.FixAdds (analyzeFile brokenHost [] "a.css" "css" false).requests
        (analyzeFile brokenHost [] "a.css" "css" true).requests
      ∧ (analyzeFile brokenHost [] "a.css" "css" false).Alike
        (analyzeFile brokenHost [] "a.css" "css" true)
      ∧ (analyzeFile brokenHost [] "a.css" "css" true).requests.map (·.extraArgs)
        = [["--fix"]] := by
  have hrun : ∀ request, (brokenHost.run request).requests = [] := fun _ => rfl
  have hlanguage : Linter.ofLanguage "css" = .ok .style := by decide
  have hoverlooks : brokenHost.Overlooks Linter.style.fixing := fun _ => .refl _
  obtain ⟨hadds, halike⟩ := commands_agree.2 brokenHost hrun [] "a.css" "css" .style hlanguage
  exact ⟨hrun, hlanguage, hoverlooks, hadds, halike hoverlooks, by decide +kernel⟩

end LintBroker
