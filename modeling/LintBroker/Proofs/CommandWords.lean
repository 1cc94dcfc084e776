/-
  LintBroker.Proofs.CommandWords

  The words of the commands in an engine table.  An entry is checked for a blank command
  by the white space of all scripts, and a command is cut at four characters only.  These
  four are blank, and once the cutting has met any other character it gives a word or it
  fails.  So a command that passed the check has a first word, or it cannot be cut at all;
  and what a run starts is that word and nothing else (`words_of_loadEngines`).
-/
import LintBroker.Proofs.Availability

namespace LintBroker

open LintBroker.Files LintBroker.Program LintBroker.Shell LintBroker.Text

/-! ## Cutting -/

namespace Shell

/-- Anywhere but between words, the cutting gives a word or fails. -/
theorem ne_nil_of_cut {mode : Mode} {done cs : List Char} {parts : List (List Char)}
    (h : cut mode done cs = .ok parts) (hmode : mode ≠ .gap) : parts ≠ [] := by
  induction cs generalizing mode done parts with
  | nil =>
    cases mode with
    | gap => exact absurd rfl hmode
    | word =>
      cases h
      exact List.cons_ne_nil _ _
    | _ => cases h
  | cons c rest ih =>
    cases mode with
    | gap => exact absurd rfl hmode
    | word =>
      rw [cut] at h
      split_ifs at h
      · obtain ⟨others, -, rfl⟩ := except_map_eq_ok.mp h
        exact List.cons_ne_nil _ _
      all_goals exact ih h (by decide)
    | single =>
      rw [cut] at h
      split_ifs at h
      all_goals exact ih h (by decide)
    | double =>
      rw [cut] at h
      split_ifs at h
      all_goals exact ih h (by decide)
    | escape quoted =>
      cases quoted with
      | false => exact ih h (by decide)
      | true =>
        rw [cut] at h
        split_ifs at h
        all_goals exact ih h (by decide)

/-- Between words there is no word to come exactly if there are only gaps. -/
theorem cut_gap_eq_ok_nil_iff {done cs : List Char} :
    cut .gap done cs = .ok [] ↔ ∀ c ∈ cs, isGap c = true := by
  induction cs with
  | nil => simp [cut]
  | cons c rest ih =>
    rw [cut, List.forall_mem_cons]
    by_cases hc : isGap c = true
    · rw [if_pos hc, ih, and_iff_right hc]
    · rw [if_neg hc]
      refine iff_of_false (fun h => ?_) fun hall => hc hall.1
      split_ifs at h
      all_goals exact ne_nil_of_cut h (by decide) rfl

theorem words_eq_ok_nil_iff {template : String} :
    words template = .ok [] ↔ ∀ c ∈ template.toList, isGap c = true := by
  simp only [words, except_map_eq_ok, List.map_eq_nil_iff, exists_eq_right, cut_gap_eq_ok_nil_iff]

theorem isBlank_of_isGap {c : Char} (h : isGap c = true) : isBlank c = true := by
  simp only [isGap, Bool.or_eq_true, beq_iff_eq, or_assoc] at h
  rcases h with rfl | rfl | rfl | rfl <;> decide

/-- A template with a character that is not blank has a word, or it cannot be cut. -/
theorem words_ne_ok_nil {template : String} (h : blank template = false) :
    words template ≠ .ok [] := by
  intro hnone
  rw [blank, List.all_eq_false] at h
  obtain ⟨c, hc, hblank⟩ := h
  exact hblank (isBlank_of_isGap (words_eq_ok_nil_iff.mp hnone c hc))

end Shell

/-! ## Commands of a table -/

/-- An accepted entry is a table, and gives its settings to the engine in force. -/
theorem readOverride_eq_ok {name : String} {entry : Datum} {inForce : Option Engine}
    {engine : Engine} (h : readOverride name entry inForce = .ok engine) :
    ∃ base members, inForce = some base ∧ base.overridden members = .ok engine := by
  unfold readOverride at h
  split at h
  · cases h
  · split at h
    · split at h
      · exact ⟨_, _, rfl, h⟩
      · cases h
    · cases h

/-- What every accepted entry keeps of the engine of its name holds of a table after any entries. -/
theorem forall_of_applyOverrides {P : String → Engine → Prop}
    (hkeep : ∀ {name : String} {base engine engine' : Engine} {members : Members}, P name base →
      base.overridden members = .ok engine → engine.withRealTimeout = .ok engine' → P name engine')
    {entries : Members} {table table' : EngineTable} (htable : ∀ entry ∈ table, P entry.1 entry.2)
    (h : (applyOverrides table entries).result = .ok table') :
    ∀ entry ∈ table', P entry.1 entry.2 := by
  induction entries generalizing table with
  | nil =>
    cases h
    exact htable
  | cons first rest ih =>
    obtain ⟨name, value⟩ := first
    rcases applyOverrides_cons h with ⟨_, _, hrun, _⟩ | ⟨engine, engine', hread, hreal, hrun, _⟩
    · exact ih htable hrun
    · obtain ⟨base, members, hbase, hover⟩ := readOverride_eq_ok hread
      obtain ⟨before, after, htable', -⟩ := List.lookup_eq_some_iff.mp hbase
      have hengine : P name engine' := by
        refine hkeep (htable (name, base) ?_) hover hreal
        rw [htable']
        exact List.mem_append_right before (List.mem_cons_self ..)
      refine ih (fun entry hentry => ?_) hrun
      obtain ⟨old, hold, rfl⟩ := List.mem_map.mp hentry
      split
      · exact hengine
      · exact htable old hold

/-- What holds of the known engines, and is kept by every accepted entry, holds of all engines of a
    configuration. -/
theorem forall_of_loadEngines {P : String → Engine → Prop}
    (hknown : ∀ entry ∈ Engine.defaults, P entry.1 entry.2)
    (hkeep : ∀ {name : String} {base engine engine' : Engine} {members : Members}, P name base →
      base.overridden members = .ok engine → engine.withRealTimeout = .ok engine' → P name engine')
    {config : Members} {table : EngineTable} (h : (loadEngines config).result = .ok table) :
    ∀ entry ∈ table, P entry.1 entry.2 :=
  forall_of_applyOverrides (P := P) hkeep hknown ((loadEngines_eq config).1.symm.trans h)

/-- No engine of a configuration has a blank command. -/
theorem blank_command_of_mem {config : Members} {table : EngineTable}
    (h : (loadEngines config).result = .ok table) :
    ∀ entry ∈ table, blank entry.2.command = false := by
  refine forall_of_loadEngines (P := fun _ engine => blank engine.command = false)
    (by decide +kernel) ?_ h
  intro name base engine engine' members hbase hover hreal
  obtain ⟨-, hcommand, -⟩ := overridden_eq_ok_iff.mp hover
  rw [eq_of_withRealTimeout hreal]
  show blank engine.command = false
  cases hgiven : members.get? "command" with
  | none =>
    rw [hgiven] at hcommand
    rw [show engine.command = base.command from hcommand, hbase]
  | some value => exact (commandOf?_eq_some_iff.mp (hcommand.shown hgiven)).2

/-! ## Launches of one program -/

namespace Program

theorem tryEach_congr {start other : String → Except SystemError Result} {paths : List String}
    (h : ∀ path ∈ paths, other path = start path) (kept : SystemError × Bool) :
    tryEach other kept paths = tryEach start kept paths := by
  induction paths generalizing kept with
  | nil => rfl
  | cons path rest ih =>
    have hrest := ih fun p hp => h p (List.mem_cons_of_mem _ hp)
    simp only [tryEach, h path (List.mem_cons_self ..), hrest]

/-- A launch depends on what the system does with the command at the paths of its program, and on
    nothing else of it. -/
theorem launch_congr {launcher other : Launcher} (henv : other.environment = launcher.environment)
    {program : String} {args : List String} {environment : Option Environment}
    (h : ∀ path ∈ candidates ((environment.getD launcher.environment).get? "PATH") program,
      ∀ given, other.execute path (program :: args) given
        = launcher.execute path (program :: args) given) :
    launch other program args environment = launch launcher program args environment := by
  have hstart : ∀ path ∈ candidates ((environment.getD launcher.environment).get? "PATH") program,
      startPath other (program :: args) (environment.getD launcher.environment) path
        = startPath launcher (program :: args) (environment.getD launcher.environment) path := by
    intro path hpath
    unfold startPath
    rw [h path hpath]
  simp only [launch, henv, tryEach_congr hstart]

end Program

/-! ## Engines whose command can be cut, and others -/

/-- An engine whose command cannot be cut: the check says so, and no command is built. -/
structure Engine.Malformed (engine : Engine) (fault : WordsFault) : Prop where
  checked : ∀ disk searchPath, checkEngine disk searchPath engine
    = .ok (some ("Malformed command string: " ++ quoted engine.command))
  refused : ∀ request : EngineRequest, request.engine = engine →
    buildCommand request = .error (.invalidValue (malformedCommand engine fault))

/-- An engine whose command names a program.  Each command that is built for it begins with that
    program; the check complains of nothing but that the program is not there; a run starts the
    program and nothing else, and names it when it cannot be started. -/
structure Engine.Names (engine : Engine) (program : String) (rest : List String) : Prop where
  checked : ∀ disk searchPath problem, checkEngine disk searchPath engine = .ok problem →
    problem = none ∨ problem = some ("Command " ++ quoted program ++ " not found on PATH")
  built : ∀ request : EngineRequest, request.engine = engine →
    ∃ args, buildCommand request = .ok (program :: (rest ++ args))
  alone : ∀ (request : EngineRequest) (args : List String), request.engine = engine →
    buildCommand request = .ok (program :: args) →
    ∀ launcher other : Launcher, other.environment = launcher.environment →
      (∀ path ∈ candidates ((launchEnvironment launcher engine).get? "PATH") program,
        ∀ given, other.execute path (program :: args) given
          = launcher.execute path (program :: args) given) →
      runEngine other request = runEngine launcher request
  named : ∀ (request : EngineRequest) (args : List String), request.engine = engine →
    buildCommand request = .ok (program :: args) →
    ∀ (launcher : Launcher) (failure : Failure),
      launch launcher program args (engineEnvironment launcher engine) = .error failure →
      failure.isSystem = true →
      (runEngine launcher request).result = .error (.engine
        ("Failed to launch " ++ engine.name ++ " (" ++ program ++ "): " ++ failure.message))

variable {engine : Engine}

theorem malformed_of_words {fault : WordsFault} (h : words engine.command = .error fault) :
    engine.Malformed fault where
  checked disk searchPath := by
    unfold checkEngine
    rw [h]
  refused request hengine := by
    unfold buildCommand
    rw [hengine, h]

/-- Of a program with a name the check has only one complaint. -/
theorem problem_of_checkEngine {program : String} {rest : List String}
    (h : words engine.command = .ok (program :: rest)) {disk : Disk} {searchPath : Option String}
    {problem : Option String} (hcheck : checkEngine disk searchPath engine = .ok problem) :
    problem = none ∨ problem = some ("Command " ++ quoted program ++ " not found on PATH") := by
  unfold checkEngine at hcheck
  rw [h] at hcheck
  simp only at hcheck
  -- Whether the name looks like a path only settles how the file is looked for.
  split at hcheck
  all_goals
    obtain ⟨isFile, -, hcheck⟩ := except_bind_eq_ok.mp hcheck
    split_ifs at hcheck
    · exact Or.inl (Except.ok.inj hcheck).symm
    · exact Or.inl (Except.ok.inj hcheck).symm
    · exact Or.inr (Except.ok.inj hcheck).symm

theorem names_of_words {program : String} {rest : List String}
    (h : words engine.command = .ok (program :: rest)) : engine.Names program rest where
  checked _ _ _ hcheck := problem_of_checkEngine h hcheck
  built request hengine := by
    unfold buildCommand
    rw [hengine, h]
    refine ⟨request.extraArgs ++ engine.args.map (fillArg request.file request.configPath), ?_⟩
    simp only [List.cons_append, List.append_assoc]
  alone request args hengine hcommand launcher other henv hsame := by
    subst hengine
    have hgiven : engineEnvironment other request.engine
        = engineEnvironment launcher request.engine := by
      unfold engineEnvironment
      rw [henv]
    rw [runEngine_of_buildCommand hcommand, runEngine_of_buildCommand hcommand, hgiven,
      launch_congr henv hsame]
  named request args hengine hcommand launcher failure hlaunch hsystem := by
    subst hengine
    rw [runEngine_of_buildCommand hcommand, hlaunch]
    simp only [launchFailure, if_pos hsystem]

/-! ## Complaints of the check -/

theorem ne_of_head?_ne {s t : String} (h : s.toList.head? ≠ t.toList.head?) : s ≠ t :=
  fun heq => h (congrArg (fun text : String => text.toList.head?) heq)

/-- A complaint about a program is none about the command. -/
theorem notFound_ne (program : String) :
    "Command " ++ quoted program ++ " not found on PATH" ≠ "Empty command"
      ∧ ∀ command, "Command " ++ quoted program ++ " not found on PATH"
        ≠ "Malformed command string: " ++ quoted command := by
  refine ⟨ne_of_head?_ne ?_, fun command => ne_of_head?_ne ?_⟩
  · simp [String.toList_append]
  · simp [String.toList_append]

theorem malformed_ne (command : String) :
    "Malformed command string: " ++ quoted command ≠ "Empty command" :=
  ne_of_head?_ne (by simp [String.toList_append])

/-- The command of an engine of a configuration can be cut into words and has a first one, or it
    cannot be cut.  The check tells the two apart as the building of commands does, and never calls
    a command empty; and the first word is the program that a run starts, whatever the arguments and
    the target, and that it names if the system does not start it. -/
theorem words_of_loadEngines (config : Option Members) {table : EngineTable}
    (h : (loadEngines (config.getD [])).result = .ok table) {name : String}
    (hmem : (name, engine) ∈ table) :
    ((∃ fault, words engine.command = .error fault ∧ engine.Malformed fault)
        ∨ ∃ program rest, words engine.command = .ok (program :: rest)
          ∧ engine.Names program rest)
      ∧ ∀ disk searchPath,
        checkEngine disk searchPath engine ≠ .ok (some "Empty command")
          ∧ ∀ request : EngineRequest, request.engine = engine →
            (checkEngine disk searchPath engine
                = .ok (some ("Malformed command string: " ++ quoted engine.command))
              ↔ ∃ message, buildCommand request = .error (.invalidValue message)) := by
  have hblank : blank engine.command = false := blank_command_of_mem h (name, engine) hmem
  cases hwords : words engine.command with
  | error fault =>
    have hmalformed := malformed_of_words hwords
    refine ⟨Or.inl ⟨fault, rfl, hmalformed⟩, fun disk searchPath => ⟨?_, fun request hengine => ?_⟩⟩
    · rw [hmalformed.checked]
      simpa using malformed_ne engine.command
    · exact iff_of_true (hmalformed.checked disk searchPath)
        ⟨_, hmalformed.refused request hengine⟩
  | ok base =>
    cases base with
    | nil => exact absurd hwords (words_ne_ok_nil hblank)
    | cons program rest =>
      have hnames := names_of_words hwords
      obtain ⟨hempty, hother⟩ := notFound_ne program
      refine ⟨Or.inr ⟨program, rest, rfl, hnames⟩,
        fun disk searchPath => ⟨fun hcheck => ?_, fun request hengine => ?_⟩⟩
      · rcases hnames.checked _ _ _ hcheck with hnone | hsome
        · cases hnone
        · exact hempty (Option.some.inj hsome).symm
      · refine iff_of_false (fun hcheck => ?_) ?_
        · rcases hnames.checked _ _ _ hcheck with hnone | hsome
          · cases hnone
          · exact hother _ (Option.some.inj hsome).symm
        · rintro ⟨message, hrefused⟩
          obtain ⟨args, hbuilt⟩ := hnames.built request hengine
          rw [hbuilt] at hrefused
          cases hrefused

/-- An engine whose command has a quotation without an end. -/
def unclosedEngine : Engine := { Engine.eslint with command := "eslint '--fix" }

/-- An engine whose command begins with an empty word. -/
def namelessEngine : Engine := { Engine.pyright with command := "\t'' x" }

/-- A configuration that puts the two engines in the places of known ones. -/
def quotedConfig : Members :=
  [("engines", .table
    [("eslint", .table [("command", .text "eslint '--fix")]),
      ("pyright", .table [("command", .text "\t'' x")])])]

/-- The command of the first one cannot be cut, and the second one names the program that has no
    name. -/
theorem words_of_loadEngines_quotedConfig :
    (loadEngines quotedConfig).result
        = .ok [("eslint", unclosedEngine), ("htmlhint", Engine.htmlhint),
          ("stylelint", Engine.stylelint), ("pyright", namelessEngine)]
      ∧ unclosedEngine.Malformed .noClosingQuotation
      ∧ namelessEngine.Names "" ["x"] := by
  have hload : (loadEngines quotedConfig).result
      = .ok [("eslint", unclosedEngine), ("htmlhint", Engine.htmlhint),
          ("stylelint", Engine.stylelint), ("pyright", namelessEngine)] := by
    decide +kernel
  refine ⟨hload, ?unclosed, ?nameless⟩
  case unclosed =>
    have hwords : words unclosedEngine.command = .error .noClosingQuotation := by decide +kernel
    rcases (words_of_loadEngines (some quotedConfig) hload (List.mem_cons_self ..)).1 with
      ⟨fault, hfault, hmalformed⟩ | ⟨program, rest, hfirst, -⟩
    · cases hwords.symm.trans hfault
      exact hmalformed
    · cases hwords.symm.trans hfirst
  case nameless =>
    have hwords : words namelessEngine.command = .ok ["", "x"] := by decide +kernel
    rcases (words_of_loadEngines (some quotedConfig) hload (List.mem_of_getLast? rfl)).1 with
      ⟨fault, hfault, -⟩ | ⟨program, rest, hfirst, hnames⟩
    · cases hwords.symm.trans hfault
    · cases hwords.symm.trans hfirst
      exact hnames

end LintBroker
