/-
  LintBroker.Proofs.Availability

  Whether an engine that is said to be available can be launched.  The check and the
  launch look for a program each in its own way: the check goes by the search path of the
  process and takes a backslash for the sign of a path, the launch goes by the search path
  that the engine is given and knows no sign but the slash.  Where the two agree, a launch
  after a check meets a program (`launch_of_checkEngine`); where they do not, it may find
  nothing (`wantsProgram_strayEngines`).  The list of engines says what the check says
  (`checkEngine_of_mem_engineRows`).
-/
import LintBroker.Cli.Command
import LintBroker.Engine.Availability
import LintBroker.Program.System
import LintBroker.Proofs.CommandText
import LintBroker.Proofs.EngineLoading
import LintBroker.Proofs.Utf8
import LintBroker.Proofs.Walk

namespace LintBroker

open LintBroker.Files LintBroker.Program LintBroker.Shell LintBroker.Text

/-! ## Environments -/

namespace Program

theorem Environment.get?_put_of_ne {environment : Environment} {name other text : String}
    (h : other ≠ name) : (environment.put other text).get? name = environment.get? name := by
  have hname : (name == other) = false := beq_eq_false_iff_ne.mpr h.symm
  induction environment with
  | nil => simp only [put, get?, List.lookup_cons, hname, List.lookup_nil]
  | cons entry rest ih =>
    obtain ⟨key, value⟩ := entry
    rw [put]
    split
    · rename_i hkey
      subst hkey
      simp only [get?, List.lookup_cons, hname]
    · simp only [get?, List.lookup_cons] at ih ⊢
      rw [ih]

/-- A name that the upper environment does not give keeps its text. -/
theorem Environment.get?_overlay_of_eq_none {environment upper : Environment} {name : String}
    (h : upper.get? name = none) :
    (environment.overlay upper).get? name = environment.get? name := by
  induction upper generalizing environment with
  | nil => rfl
  | cons entry rest ih =>
    obtain ⟨key, value⟩ := entry
    simp only [get?, List.lookup_cons] at h
    split at h
    · cases h
    · rename_i hkey
      have hne : key ≠ name := fun heq => by simp [heq] at hkey
      rw [overlay, List.foldl_cons]
      exact (ih h).trans (get?_put_of_ne hne)

/-! ## Launchers -/

/-- A launcher goes by the files of a disk: what may not be executed there is refused. -/
def Launcher.GoesBy (launcher : Launcher) (disk : Disk) : Prop :=
  ∀ path command environment, Disk.hasNul path = false → disk.isProgram path = false →
    ∃ e, launcher.execute path command environment = .error e

/-- What may be executed on a tree is what its file system calls a program. -/
theorem executableAt_isOk_iff {tree : Tree} {directory : Place} {path : String}
    (hnul : Disk.hasNul path = false) :
    (∃ executable, executableAt tree directory (Octets.ofText path) = .ok executable)
      ↔ (tree.disk directory).isProgram path = true := by
  have hempty : Octets.ofText path = [] → tree.find directory path = .error .noEntry := by
    intro hnil
    rw [← Octets.toText_ofText path, hnil]
    rfl
  have hrefused : ∀ e : SystemError,
      ¬ ∃ executable, (.error e : Except SystemError Executable) = .ok executable := by
    rintro e ⟨executable, h⟩
    cases h
  unfold executableAt Disk.isProgram
  simp only [hnul, Tree.disk, Octets.toText_ofText]
  by_cases hnil : Octets.ofText path = []
  · rw [if_pos hnil, hempty hnil]
    exact iff_of_false (hrefused .denied) (by simp [Except.map])
  · rw [if_neg hnil]
    cases hfind : tree.find directory path with
    | error e => exact iff_of_false (hrefused e) (by simp [Except.map])
    | ok entry =>
      cases entry with
      | directory => exact iff_of_false (hrefused .denied) Bool.false_ne_true
      | file bytes executable =>
        cases executable with
        | false => exact iff_of_false (hrefused .denied) Bool.false_ne_true
        | true => exact iff_of_true ⟨_, rfl⟩ rfl
      | program name => exact iff_of_true ⟨_, rfl⟩ rfl
      | device device => exact iff_of_false (hrefused .denied) Bool.false_ne_true

/-- The launcher on a tree goes by the files of the tree. -/
theorem goesBy_launcher (tree : Tree) (directory : Place) (environment : Environment) :
    (launcher tree directory environment).GoesBy (tree.disk directory) := by
  intro path command given hnul hno
  cases hexecutable : executableAt tree directory (Octets.ofText path) with
  | ok executable =>
    rw [(executableAt_isOk_iff hnul).mp ⟨executable, hexecutable⟩] at hno
    cases hno
  | error e =>
    have hprogram : ∀ fuel args,
        programAt tree directory fuel (Octets.ofText path) args = .error e := by
      intro fuel args
      unfold programAt
      rw [hexecutable]
      rfl
    have hstart : ∀ depth (call : Call) (world : World), world.tree = tree →
        call.directory = directory →
        ∃ e, start (depth + 1) (Octets.ofText path) call world = .error e := by
      rintro depth call world rfl rfl
      rw [start]
      split
      · exact ⟨_, rfl⟩
      · rw [hprogram]
        exact ⟨e, rfl⟩
    obtain ⟨refusal, hrefusal⟩ := hstart 39
      { args := command.map Octets.ofText
        environment := given.map fun entry => (Octets.ofText entry.1, Octets.ofText entry.2)
        directory, channels := [(0, 0), (1, 1), (2, 2)] }
      { tree, streams := freshStreams } rfl rfl
    refine ⟨refusal, ?_⟩
    simp only [launcher, execute, startLimit, hrefusal]

theorem exists_error_of_tryEach {start : String → Except SystemError Result}
    {kept : SystemError × Bool} {paths : List String}
    (h : ∀ path ∈ paths, ∃ e, start path = .error e) :
    ∃ e, tryEach start kept paths = .error e := by
  induction paths generalizing kept with
  | nil => exact ⟨kept.1, rfl⟩
  | cons path rest ih =>
    obtain ⟨e, he⟩ := h path (List.mem_cons_self ..)
    have hrest := fun kept => @ih kept fun p hp => h p (List.mem_cons_of_mem _ hp)
    simp only [tryEach, he]
    split
    · exact hrest _
    · exact hrest _

/-- A launch fails when nothing may be executed at any of the paths that it tries. -/
theorem exists_failure_of_launch {launcher : Launcher} {disk : Disk} (hgoes : launcher.GoesBy disk)
    {program : String} (args : List String) {environment : Option Environment}
    (h : ∀ path ∈ candidates ((environment.getD launcher.environment).get? "PATH") program,
      disk.isProgram path = false) :
    ∃ failure, launch launcher program args environment = .error failure := by
  unfold launch
  simp only
  split
  · exact ⟨_, rfl⟩
  split
  · exact ⟨_, rfl⟩
  rename_i hnul
  rw [List.any_eq_true, not_exists] at hnul
  have hrefused : ∀ path ∈ candidates ((environment.getD launcher.environment).get? "PATH") program,
      ∃ e, startPath launcher (program :: args) (environment.getD launcher.environment) path
        = .error e := by
    intro path hpath
    unfold startPath
    split
    · exact ⟨_, rfl⟩
    · refine hgoes path _ _ ?_ (h path hpath)
      exact Bool.eq_false_iff.mpr fun hbad => hnul path
        ⟨List.mem_append_left _ (List.mem_append_left _ hpath), hbad⟩
  obtain ⟨e, he⟩ := exists_error_of_tryEach hrefused
  rw [he]
  exact ⟨_, rfl⟩

end Program

/-! ## Checks -/

variable {disk : Disk} {launcher : Launcher} {engine : Engine}

/-- What a check without complaints has seen: a file of its own that may be executed, or a program
    on the search path of the process. -/
theorem checkEngine_eq_ok_none {searchPath : Option String}
    (h : checkEngine disk searchPath engine = .ok none) :
    ∃ program rest, words engine.command = .ok (program :: rest)
      ∧ ((namesPath program = true ∨ '\\' ∈ program.toList)
            ∧ disk.isFile (normalize program) = .ok true ∧ disk.executable program = true
          ∨ isOnPath disk searchPath program = true) := by
  unfold checkEngine at h
  split at h
  · cases h
  · cases h
  rename_i program rest hwords
  refine ⟨program, rest, hwords, ?_⟩
  have hpath : ∀ {complaint : String},
      (if isOnPath disk searchPath program = true then pure none else pure (some complaint)
        : Except Failure (Option String)) = .ok none → isOnPath disk searchPath program = true := by
    intro complaint hnone
    split at hnone
    · assumption
    · cases hnone
  simp only at h
  split at h
  · rename_i hlooks
    obtain ⟨isFile, hfile, h⟩ := except_bind_eq_ok.mp h
    split at h
    · rename_i hfound
      obtain ⟨rfl, hexecutable⟩ := Bool.and_eq_true_iff.mp hfound
      refine Or.inl ⟨?_, hfile, hexecutable⟩
      obtain ⟨c, hc, hmark⟩ := List.any_eq_true.mp hlooks
      rw [Bool.or_eq_true, beq_iff_eq, beq_iff_eq] at hmark
      rcases hmark with rfl | rfl
      · exact Or.inl (List.contains_iff_mem.mpr hc)
      · exact Or.inr hc
    · exact Or.inr (hpath h)
  · exact Or.inr (hpath h)

/-- A file that may be executed is a program also if its path is not normalized. -/
theorem isProgram_of_isFile_normalize (hdisk : disk.Lawful) {path : String}
    (hfile : disk.isFile (normalize path) = .ok true) (hexecutable : disk.executable path = true) :
    disk.isProgram path = true := by
  unfold Disk.isFile Disk.probe at hfile
  split at hfile
  · cases hfile
  rename_i hnul
  have hpath : Disk.hasNul path = false :=
    hasNul_eq_false_of_normalize (Bool.eq_false_iff.mpr hnul)
  obtain ⟨kind, hkind⟩ := hdisk.kind_of_executable path hexecutable
  rw [hdisk.kind_normalize path kind hkind] at hfile
  cases kind with
  | regular =>
    unfold Disk.isProgram
    rw [hpath, hkind]
    exact hexecutable
  | directory => cases hfile
  | other => cases hfile

/-! ## Launches -/

/-- The environment that an engine is launched in. -/
def launchEnvironment (launcher : Launcher) (engine : Engine) : Environment :=
  (engineEnvironment launcher engine).getD launcher.environment

/-- A launch of an engine meets its program: at one of the paths that are tried there is something
    that may be executed. -/
def Meets (disk : Disk) (launcher : Launcher) (engine : Engine) (program : String) : Prop :=
  ∃ path ∈ candidates ((launchEnvironment launcher engine).get? "PATH") program,
    disk.isProgram path = true

instance (disk : Disk) (launcher : Launcher) (engine : Engine) (program : String) :
    Decidable (Meets disk launcher engine program) :=
  inferInstanceAs (Decidable (∃ path ∈ candidates _ _, _ = true))

/-- A run fails for want of a program: it fails, and its launch meets none. -/
structure WantsProgram (disk : Disk) (launcher : Launcher) (request : EngineRequest) : Prop where
  failed : ∃ failure, (runEngine launcher request).result = .error failure
  nowhere : ∀ program args, buildCommand request = .ok (program :: args) →
    ¬ Meets disk launcher request.engine program

/-- An engine without a search path of its own is launched with that of the process. -/
theorem get?_launchEnvironment (h : engine.env.lookup "PATH" = none) :
    (launchEnvironment launcher engine).get? "PATH" = launcher.environment.get? "PATH" := by
  unfold launchEnvironment engineEnvironment
  split
  · rfl
  · exact Environment.get?_overlay_of_eq_none h

/-- A run whose launch meets no program fails. -/
theorem exists_failure_of_runEngine (hgoes : launcher.GoesBy disk) {request : EngineRequest}
    {program : String} {args : List String}
    (hcommand : buildCommand request = .ok (program :: args))
    (hnowhere : ¬ Meets disk launcher request.engine program) :
    ∃ failure, (runEngine launcher request).result = .error failure := by
  have hpaths : ∀ path ∈ candidates
      ((launchEnvironment launcher request.engine).get? "PATH") program,
      disk.isProgram path = false := fun path hpath =>
    Bool.eq_false_iff.mpr fun hprogram => hnowhere ⟨path, hpath, hprogram⟩
  obtain ⟨failure, hfailure⟩ := exists_failure_of_launch hgoes args hpaths
  refine ⟨launchFailure request.engine program failure, ?_⟩
  rw [runEngine_of_buildCommand hcommand, hfailure]

/-- A run of a command fails for want of a program exactly if its launch meets none. -/
theorem wantsProgram_iff (hgoes : launcher.GoesBy disk) {request : EngineRequest}
    {program : String} {args : List String}
    (hcommand : buildCommand request = .ok (program :: args)) :
    WantsProgram disk launcher request ↔ ¬ Meets disk launcher request.engine program := by
  constructor
  · exact fun hwants => hwants.nowhere program args hcommand
  · intro hnowhere
    refine ⟨exists_failure_of_runEngine hgoes hcommand hnowhere, fun other others hother => ?_⟩
    cases hcommand.symm.trans hother
    exact hnowhere

theorem buildCommand_of_words {request : EngineRequest} {program : String} {rest : List String}
    (h : words request.engine.command = .ok (program :: rest)) :
    ∃ args, buildCommand request = .ok (program :: args) := by
  unfold buildCommand
  rw [h]
  exact ⟨_, rfl⟩

/-- Where the check and the launch agree on what a path is and on the search path, the launch of an
    engine that was checked without complaints meets its program. -/
theorem meets_of_checkEngine (hdisk : disk.Lawful)
    (h : checkEngine disk (launcher.environment.get? "PATH") engine = .ok none)
    {program : String} {rest : List String} (hwords : words engine.command = .ok (program :: rest))
    (hagree : namesPath program = true
      ∨ '\\' ∉ program.toList ∧ engine.env.lookup "PATH" = none) :
    Meets disk launcher engine program := by
  obtain ⟨seen, others, hseenWords, hseen⟩ := checkEngine_eq_ok_none h
  cases hwords.symm.trans hseenWords
  rcases hseen with ⟨hlooks, hfile, hexecutable⟩ | hpath
  · -- The check took the name for a path, and so does the launch if there is a slash in it.
    have hslash : namesPath program = true := by
      rcases hagree with hslash | ⟨hplain, -⟩
      · exact hslash
      · exact hlooks.resolve_right hplain
    refine ⟨program, ?_, isProgram_of_isFile_normalize hdisk hfile hexecutable⟩
    rw [candidates, if_pos hslash]
    exact List.mem_singleton_self program
  · obtain ⟨-, hfound⟩ := Bool.and_eq_true_iff.mp hpath
    obtain ⟨path, hcandidate, hprogram⟩ := List.any_eq_true.mp hfound
    refine ⟨path, ?_, hprogram⟩
    rcases hagree with hslash | ⟨-, henv⟩
    · unfold candidates at hcandidate ⊢
      rw [if_pos hslash] at hcandidate ⊢
      exact hcandidate
    · rw [get?_launchEnvironment henv]
      exact hcandidate

/-- A run of an engine that was checked without complaints, on a file system of any kind.  It fails
    for want of a program exactly if its launch meets none; and that cannot be if the name of the
    program has a slash, or if it has no backslash and the engine has no search path of its own. -/
theorem launch_of_checkEngine (hdisk : disk.Lawful) (hgoes : launcher.GoesBy disk)
    (h : checkEngine disk (launcher.environment.get? "PATH") engine = .ok none) :
    ∃ program rest, words engine.command = .ok (program :: rest)
      ∧ ∀ request : EngineRequest, request.engine = engine →
        (WantsProgram disk launcher request ↔ ¬ Meets disk launcher engine program)
          ∧ (namesPath program = true
              ∨ '\\' ∉ program.toList ∧ engine.env.lookup "PATH" = none →
            ¬ WantsProgram disk launcher request) := by
  obtain ⟨program, rest, hwords, -⟩ := checkEngine_eq_ok_none h
  refine ⟨program, rest, hwords, ?_⟩
  rintro request rfl
  obtain ⟨args, hcommand⟩ := buildCommand_of_words hwords
  have hwants := wantsProgram_iff hgoes hcommand
  refine ⟨hwants, fun hagree => ?_⟩
  rw [hwants, not_not]
  exact meets_of_checkEngine hdisk h hwords hagree

/-! ## Programs of a tree -/

/-- A directory of programs with one in it, and a program whose name has a backslash. -/
def toolTree : Tree :=
  [(["m.py"], .file [] false), (["bin"], .directory), (["bin", "tool"], .file [] true),
    (["a\\b"], .file [] true)]

/-- The launcher on that tree, with its directory of programs as the search path. -/
def toolLauncher : Launcher := Program.launcher toolTree [] [("PATH", "bin")]

/-- The program in the directory of programs. -/
def toolEngine : Engine := { Engine.pyright with command := "tool" }

/-- The same program for an engine that is launched with another search path. -/
def strayEngine : Engine := { toolEngine with env := [("PATH", "elsewhere")] }

/-- That engine with the path of the program, which is not normalized. -/
def slashEngine : Engine := { strayEngine with command := "./bin//tool" }

/-- On that tree the program is said to be available by its name and by its path, and a run does not
    fail for want of it: by its name as there is one search path only, by its path whatever the
    search path. -/
theorem launch_of_checkEngine_toolEngine :
    checkEngine (toolTree.disk []) (toolLauncher.environment.get? "PATH") toolEngine = .ok none
      ∧ ¬ WantsProgram (toolTree.disk []) toolLauncher { engine := toolEngine, file := "m.py" }
      ∧ checkEngine (toolTree.disk []) (toolLauncher.environment.get? "PATH") slashEngine
        = .ok none
      ∧ ¬ WantsProgram (toolTree.disk []) toolLauncher
        { engine := slashEngine, file := "m.py" } := by
  have hlawful := Tree.lawful_disk toolTree []
  have hgoes : toolLauncher.GoesBy (toolTree.disk []) := Program.goesBy_launcher toolTree [] _
  have hname : checkEngine (toolTree.disk []) (toolLauncher.environment.get? "PATH") toolEngine
      = .ok none := by
    decide +kernel
  have hpath : checkEngine (toolTree.disk []) (toolLauncher.environment.get? "PATH") slashEngine
      = .ok none := by
    decide +kernel
  refine ⟨hname, ?name, hpath, ?path⟩
  case name =>
    obtain ⟨program, rest, hwords, hruns⟩ := launch_of_checkEngine hlawful hgoes hname
    have hcommand : words toolEngine.command = .ok ["tool"] := by decide +kernel
    cases hcommand.symm.trans hwords
    exact (hruns _ rfl).2 (Or.inr (by decide))
  case path =>
    obtain ⟨program, rest, hwords, hruns⟩ := launch_of_checkEngine hlawful hgoes hpath
    have hcommand : words slashEngine.command = .ok ["./bin//tool"] := by decide +kernel
    cases hcommand.symm.trans hwords
    exact (hruns _ rfl).2 (Or.inl (by decide))

/-- The program whose name has a backslash. -/
def backslashEngine : Engine := { Engine.stylelint with command := "'a\\b'" }

/-- A configuration that puts the stray engine and that one in the places of two known ones. -/
def strayConfig : Members :=
  [("engines", .table
    [("pyright", .table [("command", .text "tool"), ("env", .table [("PATH", .text "elsewhere")])]),
      ("stylelint", .table [("command", .text "'a\\b'")])])]

/-- Both engines of the configuration are said to be available, and a run of either fails since its
    launch meets no program. -/
theorem wantsProgram_strayEngines :
    (loadEngines strayConfig).result
        = .ok [("eslint", Engine.eslint), ("htmlhint", Engine.htmlhint),
          ("stylelint", backslashEngine), ("pyright", strayEngine)]
      ∧ toolLauncher.environment.get? "PATH" = some "bin"
      ∧ checkEngine (toolTree.disk []) (some "bin") strayEngine = .ok none
      ∧ (runEngine toolLauncher { engine := strayEngine, file := "m.py" }).result
        = .error (.engine
            "Failed to launch pyright (tool): [Errno 2] No such file or directory: 'tool'")
      ∧ WantsProgram (toolTree.disk []) toolLauncher { engine := strayEngine, file := "m.py" }
      ∧ checkEngine (toolTree.disk []) (some "bin") backslashEngine = .ok none
      ∧ WantsProgram (toolTree.disk []) toolLauncher { engine := backslashEngine, file := "m.py" }
      := by
  have hload : (loadEngines strayConfig).result
      = .ok [("eslint", Engine.eslint), ("htmlhint", Engine.htmlhint),
          ("stylelint", backslashEngine), ("pyright", strayEngine)] := by
    decide +kernel
  have hrun : (runEngine toolLauncher { engine := strayEngine, file := "m.py" }).result
      = .error (.engine
          "Failed to launch pyright (tool): [Errno 2] No such file or directory: 'tool'") := by
    decide +kernel
  have hgoes : toolLauncher.GoesBy (toolTree.disk []) := Program.goesBy_launcher toolTree [] _
  have hstray : buildCommand { engine := strayEngine, file := "m.py" } = .ok ["tool", "m.py"] := by
    decide +kernel
  have hbackslash : buildCommand { engine := backslashEngine, file := "m.py" }
      = .ok ["a\\b", "--formatter", "json", "m.py"] := by
    decide +kernel
  refine ⟨hload, rfl, by decide +kernel, hrun, ?_, by decide +kernel, ?_⟩
  · exact (wantsProgram_iff hgoes hstray).mpr (by decide +kernel)
  · exact (wantsProgram_iff hgoes hbackslash).mpr (by decide +kernel)

/-! ## Engines that are listed as available -/

/-- Each row of the list of engines is about the engine in its place, and holds what the check says
    of it. -/
theorem forall₂_of_engineRows {host : Host} {table : EngineTable} {rows : List Cli.EngineRow}
    (h : Cli.engineRows host table = .ok rows) :
    List.Forall₂ (fun engine row => row.engine = engine
      ∧ checkEngine host.disk host.searchPath engine = .ok row.problem)
      (table.map Prod.snd) rows := by
  rw [List.forall₂_map_left_iff]
  refine (forall₂_of_mapM_eq_ok h).imp ?_
  rintro ⟨name, engine⟩ row hread
  obtain ⟨problem, hproblem, rfl⟩ := except_map_eq_ok.mp hread
  exact ⟨rfl, hproblem⟩

theorem checkEngine_of_mem_engineRows {host : Host} {table : EngineTable}
    {rows : List Cli.EngineRow} (h : Cli.engineRows host table = .ok rows) {row : Cli.EngineRow}
    (hrow : row ∈ rows) :
    row.engine ∈ table.map Prod.snd
      ∧ checkEngine host.disk host.searchPath row.engine = .ok row.problem := by
  obtain ⟨engine, hengine, rfl, hcheck⟩ :=
    exists_of_mem_of_forall₂ (forall₂_of_engineRows h).flip hrow
  exact ⟨hengine, hcheck⟩

/-- A launch of an engine that is listed as available meets its program, where the two look-ups
    agree. -/
theorem meets_of_mem_engineRows {host : Host} (hdisk : host.disk.Lawful)
    (hpath : host.searchPath = launcher.environment.get? "PATH") {table : EngineTable}
    {rows : List Cli.EngineRow} (h : Cli.engineRows host table = .ok rows) {row : Cli.EngineRow}
    (hrow : row ∈ rows) (hlisted : row.problem = none) {program : String} {rest : List String}
    (hwords : words row.engine.command = .ok (program :: rest))
    (hagree : namesPath program = true
      ∨ '\\' ∉ program.toList ∧ row.engine.env.lookup "PATH" = none) :
    Meets host.disk launcher row.engine program := by
  obtain ⟨-, hcheck⟩ := checkEngine_of_mem_engineRows h hrow
  rw [hlisted, hpath] at hcheck
  exact meets_of_checkEngine hdisk hcheck hwords hagree

end LintBroker
