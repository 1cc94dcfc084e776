/-
  LintBroker.Proofs.LaunchRefusal

  How the run of an engine can end.  What the system refuses to start is a failure of the
  engine, as is a command that cannot be cut.  But some texts are no part of a launch at
  all: a NUL in a word, an argument or a variable, and an equals sign in the name of a
  variable.  Such a text is refused before the system is asked, as a value that cannot be
  used.  The settings of an engine may hold them, so a run ends as an engine may exactly if
  they do not (`runEngine_settles`).
-/
import LintBroker.Proofs.CommandWords
import LintBroker.Proofs.Filling

namespace LintBroker

open LintBroker.Files LintBroker.Number LintBroker.Program LintBroker.Shell LintBroker.Text

/-! ## Characters of a command -/

namespace Shell

/-- A character that the cutting takes as it is, wherever it stands. -/
structure IsLiteral (c : Char) : Prop where
  not_gap : isGap c = false
  ne_backslash : c ≠ '\\'
  ne_single : c ≠ '\''
  ne_double : c ≠ '"'

/-- The characters of the current word; between words there is none. -/
def kept : Mode → List Char → List Char
  | .gap, _ => []
  | _, done => done

/-- Cutting neither loses nor adds a character that it takes as it is. -/
theorem mem_flatten_of_cut {c : Char} (hc : IsLiteral c) {mode : Mode} {done cs : List Char}
    {parts : List (List Char)} (h : cut mode done cs = .ok parts) :
    c ∈ parts.flatten ↔ c ∈ kept mode done ∨ c ∈ cs := by
  obtain ⟨hgap, hbackslash, hsingle, hdouble⟩ := hc
  induction cs generalizing mode done parts with
  | nil =>
    cases mode with
    | gap =>
      cases h
      simp [kept]
    | word =>
      cases h
      simp [kept]
    | _ => cases h
  | cons d rest ih =>
    cases mode with
    | gap =>
      rw [cut] at h
      split_ifs at h
      all_goals grind [ih h, kept]
    | word =>
      rw [cut] at h
      split_ifs at h
      · obtain ⟨others, hothers, rfl⟩ := except_map_eq_ok.mp h
        rw [List.flatten_cons, List.mem_append, List.mem_reverse]
        grind [ih hothers, kept]
      all_goals grind [ih h, kept]
    | single =>
      rw [cut] at h
      split_ifs at h
      all_goals grind [ih h, kept]
    | double =>
      rw [cut] at h
      split_ifs at h
      all_goals grind [ih h, kept]
    | escape quoted =>
      cases quoted with
      | false => grind [ih h, kept]
      | true =>
        rw [cut] at h
        split_ifs at h
        all_goals grind [ih h, kept]

theorem mem_words_iff {c : Char} (hc : IsLiteral c) {template : String} {base : List String}
    (h : words template = .ok base) :
    (∃ word ∈ base, c ∈ word.toList) ↔ c ∈ template.toList := by
  obtain ⟨parts, hparts, rfl⟩ := except_map_eq_ok.mp h
  have hmem := mem_flatten_of_cut hc hparts
  simp only [kept, List.not_mem_nil, false_or, List.mem_flatten] at hmem
  simp only [List.mem_map, exists_exists_and_eq_and, String.toList_ofList, hmem]

theorem isLiteral_nul : IsLiteral (Char.ofNat 0) := by
  constructor <;> decide

/-- A NUL in a template is in one of its words. -/
theorem any_hasNul_words {template : String} {base : List String}
    (h : words template = .ok base) : base.any Disk.hasNul = Disk.hasNul template := by
  rw [Bool.eq_iff_iff, List.any_eq_true]
  simp only [Disk.hasNul, List.contains_iff_mem]
  exact mem_words_iff isLiteral_nul h

end Shell

/-! ## Characters of an argument -/

/-- A character that is neither in the mark nor in the value is there after filling exactly if it
    was there before. -/
theorem mem_fillFrom_iff {b c : Char} {m value : List Char} (hmark : c ∉ b :: m)
    (hvalue : c ∉ value) {cs : List Char} : c ∈ fillFrom (b :: m) value 0 cs ↔ c ∈ cs := by
  induction cs using mark_induction (b :: m) (List.cons_ne_nil b m) with
  | nil => rfl
  | met rest ih =>
    rw [fillFrom_mark, List.mem_append, List.mem_append, ih, or_iff_right hvalue,
      or_iff_right hmark]
  | char d rest hd ih => rw [fillFrom_cons_of_no_mark hd, List.mem_cons, List.mem_cons, ih]

/-- Paths without NUL bring none into an argument. -/
theorem hasNul_fillArg {file config : String} (hfile : Disk.hasNul file = false)
    (hconfig : Disk.hasNul config = false) (arg : String) :
    Disk.hasNul (fillArg file config arg) = Disk.hasNul arg := by
  have hnone : ∀ {text : String}, Disk.hasNul text = false → Char.ofNat 0 ∉ text.toList := by
    intro text htext hmem
    rw [Disk.hasNul, List.contains_iff_mem.mpr hmem] at htext
    cases htext
  rw [Bool.eq_iff_iff]
  simp only [Disk.hasNul, List.contains_iff_mem, fillArg, fill, String.toList_ofList,
    toList_filePlace, toList_configPlace]
  rw [mem_fillFrom_iff (by decide) (hnone hconfig), mem_fillFrom_iff (by decide) (hnone hfile)]

/-! ## Environments -/

namespace Program

/-- An environment that a process can have: no name has an equals sign, and no text a NUL. -/
def Environment.Inherited (environment : Environment) : Prop :=
  ∀ entry ∈ environment, '=' ∉ entry.1.toList ∧ Disk.hasNul (entryText entry) = false

instance (environment : Environment) : Decidable environment.Inherited :=
  inferInstanceAs (Decidable (∀ entry ∈ environment, _ ∧ _))

theorem Environment.mem_put {environment : Environment} {name text : String}
    {entry : String × String} (h : entry ∈ environment.put name text) :
    entry = (name, text) ∨ entry ∈ environment := by
  induction environment with
  | nil => exact Or.inl (List.mem_singleton.mp h)
  | cons first rest ih =>
    obtain ⟨key, value⟩ := first
    rw [put] at h
    split at h
    · rename_i hkey
      subst hkey
      rcases List.mem_cons.mp h with rfl | h
      · exact Or.inl rfl
      · exact Or.inr (List.mem_cons_of_mem _ h)
    · rcases List.mem_cons.mp h with rfl | h
      · exact Or.inr (List.mem_cons_self ..)
      · exact (ih h).imp_right (List.mem_cons_of_mem _)

theorem Environment.mem_overlay {environment upper : Environment} {entry : String × String}
    (h : entry ∈ environment.overlay upper) : entry ∈ environment ∨ entry ∈ upper := by
  induction upper generalizing environment with
  | nil => exact Or.inl h
  | cons first rest ih =>
    rcases @ih (environment.put first.1 first.2) h with hput | hrest
    · rcases mem_put hput with rfl | henvironment
      · exact Or.inr (List.mem_cons_self ..)
      · exact Or.inl henvironment
    · exact Or.inr (List.mem_cons_of_mem _ hrest)

theorem Environment.mem_of_get? {environment : Environment} {name text : String}
    (h : environment.get? name = some text) : (name, text) ∈ environment := by
  obtain ⟨before, after, heq, -⟩ := List.lookup_eq_some_iff.mp h
  rw [heq]
  exact List.mem_append_right before (List.mem_cons_self ..)

/-- The upper environment of two is in force. -/
theorem Environment.get?_overlay_of_mem {environment upper : Environment}
    (hnames : (upper.map Prod.fst).Nodup) {name text : String} (h : (name, text) ∈ upper) :
    (environment.overlay upper).get? name = some text := by
  induction upper generalizing environment with
  | nil => cases h
  | cons first rest ih =>
    obtain ⟨hfirst, hrest⟩ := List.nodup_cons.mp hnames
    rcases List.mem_cons.mp h with rfl | h
    · have hlater : Environment.get? rest name = none := lookup_eq_none_iff_not_mem.mpr hfirst
      exact (get?_overlay_of_eq_none hlater).trans (get?_put environment name text)
    · exact ih hrest h

/-- What no inherited variable is, a variable of the two environments is exactly if one of the upper
    environment is. -/
theorem Environment.exists_mem_overlay_iff {bad : String × String → Prop}
    {environment upper : Environment} (hbelow : ∀ entry ∈ environment, ¬ bad entry)
    (hnames : (upper.map Prod.fst).Nodup) :
    (∃ entry ∈ environment.overlay upper, bad entry) ↔ ∃ entry ∈ upper, bad entry := by
  constructor
  · rintro ⟨entry, hentry, hbad⟩
    rcases mem_overlay hentry with henvironment | hupper
    · exact absurd hbad (hbelow entry henvironment)
    · exact ⟨entry, hupper, hbad⟩
  · rintro ⟨⟨name, text⟩, hentry, hbad⟩
    exact ⟨_, mem_of_get? (get?_overlay_of_mem hnames hentry), hbad⟩

theorem hasNul_entryText (entry : String × String) :
    Disk.hasNul (entryText entry) = (Disk.hasNul entry.1 || Disk.hasNul entry.2) := by
  simp [Disk.hasNul, entryText, String.toList_append]

/-! ## Paths of a program -/

/-- A search path and a program without NUL make paths without one. -/
theorem hasNul_of_mem_candidates {searchPath : Option String} {program path : String}
    (hsearch : ∀ directories, searchPath = some directories → Disk.hasNul directories = false)
    (hprogram : Disk.hasNul program = false) (h : path ∈ candidates searchPath program) :
    Disk.hasNul path = false := by
  have hwhole : Disk.hasNul (searchPath.getD defaultSearchPath) = false := by
    cases searchPath with
    | none => decide
    | some directories => exact hsearch directories rfl
  simp only [Disk.hasNul, ← Bool.not_eq_true, List.contains_iff_mem] at hwhole hprogram ⊢
  unfold candidates at h
  split at h
  · rw [List.mem_singleton.mp h]
    exact hprogram
  · obtain ⟨directory, hdirectory, rfl⟩ := List.mem_map.mp h
    obtain ⟨part, hpart, rfl⟩ := List.mem_map.mp hdirectory
    have hnone : Char.ofNat 0 ∉ part := fun hmem => hwhole (ne_and_mem_of_mem_splitAt hpart hmem).2
    unfold inDirectory
    split_ifs
    · exact hprogram
    · rw [String.toList_append, String.toList_ofList, List.mem_append, not_or]
      exact ⟨hnone, hprogram⟩
    · rw [String.toList_append, String.toList_append, String.toList_ofList, List.mem_append,
        List.mem_append, not_or, not_or]
      exact ⟨⟨hnone, by decide⟩, hprogram⟩

end Program

/-! ## Launches of an engine -/

/-- A variable that the engine sets has an equals sign in its name. -/
def Engine.Misnames (engine : Engine) : Prop := ∃ entry ∈ engine.env, '=' ∈ entry.1.toList

/-- A variable that the engine sets has a NUL in its name or in its text. -/
def Engine.SetsNul (engine : Engine) : Prop :=
  ∃ entry ∈ engine.env, Disk.hasNul (entryText entry) = true

/-- The complaint about an equals sign in the name of a variable. -/
def illegalName : Failure := .invalidValue "illegal environment variable name"

variable {launcher : Launcher} {engine : Engine}

/-- What a program is given beyond the environment of the launcher is bad exactly if the engine sets
    something bad. -/
theorem exists_mem_engineEnvironment_iff {bad : String × String → Prop}
    (hbelow : ∀ entry ∈ launcher.environment, ¬ bad entry)
    (hnames : (engine.env.map Prod.fst).Nodup) :
    (∃ entry ∈ (engineEnvironment launcher engine).getD [], bad entry)
      ↔ ∃ entry ∈ engine.env, bad entry := by
  unfold engineEnvironment
  split
  · rename_i hempty
    rw [List.isEmpty_iff.mp hempty]
    rfl
  · exact Environment.exists_mem_overlay_iff hbelow hnames

/-- The search path of a launch has a NUL only if the engine sets one. -/
theorem hasNul_searchPath (hinherited : launcher.environment.Inherited)
    (hnone : ¬ engine.SetsNul) {directories : String}
    (h : (launchEnvironment launcher engine).get? "PATH" = some directories) :
    Disk.hasNul directories = false := by
  have hentry : Disk.hasNul (entryText ("PATH", directories)) = false := by
    have hmem := Environment.mem_of_get? h
    unfold launchEnvironment engineEnvironment at hmem
    split at hmem
    · exact (hinherited _ hmem).2
    · rcases Environment.mem_overlay hmem with henvironment | hset
      · exact (hinherited _ henvironment).2
      · exact Bool.eq_false_iff.mpr fun hbad => hnone ⟨_, hset, hbad⟩
  rw [hasNul_entryText, Bool.or_eq_false_iff] at hentry
  exact hentry.2

/-- A launch meets a NUL exactly if the engine sets one or the command holds one: the paths at which
    the program is tried add none. -/
theorem any_hasNul_launch_iff (hinherited : launcher.environment.Inherited)
    (hnames : (engine.env.map Prod.fst).Nodup) (program : String) (args : List String) :
    ((candidates ((launchEnvironment launcher engine).get? "PATH") program ++ program :: args
        ++ ((engineEnvironment launcher engine).getD []).map entryText).any Disk.hasNul) = true
      ↔ engine.SetsNul ∨ ∃ text ∈ program :: args, Disk.hasNul text = true := by
  have hset : (∃ entry ∈ (engineEnvironment launcher engine).getD [],
      Disk.hasNul (entryText entry) = true) ↔ engine.SetsNul :=
    exists_mem_engineEnvironment_iff
      (fun entry hentry => Bool.eq_false_iff.mp (hinherited entry hentry).2) hnames
  simp only [List.any_append, Bool.or_eq_true, List.any_map, List.any_eq_true, Function.comp_apply,
    hset]
  constructor
  · rintro ((⟨path, hpath, hbad⟩ | hword) | hvariable)
    · by_contra hnone
      rw [not_or] at hnone
      have hprogram : Disk.hasNul program = false :=
        Bool.eq_false_iff.mpr fun hbad => hnone.2 ⟨program, List.mem_cons_self .., hbad⟩
      have hfree := hasNul_of_mem_candidates
        (fun _ hsearch => hasNul_searchPath hinherited hnone.1 hsearch) hprogram hpath
      rw [hfree] at hbad
      cases hbad
    · exact Or.inr hword
    · exact Or.inl hvariable
  · rintro (hvariable | hword)
    · exact Or.inr hvariable
    · exact Or.inl (Or.inr hword)

/-- The three ways of a launch: refused for the name of a variable, refused for a NUL, or left to
    the system. -/
theorem launch_cases (hinherited : launcher.environment.Inherited)
    (hnames : (engine.env.map Prod.fst).Nodup) (program : String) (args : List String) :
    (engine.Misnames
        ∧ launch launcher program args (engineEnvironment launcher engine) = .error illegalName)
      ∨ (¬ engine.Misnames
        ∧ (engine.SetsNul ∨ ∃ text ∈ program :: args, Disk.hasNul text = true)
        ∧ launch launcher program args (engineEnvironment launcher engine) = .error nulInText)
      ∨ (¬ engine.Misnames ∧ ¬ (engine.SetsNul ∨ ∃ text ∈ program :: args, Disk.hasNul text = true)
        ∧ ((∃ e, launch launcher program args (engineEnvironment launcher engine)
              = .error (.system e (some program)))
          ∨ ∃ result, launch launcher program args (engineEnvironment launcher engine)
              = .ok result)) := by
  have hname : (((engineEnvironment launcher engine).getD []).any
      fun entry => entry.1.toList.contains '=') = true ↔ engine.Misnames := by
    simp only [List.any_eq_true, List.contains_iff_mem]
    exact exists_mem_engineEnvironment_iff (fun entry hentry => (hinherited entry hentry).1) hnames
  have hnul := any_hasNul_launch_iff hinherited hnames program args
  unfold launchEnvironment at hnul
  by_cases hmisnamed : engine.Misnames
  · refine Or.inl ⟨hmisnamed, ?_⟩
    unfold launch
    simp only [if_pos (hname.mpr hmisnamed)]
    rfl
  · have hfirst := mt hname.mp hmisnamed
    by_cases hbad : engine.SetsNul ∨ ∃ text ∈ program :: args, Disk.hasNul text = true
    · refine Or.inr (Or.inl ⟨hmisnamed, hbad, ?_⟩)
      unfold launch
      simp only [if_neg hfirst, if_pos (hnul.mpr hbad)]
    · refine Or.inr (Or.inr ⟨hmisnamed, hbad, ?_⟩)
      unfold launch
      simp only [if_neg hfirst, if_neg (mt hnul.mp hbad)]
      cases tryEach _ _ _ with
      | error e => exact Or.inl ⟨e, rfl⟩
      | ok result => exact Or.inr ⟨result, rfl⟩

/-! ## Ends of a run -/

/-- The run of an engine ended with what the engine left behind, or with a failure of the engine. -/
def EndsAsEngine (result : Except Failure EngineRun) : Prop :=
  (∃ run, result = .ok run) ∨ ∃ message, result = .error (.engine message)

/-- A text of a request holds a NUL: its command, an extra argument, an argument of the engine, or a
    variable that the engine sets. -/
def EngineRequest.HoldsNul (request : EngineRequest) : Prop :=
  request.engine.SetsNul
    ∨ ∃ text ∈ request.engine.command :: (request.extraArgs ++ request.engine.args),
      Disk.hasNul text = true

/-- A limit that was put as a binary number is no whole number. -/
theorem timeout_ne_whole_of_withRealTimeout {engine engine' : Engine}
    (h : engine.withRealTimeout = .ok engine') (n : Int) : engine'.timeout ≠ some (.whole n) := by
  unfold Engine.withRealTimeout at h
  split at h
  · split at h
    · cases h
      nofun
    · cases h
  · rename_i hother
    cases h
    exact hother n

theorem timeout_ne_whole_of_mem {config : Members} {table : EngineTable}
    (h : (loadEngines config).result = .ok table) :
    ∀ entry ∈ table, ∀ n, entry.2.timeout ≠ some (.whole n) := by
  refine forall_of_loadEngines (P := fun _ engine => ∀ n, engine.timeout ≠ some (.whole n))
    (fun entry hentry n => ?_) (fun _ _ hreal => timeout_ne_whole_of_withRealTimeout hreal) h
  obtain ⟨engine, hengine, rfl⟩ := List.mem_map.mp hentry
  have hnone : ∀ engine ∈ [Engine.eslint, Engine.htmlhint, Engine.stylelint, Engine.pyright],
      engine.timeout = none := by
    decide
  rw [hnone engine hengine]
  nofun

/-- A program that was started ends in time, or the engine fails for taking too long. -/
theorem endsAsEngine_collect (hlimit : ∀ n, engine.timeout ≠ some (.whole n)) (result : Result) :
    EndsAsEngine (collect engine result) := by
  unfold collect
  cases htimeout : engine.timeout with
  | none => exact Or.inl ⟨_, rfl⟩
  | some span =>
    cases span with
    | whole n => exact absurd htimeout (hlimit n)
    | real x =>
      simp only [Seconds.isTooLarge, Bool.false_eq_true, if_false]
      split_ifs
      · exact Or.inr ⟨_, rfl⟩
      · exact Or.inl ⟨_, rfl⟩
      · exact Or.inr ⟨_, rfl⟩

/-- A command holds a NUL exactly if a text that it is built from does, its paths apart. -/
theorem exists_hasNul_buildCommand_iff {request : EngineRequest} {base command : List String}
    (hfile : Disk.hasNul request.file = false) (hconfig : Disk.hasNul request.configPath = false)
    (hbase : words request.engine.command = .ok base) (h : buildCommand request = .ok command) :
    (∃ text ∈ command, Disk.hasNul text = true)
      ↔ ∃ text ∈ request.engine.command :: (request.extraArgs ++ request.engine.args),
        Disk.hasNul text = true := by
  unfold buildCommand at h
  rw [hbase] at h
  cases h
  rw [← List.any_eq_true, ← List.any_eq_true, List.any_append, List.any_append, List.any_cons,
    List.any_append, any_hasNul_words hbase, List.any_map, Bool.or_assoc]
  simp only [Function.comp_def, hasNul_fillArg hfile hconfig]

theorem EndsAsEngine.exists_message {result : Except Failure EngineRun} (h : EndsAsEngine result)
    {failure : Failure} (hfailure : result = .error failure) :
    ∃ message, failure = .engine message := by
  rcases h with ⟨run, rfl⟩ | ⟨message, rfl⟩
  · cases hfailure
  · exact ⟨message, (Except.error.inj hfailure).symm⟩

theorem not_endsAsEngine {failure : Failure} (h : ∀ message, failure ≠ .engine message) :
    ¬ EndsAsEngine (.error failure) := by
  intro hends
  obtain ⟨message, hmessage⟩ := hends.exists_message rfl
  exact h message hmessage

/-- The three ways of a run whose command has a first word. -/
theorem runEngine_cases (hinherited : launcher.environment.Inherited) {request : EngineRequest}
    (hnames : (request.engine.env.map Prod.fst).Nodup)
    (hlimit : ∀ n, request.engine.timeout ≠ some (.whole n))
    (hfile : Disk.hasNul request.file = false) (hconfig : Disk.hasNul request.configPath = false)
    {program : String} {rest : List String}
    (hwords : words request.engine.command = .ok (program :: rest)) :
    (request.engine.Misnames ∧ (runEngine launcher request).result = .error illegalName)
      ∨ (¬ request.engine.Misnames ∧ request.HoldsNul
        ∧ (runEngine launcher request).result = .error nulInText)
      ∨ (¬ request.engine.Misnames ∧ ¬ request.HoldsNul
        ∧ EndsAsEngine (runEngine launcher request).result) := by
  obtain ⟨args, hcommand⟩ := (names_of_words hwords).built request rfl
  have hholds : request.engine.SetsNul
      ∨ (∃ text ∈ program :: (rest ++ args), Disk.hasNul text = true) ↔ request.HoldsNul :=
    or_congr_right (exists_hasNul_buildCommand_iff hfile hconfig hwords hcommand)
  rw [runEngine_of_buildCommand hcommand, ← hholds]
  rcases launch_cases hinherited hnames program (rest ++ args) with
    ⟨hmisnamed, hlaunch⟩ | ⟨hmisnamed, hbad, hlaunch⟩ | ⟨hmisnamed, hgood, hlaunch⟩
  · refine Or.inl ⟨hmisnamed, ?_⟩
    rw [hlaunch]
    rfl
  · refine Or.inr (Or.inl ⟨hmisnamed, hbad, ?_⟩)
    rw [hlaunch]
    rfl
  · refine Or.inr (Or.inr ⟨hmisnamed, hgood, ?_⟩)
    rcases hlaunch with ⟨e, hlaunch⟩ | ⟨result, hlaunch⟩
    · rw [hlaunch]
      exact Or.inr ⟨_, rfl⟩
    · rw [hlaunch]
      exact endsAsEngine_collect hlimit result

/-- How the run of an engine of a configuration ends, whatever the system answers.  It ends as an
    engine may exactly if its command cannot be cut, or no variable is named with an equals sign and
    no text holds a NUL; otherwise the run fails with a complaint about that value. -/
theorem runEngine_settles (config : Option Members) {table : EngineTable}
    (h : (loadEngines (config.getD [])).result = .ok table) {name : String}
    (hmem : (name, engine) ∈ table) (hnames : (engine.env.map Prod.fst).Nodup)
    (hinherited : launcher.environment.Inherited) {request : EngineRequest}
    (hengine : request.engine = engine) (hfile : Disk.hasNul request.file = false)
    (hconfig : Disk.hasNul request.configPath = false) :
    (EndsAsEngine (runEngine launcher request).result
        ↔ (∃ fault, words engine.command = .error fault)
          ∨ ¬ engine.Misnames ∧ ¬ request.HoldsNul)
      ∧ ∀ failure, (runEngine launcher request).result = .error failure →
        (∃ message, failure = .engine message)
          ∨ engine.Misnames ∧ failure = illegalName
          ∨ ¬ engine.Misnames ∧ request.HoldsNul ∧ failure = nulInText := by
  subst hengine
  cases hwords : words request.engine.command with
  | error fault =>
    have hends : EndsAsEngine (runEngine launcher request).result := by
      rw [runEngine_of_refused ((malformed_of_words hwords).refused request rfl)]
      exact Or.inr ⟨_, rfl⟩
    exact ⟨iff_of_true hends (Or.inl ⟨fault, rfl⟩),
      fun failure hfailure => Or.inl (hends.exists_message hfailure)⟩
  | ok base =>
    cases base with
    | nil => exact absurd hwords (words_ne_ok_nil (blank_command_of_mem h _ hmem))
    | cons program rest =>
      have hlimit := timeout_ne_whole_of_mem h _ hmem
      have hcut : ¬ ∃ fault, (.ok (program :: rest) : Except WordsFault _) = .error fault := nofun
      rw [or_iff_right hcut]
      rcases runEngine_cases hinherited hnames hlimit hfile hconfig hwords with
        ⟨hmisnamed, hresult⟩ | ⟨hmisnamed, hbad, hresult⟩ | ⟨hmisnamed, hgood, hends⟩
      · rw [hresult]
        exact ⟨iff_of_false (not_endsAsEngine nofun) fun hgood => hgood.1 hmisnamed,
          fun failure hfailure => Or.inr (Or.inl ⟨hmisnamed, (Except.error.inj hfailure).symm⟩)⟩
      · rw [hresult]
        exact ⟨iff_of_false (not_endsAsEngine nofun) fun hgood => hgood.2 hbad,
          fun failure hfailure =>
            Or.inr (Or.inr ⟨hmisnamed, hbad, (Except.error.inj hfailure).symm⟩)⟩
      · exact ⟨iff_of_true hends ⟨hmisnamed, hgood⟩,
          fun failure hfailure => Or.inl (hends.exists_message hfailure)⟩

/-- An engine that sets a variable with an equals sign in its name. -/
def misnamingEngine : Engine := { Engine.pyright with env := [("A=B", "x")] }

/-- An engine with a NUL in an argument. -/
def nulEngine : Engine := { Engine.stylelint with args := ["a\x00b"] }

/-- An engine that sets a variable to a text with an equals sign. -/
def settingEngine : Engine := { Engine.eslint with command := "tool", env := [("MODE", "a=b")] }

/-- A configuration that puts the three engines in the places of known ones. -/
def variableConfig : Members :=
  [("engines", .table
    [("pyright", .table [("env", .table [("A=B", .text "x")])]),
      ("stylelint", .table [("args", .list [.text "a\x00b"])]),
      ("eslint", .table [("command", .text "tool"), ("env", .table [("MODE", .text "a=b")])])])]

/-- The configuration is taken as it is. -/
theorem loadEngines_variableConfig :
    (loadEngines variableConfig).result
      = .ok [("eslint", settingEngine), ("htmlhint", Engine.htmlhint), ("stylelint", nulEngine),
          ("pyright", misnamingEngine)] := by
  decide +kernel

/-- Of the engines that the configuration gives, one fails for the name of its variable and one for
    the NUL in its argument, and neither as an engine. -/
theorem not_endsAsEngine_variableConfig :
    (loadEngines variableConfig).result
        = .ok [("eslint", settingEngine), ("htmlhint", Engine.htmlhint), ("stylelint", nulEngine),
          ("pyright", misnamingEngine)]
      ∧ (runEngine toolLauncher { engine := misnamingEngine, file := "m.py" }).result
        = .error (.invalidValue "illegal environment variable name")
      ∧ ¬ EndsAsEngine (runEngine toolLauncher { engine := misnamingEngine, file := "m.py" }).result
      ∧ (runEngine toolLauncher { engine := nulEngine, file := "m.css" }).result
        = .error (.invalidValue "embedded null byte")
      ∧ ¬ EndsAsEngine
        (runEngine toolLauncher { engine := nulEngine, file := "m.css" }).result := by
  have hname : (runEngine toolLauncher { engine := misnamingEngine, file := "m.py" }).result
      = .error (.invalidValue "illegal environment variable name") := by
    decide +kernel
  have hnul : (runEngine toolLauncher { engine := nulEngine, file := "m.css" }).result
      = .error (.invalidValue "embedded null byte") := by
    decide +kernel
  refine ⟨loadEngines_variableConfig, hname, ?_, hnul, ?_⟩
  · rw [hname]
    exact not_endsAsEngine nofun
  · rw [hnul]
    exact not_endsAsEngine nofun

/-- The third engine sets nothing that could not be set, so its run ends as an engine may. -/
theorem runEngine_settles_settingEngine :
    (loadEngines variableConfig).result
        = .ok [("eslint", settingEngine), ("htmlhint", Engine.htmlhint), ("stylelint", nulEngine),
          ("pyright", misnamingEngine)]
      ∧ (settingEngine.env.map Prod.fst).Nodup
      ∧ toolLauncher.environment.Inherited
      ∧ Disk.hasNul "a.js" = false
      ∧ EndsAsEngine
        (runEngine toolLauncher { engine := settingEngine, file := "a.js" }).result := by
  have hnames : (settingEngine.env.map Prod.fst).Nodup := by decide +kernel
  have hinherited : toolLauncher.environment.Inherited := by decide +kernel
  have hfile : Disk.hasNul "a.js" = false := by decide +kernel
  obtain ⟨hends, -⟩ := runEngine_settles (some variableConfig) loadEngines_variableConfig
    (List.mem_cons_self ..) hnames hinherited
    (show ({ engine := settingEngine, file := "a.js" } : EngineRequest).engine = _ from rfl)
    hfile (by decide +kernel)
  refine ⟨loadEngines_variableConfig, hnames, hinherited, hfile, hends.mpr (Or.inr ⟨?_, ?_⟩)⟩
  · unfold Engine.Misnames
    decide +kernel
  · unfold EngineRequest.HoldsNul Engine.SetsNul
    decide +kernel

end LintBroker
