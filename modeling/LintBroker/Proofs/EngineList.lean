/-
  LintBroker.Proofs.EngineList

  The list of engines in JSON.  A check of an engine fails only when its command begins
  with a path and the file system cannot tell what is there, and one such engine breaks
  the whole list off.  Any other list is read back as one row for each engine of the
  table; and it follows the grammar of JSON exactly if every limit in it is finite, since
  the infinite one and the one that is no number are accepted (`engineList_of_run`).
-/
import LintBroker.Proofs.ExitCode
import LintBroker.Proofs.JsonStrict
import LintBroker.Proofs.LaunchRefusal
import LintBroker.Proofs.Reply

namespace LintBroker

open LintBroker.Files LintBroker.Number LintBroker.Program LintBroker.Shell LintBroker.Text

/-! ## Checks that fail -/

/-- The command begins with a path, and the file system cannot tell what is there. -/
def Engine.Unseen (engine : Engine) (disk : Disk) : Prop :=
  ∃ program rest failure, words engine.command = .ok (program :: rest)
    ∧ (program.toList.any fun c => c == '/' || c == '\\') = true
    ∧ disk.isFile (normalize program) = .error failure

/-- A check fails exactly if the program cannot be seen. -/
theorem exists_checkEngine_eq_error_iff {disk : Disk} {searchPath : Option String}
    {engine : Engine} :
    (∃ failure, checkEngine disk searchPath engine = .error failure) ↔ engine.Unseen disk := by
  constructor
  · rintro ⟨failure, h⟩
    unfold checkEngine at h
    split at h
    · cases h
    · cases h
    rename_i program rest hwords
    -- Once it is known whether there is a file, nothing can fail any more.
    have hfound : ∀ isFile complaint,
        (if (isFile && disk.executable program) = true then pure none
          else if isOnPath disk searchPath program = true then pure none
          else pure (some complaint) : Except Failure (Option String)) ≠ .error failure := by
      intro isFile complaint hfailed
      split_ifs at hfailed <;> cases hfailed
    simp only at h
    split at h
    · rename_i hlooks
      rcases except_bind_eq_error.mp h with hfile | ⟨isFile, -, h⟩
      · exact ⟨program, rest, failure, hwords, hlooks, hfile⟩
      · exact absurd h (hfound isFile _)
    · exact absurd h (hfound false _)
  · rintro ⟨program, rest, failure, hwords, hlooks, hfile⟩
    refine ⟨failure, ?_⟩
    unfold checkEngine
    rw [hwords]
    simp only [hlooks, if_true, hfile]
    rfl

namespace Cli

variable {host : Host} {table : EngineTable} {rows : List EngineRow}

/-- The list is broken off exactly if the program of some engine cannot be seen. -/
theorem exists_engineRows_eq_error_iff :
    (∃ failure, engineRows host table = .error failure)
      ↔ ∃ entry ∈ table, entry.2.Unseen host.disk := by
  constructor
  · rintro ⟨failure, h⟩
    obtain ⟨⟨name, engine⟩, hentry, hfailed⟩ := exists_of_mapM_eq_error h
    cases hcheck : checkEngine host.disk host.searchPath engine with
    | error other =>
      exact ⟨(name, engine), hentry, exists_checkEngine_eq_error_iff.mp ⟨other, hcheck⟩⟩
    | ok problem =>
      simp only [hcheck] at hfailed
      cases hfailed
  · rintro ⟨entry, hentry, hunseen⟩
    obtain ⟨failure, hfailed⟩ := exists_checkEngine_eq_error_iff.mpr hunseen
    cases hrows : engineRows host table with
    | error other => exact ⟨other, rfl⟩
    | ok rows =>
      obtain ⟨row, -, -, hcheck⟩ :=
        exists_of_mem_of_forall₂ (forall₂_of_engineRows hrows) (List.mem_map_of_mem hentry)
      rw [hfailed] at hcheck
      cases hcheck

/-! ## Rows -/

/-- No limit, or one that is a finite number. -/
inductive FiniteLimit : Option Seconds → Prop where
  | none : FiniteLimit none
  | whole (n : Int) : FiniteLimit (some (.whole n))
  | real (negative : Bool) (m : Magnitude) : FiniteLimit (some (.real (.finite negative m)))

instance : DecidablePred FiniteLimit
  | none => isTrue .none
  | some (.whole n) => isTrue (.whole n)
  | some (.real .nan) => isFalse nofun
  | some (.real (.infinite _)) => isFalse nofun
  | some (.real (.finite negative m)) => isTrue (.real negative m)

theorem finite_limit_iff {limit : Option Seconds} :
    (Seconds.datum limit).Finite ↔ FiniteLimit limit := by
  constructor
  · intro h
    cases limit with
    | none => exact .none
    | some span =>
      cases span with
      | whole n => exact .whole n
      | real x =>
        cases h with
        | float negative m => exact .real negative m
  · intro h
    cases h with
    | none => exact .null
    | whole n => exact .int n
    | real negative m => exact .float negative m

/-- The members of a row that show the settings of an engine. -/
def settingMembers (engine : Engine) : Members :=
  [("name", .text engine.name), ("description", .text engine.description),
    ("command", .text engine.command), ("args", .list (engine.args.map .text)),
    ("timeout", Seconds.datum engine.timeout)]

/-- A decoded row tells of an engine: its settings as they are, and that it is available with no
    problem exactly if a check had no complaint, else the complaint. -/
inductive RowTells (host : Host) (engine : Engine) : Datum → Prop where
  | available (h : checkEngine host.disk host.searchPath engine = .ok none) :
      RowTells host engine
        (.table (settingMembers engine ++ [("available", .bool true), ("problem", .null)]))
  | missing {problem : String}
      (h : checkEngine host.disk host.searchPath engine = .ok (some problem)) :
      RowTells host engine
        (.table (settingMembers engine ++ [("available", .bool false), ("problem", .text problem)]))

theorem rowTells_datum {row : EngineRow}
    (h : checkEngine host.disk host.searchPath row.engine = .ok row.problem) :
    RowTells host row.engine row.datum := by
  obtain ⟨engine, problem⟩ := row
  cases problem with
  | none => exact .available h
  | some problem => exact .missing h

theorem plain_textList (words : List String) : (Tool.textList words).Plain := by
  refine .list fun item hitem => ?_
  obtain ⟨word, -, rfl⟩ := List.mem_map.mp hitem
  exact .text word

/-- Nothing in a row but its limit can be a number that is not finite. -/
theorem finite_datum_iff {row : EngineRow} :
    row.datum.Finite ↔ FiniteLimit row.engine.timeout := by
  rw [EngineRow.datum, Datum.finite_table_iff, ← finite_limit_iff]
  constructor
  · intro h
    exact h ("timeout", Seconds.datum row.engine.timeout) (by simp)
  · intro h
    simp only [List.forall_mem_cons, List.not_mem_nil, false_implies, implies_true, and_true]
    exact ⟨.text _, .text _, .text _, (plain_textList _).finite, h, .bool _,
      (Datum.plain_ofText? _).finite⟩

theorem lossless_limit (limit : Option Seconds) : (Seconds.datum limit).Lossless := by
  rcases limit with _ | n | x
  · exact .null
  · exact .int n
  · exact .float x

theorem lossless_datum (row : EngineRow) : row.datum.Lossless := by
  refine .table (by simp only [List.map_cons, List.map_nil]; decide) ?_
  simp only [List.forall_mem_cons, List.not_mem_nil, false_implies, implies_true, and_true]
  exact ⟨.text _, .text _, .text _, (plain_textList _).lossless, lossless_limit _, .bool _,
    (Datum.plain_ofText? _).lossless⟩

/-- The only number in a row is its limit, which no configuration leaves as a whole number. -/
theorem limited_datum {row : EngineRow} (h : ∀ n, row.engine.timeout ≠ some (.whole n)) :
    row.datum.Limited digitLimit := by
  have hargs : (Tool.textList row.engine.args).Limited digitLimit := by
    refine .list fun item hitem => ?_
    obtain ⟨word, -, rfl⟩ := List.mem_map.mp hitem
    exact .text word
  have htimeout : (Seconds.datum row.engine.timeout).Limited digitLimit := by
    rcases hlimit : row.engine.timeout with _ | n | x
    · exact .null
    · exact absurd hlimit (h n)
    · exact .float x
  have hproblem : (Datum.ofText? row.problem).Limited digitLimit := by
    cases row.problem with
    | none => exact .null
    | some problem => exact .text problem
  refine .table ?_
  simp only [List.forall_mem_cons, List.not_mem_nil, false_implies, implies_true, and_true]
  exact ⟨.text _, .text _, .text _, hargs, htimeout, .bool _, hproblem⟩

/-! ## The text of the list -/

/-- The rows in JSON, as they are put out. -/
def listText (rows : List EngineRow) : String :=
  Json.indentedText (.list (rows.map EngineRow.datum)) ++ "\n"

theorem toList_listText (rows : List EngineRow) :
    (listText rows).toList
      = Json.valueChars (.indented 2) 0 (.list (rows.map EngineRow.datum)) ++ ['\n'] := by
  rw [listText, String.toList_append, Json.indentedText, String.toList_ofList]
  rfl

theorem blanks_newline : Json.Blanks ['\n'] := List.forall_mem_singleton.mpr rfl

/-- The text follows the grammar exactly if every limit is finite. -/
theorem elementText_listText_iff :
    Json.ElementText (listText rows).toList ↔ ∀ row ∈ rows, FiniteLimit row.engine.timeout := by
  have htext := Json.elementText_valueChars_iff (.indented 2) 0
    (v := .list (rows.map EngineRow.datum)) Json.blanks_nil blanks_newline
  rw [List.nil_append, ← toList_listText] at htext
  rw [htext, Datum.finite_list_iff, List.forall_mem_map]
  simp only [finite_datum_iff]

/-- The text is read back as its rows. -/
theorem read_listText (h : ∀ row ∈ rows, ∀ n, row.engine.timeout ≠ some (.whole n)) :
    Json.read (listText rows) = .ok (.list (rows.map EngineRow.datum)) := by
  have hlossless : (Datum.list (rows.map EngineRow.datum)).Lossless :=
    .list (List.forall_mem_map.mpr fun row _ => lossless_datum row)
  have hlimited : (Datum.list (rows.map EngineRow.datum)).Limited digitLimit :=
    .list (List.forall_mem_map.mpr fun row hrow => limited_datum (h row hrow))
  rw [← String.ofList_toList (s := listText rows), toList_listText]
  exact Json.read_valueChars_append hlossless hlimited (.indented 2) blanks_newline

/-! ## The command -/

/-- The command ends with the text of the rows, or with the failure of a check. -/
def listFinish : Except Failure (List EngineRow) → Finish
  | .error failure => crashed failure
  | .ok rows => { exit := 0, stdout := listText rows }

theorem result_run_engines (h : (projectEngines host).result = .ok table)
    (serve : Option String → Traced Finish) :
    (run host ["engines", "--json"] serve).result = .ok (listFinish (engineRows host table)) := by
  have hgoes : invocation host.disk ["engines", "--json"] = .ok (.engines true) := rfl
  unfold run
  rw [hgoes]
  simp only
  cases hrows : engineRows host table with
  | error failure =>
    refine result_finishing_of_error ?_
    unfold runEngines
    rw [Traced.bind_of_ok h, hrows]
    rfl
  | ok rows =>
    have hcommand : (runEngines host true).result = .ok { exit := 0, stdout := listText rows } :=
      Traced.result_bind_eq_ok.mpr
        ⟨table, h, Traced.result_ofExcept_bind_eq_ok.mpr ⟨rows, hrows, rfl⟩⟩
    rw [result_finishing hcommand, Finish.plain, listText, remove_indentedText, remove_nothing]
    rfl

/-- What holds of the engines of the rows is what holds of those of the table. -/
theorem forall_mem_rows_iff (h : engineRows host table = .ok rows) (P : Engine → Prop) :
    (∀ row ∈ rows, P row.engine) ↔ ∀ entry ∈ table, P entry.2 := by
  have hengines : table.map Prod.snd = rows.map EngineRow.engine := by
    rw [← List.forall₂_eq_eq_eq, List.forall₂_map_right_iff]
    exact (forall₂_of_engineRows h).imp fun _ _ hrow => hrow.1.symm
  rw [← List.forall_mem_map, ← hengines, List.forall_mem_map]

/-- The engines of a configuration have the known names, in their order. -/
theorem names_of_loadEngines {config : Members} (h : (loadEngines config).result = .ok table) :
    (table.map fun entry => entry.2.name) = Engine.defaults.map Prod.fst := by
  have hnamed : ∀ entry ∈ table, entry.2.name = entry.1 := by
    refine forall_of_loadEngines (P := fun name engine => engine.name = name) defaults_named ?_ h
    intro name base engine engine' members hbase hover hreal
    rw [eq_of_withRealTimeout hreal]
    exact (overridden_eq_ok_iff.mp hover).1.trans hbase
  rw [List.map_congr_left hnamed]
  exact map_fst_of_loadEngines h

/-- The list of the engines of a project in JSON.  It follows the grammar exactly if the program of
    every engine can be seen and its limit is finite.  A program that cannot be seen breaks the
    command off, with nothing put out.  Any other list is read back as one row for each engine, in
    the order of the known ones, with its settings as they are and what the check says of it. -/
theorem engineList_of_run (host : Host) (serve : Option String → Traced Finish)
    {table : EngineTable} (h : (projectEngines host).result = .ok table) :
    (table.map fun entry => entry.2.name) = Engine.defaults.map Prod.fst
      ∧ ∃ finish, (run host ["engines", "--json"] serve).result = .ok finish
        ∧ (Json.ElementText finish.stdout.toList
          ↔ ∀ entry ∈ table, ¬ entry.2.Unseen host.disk ∧ FiniteLimit entry.2.timeout)
        ∧ ((∃ entry ∈ table, entry.2.Unseen host.disk) →
          finish.exit = 1 ∧ finish.stdout = "" ∧ finish.crash ≠ none)
        ∧ ((∀ entry ∈ table, ¬ entry.2.Unseen host.disk) →
          finish.exit = 0 ∧ finish.crash = none
          ∧ ∃ rows, Json.read finish.stdout = .ok (.list rows)
            ∧ List.Forall₂ (RowTells host) (table.map Prod.snd) rows) := by
  obtain ⟨config, hload⟩ := exists_config_of_projectEngines h
  refine ⟨names_of_loadEngines hload, _, result_run_engines h serve, ?_⟩
  have hfails := @exists_engineRows_eq_error_iff host table
  cases hrows : engineRows host table with
  -- The command is broken off, and what it has put out is no text of the grammar.
  | error failure =>
    obtain ⟨entry, hentry, hunseen⟩ := hfails.mp ⟨failure, hrows⟩
    refine ⟨iff_of_false Json.not_elementText_nil fun hall => (hall entry hentry).1 hunseen,
      fun _ => ⟨rfl, rfl, nofun⟩, fun hall => absurd hunseen (hall entry hentry)⟩
  | ok rows =>
    have hseen : ∀ entry ∈ table, ¬ entry.2.Unseen host.disk := by
      intro entry hentry hunseen
      obtain ⟨failure, hfailed⟩ := hfails.mpr ⟨entry, hentry, hunseen⟩
      rw [hrows] at hfailed
      cases hfailed
    refine ⟨?_, fun ⟨entry, hentry, hunseen⟩ => absurd hunseen (hseen entry hentry),
      fun _ => ⟨rfl, rfl, rows.map EngineRow.datum, ?_, ?_⟩⟩
    -- All programs are seen, so the grammar is a matter of the limits alone.
    · have hlimits := forall_mem_rows_iff hrows fun engine => FiniteLimit engine.timeout
      rw [listFinish, elementText_listText_iff, hlimits]
      exact forall₂_congr fun entry hentry => (and_iff_right (hseen entry hentry)).symm
    -- No limit is a whole number, so none has too many digits to be read back.
    · have hreal := forall_mem_rows_iff hrows fun engine => ∀ n, engine.timeout ≠ some (.whole n)
      exact read_listText (hreal.mpr (timeout_ne_whole_of_mem hload))
    · rw [List.forall₂_map_right_iff]
      refine (forall₂_of_engineRows hrows).imp ?_
      rintro _ row ⟨rfl, hcheck⟩
      exact rowTells_datum hcheck

/-- A host whose project is in the root and has this configuration.  There is a launcher for the
    script engines on the search path, and a directory that may not be looked into. -/
def listHost (document : String) : Host :=
  { quietHost with
    disk :=
      { kind := fun path =>
          if path = "/.code-analyzer" then .ok .directory
          else if path = "/.code-analyzer/config.toml" ∨ path = "/bin/npx" then .ok .regular
          else if path = "/locked/tool" then .error .denied
          else .error .noEntry
        bytes := fun _ => .ok (Utf8.encode document)
        executable := fun path => path = "/bin/npx"
        workingDirectory := "/" }
    searchPath := some "/bin" }

/-- A configuration with a finite limit and a description that JSON has to escape. -/
def finiteDocument : String :=
  "[engines.pyright]\ntimeout = 2.5\ndescription = \"\\u001b[1m \\\"é\\\"\"\n"

/-- The engine that it describes. -/
def finiteEngine : Engine :=
  { Engine.pyright with
    timeout := some (.real (.ofDecimal false 25 (-1)))
    description := String.ofList ['\x1b', '[', '1', 'm', ' ', '"', 'é', '"'] }

/-- The table of that configuration. -/
def finiteTable : EngineTable :=
  [("eslint", Engine.eslint), ("htmlhint", Engine.htmlhint), ("stylelint", Engine.stylelint),
    ("pyright", finiteEngine)]

/-- The script engines are available and the one for Python is missing; the list of them is JSON and
    tells of all four. -/
theorem engineList_of_run_finiteDocument :
    (projectEngines (listHost finiteDocument)).result = .ok finiteTable
      ∧ ∃ finish rows, (run (listHost finiteDocument) ["engines", "--json"]
          fun _ => pure { exit := 0 }).result = .ok finish
        ∧ Json.ElementText finish.stdout.toList
        ∧ finish.exit = 0
        ∧ Json.read finish.stdout = .ok (.list rows)
        ∧ List.Forall₂ (RowTells (listHost finiteDocument)) (finiteTable.map Prod.snd) rows := by
  have htable : (projectEngines (listHost finiteDocument)).result = .ok finiteTable := by
    decide +kernel
  have hseen : ∀ entry ∈ finiteTable, ¬ entry.2.Unseen (listHost finiteDocument).disk := by
    intro entry hentry hunseen
    obtain ⟨failure, hfailed⟩ := exists_checkEngine_eq_error_iff.mpr hunseen
    have hchecked : ∀ entry ∈ finiteTable,
        (checkEngine (listHost finiteDocument).disk (some "/bin") entry.2).isOk = true := by
      decide +kernel
    have hok := hchecked entry hentry
    rw [hfailed] at hok
    cases hok
  have hlimits : ∀ entry ∈ finiteTable, FiniteLimit entry.2.timeout := by decide +kernel
  obtain ⟨-, finish, hfinish, htext, -, hrows⟩ :=
    engineList_of_run (listHost finiteDocument) (fun _ => pure { exit := 0 }) htable
  obtain ⟨hexit, -, rows, hread, htells⟩ := hrows hseen
  exact ⟨htable, finish, rows, hfinish,
    htext.mpr fun entry hentry => ⟨hseen entry hentry, hlimits entry hentry⟩, hexit, hread, htells⟩

/-- A configuration with the limit that is infinite. -/
def infiniteDocument : String := "[engines.eslint]\ntimeout = inf\n"

/-- The table of that configuration. -/
def infiniteTable : EngineTable :=
  Engine.defaults.replace "eslint"
    { Engine.eslint with timeout := some (.real (.infinite false)) }

/-- A configuration with a program in the directory that may not be looked into. -/
def lockedDocument : String := "[engines.eslint]\ncommand = \"/locked/tool\"\n"

/-- The table of that configuration. -/
def lockedTable : EngineTable :=
  Engine.defaults.replace "eslint" { Engine.eslint with command := "/locked/tool" }

/-- With the infinite limit the list is put out, and it is no JSON; with the program that cannot be
    seen nothing is put out. -/
theorem engineList_not_json :
    (projectEngines (listHost infiniteDocument)).result = .ok infiniteTable
      ∧ (∃ finish, (run (listHost infiniteDocument) ["engines", "--json"]
            fun _ => pure { exit := 0 }).result = .ok finish
          ∧ finish.exit = 0 ∧ ¬ Json.ElementText finish.stdout.toList)
      ∧ (projectEngines (listHost lockedDocument)).result = .ok lockedTable
      ∧ (run (listHost lockedDocument) ["engines", "--json"]
            fun _ => pure { exit := 0 }).result
          = .ok { exit := 1, stdout := "", crash := some (.system .denied (some "/locked/tool")) }
      ∧ ¬ Json.ElementText "".toList := by
  have hinfinite : (projectEngines (listHost infiniteDocument)).result = .ok infiniteTable := by
    decide +kernel
  have hlocked : (projectEngines (listHost lockedDocument)).result = .ok lockedTable := by
    decide +kernel
  obtain ⟨rows, hrows⟩ : ∃ rows, engineRows (listHost infiniteDocument) infiniteTable = .ok rows :=
    exists_eq_ok_of_isOk (by decide +kernel)
  have hfailed : engineRows (listHost lockedDocument) lockedTable
      = .error (.system .denied (some "/locked/tool")) := by
    decide +kernel
  refine ⟨hinfinite, ⟨_, result_run_engines hinfinite _, ?_⟩, hlocked, ?_,
    Json.not_elementText_nil⟩
  · have hlimits := forall_mem_rows_iff hrows fun engine => FiniteLimit engine.timeout
    rw [hrows, listFinish, elementText_listText_iff, hlimits]
    exact ⟨rfl, by decide +kernel⟩
  · rw [result_run_engines hlocked, hfailed]
    rfl

end Cli

end LintBroker
