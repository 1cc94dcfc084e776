/-
  LintBroker.Proofs.TargetArgument

  The argument that stands for the target.  An engine is handed the normalized path, and
  normalizing drops a single dot in front together with its slash.  So it is the first
  piece of a path that settles whether its engine gets a dash in front, and not the first
  character (`engine_argument_dashed_iff`).
-/
import LintBroker.Proofs.CommandParts
import LintBroker.Proofs.Walk

namespace LintBroker

open LintBroker.Files LintBroker.Shell

namespace Files

/-! ## Marks in paths -/

section Mark

variable {mark : List Char}

/-- A mark that begins a text with a slash in it, and has none itself, ends before the slash. -/
theorem prefix_of_prefix_append_slash (hslash : '/' ∉ mark) {front back : List Char}
    (h : mark <+: front ++ '/' :: back) : mark <+: front := by
  rcases List.prefix_or_prefix_of_prefix h (List.prefix_append front _) with hmark | ⟨more, rfl⟩
  · exact hmark
  · have hmore : more <+: '/' :: back := (List.prefix_append_right_inj front).mp h
    cases more with
    | nil => exact (List.append_nil front).symm ▸ List.prefix_rfl
    | cons c rest =>
      obtain ⟨rfl, -⟩ := List.cons_prefix_cons.mp hmore
      exact absurd (List.mem_append_right front (List.mem_cons_self ..)) hslash

/-- A mark without a slash lies on one side of each slash. -/
theorem infix_append_slash_iff (hslash : '/' ∉ mark) {front back : List Char} :
    mark <:+: front ++ '/' :: back ↔ mark <:+: front ∨ mark <:+: back := by
  constructor
  · intro h
    induction front with
    | nil =>
      rcases List.infix_cons_iff.mp h with hbegins | hback
      · exact Or.inl (prefix_of_prefix_append_slash hslash hbegins).isInfix
      · exact Or.inr hback
    | cons c rest ih =>
      rcases List.infix_cons_iff.mp h with hbegins | hrest
      · exact Or.inl (prefix_of_prefix_append_slash hslash hbegins).isInfix
      · exact (ih hrest).imp_left fun hfront => List.infix_cons hfront
  · rintro (hfront | hback)
    · exact hfront.trans (List.prefix_append ..).isInfix
    · exact hback.trans ((List.suffix_cons ..).trans (List.suffix_append ..)).isInfix

theorem infix_joinPieces_iff (hslash : '/' ∉ mark) (hmark : mark ≠ [])
    {pieces : List (List Char)} :
    mark <:+: joinPieces pieces ↔ ∃ piece ∈ pieces, mark <:+: piece := by
  induction pieces with
  | nil => simp [joinPieces, hmark]
  | cons piece rest ih =>
    by_cases hrest : rest = []
    · simp [hrest, joinPieces_singleton]
    · rw [joinPieces_cons hrest, infix_append_slash_iff hslash, ih, List.exists_mem_cons_iff]

/-- Paths of the same pieces have the same marks in them, but for marks of slashes and dots. -/
theorem infix_of_pathPieces_eq {c : Char} (hslash : '/' ∉ mark) (hc : c ∈ mark) (hdot : c ≠ '.')
    {cs ds : List Char} (hpieces : pathPieces cs = pathPieces ds) (h : mark <:+: cs) :
    mark <:+: ds := by
  have hmark := List.ne_nil_of_mem hc
  rw [← joinPieces_splitAt cs, infix_joinPieces_iff hslash hmark] at h
  obtain ⟨part, hpart, hin⟩ := h
  have hkept : part ∈ pathPieces ds := by
    rw [← hpieces]
    refine List.mem_filter.mpr ⟨hpart, decide_eq_true ⟨?_, ?_⟩⟩
    · exact List.ne_nil_of_mem (hin.subset hc)
    · rintro rfl
      exact hdot (List.mem_singleton.mp (hin.subset hc))
  rw [← joinPieces_splitAt ds, infix_joinPieces_iff hslash hmark]
  exact ⟨part, (List.mem_filter.mp hkept).1, hin⟩

end Mark

/-- The place of the configuration stands in a path exactly if it stands in the normalized one. -/
theorem configPlace_infix_normalize_iff (path : String) :
    Engine.configPlace.toList <:+: (normalize path).toList
      ↔ Engine.configPlace.toList <:+: path.toList := by
  have hslash : '/' ∉ Engine.configPlace.toList := by decide +kernel
  have hbrace : '\x7b' ∈ Engine.configPlace.toList := by decide +kernel
  have hdot : '\x7b' ≠ '.' := by decide
  have hpieces := pathPieces_normalizeChars path.toList
  unfold normalize
  rw [String.toList_ofList]
  exact ⟨infix_of_pathPieces_eq hslash hbrace hdot hpieces,
    infix_of_pathPieces_eq hslash hbrace hdot hpieces.symm⟩

/-! ## Dashes in front -/

/-- A path that starts at no root and whose first piece begins with a dash. -/
def Dashed (path : String) : Prop :=
  isAbsolute path = false ∧ ∃ name rest, pathPieces path.toList = ('-' :: name) :: rest

theorem head?_joinPieces_cons {piece : List Char} (h : IsPiece piece) (rest : List (List Char)) :
    (joinPieces (piece :: rest)).head? = piece.head? := by
  by_cases hrest : rest = []
  · rw [hrest, joinPieces_singleton]
  · rw [joinPieces_cons hrest, List.head?_append_of_ne_nil _ h.ne_nil]

theorem head?_joinPieces_eq_dash_iff {cs : List Char} :
    (joinPieces (pathPieces cs)).head? = some '-'
      ↔ ∃ name rest, pathPieces cs = ('-' :: name) :: rest := by
  cases hpieces : pathPieces cs with
  | nil => simp [joinPieces]
  | cons piece rest =>
    have hpiece : IsPiece piece := isPiece_of_mem (hpieces ▸ List.mem_cons_self ..)
    rw [head?_joinPieces_cons hpiece, List.head?_eq_some_iff]
    constructor
    · rintro ⟨name, rfl⟩
      exact ⟨name, rest, rfl⟩
    · rintro ⟨name, others, hcons⟩
      exact ⟨name, (List.cons.inj hcons).1⟩

/-- A normalized path begins with a dash exactly if its path is dashed, whatever the path itself
    begins with. -/
theorem head?_normalize_eq_dash_iff (path : String) :
    (normalize path).toList.head? = some '-' ↔ Dashed path := by
  unfold normalize Dashed
  rw [String.toList_ofList, ← head?_joinPieces_eq_dash_iff, ← Bool.not_eq_true, isAbsolute_iff,
    ne_eq, not_not]
  rcases normalizeChars_cases path.toList with ⟨hanchor, hpieces, hdot⟩ | heq
  · rw [hdot, hpieces]
    simp [joinPieces]
  · have hanchor := isAnchor_pathAnchor path.toList
    rw [heq]
    generalize pathAnchor path.toList = anchor at hanchor ⊢
    cases hanchor with
    | none => simp
    | root => simp
    | twoSlashes => simp

end Files

/-! ## The argument of an engine -/

/-- An argument is handed over for the file: the place of the file is the last template of the
    engine and stands in no other one, and the argument is what the argument list has there. -/
def EngineRequest.HandsOver (request : EngineRequest) (argument : String) : Prop :=
  ∃ base templates filled, words request.engine.command = .ok base
    ∧ request.engine.args = templates ++ [Engine.filePlace]
    ∧ (∀ template ∈ templates, ¬ Engine.filePlace.toList <:+: template.toList)
    ∧ filled.length = templates.length
    ∧ buildCommand request = .ok (base ++ request.extraArgs ++ (filled ++ [argument]))

/-- The place of the file alone is filled with the file, if that holds no place of the
    configuration. -/
theorem fillArg_filePlace {file : String} (h : ¬ Engine.configPlace.toList <:+: file.toList)
    (config : String) : fillArg file config Engine.filePlace = file := by
  have hstrays : ¬ Strays file Engine.filePlace := (strays_filePlace_iff file).not.mpr h
  rw [(fillArg_eq_filledAtOnce_iff ..).mpr (Or.inr hstrays), filledAtOnce_filePlace]

/-- The engine that a linter has from the start. -/
def Linter.standardEngine : Linter → Engine
  | .script => Engine.eslint
  | .page => Engine.htmlhint
  | .style => Engine.stylelint
  | .python => Engine.pyright

theorem Linter.get?_defaults (linter : Linter) :
    Engine.defaults.get? linter.engineName = some linter.standardEngine := by
  cases linter <;> decide +kernel

/-- The words of the command of a standard engine. -/
theorem Linter.exists_words_standardEngine (linter : Linter) :
    ∃ base, words linter.standardEngine.command = .ok base := by
  cases linter with
  | script => exact ⟨["npx", "--no-install", "eslint"], by decide +kernel⟩
  | page => exact ⟨["npx", "--no-install", "htmlhint"], by decide +kernel⟩
  | style => exact ⟨["npx", "--no-install", "stylelint"], by decide +kernel⟩
  | python => exact ⟨["pyright"], by decide +kernel⟩

/-- The file has the last place among the templates of a standard engine, and no other one. -/
theorem Linter.args_standardEngine (linter : Linter) :
    linter.standardEngine.args = linter.standardEngine.args.dropLast ++ [Engine.filePlace]
      ∧ ∀ template ∈ linter.standardEngine.args.dropLast,
        ¬ Engine.filePlace.toList <:+: template.toList := by
  cases linter <;> decide +kernel

/-- A standard engine is handed the file as it is, if that holds no place of the configuration. -/
theorem EngineRequest.handsOver_file {request : EngineRequest} {linter : Linter}
    (hengine : request.engine = linter.standardEngine)
    (h : ¬ Engine.configPlace.toList <:+: request.file.toList) :
    request.HandsOver request.file := by
  obtain ⟨base, hwords⟩ := linter.exists_words_standardEngine
  obtain ⟨hargs, hothers⟩ := linter.args_standardEngine
  rw [← hengine] at hwords hargs hothers
  refine ⟨base, request.engine.args.dropLast,
    request.engine.args.dropLast.map (fillArg request.file request.configPath), hwords, hargs,
    hothers, List.length_map .., ?_⟩
  have hfilled : request.engine.args.map (fillArg request.file request.configPath)
      = request.engine.args.dropLast.map (fillArg request.file request.configPath)
        ++ [request.file] := by
    conv => lhs; rw [hargs]
    rw [List.map_append, List.map_singleton, fillArg_filePlace h]
  rw [buildCommand, hwords, hfilled]

/-- An analysis that is not blocked makes one request of its standard engine.  For a path without a
    place of the configuration in it, the engine is handed the normalized path in the place of the
    file, and that argument begins with a dash exactly if the path is relative and its first piece
    does. -/
theorem engine_argument_dashed_iff {host : Host}
    (hrun : ∀ request, (host.run request).requests = []) {language : String} {linter : Linter}
    (hlanguage : Linter.ofLanguage language = .ok linter) {path : String}
    (hfree : ¬ linter.Blocked host.disk path)
    (hplain : ¬ Engine.configPlace.toList <:+: path.toList) (fix : Bool) :
    ∃ request, (analyzeFile host Engine.defaults path language fix).requests = [request]
      ∧ request.HandsOver (normalize path)
      ∧ ((normalize path).toList.head? = some '-' ↔ Dashed path) := by
  have hdefault : (if Engine.defaults.isEmpty then Engine.defaults else Engine.defaults).get?
      linter.engineName = some linter.standardEngine := by
    rw [ite_self, linter.get?_defaults]
  rcases requests_analyzeFile host Engine.defaults path hlanguage with
    ⟨hblocked | hnone, -⟩ | ⟨engine, hengine, hasked⟩
  · exact absurd hblocked hfree
  · rw [hdefault] at hnone
    cases hnone
  · rw [hdefault] at hengine
    cases hengine
    rw [hasked, Host.requests_ask_of_run (hrun _)]
    exact ⟨linter.request host linter.standardEngine (normalize path) fix, rfl,
      EngineRequest.handsOver_file rfl (mt (configPlace_infix_normalize_iff path).mp hplain),
      head?_normalize_eq_dash_iff path⟩

/-- A file behind a leading dot and a directory is handed over without the dot, and without a dash
    in front. -/
theorem engine_argument_dashed_iff_behindDirectory :
    (∀ request, (brokenHost.run request).requests = [])
      ∧ Linter.ofLanguage "javascript" = .ok .script
      ∧ ¬ Linter.script.Blocked brokenHost.disk "./src//-x.js"
      ∧ ¬ Engine.configPlace.toList <:+: "./src//-x.js".toList
      ∧ (∃ request, (analyzeFile brokenHost Engine.defaults "./src//-x.js" "javascript"
            true).requests = [request]
          ∧ request.HandsOver "src/-x.js")
      ∧ ¬ Dashed "./src//-x.js" := by
  have hrun : ∀ request, (brokenHost.run request).requests = [] := fun _ => rfl
  have hlanguage : Linter.ofLanguage "javascript" = .ok .script := by decide
  have hfile : brokenHost.disk.isFile (normalize "./src//-x.js") = .ok true := by decide +kernel
  have hfree : ¬ Linter.script.Blocked brokenHost.disk "./src//-x.js" := by
    rintro (⟨-, hnone⟩ | ⟨hpage, -⟩ | ⟨hpage, -⟩)
    · exact hnone hfile
    · cases hpage
    · cases hpage
  have hplain : ¬ Engine.configPlace.toList <:+: "./src//-x.js".toList := by decide +kernel
  have hnormalized : normalize "./src//-x.js" = "src/-x.js" := by decide +kernel
  obtain ⟨request, hrequests, hhanded, hdashed⟩ :=
    engine_argument_dashed_iff hrun hlanguage hfree hplain true
  rw [hnormalized] at hhanded hdashed
  exact ⟨hrun, hlanguage, hfree, hplain, ⟨request, hrequests, hhanded⟩,
    mt hdashed.mpr (by decide +kernel)⟩

/-- A file that is named behind a leading dot is handed over as an option, with a dash in front. -/
theorem engine_argument_dotSlash :
    "./-x.py".toList.head? ≠ some '-'
      ∧ brokenHost.disk.isFile "./-x.py" = .ok true
      ∧ (analyzeFile brokenHost Engine.defaults "./-x.py" "python" false).requests.map
          (fun request => (buildCommand request).toOption) = [some ["pyright", "-x.py"]]
      ∧ "-x.py".toList.head? = some '-' := by
  decide +kernel

end LintBroker
