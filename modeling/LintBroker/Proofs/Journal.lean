/-
  LintBroker.Proofs.Journal

  What set-ups of the journal come to.  `SetUp` says once all that one set-up can do:
  the wanted target is kept, or added, or cannot be opened.  From it follow the
  invariant of every run, at most one log file and each error stream at most once
  (`Logger.Sound`), and what a set-up that fails has already taken away.
-/
import LintBroker.Journal.Book
import LintBroker.Proofs.Path

namespace LintBroker.Journal

open LintBroker.Files

/-! ## Targets -/

/-- The path of a log file. -/
def Target.path? : Target → Option String
  | .file path => some path
  | .stream _ => none

namespace Logger

/-- The log files among the targets. -/
def logFiles (logger : Logger) : List String := logger.targets.filterMap Target.path?

/-- The error streams among the targets. -/
def streams (logger : Logger) : List Target := logger.targets.filter fun t => t.path?.isNone

/-- At most one log file is written, and no error stream twice. -/
structure Sound (logger : Logger) : Prop where
  length_logFiles_le : logger.logFiles.length ≤ 1
  count_stream_le : ∀ n, logger.targets.count (.stream n) ≤ 1

theorem logFiles_eq_nil_iff {logger : Logger} :
    logger.logFiles = [] ↔ logger.streams = logger.targets := by
  unfold logFiles streams
  rw [List.filterMap_eq_nil_iff, List.filter_eq_self]
  simp only [Option.isNone_iff_eq_none]

theorem mem_logFiles {logger : Logger} {path : String} :
    path ∈ logger.logFiles ↔ .file path ∈ logger.targets := by
  unfold logFiles
  rw [List.mem_filterMap]
  constructor
  · rintro ⟨target, hmem, hpath⟩
    cases target with
    | file other =>
      cases hpath
      exact hmem
    | stream n => cases hpath
  · exact fun hmem => ⟨.file path, hmem, rfl⟩

theorem Sound.logFiles_eq {logger : Logger} (h : logger.Sound) {path : String}
    (hmem : .file path ∈ logger.targets) : logger.logFiles = [path] := by
  obtain ⟨other, hone⟩ := List.length_eq_one_iff.mp
    (Nat.le_antisymm h.length_logFiles_le (List.length_pos_of_mem (mem_logFiles.mpr hmem)))
  have hin := mem_logFiles.mpr hmem
  rw [hone] at hin ⊢
  rw [List.mem_singleton.mp hin]

theorem Sound.count_stream_eq {logger : Logger} (h : logger.Sound) {n : Nat}
    (hmem : .stream n ∈ logger.targets) : logger.targets.count (.stream n) = 1 :=
  Nat.le_antisymm (h.count_stream_le n) (List.count_pos_iff.mpr hmem)

/-! ## Stale log files -/

/-- Where the wanted file is not met, every log file is stale. -/
theorem dropStale_of_not_mem {wanted : String} {targets : List Target}
    (h : .file wanted ∉ targets) :
    dropStale wanted targets = (targets.filter fun t => t.path?.isNone, false) := by
  induction targets with
  | nil => rfl
  | cons target rest ih =>
    obtain ⟨hne, hrest⟩ := List.ne_and_not_mem_of_not_mem_cons h
    cases target with
    | stream n =>
      rw [dropStale, ih hrest]
      rfl
    | file path =>
      have hpath : path ≠ wanted := fun heq => hne (congrArg Target.file heq.symm)
      rw [dropStale, if_neg hpath, ih hrest]
      rfl

/-- The wanted file is the only log file, so nothing in front of it is stale. -/
theorem dropStale_of_mem {wanted : String} {targets : List Target}
    (h : .file wanted ∈ targets) (hone : (targets.filterMap Target.path?).length ≤ 1) :
    dropStale wanted targets = (targets, true) := by
  induction targets with
  | nil => cases h
  | cons target rest ih =>
    cases target with
    | stream n =>
      have hrest : .file wanted ∈ rest := (List.mem_cons.mp h).resolve_left nofun
      rw [dropStale, ih hrest hone]
    | file path =>
      by_cases hpath : path = wanted
      · rw [dropStale, if_pos hpath]
      · -- A second log file behind another one would be one too many.
        have hrest : .file wanted ∈ rest :=
          (List.mem_cons.mp h).resolve_left fun heq => hpath (Target.file.inj heq).symm
        have hlater : wanted ∈ rest.filterMap Target.path? :=
          List.mem_filterMap.mpr ⟨_, hrest, rfl⟩
        have hpos := List.length_pos_of_mem hlater
        simp only [List.filterMap_cons, Target.path?, List.length_cons] at hone
        omega

end Logger

/-! ## Log files -/

theorem LogFiles.get?_touch (files : LogFiles) (path : String) :
    ((files.touch path).get? path).isSome = true := by
  unfold touch
  split
  · rename_i heq
    rw [heq]
    rfl
  · simp [put, get?]

theorem LogFiles.touch_of_isSome {files : LogFiles} {path : String}
    (h : (files.get? path).isSome = true) : files.touch path = files := by
  unfold touch
  split
  · rfl
  · rename_i hnone
    rw [hnone] at h
    cases h

/-! ## One set-up -/

section SetUp

variable {book : Book} {workingDirectory : String} {tryOpen : String → Except Failure Unit}
  {directory : Option String} {level : Level} {result : Except Failure Unit} {after : Book}

/-- The target that a set-up asks for. -/
def Book.wanted (book : Book) (workingDirectory : String) : Option String → Target
  | none => .stream book.current
  | some directory => .file (Logger.logPath workingDirectory directory)

/-- The log files after a set-up that found or made its own. -/
def Book.touched (book : Book) (workingDirectory : String) : Option String → LogFiles
  | none => book.files
  | some directory => book.files.touch (Logger.logPath workingDirectory directory)

/-- All that a set-up can do, with its result and the journal after it. -/
inductive SetUp (book : Book) (workingDirectory : String) (tryOpen : String → Except Failure Unit)
    (level : Level) : Option String → Except Failure Unit → Book → Prop where
  /-- The target is there already. -/
  | keeps {directory : Option String}
      (hwanted : book.wanted workingDirectory directory ∈ book.logger.targets) :
      SetUp book workingDirectory tryOpen level directory (.ok ())
        { book with
          logger := { book.logger with level }
          files := book.touched workingDirectory directory }
  /-- The current error stream is added. -/
  | addsStream (hwanted : .stream book.current ∉ book.logger.targets) :
      SetUp book workingDirectory tryOpen level none (.ok ())
        { book with logger := ⟨level, book.logger.targets ++ [.stream book.current]⟩ }
  /-- The log file is opened, and takes the place of every other one. -/
  | opens {directory path : String} (hpath : path = Logger.logPath workingDirectory directory)
      (hwanted : .file path ∉ book.logger.targets) (hopen : tryOpen path = .ok ()) :
      SetUp book workingDirectory tryOpen level (some directory) (.ok ())
        { book with
          logger := ⟨level, book.logger.streams ++ [.file path]⟩
          files := book.files.touch path }
  /-- The log file cannot be opened, and every other one is gone. -/
  | fails {directory path : String} {failure : Failure}
      (hpath : path = Logger.logPath workingDirectory directory)
      (hwanted : .file path ∉ book.logger.targets) (hopen : tryOpen path = .error failure) :
      SetUp book workingDirectory tryOpen level (some directory) (.error failure)
        { book with logger := { book.logger with targets := book.logger.streams } }

theorem setUp_of_setup (hsound : book.logger.Sound)
    (h : book.setup workingDirectory tryOpen directory level = (result, after)) :
    SetUp book workingDirectory tryOpen level directory result after := by
  cases directory with
  | none =>
    simp only [Book.setup, Logger.setupStream, List.contains_iff_mem, Prod.mk.injEq] at h
    obtain ⟨rfl, rfl⟩ := h
    by_cases hwanted : .stream book.current ∈ book.logger.targets
    · rw [if_pos hwanted]
      exact SetUp.keeps hwanted
    · rw [if_neg hwanted]
      exact .addsStream hwanted
  | some directory =>
    by_cases hwanted : .file (Logger.logPath workingDirectory directory) ∈ book.logger.targets
    · have hstale := Logger.dropStale_of_mem hwanted hsound.length_logFiles_le
      simp only [Book.setup, Logger.setupFile, hstale, if_true, Prod.mk.injEq] at h
      obtain ⟨rfl, rfl⟩ := h
      exact SetUp.keeps hwanted
    · have hstale := Logger.dropStale_of_not_mem hwanted
      simp only [Book.setup, Logger.setupFile, hstale, Bool.false_eq_true, if_false] at h
      cases hopen : tryOpen (Logger.logPath workingDirectory directory) with
      | error failure =>
        simp only [hopen, Prod.mk.injEq] at h
        obtain ⟨rfl, rfl⟩ := h
        exact .fails rfl hwanted hopen
      | ok opened =>
        simp only [hopen, Prod.mk.injEq] at h
        obtain ⟨rfl, rfl⟩ := h
        exact .opens rfl hwanted hopen

theorem Logger.logFiles_of_streams (logger : Logger) (level : Level) (path : String) :
    ({ level, targets := logger.streams } : Logger).logFiles = []
      ∧ ({ level, targets := logger.streams ++ [.file path] } : Logger).logFiles = [path] := by
  have hnone : logger.streams.filterMap Target.path? = [] := by
    unfold streams
    rw [List.filterMap_eq_nil_iff]
    intro target hmem
    exact Option.isNone_iff_eq_none.mp (List.mem_filter.mp hmem).2
  unfold logFiles
  refine ⟨hnone, ?_⟩
  rw [List.filterMap_append, hnone]
  rfl

theorem Logger.count_stream_streams (logger : Logger) (n : Nat) :
    logger.streams.count (.stream n) = logger.targets.count (.stream n) := by
  unfold streams
  exact List.count_filter rfl

/-- A set-up leaves a sound logger sound, whether it succeeds or not. -/
theorem SetUp.sound (h : SetUp book workingDirectory tryOpen level directory result after)
    (hsound : book.logger.Sound) : after.logger.Sound := by
  cases h with
  | keeps hwanted => exact ⟨hsound.length_logFiles_le, hsound.count_stream_le⟩
  | addsStream hwanted =>
    constructor
    · have hsame : (book.logger.targets ++ [Target.stream book.current]).filterMap Target.path?
          = book.logger.logFiles := by
        rw [List.filterMap_append]
        exact List.append_nil _
      exact Nat.le_trans (Nat.le_of_eq (congrArg List.length hsame)) hsound.length_logFiles_le
    · intro n
      rw [List.count_append, List.count_singleton]
      by_cases hn : n = book.current
      · subst hn
        rw [List.count_eq_zero_of_not_mem hwanted]
        simp
      · have hne : (Target.stream book.current == Target.stream n) = false := by
          simpa using fun heq => hn (heq.symm)
        rw [hne]
        exact hsound.count_stream_le n
  | opens hpath hwanted hopen =>
    constructor
    · rw [(Logger.logFiles_of_streams ..).2]
      exact Nat.le_refl 1
    · intro n
      rw [List.count_append, Logger.count_stream_streams]
      exact hsound.count_stream_le n
  | fails hpath hwanted hopen =>
    constructor
    · rw [(Logger.logFiles_of_streams book.logger _ "").1]
      exact Nat.zero_le 1
    · intro n
      rw [Logger.count_stream_streams]
      exact hsound.count_stream_le n

/-- A set-up that succeeds ends at its target with its level; a log file is there then. -/
theorem SetUp.settles (h : SetUp book workingDirectory tryOpen level directory (.ok ()) after) :
    after.wanted workingDirectory directory ∈ after.logger.targets ∧ after.logger.level = level
      ∧ after.touched workingDirectory directory = after.files := by
  cases h with
  | keeps hwanted =>
    refine ⟨by cases directory <;> exact hwanted, rfl, ?_⟩
    cases directory with
    | none => rfl
    | some directory => exact LogFiles.touch_of_isSome (LogFiles.get?_touch ..)
  | addsStream hwanted => exact ⟨List.mem_append_right _ (List.mem_singleton.mpr rfl), rfl, rfl⟩
  | opens hpath hwanted hopen =>
    subst hpath
    exact ⟨List.mem_append_right _ (List.mem_singleton.mpr rfl), rfl,
      LogFiles.touch_of_isSome (LogFiles.get?_touch ..)⟩

/-- A set-up for a target that is there already, with the level that is set already, changes
    nothing. -/
theorem setup_eq_self (hsound : book.logger.Sound)
    (hwanted : book.wanted workingDirectory directory ∈ book.logger.targets)
    (hlevel : book.logger.level = level)
    (hfiles : book.touched workingDirectory directory = book.files) :
    book.setup workingDirectory tryOpen directory level = (.ok (), book) := by
  have hsame : SetUp book workingDirectory tryOpen level directory
      (book.setup workingDirectory tryOpen directory level).1
      (book.setup workingDirectory tryOpen directory level).2 := setUp_of_setup hsound rfl
  subst hlevel
  generalize book.setup workingDirectory tryOpen directory book.logger.level = outcome at hsame
  obtain ⟨result, after⟩ := outcome
  cases hsame with
  | keeps _ => rw [hfiles]
  | addsStream hnot => exact absurd hwanted hnot
  | opens hpath hnot _ => exact absurd (hpath ▸ hwanted) hnot
  | fails hpath hnot _ => exact absurd (hpath ▸ hwanted) hnot

/-- A set-up whose level cannot be set does all but that, and fails. -/
theorem setUp_of_setupWith_error {complaint : Failure} (hsound : book.logger.Sound)
    (h : book.setupWith workingDirectory tryOpen directory (.error complaint) = (result, after)) :
    ∃ opened, SetUp book workingDirectory tryOpen book.logger.level directory opened after
      ∧ result = opened.bind fun _ => .error complaint := by
  have hsetup : SetUp book workingDirectory tryOpen book.logger.level directory
      (book.setup workingDirectory tryOpen directory book.logger.level).1
      (book.setup workingDirectory tryOpen directory book.logger.level).2 :=
    setUp_of_setup hsound rfl
  unfold Book.setupWith at h
  generalize book.setup workingDirectory tryOpen directory book.logger.level = outcome at h hsetup
  obtain ⟨opened, left⟩ := outcome
  cases opened with
  | ok _ =>
    cases h
    exact ⟨_, hsetup, rfl⟩
  | error failure =>
    cases h
    exact ⟨_, hsetup, rfl⟩

/-- With any level at all, a set-up leaves a sound logger sound. -/
theorem sound_setupWith (hsound : book.logger.Sound) (level : Except Failure Level) :
    (book.setupWith workingDirectory tryOpen directory level).2.logger.Sound := by
  cases level with
  | ok level => exact (setUp_of_setup hsound rfl).sound hsound
  | error complaint =>
    obtain ⟨opened, hsetup, -⟩ := setUp_of_setupWith_error hsound rfl
    exact hsetup.sound hsound

end SetUp

/-! ## Writing -/

namespace Book

variable (line : String)

theorem logger_foldl_writeTo (targets : List Target) (book : Book) :
    (targets.foldl (fun book target => book.writeTo line target) book).logger = book.logger := by
  induction targets generalizing book with
  | nil => rfl
  | cons target rest ih =>
    rw [List.foldl_cons, ih]
    cases target <;> rfl

theorem files_foldl_writeTo (targets : List Target) (book : Book) :
    (targets.foldl (fun book target => book.writeTo line target) book).files
      = (targets.filterMap Target.path?).foldl (fun files path => files.write path line)
        book.files := by
  induction targets generalizing book with
  | nil => rfl
  | cons target rest ih =>
    rw [List.foldl_cons, ih]
    cases target <;> rfl

/-- Each mention of a stream among the targets adds the line to it once. -/
theorem streams_foldl_writeTo (targets : List Target) (book : Book) (n : Nat) :
    (targets.foldl (fun book target => book.writeTo line target) book).streams[n]?
      = book.streams[n]?.map fun lines =>
        lines ++ List.replicate (targets.count (.stream n)) line := by
  induction targets generalizing book with
  | nil => simp
  | cons target rest ih =>
    rw [List.foldl_cons, ih]
    cases target with
    | file path => simp [writeTo]
    | stream m =>
      by_cases hm : m = n
      · subst hm
        have hline : (book.writeTo line (.stream m)).streams[m]?
            = book.streams[m]?.map fun lines => lines ++ [line] := List.getElem?_modify_eq ..
        rw [hline, Option.map_map, List.count_cons_self, List.replicate_succ]
        congr 1
        funext lines
        exact List.append_assoc ..
      · simp [writeTo, hm, List.getElem?_modify_ne]

/-- What writing a line does to a journal: the log file, if there is one, takes it once, and so does
    each error stream that is a target. -/
structure Wrote (book : Book) (line : String) (after : Book) : Prop where
  logger_eq : after.logger = book.logger
  files_eq : after.files
    = book.logger.logFiles.head?.elim book.files fun path => book.files.write path line
  stream_eq : ∀ n, after.streams[n]? = book.streams[n]?.map fun lines =>
    if .stream n ∈ book.logger.targets then lines ++ [line] else lines

theorem logger_write (book : Book) (record : Record) (time : String) :
    (book.write record time).logger = book.logger := by
  unfold write
  split
  · exact logger_foldl_writeTo ..
  · rfl

/-- No target of a sound logger takes a record twice. -/
theorem wrote_write {book : Book} (hsound : book.logger.Sound) {record : Record}
    (haccepts : book.logger.accepts record.level = true) (time : String) :
    book.Wrote (record.line time) (book.write record time) := by
  have hfold : book.write record time = book.logger.targets.foldl
      (fun book target => book.writeTo (record.line time) target) book := by
    unfold write
    split
    · rfl
    · rename_i hnone
      rw [not_and_not_right.mp hnone haccepts]
      rfl
  refine ⟨logger_write .., ?_, fun n => ?_⟩
  · rw [hfold, files_foldl_writeTo]
    change book.logger.logFiles.foldl _ _ = _
    have hone := hsound.length_logFiles_le
    cases hfiles : book.logger.logFiles with
    | nil => rfl
    | cons path others =>
      rw [hfiles, List.length_cons] at hone
      have hothers : others = [] := List.eq_nil_of_length_eq_zero (by omega)
      rw [hothers, List.foldl_cons, List.foldl_nil, List.head?_cons, Option.elim_some]
  · rw [hfold, streams_foldl_writeTo]
    by_cases hmem : .stream n ∈ book.logger.targets
    · simp [hsound.count_stream_eq hmem, hmem]
    · simp [List.count_eq_zero_of_not_mem hmem, hmem]

end Book

/-! ## Runs -/

/-- One thing that is done to a journal. -/
inductive Step where
  | setup (workingDirectory : String) (tryOpen : String → Except Failure Unit)
      (directory : Option String) (level : Except Failure Level)
  | newStream
  | useStream (n : Nat)
  | write (record : Record) (time : String)

/-- The journal after a step, be it a set-up that failed. -/
def Step.after (book : Book) : Step → Book
  | .setup workingDirectory tryOpen directory level =>
    (book.setupWith workingDirectory tryOpen directory level).2
  | .newStream => book.newStream
  | .useStream n => book.useStream n
  | .write record time => book.write record time

/-- The journal after steps in a row. -/
def Book.run (book : Book) (steps : List Step) : Book := steps.foldl Step.after book

theorem Step.sound {book : Book} (hsound : book.logger.Sound) (step : Step) :
    (step.after book).logger.Sound := by
  cases step with
  | setup workingDirectory tryOpen directory level => exact sound_setupWith hsound level
  | newStream => exact hsound
  | useStream n => exact hsound
  | write record time => exact (book.logger_write record time).symm ▸ hsound

theorem Book.sound_run {start : Book} (hstart : start.logger.targets = []) (steps : List Step) :
    (start.run steps).logger.Sound := by
  have hempty : start.logger.Sound := by
    constructor <;> simp [Logger.logFiles, hstart]
  clear hstart
  unfold run
  induction steps generalizing start with
  | nil => exact hempty
  | cons step rest ih => exact ih (step.sound hempty)

/-! ## Set-ups that succeed -/

/-- Two spellings of one directory have one log. -/
theorem Logger.logPath_congr {workingDirectory directory other : String}
    (h : absolute workingDirectory other = absolute workingDirectory directory) :
    logPath workingDirectory other = logPath workingDirectory directory := by
  have hname : IsPiece Project.logName.toList := ⟨by decide, by decide, by decide⟩
  unfold logPath
  rw [absolute_below _ _ hname (by decide), h, ← absolute_below _ _ hname (by decide)]

/-- The journal is directed as a set-up asked for: to the log of the directory and no other log
    file, or once to the current error stream. -/
def Book.DirectedTo (book : Book) (workingDirectory : String) : Option String → Prop
  | some directory => book.logger.logFiles = [Logger.logPath workingDirectory directory]
  | none => book.logger.targets.count (.stream book.current) = 1

theorem Book.directedTo_of_wanted {book : Book} (hsound : book.logger.Sound)
    {workingDirectory : String} {directory : Option String}
    (hwanted : book.wanted workingDirectory directory ∈ book.logger.targets) :
    book.DirectedTo workingDirectory directory := by
  cases directory with
  | none => exact hsound.count_stream_eq hwanted
  | some directory => exact hsound.logFiles_eq hwanted

/-- However a journal came about from a logger without targets, it has at most one log file and each
    error stream at most once, so no record is written twice to one target.  A set-up that succeeds
    directs it to its target, and another one for the same target, however the directory is
    spelled, changes nothing. -/
theorem Book.settled_of_run {start : Book} (hstart : start.logger.targets = [])
    (steps : List Step) :
    (start.run steps).logger.Sound
      ∧ (∀ record time, (start.run steps).logger.accepts record.level = true →
        (start.run steps).Wrote (record.line time) ((start.run steps).write record time))
      ∧ ∀ workingDirectory tryOpen directory level settled,
        (start.run steps).setupWith workingDirectory tryOpen directory level
            = (.ok (), settled) →
          level = .ok settled.logger.level ∧ settled.DirectedTo workingDirectory directory
            ∧ ∀ tryAgain spelling,
              spelling.map (absolute workingDirectory)
                  = directory.map (absolute workingDirectory) →
                settled.setupWith workingDirectory tryAgain spelling level
                  = (.ok (), settled) := by
  have hsound := sound_run hstart steps
  refine ⟨hsound, fun record time haccepts => wrote_write hsound haccepts time, ?_⟩
  intro workingDirectory tryOpen directory level settled hsetup
  cases level with
  | error complaint =>
    obtain ⟨opened, -, hresult⟩ := setUp_of_setupWith_error hsound hsetup
    cases opened <;> cases hresult
  | ok level =>
    have hdone := setUp_of_setup hsound hsetup
    have hafter := hdone.sound hsound
    obtain ⟨hwanted, hlevel, hfiles⟩ := hdone.settles
    refine ⟨congrArg Except.ok hlevel.symm, directedTo_of_wanted hafter hwanted, ?_⟩
    intro tryAgain spelling hspelling
    have hsame : settled.wanted workingDirectory spelling
          = settled.wanted workingDirectory directory
        ∧ settled.touched workingDirectory spelling
          = settled.touched workingDirectory directory := by
      cases directory with
      | none =>
        rw [Option.map_none, Option.map_eq_none_iff] at hspelling
        rw [hspelling]
        exact ⟨rfl, rfl⟩
      | some directory =>
        obtain ⟨other, rfl, hother⟩ := Option.map_eq_some_iff.mp hspelling
        have hpath := Logger.logPath_congr hother
        exact ⟨congrArg Target.file hpath, congrArg settled.files.touch hpath⟩
    exact setup_eq_self hafter (hsame.1 ▸ hwanted) hlevel (hsame.2.trans hfiles)

/-- No file can be opened: there is nothing at its directory. -/
def refuseAll (path : String) : Except Failure Unit := .error (.system .noEntry (some path))

/-- Two projects, a directory that is missing, and two error streams in turn. -/
def changingSteps : List Step :=
  [.setup "/work" (fun _ => .ok ()) (some "one") (.ok .info), .newStream,
    .setup "/work" refuseAll none (.ok .debug), .setup "/work" refuseAll (some "gone") (.ok .info),
    .useStream 0, .setup "/work" refuseAll none (.ok .warning), .useStream 1]

/-- After these steps the second project is set up, and then again by another spelling. -/
theorem Book.settled_of_run_changingSteps :
    ∃ settled, (({} : Book).run changingSteps).setupWith "/work" (fun _ => .ok ()) (some "two")
          (.ok .info) = (.ok (), settled)
      ∧ settled.logger.targets = [.stream 1, .stream 0, .file "/work/two/code-analyzer.log"]
      ∧ settled.DirectedTo "/work" (some "two")
      ∧ settled.setupWith "/work" refuseAll (some "/work/one/..//two/.") (.ok .info)
        = (.ok (), settled) := by
  have hsetup : (({} : Book).run changingSteps).setupWith "/work" (fun _ => .ok ()) (some "two")
      (.ok .info) = (.ok (), ((({} : Book).run changingSteps).setupWith "/work" (fun _ => .ok ())
        (some "two") (.ok .info)).2) := Prod.ext (by decide +kernel) rfl
  have hstart : ({} : Book).logger.targets = [] := rfl
  obtain ⟨-, hdirected, hagain⟩ := (settled_of_run hstart changingSteps).2.2 _ _ _ _ _ hsetup
  exact ⟨_, hsetup, by decide +kernel, hdirected, hagain _ _ (by decide +kernel)⟩

/-! ## Set-ups that fail -/

/-- A target that is there already, or a log that cannot be opened where no other one is written:
    then a set-up with the level that is set neither adds a target nor takes one away. -/
def Book.Undisturbed (book : Book) (workingDirectory : String)
    (tryOpen : String → Except Failure Unit) (directory : Option String) : Prop :=
  book.wanted workingDirectory directory ∈ book.logger.targets
    ∨ book.logger.logFiles = [] ∧ ∃ path failure,
      book.wanted workingDirectory directory = .file path ∧ tryOpen path = .error failure

/-- Where a log cannot be opened, what is disturbed is that another one was written. -/
theorem Book.undisturbed_iff_of_fails {book : Book} {workingDirectory directory : String}
    {tryOpen : String → Except Failure Unit} {failure : Failure}
    (hwanted : .file (Logger.logPath workingDirectory directory) ∉ book.logger.targets)
    (hopen : tryOpen (Logger.logPath workingDirectory directory) = .error failure) :
    book.Undisturbed workingDirectory tryOpen (some directory) ↔ book.logger.logFiles = [] := by
  constructor
  · rintro (hmem | ⟨hnone, -⟩)
    · exact absurd hmem hwanted
    · exact hnone
  · exact fun hnone => Or.inr ⟨hnone, _, failure, rfl, hopen⟩

/-- A logger with a target that was missing is another one. -/
theorem Logger.ne_of_added {logger : Logger} {level : Level} {front : List Target} {target : Target}
    (hwanted : target ∉ logger.targets) : (⟨level, front ++ [target]⟩ : Logger) ≠ logger := by
  intro heq
  have htargets : front ++ [target] = logger.targets := congrArg Logger.targets heq
  exact hwanted (htargets ▸ List.mem_append_right _ (List.mem_singleton.mpr rfl))

/-- With the level that is set, a set-up leaves that level, and the targets only in these cases. -/
theorem SetUp.logger_eq_iff {book after : Book} {workingDirectory : String}
    {tryOpen : String → Except Failure Unit} {directory : Option String}
    {result : Except Failure Unit}
    (h : SetUp book workingDirectory tryOpen book.logger.level directory result after) :
    after.logger.level = book.logger.level
      ∧ (after.logger = book.logger ↔ book.Undisturbed workingDirectory tryOpen directory) := by
  cases h with
  | keeps hwanted => exact ⟨rfl, iff_of_true rfl (Or.inl hwanted)⟩
  | addsStream hwanted =>
    refine ⟨rfl, iff_of_false (Logger.ne_of_added hwanted) ?_⟩
    rintro (hmem | ⟨-, path, failure, hpath, -⟩)
    · exact hwanted hmem
    · cases hpath
  | @opens _ path hpath hwanted hopen =>
    subst hpath
    refine ⟨rfl, iff_of_false (Logger.ne_of_added hwanted) ?_⟩
    rintro (hmem | ⟨-, path, failure, hpath, hfails⟩)
    · exact hwanted hmem
    · obtain rfl := Target.file.inj hpath
      rw [hopen] at hfails
      cases hfails
  | @fails _ path failure hpath hwanted hopen =>
    subst hpath
    refine ⟨rfl, ?_⟩
    have hkept : ({ book.logger with targets := book.logger.streams } : Logger) = book.logger
        ↔ book.logger.logFiles = [] := by
      rw [Logger.logFiles_eq_nil_iff]
      constructor
      · exact congrArg Logger.targets
      · intro hstreams
        rw [hstreams]
    exact hkept.trans (Book.undisturbed_iff_of_fails hwanted hopen).symm

/-- A set-up that fails is one with the level that was set before. -/
theorem setUp_of_failed {book left : Book} (hsound : book.logger.Sound) {workingDirectory : String}
    {tryOpen : String → Except Failure Unit} {directory : Option String}
    {level : Except Failure Level} {failure : Failure}
    (hfailed : book.setupWith workingDirectory tryOpen directory level = (.error failure, left)) :
    ∃ opened, SetUp book workingDirectory tryOpen book.logger.level directory opened left := by
  cases level with
  | error complaint =>
    obtain ⟨opened, hsetup, -⟩ := setUp_of_setupWith_error hsound hfailed
    exact ⟨opened, hsetup⟩
  | ok level =>
    cases setUp_of_setup hsound hfailed with
    | fails hpath hwanted hopen => exact ⟨_, .fails hpath hwanted hopen⟩

/-- A set-up that fails leaves the level as it is.  If the level could have been set, then the log
    of the directory could not be opened, and every log file is taken away all the same; so the
    logger is as before exactly if there was none. -/
theorem Book.left_of_failed_setup {start : Book} (hstart : start.logger.targets = [])
    (steps : List Step) {workingDirectory : String} {tryOpen : String → Except Failure Unit}
    {directory : Option String} {level : Except Failure Level} {failure : Failure} {left : Book}
    (hfailed : (start.run steps).setupWith workingDirectory tryOpen directory level
      = (.error failure, left)) :
    left.logger.level = (start.run steps).logger.level
      ∧ (left.logger = (start.run steps).logger
        ↔ (start.run steps).Undisturbed workingDirectory tryOpen directory)
      ∧ ∀ wanted, level = .ok wanted →
        left = { start.run steps with
          logger := { (start.run steps).logger with
            targets := (start.run steps).logger.streams } }
        ∧ (left.logger = (start.run steps).logger
          ↔ (start.run steps).logger.logFiles = []) := by
  have hsound := sound_run hstart steps
  obtain ⟨opened, hsetup⟩ := setUp_of_failed hsound hfailed
  obtain ⟨hlevel, hlogger⟩ := hsetup.logger_eq_iff
  refine ⟨hlevel, hlogger, ?_⟩
  rintro wanted rfl
  cases setUp_of_setup hsound hfailed with
  | fails hpath hwanted hopen =>
    subst hpath
    exact ⟨rfl, hlogger.trans (undisturbed_iff_of_fails hwanted hopen)⟩

/-- The log that was written until now is lost with one that cannot be opened: nothing takes the
    records any more. -/
theorem Book.failed_setup_loses_log :
    ((({} : Book).run [.setup "/work" (fun _ => .ok ()) (some "one") (.ok .info)]).setupWith "/work"
        refuseAll (some "gone") (.ok .info)).1
      = .error (.system .noEntry (some "/work/gone/code-analyzer.log"))
    ∧ (({} : Book).run [.setup "/work" (fun _ => .ok ()) (some "one") (.ok .info)]).logger.targets
      = [.file "/work/one/code-analyzer.log"]
    ∧ ((({} : Book).run [.setup "/work" (fun _ => .ok ()) (some "one") (.ok .info)]).setupWith "/work"
        refuseAll (some "gone") (.ok .info)).2.logger.targets = [] := by
  decide +kernel

/-- After the changing steps no log file is left, so one more failure changes nothing. -/
theorem Book.left_of_failed_setup_changingSteps :
    ∃ left, (({} : Book).run changingSteps).setupWith "/work" refuseAll (some "two") (.ok .error)
          = (.error (.system .noEntry (some "/work/two/code-analyzer.log")), left)
      ∧ left.logger = (({} : Book).run changingSteps).logger
      ∧ left.logger.targets = [.stream 1, .stream 0] := by
  have hfailed : (({} : Book).run changingSteps).setupWith "/work" refuseAll (some "two")
      (.ok .error) = (.error (.system .noEntry (some "/work/two/code-analyzer.log")),
        ((({} : Book).run changingSteps).setupWith "/work" refuseAll (some "two")
          (.ok .error)).2) := Prod.ext (by decide +kernel) rfl
  have hstart : ({} : Book).logger.targets = [] := rfl
  have hleft := left_of_failed_setup hstart changingSteps hfailed
  refine ⟨_, hfailed, (hleft.2.2 _ rfl).2.mpr (by decide +kernel), by decide +kernel⟩

end LintBroker.Journal
