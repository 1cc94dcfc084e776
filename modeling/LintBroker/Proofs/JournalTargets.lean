/-
  LintBroker.Proofs.JournalTargets

  Which targets a journal has after steps in a row, told from the steps alone
  (`Standing`): an error stream from the set-up on that asked for it, and a log file
  from the one that opened it until a set-up asks for another log.  A set-up that
  succeeds takes the other log files out of the way and nothing else, so whatever else
  stands goes on to take every record beside its target.
-/
import LintBroker.Proofs.Journal

namespace LintBroker.Journal

open LintBroker.Files

/-! ## One step -/

/-- The log that a step asks for. -/
def Step.log? : Step → Option String
  | .setup workingDirectory _ (some directory) _ =>
    some (Logger.logPath workingDirectory directory)
  | _ => none

/-- The step is a set-up for a log that can be opened. -/
def Step.Opens (path : String) : Step → Prop
  | .setup workingDirectory tryOpen (some directory) _ =>
    path = Logger.logPath workingDirectory directory ∧ tryOpen path = .ok ()
  | _ => False

/-- The step is a set-up for the current error stream. -/
def Step.AsksStream : Step → Prop
  | .setup _ _ none _ => True
  | _ => False

section Step

variable {book after : Book} {workingDirectory : String} {tryOpen : String → Except Failure Unit}
  {directory : Option String} {level : Level} {result : Except Failure Unit}

/-- Whatever comes of its level, a set-up does to the targets what one with some level does. -/
theorem exists_setUp_of_setupWith (hsound : book.logger.Sound) (workingDirectory : String)
    (tryOpen : String → Except Failure Unit) (directory : Option String)
    (level : Except Failure Level) :
    ∃ used result, SetUp book workingDirectory tryOpen used directory result
      (book.setupWith workingDirectory tryOpen directory level).2 := by
  cases level with
  | ok level => exact ⟨level, _, setUp_of_setup hsound rfl⟩
  | error complaint =>
    -- Its level is that of the logger then, and the result is the complaint.
    have hbroken : book.setupWith workingDirectory tryOpen directory (.error complaint)
        = ((book.setupWith workingDirectory tryOpen directory (.error complaint)).1,
          (book.setupWith workingDirectory tryOpen directory (.error complaint)).2) := rfl
    obtain ⟨opened, hsetup, -⟩ := setUp_of_setupWith_error hsound hbroken
    exact ⟨_, opened, hsetup⟩

theorem Logger.mem_streams {logger : Logger} {target : Target} :
    target ∈ logger.streams ↔ target ∈ logger.targets ∧ target.path? = none := by
  unfold streams
  rw [List.mem_filter, Option.isNone_iff_eq_none]

theorem SetUp.mem_stream_iff
    (h : SetUp book workingDirectory tryOpen level directory result after) (n : Nat) :
    .stream n ∈ after.logger.targets
      ↔ .stream n ∈ book.logger.targets ∨ directory = none ∧ n = book.current := by
  cases h with
  | keeps hwanted =>
    refine ⟨Or.inl, ?_⟩
    rintro (hmem | ⟨rfl, rfl⟩)
    · exact hmem
    · exact hwanted
  | addsStream hwanted => simp
  | opens hpath hwanted hopen => simp [Logger.mem_streams, Target.path?]
  | fails hpath hwanted hopen => simp [Logger.mem_streams, Target.path?]

/-- Opening a log takes every other one away, and so does failing to open it. -/
theorem SetUp.mem_file_iff (hsound : book.logger.Sound) {asked : String}
    (h : SetUp book workingDirectory tryOpen level (some asked) result after) (path : String) :
    .file path ∈ after.logger.targets
      ↔ path = Logger.logPath workingDirectory asked
        ∧ (tryOpen path = .ok () ∨ .file path ∈ book.logger.targets) := by
  cases h with
  | keeps hwanted =>
    constructor
    · intro hmem
      have hone : path ∈ book.logger.logFiles := Logger.mem_logFiles.mpr hmem
      rw [hsound.logFiles_eq hwanted] at hone
      exact ⟨List.mem_singleton.mp hone, Or.inr hmem⟩
    · rintro ⟨rfl, -⟩
      exact hwanted
  | opens hpath hwanted hopen =>
    subst hpath
    constructor
    · intro hmem
      have hlast : path = Logger.logPath workingDirectory asked := by
        simpa [Logger.mem_streams, Target.path?] using hmem
      exact ⟨hlast, Or.inl (hlast ▸ hopen)⟩
    · rintro ⟨rfl, -⟩
      exact List.mem_append_right _ (List.mem_singleton_self _)
  | fails hpath hwanted hopen =>
    subst hpath
    refine iff_of_false ?_ ?_
    · simp [Logger.mem_streams, Target.path?]
    · rintro ⟨rfl, hopened | hmem⟩
      · rw [hopen] at hopened
        cases hopened
      · exact hwanted hmem

theorem SetUp.mem_file_iff_of_none
    (h : SetUp book workingDirectory tryOpen level none result after) (path : String) :
    .file path ∈ after.logger.targets ↔ .file path ∈ book.logger.targets := by
  cases h with
  | keeps hwanted => exact Iff.rfl
  | addsStream hwanted => simp

end Step

theorem Step.mem_stream_after {book : Book} (hsound : book.logger.Sound) (step : Step) (n : Nat) :
    .stream n ∈ (step.after book).logger.targets
      ↔ .stream n ∈ book.logger.targets ∨ step.AsksStream ∧ n = book.current := by
  cases step with
  | setup workingDirectory tryOpen directory level =>
    obtain ⟨used, result, hsetup⟩ :=
      exists_setUp_of_setupWith hsound workingDirectory tryOpen directory level
    have hasks : (Step.setup workingDirectory tryOpen directory level).AsksStream
        ↔ directory = none := by
      cases directory <;> simp [AsksStream]
    rw [hasks]
    exact hsetup.mem_stream_iff n
  | write record time =>
    rw [after, Book.logger_write]
    simp [AsksStream]
  | newStream => simp [after, Book.newStream, AsksStream]
  | useStream m => simp [after, Book.useStream, AsksStream]

theorem Step.mem_file_after {book : Book} (hsound : book.logger.Sound) (step : Step)
    (path : String) :
    .file path ∈ (step.after book).logger.targets
      ↔ step.Opens path ∨ .file path ∈ book.logger.targets
        ∧ ∀ other, step.log? = some other → other = path := by
  cases step with
  | setup workingDirectory tryOpen directory level =>
    obtain ⟨used, result, hsetup⟩ :=
      exists_setUp_of_setupWith hsound workingDirectory tryOpen directory level
    cases directory with
    | none =>
      rw [show Step.after book (.setup workingDirectory tryOpen none level)
        = (book.setupWith workingDirectory tryOpen none level).2 from rfl,
        hsetup.mem_file_iff_of_none]
      simp [Opens, log?]
    | some asked =>
      rw [show Step.after book (.setup workingDirectory tryOpen (some asked) level)
        = (book.setupWith workingDirectory tryOpen (some asked) level).2 from rfl,
        hsetup.mem_file_iff hsound]
      simp only [Opens, log?, Option.some.injEq]
      constructor
      · rintro ⟨hpath, hopen | hmem⟩
        · exact Or.inl ⟨hpath, hopen⟩
        · exact Or.inr ⟨hmem, fun other hother => hother.symm.trans hpath.symm⟩
      · rintro (⟨hpath, hopen⟩ | ⟨hmem, hsame⟩)
        · exact ⟨hpath, Or.inl hopen⟩
        · exact ⟨(hsame _ rfl).symm, Or.inr hmem⟩
  | write record time =>
    rw [after, Book.logger_write]
    simp [Opens, log?]
  | newStream => simp [after, Book.newStream, Opens, log?]
  | useStream m => simp [after, Book.useStream, Opens, log?]

/-! ## Steps in a row -/

/-- A target that steps in a row leave: an error stream that some set-up asked for while it was the
    current one, or a log file that some set-up opened, if none after it asked for another log. -/
inductive Standing (start : Book) (steps : List Step) : Target → Prop where
  | stream {before behind : List Step} {step : Step} (hsteps : steps = before ++ step :: behind)
      (hasks : step.AsksStream) : Standing start steps (.stream (start.run before).current)
  | file {before behind : List Step} {step : Step} {path : String}
      (hsteps : steps = before ++ step :: behind) (hopens : step.Opens path)
      (hlater : ∀ later ∈ behind, ∀ other, later.log? = some other → other = path) :
      Standing start steps (.file path)

section Standing

variable {start : Book} {steps : List Step} {step : Step}

/-- A step among steps of which one is added at the end is the last one, or it was there before. -/
theorem concat_eq_append_cons {before behind : List Step} {found : Step}
    (h : steps ++ [step] = before ++ found :: behind) :
    (behind = [] ∧ before = steps ∧ found = step)
      ∨ ∃ between, behind = between ++ [step] ∧ steps = before ++ found :: between := by
  rcases List.eq_nil_or_concat behind with rfl | ⟨between, last, rfl⟩
  · obtain ⟨hfront, hlast⟩ := List.append_inj' h rfl
    cases hlast
    exact Or.inl ⟨rfl, hfront.symm, rfl⟩
  · rw [List.concat_eq_append, ← List.cons_append, ← List.append_assoc] at h
    obtain ⟨hfront, hlast⟩ := List.append_inj' h rfl
    cases hlast
    exact Or.inr ⟨between, List.concat_eq_append .., hfront⟩

theorem standing_stream_concat {n : Nat} :
    Standing start (steps ++ [step]) (.stream n)
      ↔ Standing start steps (.stream n) ∨ step.AsksStream ∧ n = (start.run steps).current := by
  constructor
  · rintro (⟨hsteps, hasks⟩ | -)
    rcases concat_eq_append_cons hsteps with ⟨rfl, rfl, rfl⟩ | ⟨between, rfl, hbefore⟩
    · exact Or.inr ⟨hasks, rfl⟩
    · exact Or.inl (.stream hbefore hasks)
  · rintro (⟨hsteps, hasks⟩ | ⟨hasks, rfl⟩)
    · exact .stream (by rw [hsteps, List.append_assoc, List.cons_append]) hasks
    · exact .stream rfl hasks

theorem standing_file_concat {path : String} :
    Standing start (steps ++ [step]) (.file path)
      ↔ step.Opens path ∨ Standing start steps (.file path)
        ∧ ∀ other, step.log? = some other → other = path := by
  constructor
  · rintro (- | ⟨hsteps, hopens, hlater⟩)
    rcases concat_eq_append_cons hsteps with ⟨rfl, rfl, rfl⟩ | ⟨between, rfl, hbefore⟩
    · exact Or.inl hopens
    · refine Or.inr ⟨.file hbefore hopens fun later hmem => ?_, ?_⟩
      · exact hlater later (List.mem_append_left _ hmem)
      · exact hlater step (List.mem_append_right _ (List.mem_singleton_self _))
  · rintro (hopens | ⟨- | ⟨hsteps, hopens, hlater⟩, hstep⟩)
    · exact .file rfl hopens fun later hmem => nomatch hmem
    · refine .file (by rw [hsteps, List.append_assoc, List.cons_append]) hopens ?_
      intro later hmem
      rcases List.mem_append.mp hmem with hbetween | hlast
      · exact hlater later hbetween
      · rw [List.mem_singleton.mp hlast]
        exact hstep

/-- From a logger without targets, the targets are those that the steps leave. -/
theorem mem_targets_run_iff (hstart : start.logger.targets = []) (steps : List Step)
    (target : Target) :
    target ∈ (start.run steps).logger.targets ↔ Standing start steps target := by
  -- On the last step: whether a target that was opened still stands depends on the steps behind.
  induction steps using List.reverseRecOn with
  | nil =>
    refine iff_of_false ?_ ?_
    · rw [show start.run [] = start from rfl, hstart]
      exact List.not_mem_nil
    · rintro (⟨hsteps, -⟩ | ⟨hsteps, -, -⟩)
      · exact List.append_ne_nil_of_right_ne_nil _ (List.cons_ne_nil _ _) hsteps.symm
      · exact List.append_ne_nil_of_right_ne_nil _ (List.cons_ne_nil _ _) hsteps.symm
  | append_singleton steps step ih =>
    have hsound := Book.sound_run hstart steps
    have hrun : start.run (steps ++ [step]) = step.after (start.run steps) :=
      List.foldl_concat ..
    rw [hrun]
    cases target with
    | stream n => rw [step.mem_stream_after hsound, ih, standing_stream_concat]
    | file path => rw [step.mem_file_after hsound, ih, standing_file_concat]

end Standing

/-! ## Targets beside the wanted one -/

/-- The target is a log file. -/
def Target.IsFile (target : Target) : Prop := target.path?.isSome = true

theorem SetUp.mem_targets_iff {book after : Book} (hsound : book.logger.Sound)
    {workingDirectory : String} {tryOpen : String → Except Failure Unit}
    {directory : Option String} {level : Level}
    (h : SetUp book workingDirectory tryOpen level directory (.ok ()) after) (target : Target) :
    target ∈ after.logger.targets ↔ target = book.wanted workingDirectory directory
      ∨ target ∈ book.logger.targets
        ∧ ¬ ((book.wanted workingDirectory directory).IsFile ∧ target.IsFile) := by
  -- The wanted target is there after every set-up that succeeds, kept or added.
  have hown : book.wanted workingDirectory directory ∈ after.logger.targets := by
    have hsettled := h.settles.1
    cases h <;> exact hsettled
  cases target with
  | stream n =>
    rw [h.mem_stream_iff]
    have hother : ¬ (Target.stream n).IsFile := Bool.false_ne_true
    cases directory with
    | none => simp [Book.wanted, hother, or_comm]
    | some asked => simp [Book.wanted, hother]
  | file path =>
    cases directory with
    | none =>
      rw [h.mem_file_iff_of_none]
      have hother : ¬ (Target.stream book.current).IsFile := Bool.false_ne_true
      simp [Book.wanted, hother]
    | some asked =>
      have hfiles : (Target.file path).IsFile
          ∧ (Target.file (Logger.logPath workingDirectory asked)).IsFile := ⟨rfl, rfl⟩
      constructor
      · intro hmem
        exact Or.inl (congrArg Target.file ((h.mem_file_iff hsound path).mp hmem).1)
      · rintro (heq | ⟨-, hnot⟩)
        · rw [heq]
          exact hown
        · exact absurd ⟨hfiles.2, hfiles.1⟩ hnot

/-- A set-up that succeeds, whatever steps came before it.  Beside its own target the journal has
    those that the steps left, except that a log takes the place of every other log.  So it is the
    only target exactly if the steps left no other one; and as long as the logger stays as it is,
    every record that is accepted goes to all that are left. -/
theorem Book.targets_of_setup {start : Book} (hstart : start.logger.targets = [])
    (steps : List Step) {workingDirectory : String} {tryOpen : String → Except Failure Unit}
    {directory : Option String} {level : Except Failure Level} {settled : Book}
    (hsetup : (start.run steps).setupWith workingDirectory tryOpen directory level
      = (.ok (), settled)) :
    (∀ target, target ∈ settled.logger.targets
        ↔ target = (start.run steps).wanted workingDirectory directory
          ∨ Standing start steps target
            ∧ ¬ (((start.run steps).wanted workingDirectory directory).IsFile ∧ target.IsFile))
      ∧ ((∀ target ∈ settled.logger.targets,
          target = (start.run steps).wanted workingDirectory directory)
        ↔ ∀ target, Standing start steps target →
          target = (start.run steps).wanted workingDirectory directory
            ∨ ((start.run steps).wanted workingDirectory directory).IsFile ∧ target.IsFile)
      ∧ ∀ now : Book, now.logger = settled.logger → ∀ record time,
        now.logger.accepts record.level = true →
          now.Wrote (record.line time) (now.write record time) := by
  have hsound := sound_run hstart steps
  cases level with
  | error complaint =>
    obtain ⟨opened, -, hresult⟩ := setUp_of_setupWith_error hsound hsetup
    cases opened <;> cases hresult
  | ok level =>
    have hdone := setUp_of_setup hsound hsetup
    have hmem : ∀ target, target ∈ settled.logger.targets
        ↔ target = (start.run steps).wanted workingDirectory directory
          ∨ Standing start steps target
            ∧ ¬ (((start.run steps).wanted workingDirectory directory).IsFile ∧ target.IsFile) := by
      intro target
      rw [hdone.mem_targets_iff hsound, mem_targets_run_iff hstart]
    refine ⟨hmem, ⟨fun hall target hstanding => ?_, fun hall target hin => ?_⟩, ?_⟩
    · by_contra hnot
      obtain ⟨hne, hfiles⟩ := not_or.mp hnot
      exact hne (hall target ((hmem target).mpr (Or.inr ⟨hstanding, hfiles⟩)))
    · rcases (hmem target).mp hin with heq | ⟨hstanding, hfiles⟩
      · exact heq
      · exact (hall target hstanding).resolve_right hfiles
    · intro now hnow record time haccepts
      have hafter := hdone.sound hsound
      rw [← hnow] at hafter
      exact wrote_write hafter haccepts time

/-- After the changing steps both error streams are left, so the log of the second project is not
    the only target: whatever it takes, they take as well. -/
theorem Book.targets_of_setup_changingSteps :
    ∃ settled, (({} : Book).run changingSteps).setupWith "/work" (fun _ => .ok ()) (some "two")
          (.ok .info) = (.ok (), settled)
      ∧ Standing {} changingSteps (.stream 0)
      ∧ .stream 0 ∈ settled.logger.targets
      ∧ ∀ record : Record, settled.logger.accepts record.level = true →
        settled.Wrote (record.line "T") (settled.write record "T") := by
  have hsetup : (({} : Book).run changingSteps).setupWith "/work" (fun _ => .ok ()) (some "two")
      (.ok .info) = (.ok (), ((({} : Book).run changingSteps).setupWith "/work" (fun _ => .ok ())
        (some "two") (.ok .info)).2) := Prod.ext (by decide +kernel) rfl
  have hstart : ({} : Book).logger.targets = [] := rfl
  obtain ⟨hmem, -, hwrote⟩ := targets_of_setup hstart changingSteps hsetup
  have hstanding : Standing {} changingSteps (.stream 0) :=
    (mem_targets_run_iff rfl changingSteps (.stream 0)).mp (by decide +kernel)
  have hleft := (hmem (.stream 0)).mpr (Or.inr ⟨hstanding, fun hfiles => nomatch hfiles.2⟩)
  exact ⟨_, hsetup, hstanding, hleft, fun record haccepts => hwrote _ rfl record "T" haccepts⟩

/-- A project and the error stream in turn: both set-ups succeed, and whichever is asked for last,
    the other one still takes the next record. -/
theorem Book.stale_targets_take_records :
    let project : Step := .setup "/work" (fun _ => .ok ()) (some "one") (.ok .info)
    let stream : Step := .setup "/work" (fun _ => .ok ()) none (.ok .info)
    let record : Record := { logger := mainLogger, level := .error, message := "m" }
    ((({} : Book).run [stream]).setupWith "/work" (fun _ => .ok ()) (some "one") (.ok .info)).1
        = .ok ()
      ∧ ((({} : Book).run [stream, project]).write record "T").streams = [[record.line "T"]]
      ∧ ((({} : Book).run [project]).setupWith "/work" (fun _ => .ok ()) none (.ok .info)).1
        = .ok ()
      ∧ ((({} : Book).run [project, stream]).write record "T").files
        = [("/work/one/code-analyzer.log", ({} : LogFile).append (record.line "T"))] := by
  decide +kernel

end LintBroker.Journal
