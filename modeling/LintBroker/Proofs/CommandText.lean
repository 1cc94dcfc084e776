/-
  LintBroker.Proofs.CommandText

  The text of a command.  Words are written so that cutting the text gives them back, and
  each word is cut off by itself: plain characters go through a word as they are, all others
  go through single quotes, and a blank ends the word.  So the record of a run tells the
  argument list that is started, whatever the arguments are (`words_of_runRecord`).
-/
import LintBroker.Engine.Run
import Mathlib.Data.List.Basic

namespace LintBroker

open LintBroker.Journal LintBroker.Shell

namespace Shell

/-! ## Written words -/

/-- A plain character ends no word, and opens no quotes and no escape. -/
theorem of_isPlain {c : Char} (h : isPlain c = true) :
    isGap c = false ∧ c ≠ '\\' ∧ c ≠ '\'' ∧ c ≠ '"' := by
  have hmarks : [' ', '\t', '\r', '\n', '\\', '\'', '"'].all (!isPlain ·) = true := by decide
  have hne : ∀ mark ∈ [' ', '\t', '\r', '\n', '\\', '\'', '"'], c ≠ mark := by
    rintro mark hmark rfl
    have hnot := List.all_eq_true.mp hmarks c hmark
    rw [h] at hnot
    cases hnot
  refine ⟨?_, hne _ (by simp), hne _ (by simp), hne _ (by simp)⟩
  simp only [isGap, Bool.or_eq_false_iff, beq_eq_false_iff_ne]
  exact ⟨⟨⟨hne _ (by simp), hne _ (by simp)⟩, hne _ (by simp)⟩, hne _ (by simp)⟩

/-- Plain characters are taken into the current word. -/
theorem cut_word_append {front : List Char} (h : ∀ c ∈ front, isPlain c = true)
    (done rest : List Char) :
    cut .word done (front ++ rest) = cut .word (front.reverse ++ done) rest := by
  induction front generalizing done with
  | nil => rfl
  | cons c others ih =>
    obtain ⟨hgap, hslash, hsingle, hdouble⟩ := of_isPlain (h c (List.mem_cons_self ..))
    rw [List.cons_append, cut, hgap, if_neg Bool.false_ne_true, if_neg hslash, if_neg hsingle,
      if_neg hdouble, ih fun d hd => h d (List.mem_cons_of_mem c hd), List.reverse_cons,
      List.append_assoc, List.singleton_append]

/-- In single quotes every character is taken as it is, and the quote that ends them leads back
    into the word. -/
theorem cut_single_append (front done rest : List Char) :
    cut .single done (front.flatMap quotedWordChar ++ '\'' :: rest)
      = cut .word (front.reverse ++ done) rest := by
  induction front generalizing done with
  | nil => simp only [List.flatMap_nil, List.nil_append, List.reverse_nil, cut, if_true]
  | cons c others ih =>
    rw [List.flatMap_cons, List.append_assoc, List.reverse_cons, List.append_assoc,
      List.singleton_append, ← ih]
    by_cases hc : c = '\''
    · -- The quotes are left, the quote stands in double ones, and the quotes are entered again.
      subst hc
      rfl
    · rw [quotedWordChar, if_neg hc, List.singleton_append, cut, if_neg hc]

/-- A word that is written is read as one word, up to where it ends. -/
theorem cut_wordChars (word done rest : List Char) :
    cut .gap done (wordChars word ++ rest) = cut .word word.reverse rest := by
  unfold wordChars
  split
  · rename_i hplain
    obtain ⟨hne, hall⟩ := hplain
    rw [List.all_eq_true] at hall
    obtain ⟨c, others, rfl⟩ := List.exists_cons_of_ne_nil hne
    obtain ⟨hgap, hslash, hsingle, hdouble⟩ := of_isPlain (hall c (List.mem_cons_self ..))
    rw [List.cons_append, cut, hgap, if_neg Bool.false_ne_true, if_neg hslash, if_neg hsingle,
      if_neg hdouble, cut_word_append fun d hd => hall d (List.mem_cons_of_mem c hd),
      List.reverse_cons]
  · have hquotes := cut_single_append word [] rest
    rw [List.append_nil] at hquotes
    rw [← hquotes, List.cons_append, List.cons_append, List.append_assoc, List.singleton_append]
    rfl

/-! ## Written rows of words -/

theorem joinChars_cons {word : List Char} {rest : List (List Char)} (h : rest ≠ []) :
    joinChars (word :: rest) = wordChars word ++ ' ' :: joinChars rest := by
  obtain ⟨next, others, rfl⟩ := List.exists_cons_of_ne_nil h
  rw [joinChars, List.map_cons, List.map_cons, List.intercalate_cons_cons, List.append_assoc,
    List.singleton_append, ← List.map_cons]
  rfl

/-- Cutting a row of words that was written gives the words back. -/
theorem cut_joinChars (parts : List (List Char)) (done : List Char) :
    cut .gap done (joinChars parts) = .ok parts := by
  induction parts generalizing done with
  | nil => rfl
  | cons word rest ih =>
    by_cases hrest : rest = []
    -- The last word ends with the text, any other one at the blank behind it.
    · have hlast := cut_wordChars word done []
      rw [List.append_nil] at hlast
      rw [hrest, joinChars, List.map_singleton, List.intercalate_singleton, hlast, cut,
        List.reverse_reverse]
    · have hgap : isGap ' ' = true := rfl
      rw [joinChars_cons hrest, cut_wordChars, cut, if_pos hgap, ih, List.reverse_reverse]
      rfl

/-- The words of a text that was made of words are those words. -/
theorem words_joinWords (parts : List String) : words (joinWords parts) = .ok parts := by
  rw [words, joinWords, String.toList_ofList, cut_joinChars]
  show Except.ok ((parts.map String.toList).map String.ofList) = _
  rw [List.map_map]
  exact congrArg Except.ok ((List.map_congr_left fun _ _ => String.ofList_toList).trans
    (List.map_id parts))

/-- No two rows of words have the same text. -/
theorem joinWords_injective : Function.Injective joinWords := by
  intro parts others h
  have hwords := words_joinWords parts
  rw [h, words_joinWords] at hwords
  exact (Except.ok.inj hwords).symm

example : joinWords ["npx", "", "it's", "a b"] = "npx '' 'it'\"'\"'s' 'a b'" := by decide

end Shell

/-! ## Runs -/

section Runs

variable {request : EngineRequest}

/-- A command that cannot be built is not run. -/
theorem runEngine_of_refused {failure : Failure} (h : buildCommand request = .error failure)
    (launcher : Program.Launcher) :
    runEngine launcher request = .fail (.engine failure.message) := by
  unfold runEngine
  rw [h]

/-- What a run does with a command that was built: it logs it and launches its first word. -/
theorem runEngine_of_buildCommand {program : String} {args : List String}
    (h : buildCommand request = .ok (program :: args)) (launcher : Program.Launcher) :
    runEngine launcher request
      = ⟨match Program.launch launcher program args (engineEnvironment launcher request.engine) with
          | .error failure => .error (launchFailure request.engine program failure)
          | .ok result => collect request.engine result,
        [runRecord request.engine (program :: args)], []⟩ := by
  unfold runEngine
  rw [h]
  simp only
  cases Program.launch launcher program args (engineEnvironment launcher request.engine) with
  | error failure => rfl
  | ok result => rfl

/-- A run of a command that was built has one record, whether the program can be started or not, and
    leads to no further run. -/
theorem trace_of_buildCommand {command : List String} (h : buildCommand request = .ok command)
    (launcher : Program.Launcher) :
    (runEngine launcher request).records = [runRecord request.engine command]
      ∧ (runEngine launcher request).requests = [] := by
  cases command with
  | nil =>
    unfold runEngine
    rw [h]
    exact ⟨rfl, rfl⟩
  | cons program args =>
    rw [runEngine_of_buildCommand h]
    exact ⟨rfl, rfl⟩

end Runs

/-! ## Records of runs -/

/-- A run of any engine on any target, with any further arguments, for which a command is built: its
    one record names the engine and goes on with a text, and that text is cut into the arguments of
    the command, each as it is.  So two runs of engines of one name with the same record start the
    same arguments. -/
theorem words_of_runRecord {request : EngineRequest} {command : List String}
    (h : buildCommand request = .ok command) (launcher : Program.Launcher) :
    ∃ record text, (runEngine launcher request).records = [record]
      ∧ record.level = .debug
      ∧ record.message = "Running engine " ++ request.engine.name ++ ": " ++ text
      ∧ words text = .ok command
      ∧ ∀ (other : EngineRequest) (otherCommand : List String) (otherLauncher : Program.Launcher),
        buildCommand other = .ok otherCommand → other.engine.name = request.engine.name →
        (runEngine otherLauncher other).records = [record] → otherCommand = command := by
  refine ⟨_, joinWords command, (trace_of_buildCommand h launcher).1, rfl, rfl,
    words_joinWords command, ?_⟩
  -- With the same name in front, the same record has the same text.
  intro other otherCommand otherLauncher hother hname hrecords
  rw [(trace_of_buildCommand hother _).1, List.singleton_inj] at hrecords
  have hmessage := congrArg Record.message hrecords
  simp only [runRecord, hname, String.append_right_inj] at hmessage
  exact joinWords_injective hmessage

/-- A command with a quoted program, for a target on two lines with quotes of both kinds. -/
def quotedRequest : EngineRequest where
  engine :=
    { name := "py", description := "", command := "'my tool' -v"
      args := ["", "back\\slash", "--é", Engine.filePlace] }
  file := "it's\n\"new\""
  extraArgs := ["--fix", " "]

/-- The arguments of that command. -/
def quotedArguments : List String :=
  ["my tool", "-v", "--fix", " ", "", "back\\slash", "--é", "it's\n\"new\""]

/-- The text in the record of its run has quotes around most of them, and is cut into the same
    arguments. -/
theorem words_of_runRecord_quotedRequest :
    buildCommand quotedRequest = .ok quotedArguments
      ∧ ∀ launcher, ∃ record text, (runEngine launcher quotedRequest).records = [record]
        ∧ record.message = "Running engine py: " ++ text
        ∧ text = "'my tool' -v --fix ' ' '' 'back\\slash' '--é' 'it'\"'\"'s\n\"new\"'"
        ∧ words text = .ok quotedArguments := by
  have hcommand : buildCommand quotedRequest = .ok quotedArguments := by decide +kernel
  refine ⟨hcommand, fun launcher => ?_⟩
  obtain ⟨record, text, hrecords, -, hmessage, hwords, -⟩ := words_of_runRecord hcommand launcher
  have hengine : "Running engine " ++ quotedRequest.engine.name ++ ": " = "Running engine py: " := by
    decide +kernel
  rw [hengine] at hmessage
  refine ⟨record, text, hrecords, hmessage, ?_, hwords⟩
  rw [(trace_of_buildCommand hcommand _).1, List.singleton_inj] at hrecords
  rw [← hrecords] at hmessage
  have htext : joinWords quotedArguments = text := by
    simpa only [runRecord, hengine, String.append_right_inj] using hmessage
  rw [← htext]
  decide +kernel

end LintBroker
