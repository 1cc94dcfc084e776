/-
  LintBroker.Proofs.CallEnds

  How a call ends, whatever values its arguments hold.  The protocol provides for
  replies and for two errors (`Provided`), and the tools look at the kind of nearly
  every argument before they use it.  Only the language of an analysis is taken on
  trust: a list or a table cannot be looked up among names, and the failure of that
  look-up is nothing that the analysis reports.
-/
import LintBroker.Proofs.Actions
import LintBroker.Proofs.Requests

namespace LintBroker.Tool

open LintBroker.Files LintBroker.Text

variable {context : Context} {path : String} {fix : Bool} {language : Option Datum}

/-! ## Names -/

/-- What an analysis does with arguments of any shape: it complains about them in its reply, it
    cannot even look at them, or it goes on to what is at a path. -/
theorem analyze_cases (context : Context) (arguments : Datum) :
    (∃ complaint, analyze context arguments = pure (Reply.error complaint))
      ∨ (∃ failure, (∀ members, arguments ≠ .table members)
        ∧ analyze context arguments = .fail failure)
      ∨ ∃ (members : Members) (path : String) (fix : Bool), arguments = .table members
        ∧ members.get? "path" = some (.text path) ∧ blank path = false
        ∧ (members.get? "fix").getD (.bool false) = .bool fix
        ∧ analyze context arguments
          = (analyzePath context path (members.get? "language") fix).handle analysisFailure := by
  cases arguments with
  | table members =>
    cases hpath : Members.get? members "path" with
    | none =>
      refine Or.inl ⟨"Error analyzing code: path must be a non-empty string", ?_⟩
      simp only [analyze, Members.get, hpath, Option.getD_none]
    | some value =>
      cases value with
      | text path =>
        simp only [analyze, Members.get, hpath, Option.getD_some]
        by_cases hblank : blank path = true
        · exact Or.inl ⟨_, if_pos hblank⟩
        · simp only [if_neg hblank]
          cases hfix : (Members.get? members "fix").getD (.bool false) with
          | bool fix =>
            exact Or.inr (Or.inr ⟨members, path, fix, rfl, hpath, Bool.eq_false_iff.mpr hblank,
              hfix, rfl⟩)
          | _ => exact Or.inl ⟨_, rfl⟩
      | _ =>
        refine Or.inl ⟨"Error analyzing code: path must be a non-empty string", ?_⟩
        simp only [analyze, Members.get, hpath, Option.getD_some]
  | _ =>
    refine Or.inr (Or.inl ⟨_, fun members h => ?_, rfl⟩)
    cases h

/-- The three tools. -/
theorem action_cases {name : String} {action : Action} (h : actions.lookup name = some action) :
    (name = analyzeCode.name ∧ action = analyze)
      ∨ (name = fixIssues.name ∧ action = fun _ => Tool.fix)
      ∨ (name = getFixSuggestions.name ∧ action = fun _ => suggest) := by
  obtain ⟨before, after, htools, -⟩ := List.lookup_eq_some_iff.mp h
  have hmem : (name, action) ∈ actions := by
    rw [htools]
    exact List.mem_append_right _ (List.mem_cons_self ..)
  simpa only [actions, List.mem_cons, List.not_mem_nil, or_false, Prod.mk.injEq] using hmem

end LintBroker.Tool
