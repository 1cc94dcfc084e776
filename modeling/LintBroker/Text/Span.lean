/-
  LintBroker.Text.Span

  Sets of characters as ascending lists of code point ranges.  The properties of
  characters that the library needs (blank, digit, word, printable, cased) are
  data of the character standard; each is one such list and one membership test.
-/

namespace LintBroker.Text

/-- The code points from `first` to `last`, both included. -/
structure Span where
  first : Nat
  last : Nat
  deriving Repr, DecidableEq

/-- Membership in an ascending list of spans: the search stops at the first span
    that lies beyond the code point. -/
def Span.covers : List Span → Nat → Bool
  | [], _ => false
  | s :: rest, n => if n < s.first then false else if n ≤ s.last then true else Span.covers rest n

/-- A code point that some span covers lies between the ends of that span. -/
theorem Span.exists_of_covers {spans : List Span} {n : Nat} (h : Span.covers spans n = true) :
    ∃ s ∈ spans, s.first ≤ n ∧ n ≤ s.last := by
  induction spans with
  | nil => simp [Span.covers] at h
  | cons s rest ih =>
    simp only [Span.covers] at h
    split at h
    · simp at h
    · split at h
      · exact ⟨s, by simp, by omega, by omega⟩
      · obtain ⟨t, ht, hb⟩ := ih h
        exact ⟨t, by simp [ht], hb⟩

end LintBroker.Text
