/-
  LintBroker.Text.Similarity

  How alike two words are, for suggestions after a misspelt name.  The measure takes
  the longest common stretch, then the longest ones to its left and right, and so on;
  twice the length of all stretches over the length of both words is the ratio.
-/

namespace LintBroker.Text

/-- The length of the common start of two texts. -/
def commonStart : List Char → List Char → Nat
  | a :: as, b :: bs => if a = b then commonStart as bs + 1 else 0
  | _, _ => 0

/-- A common stretch: where it begins in both texts, and its length. -/
structure Stretch where
  left : Nat
  right : Nat
  length : Nat

/-- The longest common stretch that begins anywhere; of several the one that begins first in the
    left text, then in the right one. -/
def longestStretch (left right : List Char) : Stretch :=
  (List.range left.length).foldl (fun best i =>
    (List.range right.length).foldl (fun best j =>
      let n := commonStart (left.drop i) (right.drop j)
      if best.length < n then ⟨i, j, n⟩ else best) best) ⟨0, 0, 0⟩

/-- The length of all stretches that the texts share; each step splits at the longest one. -/
def sharedUpTo : Nat → List Char → List Char → Nat
  | 0, _, _ => 0
  | fuel + 1, left, right =>
    let s := longestStretch left right
    if s.length = 0 then 0
    else
      sharedUpTo fuel (left.take s.left) (right.take s.right) + s.length
        + sharedUpTo fuel (left.drop (s.left + s.length)) (right.drop (s.right + s.length))

/-- The number of characters in common stretches. -/
def shared (left right : List Char) : Nat := sharedUpTo (left.length + 1) left right

/-- The candidates at least three fifths like `word`, at most three of them, the most alike
    first, and of equally alike ones the later in the alphabet. -/
def closeMatches (word : String) (candidates : List String) : List String :=
  let scored := candidates.filterMap fun candidate =>
    let m := shared candidate.toList word.toList
    let total := candidate.length + word.length
    if 3 * total ≤ 10 * m then some (m, total, candidate) else none
  let ahead (x y : Nat × Nat × String) : Bool :=
    let l := x.1 * y.2.1
    let r := y.1 * x.2.1
    r < l || (l == r && decide (y.2.2 ≤ x.2.2))
  ((scored.mergeSort ahead).take 3).map fun x => x.2.2

end LintBroker.Text
