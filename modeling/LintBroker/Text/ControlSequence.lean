/-
  LintBroker.Text.ControlSequence

  Control sequences of terminals: an escape, an opening bracket, parameters,
  intermediate characters and a final one.  A text that is not shown on a terminal
  goes without them.
-/

namespace LintBroker.Text.ControlSequence

/-! ## The characters of a sequence -/

/-- Digits and the marks between them. -/
def isParameter (c : Char) : Bool := '0' ≤ c && c ≤ '?'

/-- Characters between the parameters and the end. -/
def isIntermediate (c : Char) : Bool := ' ' ≤ c && c ≤ '/'

/-- Characters that end a sequence. -/
def isFinal (c : Char) : Bool := '@' ≤ c && c ≤ '~'

/-- What follows the sequence whose first two characters are already read, if it is one. -/
def after? (cs : List Char) : Option (List Char) :=
  match (cs.dropWhile isParameter).dropWhile isIntermediate with
  | c :: rest => if isFinal c then some rest else none
  | [] => none

/-- What follows a sequence is shorter than the sequence with it. -/
theorem length_lt_of_after? {cs rest : List Char} (h : after? cs = some rest) :
    rest.length < cs.length := by
  have inner := (List.dropWhile_sublist isIntermediate (l := cs.dropWhile isParameter)).length_le
  have outer := (List.dropWhile_sublist isParameter (l := cs)).length_le
  simp only [after?] at h
  split at h
  · next eq =>
    rw [eq] at inner
    simp only [List.length_cons] at inner
    split at h
    · obtain rfl := Option.some.inj h
      omega
    · simp at h
  · simp at h

/-! ## Plain texts -/

/-- The characters outside the sequences, in one pass: what the removal brings together is not read
    again. -/
def removeChars : List Char → List Char
  | [] => []
  | '\x1b' :: '[' :: body =>
    match h : after? body with
    | some tail =>
      have := length_lt_of_after? h
      removeChars tail
    | none => '\x1b' :: removeChars ('[' :: body)
  | c :: rest => c :: removeChars rest
termination_by cs => cs.length
decreasing_by
  · simp only [List.length_cons]; omega
  · simp
  · simp

/-- The text without its control sequences. -/
def remove (s : String) : String := String.ofList (removeChars s.toList)

/-- A text without an escape stays as it is. -/
theorem removeChars_of_notMem {cs : List Char} (h : '\x1b' ∉ cs) : removeChars cs = cs := by
  induction cs with
  | nil => rw [removeChars]
  | cons c rest ih =>
    simp only [List.mem_cons, not_or] at h
    rw [removeChars, ih h.2]
    rintro body rfl
    simp at h

end LintBroker.Text.ControlSequence
