/-
  LintBroker.Text.Blank

  Blank characters, and texts without the blanks around them.
-/
import LintBroker.Text.Span

namespace LintBroker.Text

/-! ## Blank characters -/

/-- White space of the character standard, with the four information separators and the next-line
    control. -/
def blankSpans : List Span := [
    ⟨0x9, 0xd⟩, ⟨0x1c, 0x20⟩, ⟨0x85, 0x85⟩, ⟨0xa0, 0xa0⟩, ⟨0x1680, 0x1680⟩, ⟨0x2000, 0x200a⟩,
    ⟨0x2028, 0x2029⟩, ⟨0x202f, 0x202f⟩, ⟨0x205f, 0x205f⟩, ⟨0x3000, 0x3000⟩ ]

/-- White space of any script; zero-width characters are not blank. -/
def isBlank (c : Char) : Bool := Span.covers blankSpans c.toNat

/-! ## Texts without outer blanks -/

/-- Drops the blanks before the first and after the last character that is not blank. -/
def stripChars (cs : List Char) : List Char :=
  ((cs.dropWhile isBlank).reverse.dropWhile isBlank).reverse

/-- The text without the blanks around it. -/
def strip (s : String) : String := String.ofList (stripChars s.toList)

/-- The text holds no character but blanks. -/
def blank (s : String) : Bool := s.toList.all isBlank

theorem stripChars_nil : stripChars [] = [] := rfl

end LintBroker.Text
