/-
  LintBroker.Text.Lines

  Cutting a text into lines.  Lines end at every line boundary of the character
  standard, not only at the newline, and a carriage return followed by a newline
  is one boundary.
-/

namespace LintBroker.Text

/-- Newline, the two tabs and feeds, the three information separators above the unit separator,
    the next-line control and the line and paragraph separators. -/
def isLineBreak (c : Char) : Bool :=
  [0x0a, 0x0b, 0x0c, 0x0d, 0x1c, 0x1d, 0x1e, 0x85, 0x2028, 0x2029].contains c.toNat

/-- Lines of the characters that follow `line`, which is kept backwards.  `afterReturn` holds
    just after a carriage return, whose boundary takes in a newline. -/
def linesAfter (line : List Char) (afterReturn : Bool) : List Char → List (List Char)
  | [] => if line.isEmpty then [] else [line.reverse]
  | c :: rest =>
    if afterReturn && c == '\n' then linesAfter line false rest
    else if isLineBreak c then line.reverse :: linesAfter [] (c == '\r') rest
    else linesAfter (c :: line) false rest

/-- The lines of a text, without their ends; an end of line at the end of the text opens no line. -/
def lines (s : String) : List String := (linesAfter [] false s.toList).map String.ofList

/-- A text in which every carriage return, alone or before a newline, has become a newline. -/
def newlinesOnly : List Char → List Char
  | [] => []
  | '\r' :: '\n' :: rest => '\n' :: newlinesOnly rest
  | c :: rest => (if c = '\r' then '\n' else c) :: newlinesOnly rest

end LintBroker.Text
