/-
  LintBroker.Text.Quoted

  Texts shown between quotes, as messages show names and paths.  The quote is the
  apostrophe unless the text holds one and no double quote; backslashes, the quote
  and everything that cannot be shown are written with a backslash.
-/
import LintBroker.Number.Decimal
import LintBroker.Text.Printable

namespace LintBroker.Text

open LintBroker.Number

/-- The mark around a shown text. -/
def quoteMark (cs : List Char) : Char :=
  if cs.contains '\'' && !cs.contains '"' then '"' else '\''

/-- One character of a shown text. -/
def quotedChar (mark c : Char) : List Char :=
  if c = mark ∨ c = '\\' then ['\\', c]
  else if c = '\t' then ['\\', 't']
  else if c = '\n' then ['\\', 'n']
  else if c = '\r' then ['\\', 'r']
  else if isPrintable c then [c]
  else if c.toNat < 0x100 then '\\' :: 'x' :: hexChars 2 c.toNat
  else if c.toNat < 0x10000 then '\\' :: 'u' :: hexChars 4 c.toNat
  else '\\' :: 'U' :: hexChars 8 c.toNat

/-- The text between quotes, with escapes for what cannot be shown. -/
def quotedChars (cs : List Char) : List Char :=
  quoteMark cs :: cs.flatMap (quotedChar (quoteMark cs)) ++ [quoteMark cs]

/-- The text as messages show it. -/
def quoted (s : String) : String := String.ofList (quotedChars s.toList)

end LintBroker.Text
