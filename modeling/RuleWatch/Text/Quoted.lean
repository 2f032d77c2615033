import RuleWatch.Text.Digit
import RuleWatch.Text.Property

/-!
# Quoted text

A text between double quotes in which nothing is hidden: the quote, the backslash and the common
control characters follow a backslash, and a character without a printed form is given by number.
-/

namespace RuleWatch.Text

/-- One character inside the quotes. -/
def quoteChar (c : Char) : List Char :=
  if c = '"' then ['\\', '"']
  else if c = '\\' then ['\\', '\\']
  else if c = '\n' then ['\\', 'n']
  else if c = '\r' then ['\\', 'r']
  else if c = '\t' then ['\\', 't']
  else if c = '\x00' then ['\\', '0']
  else if Property.isPrintable c then [c]
  else ['\\', 'u', '{'] ++ hexDigits c.toNat ++ ['}']

/-- The text in double quotes. -/
def quote (s : String) : String :=
  String.ofList ('"' :: s.toList.flatMap quoteChar ++ ['"'])

end RuleWatch.Text
