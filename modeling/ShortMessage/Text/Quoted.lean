import ShortMessage.Text.Hexadecimal
import ShortMessage.Text.Printable

/-!
# Quoted texts

Reports show texts and single characters between quotes, on one line and without characters that
cannot be seen: a NUL, a tabulator, the line ends, the backslash and the enclosing quote are written
with a backslash, and every other hidden character by its code point in braces.

* `shown` is how a character stands inside quotes.
* `quote` encloses a text in double quotes, `quoteChar` a character in single quotes.
-/

namespace ShortMessage.Text

/-- A character inside quotes of the form `mark`. -/
def shown (mark c : Char) : List Char :=
  if c = '\x00' then ['\\', '0']
  else if c = '\t' then ['\\', 't']
  else if c = '\r' then ['\\', 'r']
  else if c = '\n' then ['\\', 'n']
  else if c = '\\' ∨ c = mark then ['\\', c]
  else if isHidden c then ['\\', 'u', '\x7b'] ++ hex 1 c.toNat ++ ['\x7d']
  else [c]

/-- A text in double quotes. -/
def quote (s : String) : String :=
  String.ofList ('"' :: s.toList.flatMap (shown '"') ++ ['"'])

/-- A character in single quotes. -/
def quoteChar (c : Char) : String :=
  String.ofList ('\'' :: shown '\'' c ++ ['\''])

end ShortMessage.Text
