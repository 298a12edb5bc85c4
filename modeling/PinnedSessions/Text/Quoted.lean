import PinnedSessions.Text.Extending
import PinnedSessions.Text.Visible

/-! # Texts quoted for display

A text is shown between double quotes with every character that would not show as itself escaped:

* the null character, tab, carriage return, line feed, double quote and backslash by a backslash and
  one more character;
* characters that only extend the one before them, and characters that show nothing, by their code
  point in hexadecimal between braces;
* every other character, the single quote included, stands for itself.
-/

namespace PinnedSessions.Text

/-- A character by its code point, in the fewest lower-case hexadecimal digits. -/
def codePointEscape (c : Char) : List Char :=
  ['\\', 'u', '\x7b'] ++ Nat.toDigits 16 c.toNat ++ ['\x7d']

/-- A character as it is shown between double quotes. -/
def quoteChar (c : Char) : List Char :=
  if c = '\x00' then ['\\', '0']
  else if c = '\t' then ['\\', 't']
  else if c = '\r' then ['\\', 'r']
  else if c = '\n' then ['\\', 'n']
  else if c = '\\' then ['\\', '\\']
  else if c = '"' then ['\\', '"']
  else if isExtending c then codePointEscape c
  else if isVisible c then [c]
  else codePointEscape c

/-- The text between double quotes. -/
def quoted (s : String) : String :=
  String.ofList ('"' :: s.toList.flatMap quoteChar ++ ['"'])

end PinnedSessions.Text
