import Proofreader.Text.Category
import Proofreader.Text.Property

/-!
# Quoted text in diagnostics

Error messages and reports show a text in double quotes. Inside the quotes a backslash, a double
quote, NUL, tab, carriage return and line feed are written as two-character escapes; a combining
mark and a character that does not print (controls, format characters, separators other than the
space, unassigned code points) is written as `\u` followed by its code in lowercase hexadecimal
within braces; everything else stands for itself.
-/

namespace Proofreader

namespace Unicode

/-- Lowercase hexadecimal digits of a number, without leading zeros. -/
def hexText (n : Nat) : String :=
  String.ofList (Nat.toDigits 16 n)

/-- How one character is written between quotes. -/
def quotedChar (c : Char) : String :=
  if c = '\x00' then "\\0"
  else if c = '\t' then "\\t"
  else if c = '\r' then "\\r"
  else if c = '\n' then "\\n"
  else if c = '\\' then "\\\\"
  else if c = '"' then "\\\""
  else if isGraphemeExtend c || !isPrintable c then "\\u\x7b" ++ hexText c.toNat ++ "\x7d"
  else c.toString

/-- A text in double quotes, escaped for a diagnostic. -/
def quoted (s : String) : String :=
  "\"" ++ String.join (s.toList.map quotedChar) ++ "\""

end Unicode

end Proofreader
