import Proofreader.Json.Value
import Proofreader.Text.Quote

/-!
# Writing JSON

Compact JSON text: no blanks between tokens, members in the order given. In strings the quote,
the backslash and control characters are escaped; every other character is written as itself.
-/

namespace Proofreader

namespace Json

/-- Four lowercase hexadecimal digits. -/
def hex4 (n : Nat) : String :=
  let h := Unicode.hexText n
  String.ofList (List.replicate (4 - h.length) '0') ++ h

/-- One character inside a JSON string. -/
def escapeChar (c : Char) : String :=
  if c = '"' then "\\\""
  else if c = '\\' then "\\\\"
  else if c = '\n' then "\\n"
  else if c = '\r' then "\\r"
  else if c = '\t' then "\\t"
  else if c.toNat < 32 then "\\u" ++ hex4 c.toNat
  else c.toString

/-- A JSON string literal. -/
def quote (s : String) : String :=
  "\"" ++ String.join (s.toList.map escapeChar) ++ "\""

/-- Joins texts with commas. -/
def commaJoin (xs : List String) : String := ",".intercalate xs

mutual
/-- The compact text of a value. -/
def render : Json → String
  | null => "null"
  | bool b => if b then "true" else "false"
  | int n => toString n
  | float t => t
  | str s => quote s
  | arr items => "[" ++ commaJoin (renderItems items) ++ "]"
  | obj members => "\x7b" ++ commaJoin (renderMembers members) ++ "\x7d"
/-- The texts of array items. -/
def renderItems : List Json → List String
  | [] => []
  | j :: rest => render j :: renderItems rest
/-- The texts of object members. -/
def renderMembers : List (String × Json) → List String
  | [] => []
  | (k, v) :: rest => (quote k ++ ":" ++ render v) :: renderMembers rest
end

end Json

end Proofreader
