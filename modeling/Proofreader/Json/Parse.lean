import Proofreader.Json.Value
import Proofreader.Text.Table

/-!
# Reading JSON

A strict reader of JSON text: one value with optional blanks around it, strings with the
standard escapes (a surrogate pair in `\u` escapes is one character, a lone surrogate is
refused), numbers in the standard grammar. Arrays and objects nest at most `maxDepth - 1` deep.
Anything else is refused.
-/

namespace Proofreader

namespace Json

/-- JSON blanks. -/
def isBlank (c : Char) : Bool := c = ' ' || c = '\t' || c = '\n' || c = '\r'

/-- Drops leading blanks. -/
def skipBlanks (cs : List Char) : List Char := cs.dropWhile isBlank

/-- The value of four hexadecimal digits. -/
def hex4Value (a b c d : Char) : Option Nat :=
  match hexDigitValue? a, hexDigitValue? b, hexDigitValue? c, hexDigitValue? d with
  | some w, some x, some y, some z => some (((w * 16 + x) * 16 + y) * 16 + z)
  | _, _, _, _ => none

/-- Reads the body of a string after its opening quote, up to and including the closing one. -/
def readStringBody (acc : List Char) : List Char → Option (String × List Char)
  | [] => none
  | '"' :: rest => some (String.ofList acc.reverse, rest)
  | '\\' :: 'u' :: a :: b :: c :: d :: rest =>
    match hex4Value a b c d with
    | none => none
    | some n =>
      if 0xD800 ≤ n && n < 0xDC00 then
        match rest with
        | '\\' :: 'u' :: e :: f :: g :: h :: more =>
          match hex4Value e f g h with
          | some m =>
            if 0xDC00 ≤ m && m < 0xE000 then
              readStringBody (Char.ofNat (0x10000 + (n - 0xD800) * 0x400 + (m - 0xDC00)) :: acc)
                more
            else none
          | none => none
        | _ => none
      else if 0xDC00 ≤ n && n < 0xE000 then none
      else readStringBody (Char.ofNat n :: acc) rest
  | '\\' :: e :: rest =>
    match e with
    | '"' => readStringBody ('"' :: acc) rest
    | '\\' => readStringBody ('\\' :: acc) rest
    | '/' => readStringBody ('/' :: acc) rest
    | 'b' => readStringBody ('\x08' :: acc) rest
    | 'f' => readStringBody ('\x0c' :: acc) rest
    | 'n' => readStringBody ('\n' :: acc) rest
    | 'r' => readStringBody ('\r' :: acc) rest
    | 't' => readStringBody ('\t' :: acc) rest
    | _ => none
  | c :: rest => if c.toNat < 32 then none else readStringBody (c :: acc) rest

/-- Whether a character is a decimal digit. -/
def isDigit (c : Char) : Bool := '0' ≤ c && c ≤ '9'

/-- Reads a number in the JSON grammar. -/
def readNumber (cs : List Char) : Option (Json × List Char) :=
  let (neg, body) := match cs with
    | '-' :: r => (true, r)
    | r => (false, r)
  let intDigits := body.takeWhile isDigit
  let afterInt := body.dropWhile isDigit
  if intDigits.isEmpty || (intDigits.length > 1 && intDigits.head? = some '0') then none
  else
    let (fracPart, afterFrac) : Option (List Char) × List Char := match afterInt with
      | '.' :: r => (some (r.takeWhile isDigit), r.dropWhile isDigit)
      | r => (none, r)
    let (expPart, rest) : Option (List Char) × List Char := match afterFrac with
      | e :: r =>
        if e = 'e' || e = 'E' then
          let (sign, r') := match r with
            | '+' :: r'' => (['+'], r'')
            | '-' :: r'' => (['-'], r'')
            | r'' => ([], r'')
          (some (sign ++ r'.takeWhile isDigit), r'.dropWhile isDigit)
        else (none, afterFrac)
      | [] => (none, [])
    let value := intDigits.foldl (fun n d => n * 10 + (d.toNat - '0'.toNat)) 0
    match fracPart, expPart with
    | none, none =>
      -- a negative zero is not an integer, as readers of JSON numbers keep its sign
      if neg && value = 0 then some (float "-0", rest)
      else some (int (if neg then -(value : Int) else value), rest)
    | some f, _ =>
      if f.isEmpty then none
      else
        match expPart with
        | some e => if (e.filter isDigit).isEmpty then none
          else some (float (String.ofList (cs.take (cs.length - rest.length))), rest)
        | none => some (float (String.ofList (cs.take (cs.length - rest.length))), rest)
    | none, some e =>
      if (e.filter isDigit).isEmpty then none
      else some (float (String.ofList (cs.take (cs.length - rest.length))), rest)

/-- Whether `word` starts the text; returns the rest. -/
def readWord (word : List Char) (cs : List Char) : Option (List Char) :=
  if word.isPrefixOf cs then some (cs.drop word.length) else none

/-- The nesting bound: a text whose arrays and objects nest this deep is refused. -/
def maxDepth : Nat := 128

mutual
/-- Reads one value after optional blanks; `depth` is how many more levels of nesting are
allowed, counting this one. -/
def readValue (fuel depth : Nat) (cs : List Char) : Option (Json × List Char) :=
  match fuel with
  | 0 => none
  | f + 1 =>
    match skipBlanks cs with
    | '"' :: rest => (readStringBody [] rest).map fun (s, r) => (str s, r)
    | '[' :: rest =>
      if depth ≤ 1 then none
      else
        match skipBlanks rest with
        | ']' :: r => some (arr [], r)
        | _ => (readItems f (depth - 1) rest []).map fun (xs, r) => (arr xs, r)
    | '{' :: rest =>
      if depth ≤ 1 then none
      else
        match skipBlanks rest with
        | '}' :: r => some (obj [], r)
        | _ => (readMembers f (depth - 1) rest []).map fun (ms, r) => (obj ms, r)
    | 't' :: _ => (readWord "true".toList (skipBlanks cs)).map fun r => (bool true, r)
    | 'f' :: _ => (readWord "false".toList (skipBlanks cs)).map fun r => (bool false, r)
    | 'n' :: _ => (readWord "null".toList (skipBlanks cs)).map fun r => (null, r)
    | other => readNumber other

/-- Reads array items after `[`, up to and including `]`. -/
def readItems (fuel depth : Nat) (cs : List Char) (acc : List Json) :
    Option (List Json × List Char) :=
  match fuel with
  | 0 => none
  | f + 1 =>
    match readValue f depth cs with
    | none => none
    | some (v, rest) =>
      match skipBlanks rest with
      | ',' :: r => readItems f depth r (v :: acc)
      | ']' :: r => some ((v :: acc).reverse, r)
      | _ => none

/-- Reads object members after `{`, up to and including `}`. -/
def readMembers (fuel depth : Nat) (cs : List Char) (acc : List (String × Json)) :
    Option (List (String × Json) × List Char) :=
  match fuel with
  | 0 => none
  | f + 1 =>
    match skipBlanks cs with
    | '"' :: rest =>
      match readStringBody [] rest with
      | none => none
      | some (key, r) =>
        match skipBlanks r with
        | ':' :: r' =>
          match readValue f depth r' with
          | none => none
          | some (v, r'') =>
            match skipBlanks r'' with
            | ',' :: more => readMembers f depth more ((key, v) :: acc)
            | '}' :: more => some (((key, v) :: acc).reverse, more)
            | _ => none
        | _ => none
    | _ => none
end

/-- Reads a whole JSON text: one value, blanks around it allowed. -/
def parse (text : String) : Option Json :=
  let cs := text.toList
  match readValue (2 * cs.length + 4) maxDepth cs with
  | some (v, rest) => if (skipBlanks rest).isEmpty then some v else none
  | none => none

end Json

end Proofreader
