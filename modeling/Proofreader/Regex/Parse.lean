import Proofreader.Regex.Syntax
import Proofreader.Regex.Error

/-!
# Regular expressions: parsing

The pattern language is the Java-style dialect of the regex engine the rules were written for:
`|`, groups `( )`, `(?: )`, look-ahead `(?= )` `(?! )`, look-behind `(?<= )` `(?<! )`, atomic
groups `(?> )`, named groups `(?<name> )`, comments `(?# )`, option switches `(?imsx-imsx)` and
`(?imsx-imsx: )`, the quantifiers `*`, `+`, `?` and `{n}`, `{n,}`, `{n,m}` each with a lazy `?` or
possessive `+` suffix, bracket classes with ranges, nesting and `&&`, the escapes `\w \W \s \S
\d \D \b \B \A \z \Z \G`, `\p{…}`, `\Q…\E`, character escapes, and numbered back-references.

Four rules of the dialect decide results that differ from other dialects:

* an option switch `(?i)` in the middle of a group applies to the whole rest of that group,
  alternatives included: `a(?i)b|c` reads as `a(?i:b|c)`;
* a brace that does not open a valid interval is a literal character;
* a `[` inside a class opens a nested class, so `[[:alpha:]]` is the class of `:`, `a`, `l`,
  `p` and `h`;
* without case only bracket classes are closed under case: `(?i)\p{Lu}` still takes uppercase
  letters only, while `(?i)[\p{Lu}]` takes their lowercase forms too.
-/

namespace Proofreader

namespace Regex

/-- Options in force at a point of the pattern. -/
structure Flags where
  caseless : Bool := false
  dotAll : Bool := false
  multiline : Bool := false
  extended : Bool := false
deriving Inhabited

/-- What is left of the pattern, and how many capturing groups were opened before it. -/
structure Cursor where
  rest : List Char
  groups : Nat
  maxBackref : Nat := 0

/-- Largest repetition bound the dialect accepts. -/
def maxRepeat : Nat := 100000

/-- Largest back-reference number the dialect accepts. -/
def maxBackrefNumber : Nat := 1000

/-! ## Small readers -/

/-- Whether a character is an ASCII decimal digit. -/
def isDigitChar (c : Char) : Bool := '0' ≤ c && c ≤ '9'

/-- Whether a character is an octal digit. -/
def isOctalChar (c : Char) : Bool := '0' ≤ c && c ≤ '7'

/-- The value of a run of decimal digits. -/
def decimalValue (ds : List Char) : Nat :=
  ds.foldl (fun n d => n * 10 + (d.toNat - '0'.toNat)) 0

/-- Splits off at most `n` leading characters that satisfy `p`. -/
def spanUpTo (p : Char → Bool) : Nat → List Char → List Char × List Char
  | 0, cs => ([], cs)
  | _, [] => ([], [])
  | n + 1, c :: cs =>
    if p c then
      let (a, b) := spanUpTo p n cs
      (c :: a, b)
    else ([], c :: cs)

/-- The value of a run of hexadecimal digits. -/
def hexValue (ds : List Char) : Nat :=
  ds.foldl (fun n d => n * 16 + (hexDigitValue? d).getD 0) 0

/-- A single-byte code given by an escape: ASCII is a character, anything above it would be a
stray byte of a multi-byte sequence. -/
def byteChar (n : Nat) : Except RegexError Char :=
  if n < 128 then .ok (Char.ofNat n) else .error .truncatedMultibyte

/-- An octal escape of at most `width` digits, starting at `cs`. -/
def octalEscape (width : Nat) (cs : List Char) : Except RegexError (Char × List Char) :=
  let (ds, rest) := spanUpTo isOctalChar width cs
  let n := ds.foldl (fun n d => n * 8 + (d.toNat - '0'.toNat)) 0
  if n ≥ 256 then .error .numberTooBig
  else do
    let c ← byteChar n
    pure (c, rest)

/-! ## Property names -/

/-- A property name with case, blanks, hyphens and underscores ignored. -/
def propertyKey (name : String) : String :=
  String.ofList ((name.toList.filter fun c => c ≠ ' ' && c ≠ '-' && c ≠ '_').map Char.toLower)

/-- Long names of the general categories, keyed like `propertyKey`. -/
def categoryLongNames : List (String × GeneralCategory) :=
  [("uppercaseletter", .Lu), ("lowercaseletter", .Ll), ("titlecaseletter", .Lt),
   ("modifierletter", .Lm), ("otherletter", .Lo), ("nonspacingmark", .Mn),
   ("spacingmark", .Mc), ("enclosingmark", .Me), ("decimalnumber", .Nd),
   ("letternumber", .Nl), ("othernumber", .No), ("connectorpunctuation", .Pc),
   ("dashpunctuation", .Pd), ("openpunctuation", .Ps), ("closepunctuation", .Pe),
   ("initialpunctuation", .Pi), ("finalpunctuation", .Pf), ("otherpunctuation", .Po),
   ("mathsymbol", .Sm), ("currencysymbol", .Sc), ("modifiersymbol", .Sk),
   ("othersymbol", .So), ("spaceseparator", .Zs), ("lineseparator", .Zl),
   ("paragraphseparator", .Zp), ("control", .Cc), ("format", .Cf), ("surrogate", .Cs),
   ("privateuse", .Co), ("unassigned", .Cn)]

/-- Major classes by their long names. -/
def majorLongNames : List (String × Char) :=
  [("letter", 'L'), ("mark", 'M'), ("number", 'N'), ("punctuation", 'P'), ("symbol", 'S'),
   ("separator", 'Z'), ("other", 'C')]

/-- Binary properties and classic class names. -/
def propertyNames : List (String × CharSet) :=
  [("alpha", .named .alphabetic), ("alphabetic", .named .alphabetic),
   ("upper", .named .uppercase), ("uppercase", .named .uppercase),
   ("lower", .named .lowercase), ("lowercase", .named .lowercase),
   ("space", .named .space), ("whitespace", .named .space),
   ("digit", .named .digit), ("word", .named .word), ("alnum", .named .alphanumeric),
   ("xdigit", .named .hexDigit), ("ascii", .named .ascii), ("any", .named .any),
   ("assigned", .named .assigned), ("punct", .named (.major 'P')),
   ("cntrl", .named (.category .Cc)),
   ("lc", .union [.named (.category .Lu), .named (.category .Ll), .named (.category .Lt)]),
   ("casedletter", .union [.named (.category .Lu), .named (.category .Ll),
     .named (.category .Lt)])]

/-- The class a property name stands for. -/
def propertySet? (name : String) : Option CharSet :=
  let key := propertyKey name
  let byCode := GeneralCategory.all.find? fun g => g.code.toLower = key
  match byCode with
  | some g => some (.named (.category g))
  | none =>
    if key.length = 1 then
      match key.toList with
      | [m] =>
        let up := m.toUpper
        if "LMNPSZC".toList.contains up then some (.named (.major up)) else none
      | _ => none
    else
      match categoryLongNames.lookup key with
      | some g => some (.named (.category g))
      | none =>
        match majorLongNames.lookup key with
        | some m => some (.named (.major m))
        | none => propertyNames.lookup key

/-- Reads `{name}` or `{^name}` after `\p` or `\P`. -/
def propertyEscape (negated : Bool) (cs : List Char) : Except RegexError (CharSet × List Char) :=
  let (neg, body) := match cs with
    | '^' :: r => (!negated, r)
    | r => (negated, r)
  let name := body.takeWhile (· ≠ '}')
  let after := body.dropWhile (· ≠ '}')
  match after with
  | '}' :: rest =>
    match propertySet? (String.ofList name) with
    | some s => .ok (if neg then .complement s else s, rest)
    | none => .error (.unknownProperty (String.ofList name))
  | _ => .error (.unknownProperty (String.ofList name))

/-! ## Escapes -/

/-- What an escape sequence stands for. -/
inductive Escaped where
  | char (c : Char)
  | set (s : CharSet)
  | anchor (a : Anchor)
  | backref (n : Nat)
  /-- `\Q`: literal text up to `\E`. -/
  | quote

/-- Control escapes and other single-letter character escapes, shared by both contexts. -/
def simpleEscape? (c : Char) : Option Char :=
  match c with
  | 't' => some '\t'
  | 'n' => some '\n'
  | 'r' => some '\r'
  | 'f' => some '\x0c'
  | 'v' => some '\x0b'
  | 'a' => some '\x07'
  | 'e' => some '\x1b'
  | _ => none

/-- Reads an escape, the text after the backslash. `inClass` selects the rules inside a bracket
class; `groups` is the number of groups opened so far, which decides whether `\12` is a
back-reference or an octal code. -/
def readEscape (inClass : Bool) (groups : Nat) (cs : List Char) :
    Except RegexError (Escaped × List Char) :=
  match cs with
  | [] => .error .escapeAtEnd
  | c :: rest =>
    match simpleEscape? c with
    | some e => .ok (.char e, rest)
    | none =>
      match c with
      | 'w' => .ok (.set (.named .word), rest)
      | 'W' => .ok (.set (.complement (.named .word)), rest)
      | 's' => .ok (.set (.named .space), rest)
      | 'S' => .ok (.set (.complement (.named .space)), rest)
      | 'd' => .ok (.set (.named .digit), rest)
      | 'D' => .ok (.set (.complement (.named .digit)), rest)
      | 'b' => if inClass then .ok (.char '\x08', rest) else .ok (.anchor .wordBoundary, rest)
      | 'B' => if inClass then .ok (.char 'B', rest) else .ok (.anchor .notWordBoundary, rest)
      | 'A' => if inClass then .ok (.char 'A', rest) else .ok (.anchor .textStart, rest)
      | 'Z' =>
        if inClass then .ok (.char 'Z', rest) else .ok (.anchor .textEndBeforeNewline, rest)
      | 'z' => if inClass then .ok (.char 'z', rest) else .ok (.anchor .textEnd, rest)
      | 'G' => if inClass then .ok (.char 'G', rest) else .ok (.anchor .searchStart, rest)
      | 'Q' => if inClass then .ok (.char 'Q', rest) else .ok (.quote, rest)
      | 'c' =>
        match rest with
        | [] => .error .controlAtEnd
        | x :: r =>
          if x = '?' then .ok (.char '\x7f', r)
          else .ok (.char (Char.ofNat (x.toNat % 32)), r)
      | 'x' =>
        let (ds, r) := spanUpTo (fun d => (hexDigitValue? d).isSome) 2 rest
        do let ch ← byteChar (hexValue ds); pure (.char ch, r)
      | 'u' =>
        let (ds, r) := spanUpTo (fun d => (hexDigitValue? d).isSome) 4 rest
        let n := hexValue ds
        if ds.length < 4 || (0xD800 ≤ n && n ≤ 0xDFFF) then .error .invalidCodePoint
        else .ok (.char (Char.ofNat n), r)
      | 'p' =>
        match rest with
        | '{' :: r => do let (s, r') ← propertyEscape false r; pure (.set s, r')
        | _ => .ok (.char 'p', rest)
      | 'P' =>
        match rest with
        | '{' :: r => do let (s, r') ← propertyEscape true r; pure (.set s, r')
        | _ => .ok (.char 'P', rest)
      | '0' => do let (ch, r) ← octalEscape 2 rest; pure (.char ch, r)
      | _ =>
        if isDigitChar c then
          if inClass then
            if c = '8' || c = '9' then .ok (.char c, rest)
            else do let (ch, r) ← octalEscape 3 cs; pure (.char ch, r)
          else
            let ds := cs.takeWhile isDigitChar
            let n := decimalValue ds
            if n ≤ maxBackrefNumber && (n ≤ groups || n ≤ 9) then
              .ok (.backref n, cs.dropWhile isDigitChar)
            else if c = '8' || c = '9' then .ok (.char c, rest)
            else do let (ch, r) ← octalEscape 3 cs; pure (.char ch, r)
        else .ok (.char c, rest)

/-! ## Bracket classes -/

/-- Whether a `]` occurs later in the text, skipping escaped characters. -/
def closingBracketAhead : List Char → Bool
  | [] => false
  | '\\' :: _ :: rest => closingBracketAhead rest
  | ']' :: _ => true
  | _ :: rest => closingBracketAhead rest

/-- The last item read in a class, which decides what a following `-` means. -/
inductive ClassPrev where
  /-- Nothing, or a completed range. -/
  | none
  /-- A single character, which may start a range. -/
  | char (c : Char)
  /-- A named class or nested class, which cannot start a range. -/
  | set

/-- The union of the items read so far (kept in reverse order). -/
def unionOf (items : List CharSet) : CharSet := .union items.reverse

mutual

/-- Reads a class after `[`, up to and including its `]`. -/
def readClass (fuel : Nat) (groups : Nat) (cs : List Char) :
    Except RegexError (CharSet × List Char) :=
  match fuel with
  | 0 => .error .classUnterminated
  | f + 1 =>
    let (negated, body) := match cs with
      | '^' :: r => (true, r)
      | r => (false, r)
    let start : Except RegexError (List CharSet × ClassPrev × List Char) :=
      match body with
      | ']' :: r =>
        if closingBracketAhead r then .ok ([.single ']'], .char ']', r) else .error .emptyClass
      | r => .ok ([], .none, r)
    match start with
    | .error e => .error e
    | .ok (items, prev, r) => do
      let (s, rest) ← readClassItems f groups r items prev
      pure (if negated then .complement s else s, rest)

/-- Reads class items up to and including `]`. -/
def readClassItems (fuel : Nat) (groups : Nat) (cs : List Char) (items : List CharSet)
    (prev : ClassPrev) : Except RegexError (CharSet × List Char) :=
  match fuel with
  | 0 => .error .classUnterminated
  | f + 1 =>
    match cs with
    | [] => .error .classUnterminated
    | ']' :: rest => .ok (unionOf items, rest)
    | '&' :: '&' :: rest => do
      let (right, rest') ← readClassItems f groups rest [] .none
      pure (.inter (unionOf items) right, rest')
    | '[' :: rest => do
      let (s, rest') ← readClass f groups rest
      readClassItems f groups rest' (s :: items) .set
    | '-' :: rest =>
      let literalDash := readClassItems f groups rest (.single '-' :: items) .none
      let endsHere := match rest with
        | ']' :: _ => true
        | '&' :: '&' :: _ => true
        | _ => false
      match prev with
      | .char lo =>
        if endsHere then literalDash
        else
          match rest with
          | [] => .error .classUnterminated
          | '[' :: _ => .error .classRangeEndNotValue
          | '\\' :: esc => do
            let (e, rest') ← readEscape true groups esc
            match e with
            | .char hi =>
              if hi < lo then .error .emptyClassRange
              else readClassItems f groups rest' (.range lo hi :: items.drop 1) .none
            | _ => .error .classRangeEndNotValue
          | hi :: rest' =>
            if hi < lo then .error .emptyClassRange
            else readClassItems f groups rest' (.range lo hi :: items.drop 1) .none
      | .set => if endsHere then literalDash else .error .classRangeStartNotValue
      | .none => literalDash
    | '\\' :: esc => do
      let (e, rest') ← readEscape true groups esc
      match e with
      | .char c => readClassItems f groups rest' (.single c :: items) (.char c)
      | .set s => readClassItems f groups rest' (s :: items) .set
      | _ => readClassItems f groups rest' items prev
    | c :: rest => readClassItems f groups rest (.single c :: items) (.char c)

end

/-! ## Quantifiers -/

/-- Reads `{n}`, `{n,}` or `{n,m}` after the brace: `none` when the text is no valid interval
(the brace is then literal). -/
def readInterval (cs : List Char) : Except RegexError (Option (Nat × Option Nat × List Char)) :=
  let lowDigits := cs.takeWhile isDigitChar
  let afterLow := cs.dropWhile isDigitChar
  if lowDigits.isEmpty then .ok none
  else
    let low := decimalValue lowDigits
    if low > maxRepeat then .error .repeatBoundTooBig
    else
      let upper : Except RegexError (Option (Option Nat × List Char)) :=
        match afterLow with
        | ',' :: r =>
          let upDigits := r.takeWhile isDigitChar
          let afterUp := r.dropWhile isDigitChar
          if upDigits.isEmpty then .ok (some (none, afterUp))
          else
            let up := decimalValue upDigits
            if up > maxRepeat then .error .repeatBoundTooBig else .ok (some (some up, afterUp))
        | [] => .ok none
        | r => .ok (some (some low, r))
      match upper with
      | .error e => .error e
      | .ok none => .ok none
      | .ok (some (up, r)) =>
        match r with
        | '}' :: rest =>
          match up with
          | some u => if u < low then .error .repeatBoundsReversed else .ok (some (low, up, rest))
          | none => .ok (some (low, up, rest))
        | _ => .ok none

/-- Reads the lazy `?` or possessive `+` that may follow a quantifier. -/
def readGreed (cs : List Char) : Greed × List Char :=
  match cs with
  | '?' :: r => (.lazy, r)
  | '+' :: r => (.possessive, r)
  | r => (.greedy, r)

/-- A quantifier at the head of the text: bounds, greed and the rest. -/
def readQuantifier (cs : List Char) :
    Except RegexError (Option (Nat × Option Nat × Greed × List Char)) :=
  match cs with
  | '*' :: r => let (g, r') := readGreed r; .ok (some (0, none, g, r'))
  | '+' :: r => let (g, r') := readGreed r; .ok (some (1, none, g, r'))
  | '?' :: r => let (g, r') := readGreed r; .ok (some (0, some 1, g, r'))
  | '{' :: r => do
    match ← readInterval r with
    | some (lo, hi, r') => let (g, r'') := readGreed r'; pure (some (lo, hi, g, r''))
    | none => pure none
  | _ => .ok none

/-! ## Sequences, alternatives and groups -/

/-- Skips blanks and `#` comments in extended mode, and `(?#…)` comments always. -/
def skipIgnored (fuel : Nat) (flags : Flags) (cs : List Char) : Except RegexError (List Char) :=
  match fuel with
  | 0 => .ok cs
  | f + 1 =>
    match cs with
    | '(' :: '?' :: '#' :: rest =>
      match rest.dropWhile (· ≠ ')') with
      | ')' :: after => skipIgnored f flags after
      | _ => .error .groupUnterminated
    | c :: rest =>
      if flags.extended && (c = ' ' || c = '\t' || c = '\n' || c = '\r' || c = '\x0c' ||
          c = '\x0b') then skipIgnored f flags rest
      else if flags.extended && c = '#' then
        skipIgnored f flags ((rest.dropWhile (· ≠ '\n')).drop 1)
      else .ok cs
    | [] => .ok []

/-- Joins adjacent literal texts with the same case rule into one text node. -/
def joinTexts : List RegexNode → List RegexNode
  | [] => []
  | .text a ca :: rest =>
    match joinTexts rest with
    | .text b cb :: more => if ca == cb then .text (a ++ b) ca :: more else .text a ca :: .text b cb :: more
    | more => .text a ca :: more
  | n :: rest => n :: joinTexts rest

/-- The sequence of nodes as one node. -/
def seqOf (ns : List RegexNode) : RegexNode :=
  match joinTexts ns with
  | [] => .empty
  | n :: rest => rest.foldl .seq n

/-- The node of a bracket class. Without case, a class that is not negated also takes the
multi-character foldings of its members, each character of a folding in any of its cases, tried
after the class itself: `(?i)[ß]` takes `ss`, `SS` and `ß`. -/
def classNode (s : CharSet) (caseless : Bool) : RegexNode :=
  let expansions : List (List Char) := match s with
    | .complement _ => []
    | _ =>
      if caseless then (Unicode.multiFolds.filter fun (c, _) => s.containsCaseless c).map (·.2)
      else []
  let charNode (d : Char) : RegexNode :=
    match Unicode.caseVariants d with
    | [_] => .text [d] false
    | vs => .set (.union (vs.map .single)) false
  let alternatives := expansions.map fun fold => seqOf (fold.map charNode)
  match alternatives.reverse with
  | [] => .set s caseless
  | last :: more => .alt (.set s caseless) (more.foldl (fun acc n => .alt n acc) last)

/-- Applies option letters to flags: `(?imsx-imsx`; `none` on an unknown letter. -/
def applyOptions (flags : Flags) (neg : Bool) : List Char → Option (Flags × List Char)
  | [] => some (flags, [])
  | c :: rest =>
    match c with
    | ':' => some (flags, c :: rest)
    | ')' => some (flags, c :: rest)
    | '-' => applyOptions flags true rest
    | 'i' => applyOptions { flags with caseless := !neg } neg rest
    | 'm' => applyOptions { flags with multiline := !neg } neg rest
    | 's' => applyOptions { flags with dotAll := !neg } neg rest
    | 'x' => applyOptions { flags with extended := !neg } neg rest
    | _ => none

/-- One parsed item of a sequence, and whether a quantifier may follow it. -/
structure Item where
  node : RegexNode
  quantifiable : Bool

mutual

/-- Parses alternatives up to a `)` or the end, which it leaves in place. -/
def readAlternatives (fuel : Nat) (flags : Flags) (cur : Cursor) (inGroup : Bool) :
    Except RegexError (RegexNode × Cursor) :=
  match fuel with
  | 0 => .error .unmatchedOpen
  | f + 1 => do
    let (items, cur') ← readSequence f flags cur inGroup []
    let node := seqOf (items.reverse.map Item.node)
    match cur'.rest with
    | '|' :: rest =>
      let (other, cur'') ← readAlternatives f flags { cur' with rest := rest } inGroup
      pure (.alt node other, cur'')
    | _ => pure (node, cur')

/-- Parses items up to `|`, `)` or the end (kept in reverse order in `acc`). -/
def readSequence (fuel : Nat) (flags : Flags) (cur : Cursor) (inGroup : Bool)
    (acc : List Item) : Except RegexError (List Item × Cursor) :=
  match fuel with
  | 0 => .error .unmatchedOpen
  | f + 1 => do
    let rest ← skipIgnored (cur.rest.length + 1) flags cur.rest
    let cur := { cur with rest := rest }
    match rest with
    | [] => if inGroup then .error .unmatchedOpen else pure (acc, cur)
    | '|' :: _ => pure (acc, cur)
    | ')' :: _ => if inGroup then pure (acc, cur) else .error .unmatchedClose
    | _ =>
      match ← readQuantifier rest with
      | some (lo, hi, greed, after) =>
        match acc with
        | [] => .error .repeatWithoutTarget
        | last :: more =>
          if !last.quantifiable then .error .repeatOfAssertion
          else
            readSequence f flags { cur with rest := after } inGroup
              (⟨.repeat last.node lo hi greed, true⟩ :: more)
      | none =>
        match rest with
        | '(' :: after => do
          match ← readGroup f flags { cur with rest := after } inGroup with
          | .inl (item, cur') => readSequence f flags cur' inGroup (item :: acc)
          | .inr (node, cur') => pure (⟨node, true⟩ :: acc, cur')
        | '[' :: after => do
          let (s, after') ← readClass (after.length + 1) cur.groups after
          readSequence f flags { cur with rest := after' } inGroup
            (⟨classNode s flags.caseless, true⟩ :: acc)
        | '.' :: after =>
          readSequence f flags { cur with rest := after } inGroup
            (⟨.dot flags.dotAll, true⟩ :: acc)
        | '^' :: after =>
          readSequence f flags { cur with rest := after } inGroup
            (⟨.anchor (if flags.multiline then .lineStart else .textStart), false⟩ :: acc)
        | '$' :: after =>
          readSequence f flags { cur with rest := after } inGroup
            (⟨.anchor (if flags.multiline then .lineEnd else .textEndBeforeNewline), false⟩
              :: acc)
        | '\\' :: esc => do
          let (e, after) ← readEscape false cur.groups esc
          match e with
          | .char c =>
            readSequence f flags { cur with rest := after } inGroup
              (⟨.text [c] flags.caseless, true⟩ :: acc)
          | .set s =>
            -- a class escape such as a property keeps its members under case folding
            readSequence f flags { cur with rest := after } inGroup
              (⟨.set s false, true⟩ :: acc)
          | .anchor a =>
            readSequence f flags { cur with rest := after } inGroup (⟨.anchor a, false⟩ :: acc)
          | .backref n =>
            readSequence f flags { cur with rest := after, maxBackref := max cur.maxBackref n }
              inGroup (⟨.backref n flags.caseless, true⟩ :: acc)
          | .quote =>
            let body := quoted after
            let after' := afterQuote after
            let items := body.map fun c => (⟨.text [c] flags.caseless, true⟩ : Item)
            readSequence f flags { cur with rest := after' } inGroup (items.reverse ++ acc)
        | c :: after =>
          readSequence f flags { cur with rest := after } inGroup
            (⟨.text [c] flags.caseless, true⟩ :: acc)
        | [] => pure (acc, cur)

/-- Parses a group after its `(`, including the closing `)`. The right side of the result is
an option switch such as `(?i)`: the rest of the enclosing group, already parsed. -/
def readGroup (fuel : Nat) (flags : Flags) (cur : Cursor) (inGroup : Bool) :
    Except RegexError (Sum (Item × Cursor) (RegexNode × Cursor)) :=
  match fuel with
  | 0 => .error .unmatchedOpen
  | f + 1 =>
    let close (body : RegexNode) (wrap : RegexNode → RegexNode) (quantifiable : Bool)
        (c : Cursor) : Except RegexError (Sum (Item × Cursor) (RegexNode × Cursor)) :=
      match c.rest with
      | ')' :: r => .ok (.inl (⟨wrap body, quantifiable⟩, { c with rest := r }))
      | _ => .error .unmatchedOpen
    match cur.rest with
    | '?' :: r =>
      match r with
      | [] => .error .groupUnterminated
      | ':' :: r' => do
        let (b, c) ← readAlternatives f flags { cur with rest := r' } true
        close b id true c
      | '=' :: r' => do
        let (b, c) ← readAlternatives f flags { cur with rest := r' } true
        close b (.look true false) false c
      | '!' :: r' => do
        let (b, c) ← readAlternatives f flags { cur with rest := r' } true
        close b (.look true true) false c
      | '>' :: r' => do
        let (b, c) ← readAlternatives f flags { cur with rest := r' } true
        close b .atomic true c
      | '<' :: '=' :: r' => do
        let (b, c) ← readAlternatives f flags { cur with rest := r' } true
        if b.lengthBounds.2.isNone then .error .invalidLookBehind
        else close b (.look false false) false c
      | '<' :: '!' :: r' => do
        let (b, c) ← readAlternatives f flags { cur with rest := r' } true
        if b.lengthBounds.2.isNone then .error .invalidLookBehind
        else close b (.look false true) false c
      | '<' :: r' =>
        let name := r'.takeWhile (· ≠ '>')
        match r'.dropWhile (· ≠ '>') with
        | '>' :: r'' =>
          if name.isEmpty then .error .emptyGroupName
          else if !(name.all Unicode.isWordChar) || isDigitChar (name.headD 'x') then
            .error (.invalidGroupName (String.ofList name))
          else do
            let index := cur.groups + 1
            let (b, c) ← readAlternatives f flags { cur with rest := r'', groups := index } true
            close b (.group index) true c
        | _ => .error (.invalidGroupName (String.ofList name))
      | r' =>
        match applyOptions flags false r' with
        | none => .error .undefinedGroupOption
        | some (flags', r'') =>
          match r'' with
          | ':' :: body => do
            let (b, c) ← readAlternatives f flags' { cur with rest := body } true
            close b id true c
          | ')' :: after => do
            let (b, c) ← readAlternatives f flags' { cur with rest := after } inGroup
            pure (.inr (b, c))
          | _ => .error .groupUnterminated
    | r => do
      let index := cur.groups + 1
      let (b, c) ← readAlternatives f flags { cur with rest := r, groups := index } true
      close b (.group index) true c

/-- The literal text of a `\Q` quotation, up to `\E` or the end. -/
def quoted : List Char → List Char
  | [] => []
  | '\\' :: 'E' :: _ => []
  | c :: rest => c :: quoted rest

/-- The pattern after a `\Q` quotation. -/
def afterQuote : List Char → List Char
  | [] => []
  | '\\' :: 'E' :: rest => rest
  | _ :: rest => afterQuote rest

end

/-- A parsed pattern: its tree and the number of capturing groups. -/
structure Parsed where
  root : RegexNode
  groups : Nat

/-- Parses a whole pattern under the given starting options. -/
def parse (pattern : String) (flags : Flags) : Except RegexError Parsed := do
  let cs := pattern.toList
  let (root, cur) ← readAlternatives (8 * cs.length + 16) flags ⟨cs, 0, 0⟩ false
  match cur.rest with
  | [] =>
    if cur.maxBackref > cur.groups then .error .invalidBackref
    else pure ⟨root, cur.groups⟩
  | _ => .error .unmatchedClose

end Regex

end Proofreader
