import Proofreader.Pattern.Composition
import Proofreader.Sentence
import Proofreader.Tagger
import Proofreader.Text.Case

/-!
# Messages and replacements

A synthesizer builds texts from literal pieces and references to the groups of a match. A
reference takes the text of its group (blanks between the tokens included), or, with a target
tag, every combination of the group's tokens inflected to that tag. It may then rewrite the text
with a regular expression (`$1`, `$2`, … in the replacement stand for the expression's groups)
and change its case.

Templates are written as text with `\N`, `{N}` and `{N:TAG}` references; group 0 is the whole
match and group `N` the `N`-th element of the pattern. When the reported text starts with a
capital letter and the template does not begin with a case change, the result starts with a
capital too.
-/

namespace Proofreader

/-- A change of case applied to a referenced text. -/
inductive Conversion where
  | keep
  | allLower
  | startLower
  | allUpper
  | startUpper
deriving DecidableEq, Repr, Inhabited

namespace Conversion

/-- Applies the change of case. -/
def convert : Conversion → String → String
  | keep, s => s
  | allLower, s => Unicode.toLower s
  | startLower, s => Unicode.mapFirst Unicode.charToLower s
  | allUpper, s => Unicode.toUpper s
  | startUpper, s => Unicode.mapFirst Unicode.charToUpper s

end Conversion

/-- A reference to a group of the match. -/
structure GroupRef where
  id : Nat
  conversion : Conversion := .keep
  /-- Inflect the referenced tokens to this tag. -/
  inflect : Option String := none
  /-- Rewrite with this expression and replacement. -/
  rewrite : Option (Regex × String) := none
deriving Inhabited

/-- A piece of a synthesizer: literal text or a group reference. -/
inductive SynthPart where
  | text (s : String)
  | ref (r : GroupRef)
deriving Inhabited

/-- Builds texts from literal pieces and group references. -/
structure Synthesizer where
  titlecase : Bool
  parts : List SynthPart
deriving Inhabited

/-- All ways of picking one item from each list, the first list varying slowest; nothing when
some list is empty. -/
def cartesian {α : Type} : List (List α) → List (List α)
  | [] => [[]]
  | xs :: rest =>
    let tails := cartesian rest
    xs.flatMap fun x => tails.map (x :: ·)

/-- The list without repetitions, first occurrences kept in order. -/
def dedupKeepFirst {α : Type} [BEq α] (xs : List α) : List α :=
  (xs.foldl (fun acc x => if acc.contains x then acc else x :: acc) []).reverse

/-- Replaces the occurrences of `pattern` in a list of characters, leftmost first and without
overlaps, by `replacement`; `skip` counts the characters of an occurrence still to pass over.
An empty pattern is not looked for. -/
def replaceFrom (pattern replacement : List Char) : Nat → List Char → List Char
  | _, [] => []
  | 0, c :: rest =>
    if !pattern.isEmpty && pattern.isPrefixOf (c :: rest) then
      replacement ++ replaceFrom pattern replacement (pattern.length - 1) rest
    else c :: replaceFrom pattern replacement 0 rest
  | skip + 1, _ :: rest => replaceFrom pattern replacement skip rest

/-- Replaces every occurrence of `pattern` in a list of characters, leftmost first and without
overlaps, by `replacement`. -/
def replaceChars (pattern replacement cs : List Char) : List Char :=
  replaceFrom pattern replacement 0 cs

/-- Passing over `m` characters of an occurrence is replacing in what follows them. -/
theorem replaceFrom_skip (pattern replacement : List Char) :
    ∀ (m : Nat) (cs : List Char),
      replaceFrom pattern replacement m cs = replaceFrom pattern replacement 0 (cs.drop m)
  | 0, _ => rfl
  | _ + 1, [] => rfl
  | m + 1, _ :: rest => by
    rw [replaceFrom, List.drop_succ_cons]
    exact replaceFrom_skip pattern replacement m rest

/-- One step of replacing: at an occurrence the replacement is put in and the occurrence passed
over, else the character is kept. -/
theorem replaceChars_cons {pattern : List Char} (replacement : List Char) (hp : pattern ≠ [])
    (c : Char) (rest : List Char) :
    replaceChars pattern replacement (c :: rest) =
      if pattern.isPrefixOf (c :: rest) then
        replacement ++ replaceChars pattern replacement ((c :: rest).drop pattern.length)
      else c :: replaceChars pattern replacement rest := by
  obtain ⟨p, ps, rfl⟩ := List.exists_cons_of_ne_nil hp
  rw [replaceChars, replaceFrom]
  simp only [List.isEmpty_cons, Bool.not_false, Bool.true_and, List.length_cons,
    Nat.add_sub_cancel, List.drop_succ_cons, replaceFrom_skip _ _ ps.length]
  rfl

/-- Replaces `$1`, `$2`, … in order by the texts of the expression's groups (missing groups by
the empty text): each in turn over the whole text so far. -/
def dollarReplace (replacement : String) (groups : Nat) (group : Nat → Option String) : String :=
  String.ofList ((List.range groups).foldl
    (fun acc i => replaceChars ('$' :: (toString (i + 1)).toList) ((group (i + 1)).getD "").toList acc)
    replacement.toList)

/-- Collapses each run of two or more White_Space characters to its first character. -/
def collapseBlankRuns (s : String) : String :=
  let runs := s.toList.splitBy fun a b => Unicode.isWhiteSpace a && Unicode.isWhiteSpace b
  String.join (runs.map fun run =>
    match run with
    | c :: _ :: _ => if Unicode.isWhiteSpace c then c.toString else String.ofList run
    | _ => String.ofList run)

/-- The candidate forms of a token in a tag: the token itself if one of its readings has the
tag, else the forms of each of its lemmas (sentinels left out), without repetitions. -/
def inflections (t : Token) (tag : String) (inflect : Inflector) : List String :=
  if t.hasTag tag then [t.text]
  else
    let lemmas := dedupKeepFirst ((t.readings.filter (!·.isSentinel)).map Reading.lemmaForm)
    dedupKeepFirst (lemmas.flatMap fun l => inflect l tag)

namespace GroupRef

/-- A candidate text as the reference gives it: rewritten by its expression, if it has one, and
then changed in case. -/
def finish (r : GroupRef) (text : String) : String :=
  let text := match r.rewrite with
    | some (re, rep) => re.replaceAll text fun g => dollarReplace rep re.groupCount g
    | none => text
  r.conversion.convert text

/-- The candidate texts of a reference in a match. -/
def candidates (r : GroupRef) (graph : MatchGraph) (view : View) (inflect : Inflector) :
    Except Error (List String) := do
  let some span := graph.group? r.id | throw (.index r.id graph.groups.size)
  let texts ← match r.inflect with
    | none => do pure [← view.text span.1 span.2]
    | some tag =>
      if MatchGraph.spanIsEmpty span then pure [""]
      else
        let toks := (graph.tokens.extract span.1 span.2).toList
        pure ((cartesian (toks.map fun t => inflections t tag inflect)).map (" ".intercalate ·))
  pure (texts.map r.finish)

end GroupRef

namespace Synthesizer

/-- Whether the first character of a text is uppercase. -/
def startsUppercase (s : String) : Bool :=
  match s.toList with
  | c :: _ => Unicode.isUppercase c
  | [] => false

/-- Whether the texts get a capital: title-casing is on, the first piece is not a reference that
changes case, and the first token of the reported span, from group `firstGroup` on, starts with
a capital. -/
def capitalizes (s : Synthesizer) (graph : MatchGraph) (firstGroup : Nat) : Bool :=
  let startsWithConversion := match s.parts with
    | .ref r :: _ => r.conversion != .keep
    | _ => false
  let from_ := min (max firstGroup 1) graph.groups.size
  let firstToken := ((graph.groups.toList.drop from_).findSome? fun (a, b) =>
    (graph.tokens.extract a b)[0]?)
  s.titlecase && !startsWithConversion &&
    (firstToken.map fun t => startsUppercase t.text).getD false

/-- A joined text as it is given out: its runs of blanks collapsed, then its first letter made a
capital when `capital` is set. -/
def polish (capital : Bool) (x : String) : String :=
  let x := collapseBlankRuns x
  if capital then Unicode.mapFirst Unicode.charToUpper x else x

/-- All candidate texts for a match; `firstGroup` is the first group of the reported span,
which decides the capital letter. No text when some reference has no candidate. -/
def apply (s : Synthesizer) (graph : MatchGraph) (view : View) (inflect : Inflector)
    (firstGroup : Nat) : Except Error (List String) := do
  let mut lists : List (List String) := []
  for p in s.parts do
    match p with
    | .text t => lists := lists ++ [[t]]
    | .ref r =>
      let texts ← r.candidates graph view inflect
      if texts.isEmpty then return []
      lists := lists ++ [texts]
  let joined := if lists.isEmpty then [""] else (cartesian lists).map String.join
  pure (dedupKeepFirst (joined.map (polish (s.capitalizes graph firstGroup))))

/-- Reads a run of ASCII digits: its value and length. -/
def readNumber (cs : List Char) : Option (Nat × Nat) :=
  let ds := cs.takeWhile fun c => '0' ≤ c && c ≤ '9'
  if ds.isEmpty then none
  else
    let n := ds.foldl (fun n d => n * 10 + (d.toNat - '0'.toNat)) 0
    if n > unboundedCount then none else some (n, ds.length)

/-- Reads `N}` or `N:TAG}` after a brace: the reference and the number of characters read. -/
def readBraced (cs : List Char) : Option (GroupRef × Nat) := do
  let (id, len) ← readNumber cs
  let rest := cs.drop len
  let (r, len) ← match rest with
    | ':' :: more =>
      let tag := more.takeWhile (· ≠ '}')
      if tag.isEmpty then none
      else some ({ id, inflect := some (String.ofList tag) : GroupRef }, len + tag.length + 1)
    | _ => some ({ id : GroupRef }, len)
  match cs.drop len with
  | '}' :: _ => some (r, len + 1)
  | _ => none

/-- Reads the pieces of a template from `cs`; `text` is the literal text being collected. -/
def readTemplate (template : String) (groups : Nat) :
    List Char → List Char → List SynthPart → Except Error (List SynthPart)
  | [], text, acc =>
    .ok (if text.isEmpty then acc.reverse else (SynthPart.text (String.ofList text.reverse) :: acc).reverse)
  | c :: rest, text, acc =>
    let reference : Option (GroupRef × Nat) :=
      if c = '\\' then (readNumber rest).map fun (id, len) => ({ id : GroupRef }, len)
      else if c = '{' then readBraced rest
      else none
    match reference with
    | some (r, len) =>
      if r.id > groups then
        .error (.malformed ("template \"" ++ template ++ "\" references group " ++ toString r.id ++
          ", but the pattern has " ++ toString groups ++ " elements"))
      else
        let acc := if text.isEmpty then acc else SynthPart.text (String.ofList text.reverse) :: acc
        readTemplate template groups (rest.drop len) [] (SynthPart.ref r :: acc)
    | none => readTemplate template groups rest (c :: text) acc
termination_by cs => cs.length
decreasing_by
  -- explicit terms, so that the proofs do not depend on what else is in scope
  · rw [List.length_drop]
    exact Nat.lt_of_le_of_lt (Nat.sub_le rest.length len) (Nat.lt_succ_self rest.length)
  · exact Nat.lt_succ_self rest.length

/-- Parses a template for a pattern of `groups` elements. -/
def parse (template : String) (groups : Nat) (titlecase : Bool) : Except Error Synthesizer := do
  let parts ← readTemplate template groups template.toList [] []
  pure ⟨titlecase, parts⟩

end Synthesizer

end Proofreader
