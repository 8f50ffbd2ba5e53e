import Proofreader.RuleFile.Spec
import Proofreader.Rule.Grammar
import Proofreader.Rule.Disambiguation

/-!
# Compiling the rule format

Turns records of the rule format into rules, checking what the format cannot express: element
back-references must point to an earlier element, the regex engine `E` must accept every regular
expression, quantifier bounds must be ordered, group references of messages and suggestions must
exist, and example markers must be balanced. Errors are found in a fixed order, so the first fault
of a rule is the one reported: the identifier, then the elements in order (within one: text or
back-reference, text expression, tag, lemma, alternatives, count, exceptions), the pattern checks,
the antipatterns, the message, the suggestions and the examples.

Literal texts, tags and lemmas lose surrounding blanks. Expressions of tokens must cover the
whole token; those of suggestions are searched for and kept as written, blanks aside.
-/

namespace Proofreader

namespace RuleFile

/-- Compiles an expression written in a rule; a faulty one is a malformed rule, reported with
the pattern as written. -/
def compileRegex (E : RegexEngine) (pattern : String) (caseSensitive wholeText : Bool) :
    Except Error Regex :=
  match Regex.build E (trimBlank pattern) caseSensitive wholeText with
  | .ok r => .ok r
  | .error e => .error (.malformed ("invalid regex " ++ Unicode.quoted pattern ++ ": " ++ e))

/-- A tag matcher: an expression over the whole tag, or a literal tag. -/
def compileTag (E : RegexEngine) (postag : String) (isRegex negate : Bool) :
    Except Error Matcher :=
  if isRegex then do
    pure (Matcher.ofRegex (← compileRegex E postag true true) negate true)
  else pure (Matcher.ofTarget (.text (trimBlank postag)) negate true true)

/-- The constraints on one token as one atom; `position` is the number of the element (from 1),
which back-references must stay below. -/
def compileToken (E : RegexEngine) (t : TokenSpec) (caseSensitive : Bool) (position : Nat) :
    Except Error Atom := do
  let cs := t.caseSensitive.getD caseSensitive
  let textMatcher : Option Matcher ← match t.text, t.backReference with
    | some _, some _ => .error (.malformed "token can not have both text and a back-reference")
    | none, some id =>
      if id = 0 || id ≥ position then
        .error (.malformed ("element " ++ toString position ++ " references element " ++
          toString id ++ ", which does not precede it"))
      else pure (some (Matcher.ofTarget (.group id) t.negate cs true))
    | some text, none =>
      if t.regexp then pure (some (Matcher.ofRegex (← compileRegex E text cs true) t.negate true))
      else pure (some (Matcher.ofTarget (.text (trimBlank text)) t.negate cs true))
    | none, none => pure none
  let tagMatcher ← t.postag.mapM fun p => compileTag E p t.postagRegexp t.negatePos
  let lemmaMatcher : Option Matcher ← t.lemmaForm.mapM fun l =>
    if t.regexp then do pure (Matcher.ofRegex (← compileRegex E l cs true) false true)
    else pure (Matcher.ofTarget (.text (trimBlank l)) false cs true)
  let atoms := (textMatcher.map Atom.text).toList ++
    (if tagMatcher.isSome || lemmaMatcher.isSome then [Atom.wordData tagMatcher lemmaMatcher]
      else []) ++
    (t.spaceBefore.map Atom.spaceBefore).toList
  pure (Atom.conj atoms)

/-- One element of a pattern, numbered `position` from 1. -/
def compileElement (E : RegexEngine) (e : ElementSpec) (caseSensitive : Bool) (position : Nat) :
    Except Error Part := do
  let main ← compileToken E e.token caseSensitive position
  let alternatives ← e.anyOf.mapM fun t => compileToken E t caseSensitive position
  let atom := Atom.conj (main :: if alternatives.isEmpty then [] else [Atom.disj alternatives])
  let atom := if e.negateElement then atom.negation else atom
  let quantifier ← Quantifier.make e.min (e.max.getD unboundedCount)
  let exceptions ← e.exceptions.mapM fun x => do
    pure ({ atom := ← compileToken E x.token caseSensitive position, scope := x.scope,
            negate := x.absent } : Exception)
  pure { atom, quantifier, exceptions, marker := e.marker }

/-- A pattern. -/
def compileComposition (E : RegexEngine) (elements : List ElementSpec) (caseSensitive : Bool) :
    Except Error Composition := do
  let parts ← elements.zipIdx.mapM fun (e, i) => compileElement E e caseSensitive (i + 1)
  Composition.make parts

/-- A pattern with its antipatterns. -/
def compileEngine (E : RegexEngine) (pattern : List ElementSpec)
    (antipatterns : List (List ElementSpec)) (caseSensitive : Bool) : Except Error Engine := do
  let composition ← compileComposition E pattern caseSensitive
  let antipatterns ← antipatterns.mapM fun a => compileComposition E a caseSensitive
  pure { composition, antipatterns }

/-- A suggestion for a pattern of `groups` elements. -/
def compileSuggestion (E : RegexEngine) (spec : SuggestionSpec) (groups : Nat) :
    Except Error Synthesizer :=
  match spec with
  | .template t => Synthesizer.parse t groups true
  | .parts ps => do
    let parts ← ps.mapM fun p => match p with
      | .text s => pure (SynthPart.text s)
      | .ref id conversion postag regexMatch regexReplace => do
        if id > groups then
          throw (.malformed ("suggestion references group " ++ toString id ++
            ", but the pattern has " ++ toString groups ++ " elements"))
        let rewrite ← match regexMatch, regexReplace with
          | some m, some r => do pure (some (← compileRegex E m true false, r))
          | none, none => pure none
          | _, _ => throw (.malformed "regexp_match and regexp_replace must be given together")
        pure (SynthPart.ref { id, conversion, inflect := postag, rewrite })
    pure ⟨true, parts⟩

/-- The first character index at which `pat` occurs in `s`. -/
def findChars (s pat : List Char) : Option Nat :=
  (List.range (s.length + 1)).find? fun i => (s.drop i).take pat.length = pat

/-- The start marker of an example. -/
def markerOpen : String := "<marker>"

/-- The end marker of an example. -/
def markerClose : String := "</marker>"

/-- An example: the text without its markers, and the suggestion expected on the marked span.
Corrections of a span at the very start begin with an uppercase letter. -/
def compileExample (spec : ExampleSpec) : Except Error Example :=
  let cs := spec.text.toList
  match findChars cs markerOpen.toList, findChars cs markerClose.toList with
  | some a, some b =>
    if a < b then
      let before := cs.take a
      let marked := (cs.drop (a + markerOpen.length)).take (b - (a + markerOpen.length))
      let after := cs.drop (b + markerClose.length)
      let start := before.length
      let replacements := match spec.correction with
        | some c => (c.splitOn "|").map fun x =>
            if start = 0 then Unicode.mapFirst Unicode.charToUpper x else x
        | none => []
      .ok { text := String.ofList (before ++ marked ++ after),
            suggestion := some { source := "_Test", message := "_Test", start,
                                 stop := start + marked.length, replacements } }
    else .error (.malformed ("example " ++ Unicode.quoted spec.text ++ " has an unbalanced marker"))
  | none, none =>
    if spec.correction.isSome then
      .error (.malformed ("example " ++ Unicode.quoted spec.text ++ " has a correction but no marker"))
    else .ok { text := spec.text, suggestion := none }
  | _, _ => .error (.malformed ("example " ++ Unicode.quoted spec.text ++ " has an unbalanced marker"))

end RuleFile

namespace RuleSpec

/-- The grammar rule described by the record. -/
def compile (E : RegexEngine) (spec : RuleSpec) : Except Error Rule := do
  let id ← RuleId.parse spec.id
  let groups := spec.pattern.length
  let engine ← RuleFile.compileEngine E spec.pattern spec.antipatterns spec.caseSensitive
  let message ← Synthesizer.parse spec.message groups false
  let suggesters ← spec.suggestions.mapM fun s => RuleFile.compileSuggestion E s groups
  let examples ← spec.examples.mapM RuleFile.compileExample
  pure { id, engine, message, suggesters, findAll := spec.findAll,
         stepBudget := spec.stepBudget.getD defaultStepBudget, examples }

/-- A compiled rule has the identifier parsed from its record. -/
theorem parse_id_of_compile {E : RegexEngine} {spec : RuleSpec} {r : Rule}
    (h : spec.compile E = .ok r) :
    RuleId.parse spec.id = .ok r.id := by
  unfold compile at h
  obtain ⟨id, hid, h⟩ := exists_of_bind_eq_ok h
  obtain ⟨engine, -, h⟩ := exists_of_bind_eq_ok h
  obtain ⟨message, -, h⟩ := exists_of_bind_eq_ok h
  obtain ⟨suggesters, -, h⟩ := exists_of_bind_eq_ok h
  obtain ⟨examples, -, h⟩ := exists_of_bind_eq_ok h
  cases h
  exact hid

end RuleSpec

namespace BitextRuleSpec

/-- The bitext rule described by the record. -/
def compile (E : RegexEngine) (spec : BitextRuleSpec) : Except Error BitextRule := do
  let id ← RuleId.parse spec.id
  let source ← spec.source.compile E
  let target ← spec.target.compile E
  pure { id, source, target, policy := spec.policy }

/-- A compiled bitext rule and its two rules have the identifiers parsed from their records. -/
theorem parse_ids_of_compile {E : RegexEngine} {spec : BitextRuleSpec} {r : BitextRule}
    (h : spec.compile E = .ok r) :
    RuleId.parse spec.id = .ok r.id ∧ RuleId.parse spec.source.id = .ok r.source.id ∧
      RuleId.parse spec.target.id = .ok r.target.id := by
  unfold compile at h
  obtain ⟨id, hid, h⟩ := exists_of_bind_eq_ok h
  obtain ⟨source, hsource, h⟩ := exists_of_bind_eq_ok h
  obtain ⟨target, htarget, h⟩ := exists_of_bind_eq_ok h
  cases h
  exact ⟨hid, RuleSpec.parse_id_of_compile hsource, RuleSpec.parse_id_of_compile htarget⟩

end BitextRuleSpec

namespace ActionSpec

/-- The reading action described by the record. -/
def compile (E : RegexEngine) : ActionSpec → Except Error ReadingAction
  | filter p => do pure (.filter (← RuleFile.compileTag E p true false))
  | remove p => do pure (.remove (← RuleFile.compileTag E p true false))
  | replace l p => pure (.replace ⟨l, some p⟩)
  | add l p => pure (.add ⟨l, some p⟩)

end ActionSpec

namespace DisambiguationRuleSpec

/-- The disambiguation rule described by the record; its identifier is checked last. -/
def compile (E : RegexEngine) (spec : DisambiguationRuleSpec) :
    Except Error DisambiguationRule := do
  let engine ← RuleFile.compileEngine E spec.pattern spec.antipatterns spec.caseSensitive
  let action ← spec.action.compile E
  let id ← RuleId.parse spec.id
  pure { id, engine, action }

end DisambiguationRuleSpec

end Proofreader
