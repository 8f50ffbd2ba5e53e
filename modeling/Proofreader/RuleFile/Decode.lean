import Proofreader.RuleFile.Spec
import Proofreader.Json.Decode
import Proofreader.Tokenizer

/-!
# Reading the rule format

Each record of the rule format is read from a JSON object by the conventions of `Json.Decode`:
unknown members are ignored, optional members may be missing or `null`, defaulted members may be
missing. Identifiers inside document rules, same-translation rules and option lists must parse,
or the record is refused.

A suggestion piece is a reference when it has a `match` member that reads as one, and a text
piece otherwise; a suggestion is a template when it is a string and a piece list when it is an
array. Records whose kind is named by a `type` member take the kind's name or its number.
-/

namespace Proofreader

namespace RuleId

/-- An identifier written as a string. -/
def decode? (j : Json) : Option RuleId := do
  (RuleId.parse (← j.str?)).toOption

/-- A decoded identifier was parsed from a text. -/
theorem decode?_eq_some {j : Json} {id : RuleId} (h : decode? j = some id) :
    ∃ t, RuleId.parse t = .ok id := by
  unfold decode? at h
  obtain ⟨t, -, h⟩ := Option.bind_eq_some_iff.1 h
  refine ⟨t, ?_⟩
  cases hp : RuleId.parse t with
  | error e =>
    rw [hp] at h
    cases h
  | ok id' =>
    rw [hp] at h
    cases h
    rfl

end RuleId

namespace Selector

/-- A selector written as a string. -/
def decode? (j : Json) : Option Selector := do
  (Selector.parse (← j.str?)).toOption

end Selector

namespace Scope

/-- A scope: `"current"`, `{"previous": n}` or `{"next": n}`. -/
def decode? : Json → Option Scope
  | .obj [("previous", v)] => v.count?.map previous
  | .obj [("next", v)] => v.count?.map next
  | j => match j.caseName? with
    | some "current" => some current
    | _ => none

end Scope

namespace Conversion

/-- The name of each conversion in the rule format. -/
def name : Conversion → String
  | keep => "nop"
  | allLower => "all_lower"
  | startLower => "start_lower"
  | allUpper => "all_upper"
  | startUpper => "start_upper"

/-- A conversion written by name. -/
def decode? (j : Json) : Option Conversion := do
  let n ← j.caseName?
  [keep, allLower, startLower, allUpper, startUpper].find? (·.name = n)

end Conversion

namespace BitextPolicy

/-- The name of each policy in the rule format. -/
def name : BitextPolicy → String
  | bothMatch => "both_match"
  | sourceOnly => "source_only"

/-- A policy written by name. -/
def decode? (j : Json) : Option BitextPolicy := do
  let n ← j.caseName?
  [bothMatch, sourceOnly].find? (·.name = n)

end BitextPolicy

namespace TokenSpec

/-- The token constraints among the members of an object. -/
def decode? (j : Json) : Option TokenSpec := do
  guard j.isObject
  pure {
    text := ← j.optional "text" Json.str?
    backReference := ← j.optional "back_reference" Json.count?
    regexp := ← j.withDefault "regexp" false Json.bool?
    negate := ← j.withDefault "negate" false Json.bool?
    caseSensitive := ← j.optional "case_sensitive" Json.bool?
    postag := ← j.optional "postag" Json.str?
    postagRegexp := ← j.withDefault "postag_regexp" false Json.bool?
    negatePos := ← j.withDefault "negate_pos" false Json.bool?
    lemmaForm := ← j.optional "lemma" Json.str?
    spaceBefore := ← j.optional "space_before" Json.bool? }

end TokenSpec

namespace ExceptionSpec

/-- An exception: token constraints with a scope and an `absent` flag. -/
def decode? (j : Json) : Option ExceptionSpec := do
  pure {
    token := ← TokenSpec.decode? j
    scope := ← j.withDefault "scope" .current Scope.decode?
    absent := ← j.withDefault "absent" false Json.bool? }

end ExceptionSpec

namespace ElementSpec

/-- An element: token constraints with alternatives, a count, a marker and exceptions. -/
def decode? (j : Json) : Option ElementSpec := do
  pure {
    token := ← TokenSpec.decode? j
    anyOf := ← j.withDefault "any_of" [] (Json.listOf TokenSpec.decode?)
    negateElement := ← j.withDefault "negate_element" false Json.bool?
    min := ← j.withDefault "min" 1 Json.count?
    max := ← match j.field? "max" with
      | none => some (some 1)
      | some .null => some none
      | some v => v.count?.map some
    marker := ← j.withDefault "marker" false Json.bool?
    exceptions := ← j.withDefault "exceptions" [] (Json.listOf ExceptionSpec.decode?) }

end ElementSpec

namespace SuggestionPartSpec

/-- A reference piece when the object has a readable `match` member, else a text piece. -/
def decode? (j : Json) : Option SuggestionPartSpec :=
  (do
    guard j.isObject
    pure (ref (← j.required "match" Json.count?)
      (← j.withDefault "conversion" .keep Conversion.decode?)
      (← j.optional "postag" Json.str?)
      (← j.optional "regexp_match" Json.str?)
      (← j.optional "regexp_replace" Json.str?))) <|>
  (do
    guard j.isObject
    pure (text (← j.required "text" Json.str?)))

end SuggestionPartSpec

namespace SuggestionSpec

/-- A template string or a list of pieces. -/
def decode? : Json → Option SuggestionSpec
  | .str t => some (template t)
  | j => (Json.listOf SuggestionPartSpec.decode? j).map parts

end SuggestionSpec

namespace ExampleSpec

/-- An example text with its optional corrections. -/
def decode? (j : Json) : Option ExampleSpec := do
  guard j.isObject
  pure {
    text := ← j.required "text" Json.str?
    correction := ← j.optional "correction" Json.str? }

end ExampleSpec

/-- A list of pattern elements. -/
def decodePattern? (j : Json) : Option (List ElementSpec) := Json.listOf ElementSpec.decode? j

namespace RuleSpec

/-- A grammar rule; `id`, `message` and `pattern` are required. -/
def decode? (j : Json) : Option RuleSpec := do
  guard j.isObject
  pure {
    id := ← j.required "id" Json.str?
    message := ← j.required "message" Json.str?
    pattern := ← j.required "pattern" decodePattern?
    antipatterns := ← j.withDefault "antipatterns" [] (Json.listOf decodePattern?)
    suggestions := ← j.withDefault "suggestions" [] (Json.listOf SuggestionSpec.decode?)
    caseSensitive := ← j.withDefault "case_sensitive" false Json.bool?
    findAll := ← j.withDefault "find_all" false Json.bool?
    stepBudget := ← j.optional "step_budget" Json.count?
    examples := ← j.withDefault "examples" [] (Json.listOf ExampleSpec.decode?) }

end RuleSpec

namespace BitextRuleSpec

/-- A bitext rule: an identifier, a source rule, a target rule and a policy. -/
def decode? (j : Json) : Option BitextRuleSpec := do
  guard j.isObject
  pure {
    id := ← j.required "id" Json.str?
    source := ← j.required "source" RuleSpec.decode?
    target := ← j.required "target" RuleSpec.decode?
    policy := ← j.withDefault "policy" .bothMatch BitextPolicy.decode? }

end BitextRuleSpec

namespace ActionSpec

/-- An action, its kind named by the member `type`. -/
def decode? (j : Json) : Option ActionSpec := do
  guard j.isObject
  match ← j.tagOf? "type" ["filter", "remove", "replace", "add"] with
  | "filter" => pure (filter (← j.required "postag" Json.str?))
  | "remove" => pure (remove (← j.required "postag" Json.str?))
  | "replace" =>
    pure (replace (← j.withDefault "lemma" "" Json.str?) (← j.required "postag" Json.str?))
  | "add" => pure (add (← j.withDefault "lemma" "" Json.str?) (← j.required "postag" Json.str?))
  | _ => none

end ActionSpec

namespace DisambiguationRuleSpec

/-- A disambiguation rule: an identifier, a pattern with antipatterns and an action. -/
def decode? (j : Json) : Option DisambiguationRuleSpec := do
  guard j.isObject
  pure {
    id := ← j.required "id" Json.str?
    pattern := ← j.required "pattern" decodePattern?
    antipatterns := ← j.withDefault "antipatterns" [] (Json.listOf decodePattern?)
    caseSensitive := ← j.withDefault "case_sensitive" false Json.bool?
    action := ← j.required "action" ActionSpec.decode? }

end DisambiguationRuleSpec

namespace SameTranslationRule

/-- A same-translation rule: an identifier and the least number of words. -/
def decode? (j : Json) : Option SameTranslationRule := do
  guard j.isObject
  pure {
    id := ← j.required "id" RuleId.decode?
    minWords := ← j.withDefault "min_words" 3 Json.count? }

theorem decode?_id {j : Json} {r : SameTranslationRule} (h : decode? j = some r) :
    ∃ t, RuleId.parse t = .ok r.id := by
  unfold decode? at h
  obtain ⟨object, -, h⟩ := Option.bind_eq_some_iff.1 h
  obtain ⟨id, hid, h⟩ := Option.bind_eq_some_iff.1 h
  obtain ⟨minWords, -, h⟩ := Option.bind_eq_some_iff.1 h
  cases h
  obtain ⟨v, hv⟩ := Json.required_eq_some hid
  exact RuleId.decode?_eq_some hv

end SameTranslationRule

namespace DocumentRule

/-- A document rule, its kind named by the member `type`. -/
def decode? (j : Json) : Option DocumentRule := do
  guard j.isObject
  match ← j.tagOf? "type" ["word_coherency", "repeated_beginning"] with
  | "word_coherency" =>
    pure (wordCoherency (← j.required "id" RuleId.decode?)
      (← j.required "pairs" (Json.listOf (Json.pairOf Json.str? Json.str?))))
  | "repeated_beginning" =>
    pure (repeatedBeginning (← j.required "id" RuleId.decode?)
      (← j.withDefault "allowed" [] (Json.listOf Json.str?))
      (← j.withDefault "adverbs" [] (Json.listOf Json.str?)))
  | _ => none

end DocumentRule

namespace RuleSetSpec

/-- A rule file: four lists of rules, each empty when missing. -/
def decode? (j : Json) : Option RuleSetSpec := do
  guard j.isObject
  pure {
    rules := ← j.withDefault "rules" [] (Json.listOf RuleSpec.decode?)
    bitextRules := ← j.withDefault "bitext_rules" [] (Json.listOf BitextRuleSpec.decode?)
    sameTranslationRules :=
      ← j.withDefault "same_translation_rules" [] (Json.listOf SameTranslationRule.decode?)
    documentRules := ← j.withDefault "document_rules" [] (Json.listOf DocumentRule.decode?) }

/-- The same-translation rules of a decoded file have identifiers parsed from texts. -/
theorem decode?_sameTranslationRules {j : Json} {spec : RuleSetSpec} (h : decode? j = some spec) :
    ∀ r ∈ spec.sameTranslationRules, ∃ t, RuleId.parse t = .ok r.id := by
  unfold decode? at h
  obtain ⟨object, -, h⟩ := Option.bind_eq_some_iff.1 h
  obtain ⟨rules, -, h⟩ := Option.bind_eq_some_iff.1 h
  obtain ⟨bitextRules, -, h⟩ := Option.bind_eq_some_iff.1 h
  obtain ⟨same, hsame, h⟩ := Option.bind_eq_some_iff.1 h
  obtain ⟨documentRules, -, h⟩ := Option.bind_eq_some_iff.1 h
  cases h
  intro r hr
  rcases Json.withDefault_eq_some hsame with rfl | ⟨v, hv⟩
  · cases hr
  · obtain ⟨w, hw⟩ := Json.listOf_eq_some hv r hr
    exact SameTranslationRule.decode?_id hw

end RuleSetSpec

namespace TokenizerOptions

/-- Tokenizer options; each missing member keeps its default. -/
def decode? (j : Json) : Option TokenizerOptions := do
  guard j.isObject
  pure {
    lowercaseFallback := ← j.withDefault "lowercase_fallback" true Json.bool?
    protocols := ← j.withDefault "protocols" ["http", "https", "ftp"] (Json.listOf Json.str?) }

end TokenizerOptions

end Proofreader
