import Proofreader.Pattern.Atom
import Proofreader.Rule.Synthesizer
import Proofreader.Rule.Bitext
import Proofreader.Rule.Document

/-!
# The rule format

Rules are written as JSON records. This module gives those records as plain structures, with
the defaults of the format written beside each field; `RuleFile.Decode` reads them out of JSON
and `RuleFile.Compile` turns them into rules, checking what the format cannot express.

An element of a pattern constrains one token (its text, a back-reference to an earlier element,
its tag, its lemma, the space before it) and adds alternatives, a repetition count, a marker and
exceptions. A grammar rule has a pattern, antipatterns, a message, suggestions and examples.
-/

namespace Proofreader

/-- Constraints on one token. -/
structure TokenSpec where
  /-- The text, a literal unless `regexp` is set. -/
  text : Option String := none
  /-- The text must equal that of the element with this number (counted from 1). -/
  backReference : Option Nat := none
  /-- Whether `text` and `lemma` are regular expressions. -/
  regexp : Bool := false
  negate : Bool := false
  /-- Overrides the case sensitivity of the rule. -/
  caseSensitive : Option Bool := none
  postag : Option String := none
  postagRegexp : Bool := false
  negatePos : Bool := false
  lemmaForm : Option String := none
  spaceBefore : Option Bool := none
deriving Inhabited

/-- An exception of an element. -/
structure ExceptionSpec where
  token : TokenSpec
  scope : Scope := .current
  /-- Fires when the token is *not* found in the scope. -/
  absent : Bool := false
deriving Inhabited

/-- One element of a pattern. -/
structure ElementSpec where
  token : TokenSpec
  /-- Alternatives; one of them must hold besides `token`. -/
  anyOf : List TokenSpec := []
  /-- Inverts the whole element. -/
  negateElement : Bool := false
  min : Nat := 1
  /-- `none` means no bound. -/
  max : Option Nat := some 1
  marker : Bool := false
  exceptions : List ExceptionSpec := []
deriving Inhabited

/-- A piece of a suggestion given as a list. -/
inductive SuggestionPartSpec where
  | ref (id : Nat) (conversion : Conversion) (postag regexMatch regexReplace : Option String)
  | text (s : String)
deriving Inhabited

/-- A suggestion: a template string or a list of pieces. -/
inductive SuggestionSpec where
  | template (t : String)
  | parts (ps : List SuggestionPartSpec)
deriving Inhabited

/-- An example text; the expected span is enclosed in `<marker>` and `</marker>`. -/
structure ExampleSpec where
  text : String
  /-- Expected replacements separated by `|`. -/
  correction : Option String := none
deriving Inhabited

/-- A grammar rule as written. -/
structure RuleSpec where
  id : String
  message : String
  pattern : List ElementSpec
  antipatterns : List (List ElementSpec) := []
  suggestions : List SuggestionSpec := []
  caseSensitive : Bool := false
  findAll : Bool := false
  stepBudget : Option Nat := none
  examples : List ExampleSpec := []
deriving Inhabited

/-- A bitext rule as written. -/
structure BitextRuleSpec where
  id : String
  source : RuleSpec
  target : RuleSpec
  policy : BitextPolicy := .bothMatch
deriving Inhabited

/-- What a disambiguation rule does to the marked tokens, as written. -/
inductive ActionSpec where
  /-- Keep the readings whose tag matches the expression. -/
  | filter (postag : String)
  /-- Drop the readings whose tag matches the expression. -/
  | remove (postag : String)
  | replace (lemmaForm postag : String)
  | add (lemmaForm postag : String)
deriving Inhabited

/-- A disambiguation rule as written. -/
structure DisambiguationRuleSpec where
  id : String
  pattern : List ElementSpec
  antipatterns : List (List ElementSpec) := []
  caseSensitive : Bool := false
  action : ActionSpec
deriving Inhabited

/-- All rules of a rule file. -/
structure RuleSetSpec where
  rules : List RuleSpec := []
  bitextRules : List BitextRuleSpec := []
  sameTranslationRules : List SameTranslationRule := []
  documentRules : List DocumentRule := []
deriving Inhabited

end Proofreader
