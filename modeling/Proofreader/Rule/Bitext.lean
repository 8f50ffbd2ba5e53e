import Proofreader.Rule.Grammar

/-!
# Rules on a sentence and its translation

A bitext rule pairs a rule for the source sentence with a rule for its translation. When the
source rule matches, the policy decides: with `bothMatch` every match of the target rule is
reported, with `sourceOnly` the whole target sentence is reported when the target rule does not
match. Reports carry the span of the first source match as context.

A same-translation rule reports a translation that is the source again (compared by lowercase
words), unless the source has at most `minWords` words.
-/

namespace Proofreader

/-- When a bitext rule reports. -/
inductive BitextPolicy where
  | bothMatch
  | sourceOnly
deriving DecidableEq, Repr, Inhabited

/-- The span from the first to the last token that is neither blank nor the opening token. -/
def contentSpan (s : Sentence) : Option (Nat × Nat) :=
  let content := s.tokens.toList.filter fun t => !t.isBlank && !t.sentStart
  match content.head?, content.getLast? with
  | some a, some b => some (a.start, b.stop)
  | _, _ => none

/-- A rule for the source and a rule for the translation. -/
structure BitextRule where
  id : RuleId
  source : Rule
  target : Rule
  policy : BitextPolicy := .bothMatch
deriving Inhabited

namespace BitextRule

/-- Sets the step budget of both rules. -/
def withStepBudget (r : BitextRule) (n : Nat) : BitextRule :=
  { r with source := { r.source with stepBudget := n }, target := { r.target with stepBudget := n } }

@[simp] theorem withStepBudget_id (r : BitextRule) (n : Nat) : (r.withStepBudget n).id = r.id :=
  rfl

@[simp] theorem withStepBudget_source_id (r : BitextRule) (n : Nat) :
    (r.withStepBudget n).source.id = r.source.id :=
  rfl

@[simp] theorem withStepBudget_target_id (r : BitextRule) (n : Nat) :
    (r.withStepBudget n).target.id = r.target.id :=
  rfl

/-- The reports for a source sentence and its translation, in target coordinates. -/
def apply (r : BitextRule) (source target : Sentence) (inflect : Inflector) :
    Except Error (List Suggestion) := do
  let found ← r.source.apply source inflect
  match found with
  | [] => pure []
  | first :: _ =>
    let context := some (first.start, first.stop)
    let onTarget ← r.target.apply target inflect
    match r.policy with
    | .bothMatch =>
      pure (onTarget.map fun s => { s with source := r.id.text, sourceContext := context })
    | .sourceOnly =>
      if !onTarget.isEmpty then pure []
      else
        match contentSpan target with
        | some (a, b) =>
          pure [{ source := r.id.text, message := first.message, start := a, stop := b,
                  replacements := [], sourceContext := context }]
        | none => pure []

end BitextRule

/-- Lowercase words of a text joined by single spaces, to compare texts loosely. -/
def looseKey (s : String) : String := " ".intercalate ((blankWords s).map Unicode.toLower)

/-- Reports a translation identical to its source. -/
structure SameTranslationRule where
  id : RuleId
  minWords : Nat := 3
deriving Inhabited

namespace SameTranslationRule

/-- The message of the report. -/
def message : String := "Source and target translation are the same."

/-- The report for a source and its translation, if any. -/
def apply (r : SameTranslationRule) (source target : Sentence) : Option Suggestion :=
  let words := (source.tokens.toList.filter Token.isWord).length
  if words ≤ r.minWords || looseKey source.text != looseKey target.text then none
  else
    (contentSpan target).map fun (a, b) =>
      { source := r.id.text, message := message, start := a, stop := b, replacements := [],
        sourceContext := contentSpan source }

end SameTranslationRule

end Proofreader
