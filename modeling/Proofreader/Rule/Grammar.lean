import Proofreader.Rule.Synthesizer
import Proofreader.Rule.Id
import Proofreader.Suggestion

/-!
# Grammar rules

A grammar rule is a pattern engine, a message template, replacement templates and examples.
Applying it to a sentence finds its matches in the filtered view (the leftmost one, or all
non-overlapping ones) within a step budget, and reports each as a suggestion. The reported span
covers the marked parts of the pattern that took tokens, or the whole match when none did.

An example is a text and the suggestion expected on it, or none. A rule passes its examples
when each gives at most one suggestion and that agrees with the expected one: the same span
and, if replacements are expected, at least one replacement in common.
-/

namespace Proofreader

/-- The step budget of a rule unless configured otherwise. -/
def defaultStepBudget : Nat := 50000

/-- An example text and the suggestion a rule should make on it. -/
structure Example where
  text : String
  suggestion : Option Suggestion
deriving Inhabited

namespace Example

/-- Whether a suggestion agrees with the expected one: same span and, if replacements are
expected, one of them in common. -/
def agrees (expected found : Suggestion) : Bool :=
  (expected.replacements.isEmpty || expected.replacements.any found.replacements.contains) &&
    expected.start = found.start && expected.stop = found.stop

end Example

/-- A grammar rule. -/
structure Rule where
  id : RuleId
  engine : Engine
  message : Synthesizer
  suggesters : List Synthesizer
  findAll : Bool := false
  stepBudget : Nat := defaultStepBudget
  examples : List Example := []
deriving Inhabited

namespace Rule

/-- The first group of the reported span and the span itself, in view indices. -/
def markedSpan (r : Rule) (graph : MatchGraph) : Nat × (Nat × Nat) :=
  let marked := ((List.range r.engine.composition.parts.size).filter fun i =>
    (r.engine.composition.part i).marker &&
      match graph.group? (i + 1) with
      | some s => !MatchGraph.spanIsEmpty s
      | none => false).map (· + 1)
  match marked with
  | first :: rest =>
    let last := rest.getLast?.getD first
    let a := ((graph.group? first).map (·.1)).getD 0
    let b := ((graph.group? last).map (·.2)).getD 0
    (first, (a, b))
  | [] => (1, graph.span)

/-- The suggestion for one match. -/
def suggestionFor (r : Rule) (view : View) (inflect : Inflector) (graph : MatchGraph) :
    Except Error Suggestion := do
  let (firstGroup, span) := r.markedSpan graph
  let (start, stop) ← view.charSpan span.1 span.2
  let message := ((← r.message.apply graph view inflect firstGroup).head?).getD ""
  let mut replacements : List String := []
  for s in r.suggesters do
    for rep in ← s.apply graph view inflect firstGroup do
      if !replacements.contains rep then replacements := replacements ++ [rep]
  pure { source := r.id.text, message, start, stop, replacements }

/-- The matches of the rule in a view, within its step budget. -/
def matchesIn (r : Rule) (view : View) : Except Error (List MatchGraph) :=
  match r.engine.findMatches view.tokens r.findAll (StepBudget.fresh r.stepBudget) with
  | (.done gs, _) => .ok gs
  | (.exceeded, _) => .error (.tooComplex r.id.text r.stepBudget)

/-- The suggestions of the rule on a sentence. -/
def apply (r : Rule) (s : Sentence) (inflect : Inflector) : Except Error (List Suggestion) := do
  let view := s.view
  let graphs ← r.matchesIn view
  graphs.mapM (r.suggestionFor view inflect)

/-- A rule suggests nothing on a sentence without tokens. -/
theorem apply_of_isEmpty (r : Rule) {s : Sentence} (h : s.tokens.isEmpty = true)
    (inflect : Inflector) : r.apply s inflect = .ok [] := by
  have hsize : s.tokens.size = 0 := by simpa using h
  have hview : s.view.tokens = #[] := by
    simp [Sentence.view, Sentence.mapping, hsize]
  simp only [Rule.apply, Rule.matchesIn, hview, Engine.findMatches_empty]
  rfl

/-- Whether the rule passes one example, given how texts are analyzed into sentences. -/
def passes (r : Rule) (analyze : String → List Sentence) (inflect : Inflector) (e : Example) :
    Bool :=
  let results := (analyze e.text).map fun s => r.apply s inflect
  let failed := results.any fun x => match x with
    | .error _ => true
    | .ok _ => false
  let found := results.flatMap fun x => match x with
    | .ok ss => ss
    | .error _ => []
  if failed || found.length > 1 then false
  else
    match e.suggestion with
    | some expected => match found with
      | [f] => Example.agrees expected f
      | _ => false
    | none => found.isEmpty

/-- Whether the rule passes all its examples. -/
def test (r : Rule) (analyze : String → List Sentence) (inflect : Inflector) : Bool :=
  r.examples.all (r.passes analyze inflect)

end Rule

end Proofreader
