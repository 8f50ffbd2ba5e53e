import Proofreader.RuleFile.Decode
import Proofreader.Rule.Grammar
import Proofreader.Report

/-!
# Describing compiled rules

The JSON description of a compiled rule: its identifier, pattern parts with their atoms,
counts and exceptions, antipatterns, message and suggestion builders, and examples. A matcher is
described by its kind (`string`, `ref` or `regex`), its value (the text, the group number, or
the stored expression), and its flags. Atoms are described after the simplifications made when
they were built, so the description shows what the rule checks.
-/

namespace Proofreader

namespace Matcher

/-- A matcher: kind, value and flags. -/
def describe (m : Matcher) : Json :=
  let (kind, value) : String × Json := match m.target with
    | .text s => ("string", .str s)
    | .group id => ("ref", .ofNat id)
    | .regex r => ("regex", .str r.source)
  .obj [("kind", .str kind), ("value", value), ("negate", .bool m.negate),
    ("case_sensitive", .bool m.caseSensitive)]

end Matcher

namespace Atom

/-- An atom: `"true"`, `"false"`, or an object named for its kind. -/
def describe : Atom → Json
  | always => .str "true"
  | never => .str "false"
  | text m => .obj [("text", m.describe)]
  | spaceBefore b => .obj [("space_before", .bool b)]
  | wordData pos lemmaForm =>
    .obj [("word_data", .obj [("pos", .ofOption Matcher.describe pos),
      ("lemma", .ofOption Matcher.describe lemmaForm)])]
  | all atoms => .obj [("and", .arr (atoms.attach.map fun ⟨a, _⟩ => describe a))]
  | any atoms => .obj [("or", .arr (atoms.attach.map fun ⟨a, _⟩ => describe a))]
  | not a => .obj [("not", describe a)]

end Atom

namespace Scope

/-- A scope: `"current"`, `{"previous": n}` or `{"next": n}`. -/
def describe : Scope → Json
  | current => .str "current"
  | previous n => .obj [("previous", .ofNat n)]
  | next n => .obj [("next", .ofNat n)]

end Scope

namespace Part

/-- A part: atom, counts, marker and exceptions. -/
def describe (p : Part) : Json :=
  .obj [("atom", p.atom.describe), ("min", .ofNat p.quantifier.min),
    ("max", .ofNat p.quantifier.max), ("marker", .bool p.marker),
    ("exceptions", .arr (p.exceptions.map fun e =>
      .obj [("atom", e.atom.describe), ("scope", e.scope.describe), ("absent", .bool e.negate)]))]

end Part

namespace Composition

/-- The parts of a pattern. -/
def describe (c : Composition) : Json := .arr (c.parts.toList.map Part.describe)

end Composition

namespace SynthPart

/-- A piece: literal text, or a group reference with its conversion, inflection and rewrite. -/
def describe : SynthPart → Json
  | text s => .obj [("text", .str s)]
  | ref r => .obj [("match", .ofNat r.id), ("conversion", .str r.conversion.name),
      ("inflect", .ofOption .str r.inflect),
      ("regex", .ofOption (fun (x : Regex × String) => .arr [.str x.1.source, .str x.2]) r.rewrite)]

end SynthPart

namespace Synthesizer

/-- A builder: whether it adjusts title case, and its pieces. -/
def describe (s : Synthesizer) : Json :=
  .obj [("titlecase", .bool s.titlecase), ("parts", .arr (s.parts.map SynthPart.describe))]

end Synthesizer

namespace Rule

/-- The whole rule. -/
def describe (r : Rule) : Json :=
  .obj [("id", .str r.id.text), ("category", .str r.id.category.name), ("name", .str r.id.name),
    ("find_all", .bool r.findAll), ("step_budget", .ofNat r.stepBudget),
    ("engine", .obj [("pattern", r.engine.composition.describe),
      ("antipatterns", .arr (r.engine.antipatterns.map Composition.describe))]),
    ("message", r.message.describe),
    ("suggesters", .arr (r.suggesters.map Synthesizer.describe)),
    ("examples", .arr (r.examples.map fun e =>
      .obj [("text", .str e.text), ("suggestion", .ofOption Suggestion.toJson e.suggestion)]))]

end Rule

end Proofreader
