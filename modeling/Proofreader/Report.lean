import Proofreader.Pattern.Matcher
import Proofreader.Suggestion
import Proofreader.Sentence
import Proofreader.Json.Value

/-!
# Reports as JSON

The JSON forms in which tokens, suggestions and matches are reported. A token reports its text,
its character span, its readings as `[lemma, tag]` pairs (`null` for a missing tag) and its
flags; a suggestion its rule, message, span, replacements and source context; a match the spans
of its groups, the texts of their tokens joined by `|`, and which groups are empty.
-/

namespace Proofreader

/-- A span as a two-number array. -/
def spanJson (s : Nat × Nat) : Json := .arr [.ofNat s.1, .ofNat s.2]

namespace Reading

/-- A reading as `[lemma, tag]`. -/
def toJson (r : Reading) : Json := .arr [.str r.lemmaForm, .ofOption .str r.tag]

end Reading

namespace Token

/-- A token with its span, readings and flags. -/
def toJson (t : Token) : Json :=
  .obj [("text", .str t.text), ("span", spanJson (t.start, t.stop)),
    ("readings", .arr (t.readings.map Reading.toJson)), ("whitespace", .bool t.isBlank),
    ("space_before", .bool t.spaceBefore), ("sent_start", .bool t.sentStart),
    ("sent_end", .bool t.sentEnd), ("para_end", .bool t.paraEnd)]

end Token

namespace Sentence

/-- The tokens of a sentence. -/
def toJson (s : Sentence) : Json := .arr (s.tokens.toList.map Token.toJson)

end Sentence

namespace Suggestion

/-- A suggestion with its span and replacements. -/
def toJson (s : Suggestion) : Json :=
  .obj [("source", .str s.source), ("message", .str s.message), ("start", .ofNat s.start),
    ("end", .ofNat s.stop), ("replacements", .ofStrings s.replacements),
    ("source_context", .ofOption spanJson s.sourceContext)]

/-- A list of suggestions. -/
def listJson (ss : List Suggestion) : Json := .arr (ss.map toJson)

end Suggestion

namespace MatchGraph

/-- A match: group spans, the texts of each group's tokens joined by `|`, which groups are
empty, and the number of tokens matched against. -/
def toJson (g : MatchGraph) : Json :=
  let groups := g.groups.toList
  .obj [("groups", .arr (groups.map spanJson)),
    ("texts", .ofStrings (groups.map fun (a, b) =>
      "|".intercalate ((g.tokens.extract a b).toList.map Token.text))),
    ("span", spanJson g.span),
    ("empty", .arr (groups.map fun s => .bool (spanIsEmpty s))),
    ("n_tokens", .ofNat g.tokens.size)]

end MatchGraph

namespace Error

/-- An error as its kind, with its message when it has one. -/
def toJson (e : Error) : Json :=
  match e.message? with
  | some m => .obj [("error", .str e.kind), ("message", .str m)]
  | none => .obj [("error", .str e.kind)]

end Error

end Proofreader
