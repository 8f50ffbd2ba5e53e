import Proofreader.Regex
import Proofreader.Token
import Proofreader.Text.Case
import Proofreader.Error

/-!
# Text matchers

A matcher decides whether a text (a token, a lemma or a tag) is acceptable. It compares with a
fixed string, with the text of the first token of an earlier group of the current match (a
back-reference), or with a regular expression that must cover the whole text. It may be negated,
and string comparisons may ignore case. The empty text is special: a matcher either refuses it
outright or accepts it exactly when negated.

Matches are recorded in a `MatchGraph`: group 0 spans the whole match and group `i` the tokens
taken by the `i`-th part of the pattern, all as ranges of filtered-view indices.
-/

namespace Proofreader

/-- The groups of a match over a sequence of tokens: half-open index ranges. -/
structure MatchGraph where
  groups : Array (Nat × Nat)
  tokens : Array Token
deriving Inhabited, DecidableEq

namespace MatchGraph

/-- The graph with no groups, used where no match is under way. -/
def empty : MatchGraph := ⟨#[], #[]⟩

/-- The span of group `i`, when the match has that group. -/
def group? (g : MatchGraph) (i : Nat) : Option (Nat × Nat) := g.groups[i]?

/-- The tokens of group `i`. -/
def groupTokens? (g : MatchGraph) (i : Nat) : Option (Array Token) :=
  (g.group? i).map fun (a, b) => g.tokens.extract a b

/-- The span of the whole match. -/
def span (g : MatchGraph) : Nat × Nat := (g.group? 0).getD (0, 0)

/-- Whether a span holds no token. -/
def spanIsEmpty (s : Nat × Nat) : Bool := s.1 ≥ s.2

end MatchGraph

/-- What a matcher compares a text with. -/
inductive MatcherTarget where
  | text (s : String)
  /-- The first token of this group of the current match. -/
  | group (id : Nat)
  | regex (r : Regex)
deriving Inhabited

/-- Accepts or refuses a text. -/
structure Matcher where
  target : MatcherTarget
  negate : Bool
  caseSensitive : Bool
  emptyAlwaysFalse : Bool
deriving Inhabited

namespace Matcher

/-- A matcher against a string or a group. -/
def ofTarget (target : MatcherTarget) (negate caseSensitive emptyAlwaysFalse : Bool) : Matcher :=
  ⟨target, negate, caseSensitive, emptyAlwaysFalse⟩

/-- A matcher by a regular expression, which handles case itself. -/
def ofRegex (r : Regex) (negate emptyAlwaysFalse : Bool) : Matcher :=
  ⟨.regex r, negate, true, emptyAlwaysFalse⟩

/-- A matcher by a pattern that must cover the whole text; an invalid pattern is a malformed
rule, reported with the pattern quoted. -/
def ofPattern (E : RegexEngine) (pattern : String) (caseSensitive negate : Bool) :
    Except Error Matcher :=
  match Regex.build E pattern caseSensitive true with
  | .ok r => .ok (ofRegex r negate true)
  | .error e => .error (.malformed ("invalid regex " ++ Unicode.quoted pattern ++ ": " ++ e))

/-- The group this matcher refers to, if it is a back-reference. -/
def groupRef (m : Matcher) : Option Nat :=
  match m.target with
  | .group id => some id
  | _ => none

/-- String equality under the matcher's case rule. -/
def equals (m : Matcher) (a b : String) : Bool :=
  if m.caseSensitive then a == b else Unicode.eqIgnoreCase a b

/-- Whether the matcher accepts a text, within the given match. -/
def accepts (m : Matcher) (input : String) (graph : MatchGraph) : Bool :=
  if input.isEmpty then !m.emptyAlwaysFalse && m.negate
  else
    let found := match m.target with
      | .text s => m.equals s input
      | .group id =>
        match graph.groupTokens? id with
        | some ts => match ts[0]? with
          | some t => m.equals t.text input
          | none => false
        | none => false
      | .regex r => r.isMatch input
    found != m.negate

/-- Whether the matcher accepts a tag; a missing tag is never accepted. -/
def acceptsTag (m : Matcher) (tag : Option String) : Bool :=
  match tag with
  | some t => m.accepts t MatchGraph.empty
  | none => false

end Matcher

end Proofreader
