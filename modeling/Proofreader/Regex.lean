import Proofreader.Error

/-!
# Regular expressions as rules use them

Rules hold regular expressions compiled by an engine that this library takes as a parameter: a
`RegexEngine` compiles a pattern, with or without regard to case, into a `RegexProgram`, or refuses
it with a message. Of a compiled program the rules ask three things: whether its first match at
the start of a text covers the whole text, the text with every match replaced, and its number of
groups. Everything proved about compiling and applying rules holds for every engine.

A `Regex` keeps the text it was compiled from next to the program, because rules are stored and
compared by that text. A text that ends in `(?i)` marks a case-blind expression: the suffix is
removed and the engine compiles the rest without regard to case. A whole-text expression is
written `^(?:P)$`, so it is stored and read back like any other.
-/

namespace Proofreader

/-- An expression compiled by an engine, as rules use it. -/
structure RegexProgram where
  /-- Whether the first match at the start of a text covers all of it. -/
  isMatch : String → Bool
  /-- The text with every match replaced; the replacement sees the text of each group of the
  match, group 0 being the whole match. -/
  replaceAll : String → ((Nat → Option String) → String) → String
  /-- The number of capturing groups. -/
  groupCount : Nat

/-- A regular-expression engine: compiles a pattern, case-blind when asked, or refuses it with a
message. -/
structure RegexEngine where
  compile : String → Bool → Except String RegexProgram

/-- A compiled regular expression and the text it came from. -/
structure Regex where
  source : String
  program : RegexProgram

namespace Regex

/-- The suffix that marks a case-blind expression. -/
def caselessSuffix : String := "(?i)"

/-- Compiles a stored text: a trailing `(?i)` makes the rest case-blind. -/
def compile (E : RegexEngine) (source : String) : Except String Regex := do
  let (body, caseless) :=
    if source.endsWith caselessSuffix then
      (String.ofList (source.toList.take (source.length - caselessSuffix.length)), true)
    else (source, false)
  let program ← E.compile body caseless
  pure ⟨source, program⟩

/-- The stored text of an expression: `^(?:P)$` when it must cover the whole input, followed
by `(?i)` when it ignores case. -/
def storedText (pattern : String) (caseSensitive wholeText : Bool) : String :=
  let body := if wholeText then "^(?:" ++ pattern ++ ")$" else pattern
  if caseSensitive then body else body ++ caselessSuffix

/-- Builds an expression from a pattern and its two options. -/
def build (E : RegexEngine) (pattern : String) (caseSensitive wholeText : Bool) :
    Except String Regex :=
  compile E (storedText pattern caseSensitive wholeText)

/-- Whether the first match at the start of the text covers all of it. -/
def isMatch (r : Regex) (text : String) : Bool := r.program.isMatch text

/-- Replaces every match; `rep` sees the text of each group of the match. -/
def replaceAll (r : Regex) (text : String) (rep : (Nat → Option String) → String) : String :=
  r.program.replaceAll text rep

/-- Number of capturing groups. -/
def groupCount (r : Regex) : Nat := r.program.groupCount

/-- An expression keeps the text it was built from, as stored. -/
theorem source_of_build {E : RegexEngine} {pattern : String} {caseSensitive wholeText : Bool}
    {r : Regex} (h : build E pattern caseSensitive wholeText = .ok r) :
    r.source = storedText pattern caseSensitive wholeText := by
  unfold build compile at h
  split at h
  all_goals
    obtain ⟨program, -, h⟩ := exists_of_bind_eq_ok h
    cases h
    rfl

end Regex

end Proofreader
