/-!
# Regular expressions: compile errors

The ways a pattern can be refused, with the wording of the regex engine's diagnostics. A message
is the engine's name followed by the description of the cause.
-/

namespace Proofreader

namespace Regex

/-- Why a pattern does not compile. -/
inductive RegexError where
  | unmatchedOpen
  | unmatchedClose
  | classUnterminated
  | emptyClass
  | repeatWithoutTarget
  | repeatOfAssertion
  | escapeAtEnd
  | controlAtEnd
  | groupUnterminated
  | undefinedGroupOption
  | repeatBoundTooBig
  | repeatBoundsReversed
  | emptyClassRange
  | classRangeEndNotValue
  | classRangeStartNotValue
  | invalidBackref
  | invalidCodePoint
  | numberTooBig
  | truncatedMultibyte
  | unknownProperty (name : String)
  | invalidLookBehind
  | emptyGroupName
  | invalidGroupName (name : String)
deriving DecidableEq, Repr, Inhabited

namespace RegexError

/-- The description of a cause, as the engine words it. -/
def description : RegexError → String
  | unmatchedOpen => "end pattern with unmatched parenthesis"
  | unmatchedClose => "unmatched close parenthesis"
  | classUnterminated => "premature end of char-class"
  | emptyClass => "empty char-class"
  | repeatWithoutTarget => "target of repeat operator is not specified"
  | repeatOfAssertion => "target of repeat operator is invalid"
  | escapeAtEnd => "end pattern at escape"
  | controlAtEnd => "end pattern at control"
  | groupUnterminated => "end pattern in group"
  | undefinedGroupOption => "undefined group option"
  | repeatBoundTooBig => "too big number for repeat range"
  | repeatBoundsReversed => "upper is smaller than lower in repeat range"
  | emptyClassRange => "empty range in char class"
  | classRangeEndNotValue => "char-class value at end of range"
  | classRangeStartNotValue => "unmatched range specifier in char-class"
  | invalidBackref => "invalid backref number/name"
  | invalidCodePoint => "invalid code point value"
  | numberTooBig => "too big number"
  | truncatedMultibyte => "too short multibyte code string"
  | unknownProperty name => "invalid character property name \x7b" ++ name ++ "\x7d"
  | invalidLookBehind => "invalid pattern in look-behind"
  | emptyGroupName => "group name is empty"
  | invalidGroupName name => "invalid group name <" ++ name ++ ">"

/-- The full diagnostic: the engine's name, then the description. -/
def message (e : RegexError) : String :=
  "Oniguruma error: " ++ e.description

end RegexError

end Regex

end Proofreader
