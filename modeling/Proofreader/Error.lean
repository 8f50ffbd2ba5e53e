import Proofreader.Text.Quote

/-!
# Errors

Everything that can go wrong while loading, compiling or applying rules. A rule that is written
wrongly is refused when it is compiled (`malformed`), never while it is applied; applying a rule
can only run out of its step budget or point outside a sentence.
-/

namespace Proofreader

/-- The causes of failure. -/
inductive Error where
  /-- A file could not be read or written. -/
  | io
  /-- Stored rules could not be read back. -/
  | serialization
  /-- A JSON document does not have the expected shape. -/
  | json
  /-- A text is no valid rule identifier or selector. -/
  | badId (text : String)
  /-- A rule definition is invalid. -/
  | malformed (detail : String)
  /-- Matching a rule took more steps than its budget allows. -/
  | tooComplex (rule : String) (budget : Nat)
  /-- An index into the filtered tokens of a sentence is out of range. -/
  | index (index len : Nat)
  /-- A rule's examples did not give the expected results. -/
  | testFailed
deriving DecidableEq, Repr, Inhabited

namespace Error

/-- The name of the kind of failure, as reports print it. -/
def kind : Error → String
  | io => "Io"
  | serialization => "Serialization"
  | json => "Json"
  | badId _ => "IdError"
  | malformed _ => "MalformedPattern"
  | tooComplex _ _ => "PatternTooComplex"
  | index _ _ => "Index"
  | testFailed => "TestFailed"

/-- The message of a failure, when it has one of its own. -/
def message? : Error → Option String
  | badId text => some ("error parsing id from string: " ++ Unicode.quoted text)
  | malformed detail => some ("malformed pattern: " ++ detail)
  | tooComplex rule budget =>
    some ("pattern of rule " ++ rule ++ " exceeded its budget of " ++ toString budget ++ " steps")
  | index i len => some ("index " ++ toString i ++ " is out of range for " ++ toString len ++ " tokens")
  | testFailed => some "Test failed. See logs for details."
  | _ => none

end Error

/-- A computation that succeeds through a bind succeeds at both of its steps. -/
theorem exists_of_bind_eq_ok {ε α β : Type} {x : Except ε α} {f : α → Except ε β} {y : β}
    (h : (x >>= f) = .ok y) : ∃ a, x = .ok a ∧ f a = .ok y := by
  cases x with
  | error e => cases h
  | ok a => exact ⟨a, rfl, h⟩

/-- A computation that evaluates to a success has a result a proof can name. -/
theorem exists_eq_ok_of_toBool {ε α : Type} {x : Except ε α} (h : x.toBool = true) :
    ∃ a, x = .ok a := by
  cases x with
  | error e => cases h
  | ok a => exact ⟨a, rfl⟩

/-- A computation whose result, read through `f`, evaluates to `b` succeeded with a result that
`f` reads as `b`. -/
theorem exists_eq_ok_of_toOption_map {ε α β : Type} {x : Except ε α} {f : α → β} {b : β}
    (h : x.toOption.map f = some b) : ∃ a, x = .ok a ∧ f a = b := by
  cases x with
  | error e => cases h
  | ok a => exact ⟨a, rfl, Option.some.inj h⟩

end Proofreader
