/-!
# Suggestions

A suggestion reports one match of a rule: which rule, a message, the span of characters it
concerns and the replacements it proposes. Applying suggestions to a text replaces each span by
its first replacement, left to right.
-/

namespace Proofreader

/-- One match of a rule, with proposed replacements. -/
structure Suggestion where
  source : String
  message : String
  start : Nat
  stop : Nat
  replacements : List String
  /-- For a pair of sentences, the span of the match in the source sentence. -/
  sourceContext : Option (Nat × Nat) := none
deriving DecidableEq, Repr, Inhabited, Hashable

namespace Suggestion

/-- Whether two suggestions share a character. -/
def overlaps (a b : Suggestion) : Bool := a.start < b.stop && b.start < a.stop

/-- Overlapping is symmetric. -/
theorem overlaps_comm (a b : Suggestion) : a.overlaps b = b.overlaps a := by
  simp [overlaps, Bool.and_comm]

end Suggestion

/-- Replaces the span of each suggestion by its first replacement, shifting later spans by the
change in length; suggestions without replacements are skipped. The shift is kept as a 64-bit
word, so spans are shifted with wrap-around. A span that does not fit the text at the time it
is applied makes the whole application fail (`none`). -/
def applySuggestions (text : String) (suggestions : List Suggestion) : Option String :=
  let step (acc : Option (List Char × UInt64)) (s : Suggestion) : Option (List Char × UInt64) :=
    match acc with
    | none => none
    | some (chars, offset) =>
      match s.replacements with
      | [] => some (chars, offset)
      | r :: _ =>
        let start := UInt64.ofNat s.start
        let stop := UInt64.ofNat s.stop
        let a := (start + offset).toNat
        let b := (stop + offset).toNat
        if b < a || b > chars.length then none
        else
          let rep := r.toList
          some (chars.take a ++ rep ++ chars.drop b,
            offset + UInt64.ofNat rep.length - (stop - start))
  (suggestions.foldl step (some (text.toList, 0))).map fun (cs, _) => String.ofList cs

/-- With no suggestions the text is left as it is. -/
@[simp] theorem applySuggestions_nil (text : String) : applySuggestions text [] = some text := by
  simp [applySuggestions]

end Proofreader
