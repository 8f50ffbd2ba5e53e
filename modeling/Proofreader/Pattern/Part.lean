import Proofreader.Pattern.Atom

/-!
# Pattern elements

A part of a pattern is an atom with a quantifier (how many tokens in a row it takes), its
exceptions and a marker flag (whether its tokens are inside the reported span). A quantifier's
maximum of `2^64 - 1` stands for "no bound".
-/

namespace Proofreader

/-- The maximum that means "unbounded". -/
def unboundedCount : Nat := 18446744073709551615

/-- How many tokens in a row a part takes. -/
structure Quantifier where
  min : Nat
  max : Nat
deriving DecidableEq, Repr, Inhabited

namespace Quantifier

/-- Exactly one token. -/
def once : Quantifier := ⟨1, 1⟩

/-- A quantifier with checked bounds: the maximum must not be below the minimum, and must be
at least one. -/
def make (min max : Nat) : Except Error Quantifier :=
  if max < min then
    .error (.malformed ("quantifier minimum " ++ toString min ++ " is larger than maximum " ++
      toString max))
  else if max = 0 then .error (.malformed "quantifier maximum must be at least one")
  else .ok ⟨min, max⟩

/-- Whether the maximum means "no bound". -/
def isUnbounded (q : Quantifier) : Bool := q.max = unboundedCount

end Quantifier

/-- One element of a pattern. -/
structure Part where
  atom : Atom
  quantifier : Quantifier := Quantifier.once
  exceptions : List Exception := []
  marker : Bool := false
deriving Inhabited

namespace Part

/-- Whether the part takes the token at `i`: its atom holds and no exception fires. -/
def takes (p : Part) (tokens : Array Token) (graph : MatchGraph) (i : Nat) : Bool :=
  p.atom.holds tokens graph i && !p.exceptions.any fun e => e.fires tokens graph i

/-- The group a text back-reference of the part refers to, if its atom is one. -/
def groupRef (p : Part) : Option Nat :=
  match p.atom with
  | .text m => m.groupRef
  | _ => none

end Part

/-- Bounds the work done matching one rule against one sentence: every step costs one unit, and
the work fails once more than `limit` units are used. -/
structure StepBudget where
  limit : Nat
  used : Nat := 0
deriving DecidableEq, Repr, Inhabited

namespace StepBudget

/-- A fresh budget. -/
def fresh (limit : Nat) : StepBudget := ⟨limit, 0⟩

/-- Spends one step; `none` when the budget is then exceeded, with the spent budget. -/
def step (b : StepBudget) : StepBudget × Bool :=
  let b' := { b with used := b.used + 1 }
  (b', b'.used ≤ b'.limit)

/-- The budget after `n` more steps. -/
def spend (b : StepBudget) (n : Nat) : StepBudget := { b with used := b.used + n }

/-- The budget as the step that exceeds it leaves it. -/
def exhausted (b : StepBudget) : StepBudget := { b with used := b.limit + 1 }

@[simp] theorem spend_limit (b : StepBudget) (n : Nat) : (b.spend n).limit = b.limit := rfl

@[simp] theorem spend_used (b : StepBudget) (n : Nat) : (b.spend n).used = b.used + n := rfl

@[simp] theorem spend_zero (b : StepBudget) : b.spend 0 = b := rfl

@[simp] theorem spend_spend (b : StepBudget) (m n : Nat) :
    (b.spend m).spend n = b.spend (m + n) := by
  simp only [spend, Nat.add_assoc]

@[simp] theorem exhausted_spend (b : StepBudget) (n : Nat) :
    (b.spend n).exhausted = b.exhausted := rfl

/-- One step is spending one unit, and it fails exactly when that passes the limit. -/
theorem step_eq (b : StepBudget) : b.step = (b.spend 1, decide (b.used + 1 ≤ b.limit)) := rfl

/-- Once a step has failed the budget is exhausted, from any budget that was not yet. -/
theorem spend_one_eq_exhausted {b : StepBudget} (hb : b.used ≤ b.limit)
    (h : b.limit < b.used + 1) : b.spend 1 = b.exhausted := by
  simp only [spend, exhausted]
  congr 1
  omega

end StepBudget

end Proofreader
