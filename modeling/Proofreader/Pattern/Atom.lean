import Proofreader.Pattern.Matcher

/-!
# Atoms and exceptions

An atom is a test on the token at a position of the filtered view: its text, its readings (a
tag matcher and a lemma matcher that must hold for the same reading), whether a space precedes
it, or a combination of atoms. The combinators simplify as they build: `true` parts of a
conjunction and `false` parts of a disjunction are dropped, an empty conjunction is `true`, an
empty disjunction `false`, a single part stands for itself, and negation swaps `true` and
`false`.

An exception vetoes an otherwise successful match of a pattern element: it fires when its atom
matches in its scope (the token itself, some of the tokens before it, or some after it), or, if
it is negated, when the atom matches nowhere in the scope.
-/

namespace Proofreader

/-- A test on one token of a sentence. -/
inductive Atom where
  | always
  | never
  | text (m : Matcher)
  | spaceBefore (value : Bool)
  /-- Tag and lemma constraints that one reading must satisfy together. -/
  | wordData (pos : Option Matcher) (lemmaForm : Option Matcher)
  | all (atoms : List Atom)
  | any (atoms : List Atom)
  | not (a : Atom)
deriving Inhabited

namespace Atom

/-- Whether the atom is the constant `true`. -/
def isAlways : Atom → Bool
  | always => true
  | _ => false

/-- Whether the atom is the constant `false`. -/
def isNever : Atom → Bool
  | never => true
  | _ => false

/-- The conjunction of atoms, with `true` parts dropped. -/
def conj (atoms : List Atom) : Atom :=
  match atoms.filter (!·.isAlways) with
  | [] => always
  | [a] => a
  | rest => all rest

/-- The disjunction of atoms, with `false` parts dropped. -/
def disj (atoms : List Atom) : Atom :=
  match atoms.filter (!·.isNever) with
  | [] => never
  | [a] => a
  | rest => any rest

/-- The negation of an atom; negating a constant gives the other constant. -/
def negation : Atom → Atom
  | always => never
  | never => always
  | a => not a

/-- Whether some reading of the token satisfies both the tag and the lemma constraint. -/
def readingsMatch (pos lemmaForm : Option Matcher) (t : Token) (graph : MatchGraph) : Bool :=
  t.readings.any fun r =>
    (match pos with
     | some m => m.acceptsTag r.tag
     | none => true) &&
    (match lemmaForm with
     | some m => m.accepts r.lemmaForm graph
     | none => true)

mutual
/-- Whether the atom holds of the token at `i`. -/
def holds (tokens : Array Token) (graph : MatchGraph) (i : Nat) : Atom → Bool
  | always => true
  | never => false
  | text m => match tokens[i]? with
    | some t => m.accepts t.text graph
    | none => false
  | spaceBefore v => match tokens[i]? with
    | some t => t.spaceBefore == v
    | none => false
  | wordData pos lemmaForm => match tokens[i]? with
    | some t => readingsMatch pos lemmaForm t graph
    | none => false
  | all atoms => holdsAll tokens graph i atoms
  | any atoms => holdsAny tokens graph i atoms
  | not a => !holds tokens graph i a
/-- Whether every atom of the list holds. -/
def holdsAll (tokens : Array Token) (graph : MatchGraph) (i : Nat) : List Atom → Bool
  | [] => true
  | a :: rest => holds tokens graph i a && holdsAll tokens graph i rest
/-- Whether some atom of the list holds. -/
def holdsAny (tokens : Array Token) (graph : MatchGraph) (i : Nat) : List Atom → Bool
  | [] => false
  | a :: rest => holds tokens graph i a || holdsAny tokens graph i rest
end

/-- A list of atoms holds together exactly when each of them holds. -/
theorem holdsAll_eq_all (tokens : Array Token) (graph : MatchGraph) (i : Nat)
    (atoms : List Atom) : holdsAll tokens graph i atoms = atoms.all (holds tokens graph i) := by
  induction atoms with
  | nil => simp [holdsAll]
  | cons a rest ih => simp [holdsAll, ih]

/-- Some atom of a list holds exactly when one of them holds. -/
theorem holdsAny_eq_any (tokens : Array Token) (graph : MatchGraph) (i : Nat)
    (atoms : List Atom) : holdsAny tokens graph i atoms = atoms.any (holds tokens graph i) := by
  induction atoms with
  | nil => simp [holdsAny]
  | cons a rest ih => simp [holdsAny, ih]

/-- Negating an atom, constants included, flips whether it holds. -/
theorem holds_negation (tokens : Array Token) (graph : MatchGraph) (i : Nat) (a : Atom) :
    (negation a).holds tokens graph i = !a.holds tokens graph i := by
  cases a <;> simp [negation, holds]

end Atom

/-- Where an exception looks, relative to the token of the element. -/
inductive Scope where
  | current
  /-- Any of the `n` tokens before. -/
  | previous (n : Nat)
  /-- Any of the `n` tokens after. -/
  | next (n : Nat)
deriving DecidableEq, Repr, Inhabited

namespace Scope

/-- The positions the scope covers around `i`, in a view of `len` tokens. The end of a `next`
window is a 64-bit word, so a width that reaches past the largest one wraps around and leaves
the window empty. -/
def window (s : Scope) (len i : Nat) : List Nat :=
  match s with
  | current => [i]
  | previous n => (List.range (i - (i - n))).map (· + (i - n))
  | next n => (List.range (min (Token.advance (i + 1) n) len - (i + 1))).map (· + (i + 1))

end Scope

/-- Vetoes a match of an element. -/
structure Exception where
  atom : Atom
  scope : Scope
  /-- Fires when the atom is *absent* from the scope. -/
  negate : Bool
deriving Inhabited

namespace Exception

/-- Whether the exception fires for the token at `i`. -/
def fires (e : Exception) (tokens : Array Token) (graph : MatchGraph) (i : Nat) : Bool :=
  ((e.scope.window tokens.size i).any fun j => e.atom.holds tokens graph j) != e.negate

end Exception

end Proofreader
