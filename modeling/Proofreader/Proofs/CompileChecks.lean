import Mathlib
import Proofreader.Proofs.WellFormed

/-!
# What compiling a rule checks, and what it keeps

Compiling a rule record does two things at once. It builds the atoms of the pattern through
combinators that simplify as they go (`Atom.conj`, `Atom.disj`, `Atom.negation`), and it checks
what the format cannot express, failing at the first fault.

The simplifications never change what an atom means: a conjunction holds when all its parts
hold, a disjunction when one does, a negation when its atom does not, whatever atoms they are
given; so the atom an element compiles to holds exactly where the plain tree of its token, its
alternatives and its negation holds (`simplified_atoms_keep_meaning`).

The checks are listed here one after another, in the order compiling makes them (`RuleSpec.checks`):
the identifier; each element of the pattern (its token, its alternatives, its count, its
exceptions); the pattern as a whole; each antipattern the same way; the message; each suggestion;
each example. Compiling fails exactly when one of them fails, with the fault of the first that
does (`compile_reports_first_fault`). A bitext rule checks its identifier and then its two rules.
-/

namespace Proofreader

variable {E : RegexEngine}

/-! ## The simplifying combinators -/

namespace Atom

variable {tokens : Array Token} {graph : MatchGraph} {i : Nat}

@[simp] theorem holds_all (xs : List Atom) :
    (all xs).holds tokens graph i = xs.all (holds tokens graph i) := by
  rw [holds, holdsAll_eq_all]

@[simp] theorem holds_any (xs : List Atom) :
    (any xs).holds tokens graph i = xs.any (holds tokens graph i) := by
  rw [holds, holdsAny_eq_any]

@[simp] theorem holds_not (a : Atom) : (not a).holds tokens graph i = !a.holds tokens graph i := by
  rw [holds]

/-- Dropping the parts that hold everywhere keeps a conjunction's meaning. -/
theorem all_filter_not_isAlways (xs : List Atom) :
    (xs.filter (!·.isAlways)).all (holds tokens graph i) = xs.all (holds tokens graph i) := by
  induction xs with
  | nil => rfl
  | cons a rest ih =>
    cases ha : a.isAlways with
    | true =>
      -- only `always` is dropped, and it holds everywhere
      have ha' : a = always := by cases a <;> simp_all [isAlways]
      subst ha'
      rw [List.filter_cons_of_neg (by simp [ha]), ih, List.all_cons, holds, Bool.true_and]
    | false => rw [List.filter_cons_of_pos (by simp [ha]), List.all_cons, List.all_cons, ih]

/-- Dropping the parts that hold nowhere keeps a disjunction's meaning. -/
theorem any_filter_not_isNever (xs : List Atom) :
    (xs.filter (!·.isNever)).any (holds tokens graph i) = xs.any (holds tokens graph i) := by
  induction xs with
  | nil => rfl
  | cons a rest ih =>
    cases ha : a.isNever with
    | true =>
      -- only `never` is dropped, and it holds nowhere
      have ha' : a = never := by cases a <;> simp_all [isNever]
      subst ha'
      rw [List.filter_cons_of_neg (by simp [ha]), ih, List.any_cons, holds, Bool.false_or]
    | false => rw [List.filter_cons_of_pos (by simp [ha]), List.any_cons, List.any_cons, ih]

theorem holds_conj (xs : List Atom) :
    (conj xs).holds tokens graph i = xs.all (holds tokens graph i) := by
  rw [← all_filter_not_isAlways]
  unfold conj
  split
  · rename_i h
    rw [h]
    rfl
  · rename_i a h
    rw [h]
    simp
  · exact holds_all _

theorem holds_disj (xs : List Atom) :
    (disj xs).holds tokens graph i = xs.any (holds tokens graph i) := by
  rw [← any_filter_not_isNever]
  unfold disj
  split
  · rename_i h
    rw [h]
    rfl
  · rename_i a h
    rw [h]
    simp
  · exact holds_any _

end Atom

namespace RuleFile

/-- The atom an element compiles to holds exactly where the plain tree does: its token and, if
it has any, one of its alternatives, the whole negated when the element is. -/
theorem compileElement_atom_holds {e : ElementSpec} {caseSensitive : Bool} {position : Nat}
    {p : Part} (h : compileElement E e caseSensitive position = .ok p) (tokens : Array Token)
    (graph : MatchGraph) (i : Nat) :
    ∃ main alternatives, compileToken E e.token caseSensitive position = .ok main ∧
      e.anyOf.mapM (fun t => compileToken E t caseSensitive position) = .ok alternatives ∧
      p.atom.holds tokens graph i =
        (let tree := Atom.all (main :: if alternatives.isEmpty then [] else [Atom.any alternatives])
         if e.negateElement then Atom.not tree else tree).holds tokens graph i := by
  unfold compileElement at h
  obtain ⟨main, hmain, h⟩ := exists_of_bind_eq_ok h
  obtain ⟨alternatives, halt, h⟩ := exists_of_bind_eq_ok h
  obtain ⟨q, -, h⟩ := exists_of_bind_eq_ok h
  obtain ⟨exceptions, -, h⟩ := exists_of_bind_eq_ok h
  cases h
  refine ⟨main, alternatives, hmain, halt, ?_⟩
  -- the tree without simplification, and the compiled atom, hold at the same tokens
  have hcore : (Atom.conj (main :: if alternatives.isEmpty then [] else
      [Atom.disj alternatives])).holds tokens graph i =
      (Atom.all (main :: if alternatives.isEmpty then [] else
        [Atom.any alternatives])).holds tokens graph i := by
    rw [Atom.holds_conj, Atom.holds_all]
    split <;> simp [Atom.holds_disj]
  dsimp only
  split
  · rw [Atom.holds_negation, Atom.holds_not, hcore]
  · exact hcore

end RuleFile

/-- The simplifying combinators mean what the plain ones do, for any atoms, nested as they may
be: a conjunction holds when all its parts hold, a disjunction when one of them does, a negation
when its atom does not. So the atom an element compiles to holds at exactly the tokens where the
plain tree of its token, its alternatives and its negation holds. -/
theorem simplified_atoms_keep_meaning (tokens : Array Token) (graph : MatchGraph) (i : Nat) :
    (∀ xs : List Atom, (Atom.conj xs).holds tokens graph i = xs.all (·.holds tokens graph i)) ∧
    (∀ xs : List Atom, (Atom.disj xs).holds tokens graph i = xs.any (·.holds tokens graph i)) ∧
    (∀ a : Atom, a.negation.holds tokens graph i = !a.holds tokens graph i) ∧
    ∀ (E : RegexEngine) (e : ElementSpec) (caseSensitive : Bool) (position : Nat) (p : Part),
      RuleFile.compileElement E e caseSensitive position = .ok p →
      ∃ main alternatives, RuleFile.compileToken E e.token caseSensitive position = .ok main ∧
        e.anyOf.mapM (fun t => RuleFile.compileToken E t caseSensitive position) =
          .ok alternatives ∧
        p.atom.holds tokens graph i =
          (let tree := Atom.all (main :: if alternatives.isEmpty then [] else
              [Atom.any alternatives])
           if e.negateElement then Atom.not tree else tree).holds tokens graph i :=
  ⟨Atom.holds_conj, Atom.holds_disj, Atom.holds_negation tokens graph i,
    fun _ _ _ _ _ h => RuleFile.compileElement_atom_holds h tokens graph i⟩

/-! ## Faults and the first of them -/

/-- The fault of a computation that fails. -/
def faultOf {ε α : Type} : Except ε α → Option ε
  | .ok _ => none
  | .error e => some e

/-- The fault of the first check of a list that fails; a check is `none` when it passes. -/
def firstFault {ε : Type} (checks : List (Option ε)) : Option ε := checks.findSome? id

section Faults

variable {ε α β : Type}

@[simp] theorem faultOf_ok (a : α) : faultOf (.ok a : Except ε α) = none := rfl

@[simp] theorem faultOf_error (e : ε) : faultOf (.error e : Except ε α) = some e := rfl

@[simp] theorem faultOf_pure (a : α) : faultOf (pure a : Except ε α) = none := rfl

@[simp] theorem faultOf_error_bind (e : ε) (f : α → Except ε β) :
    faultOf (Except.error e >>= f) = some e := rfl

@[simp] theorem faultOf_throw (e : ε) : faultOf (throw e : Except ε α) = some e := rfl

@[simp] theorem faultOf_throw_bind (e : ε) (f : α → Except ε β) :
    faultOf (throw e >>= f) = some e := rfl

theorem faultOf_eq_some_iff {x : Except ε α} {e : ε} : faultOf x = some e ↔ x = .error e := by
  cases x <;> simp [faultOf]

@[simp] theorem firstFault_nil : firstFault ([] : List (Option ε)) = none := rfl

@[simp] theorem firstFault_cons (c : Option ε) (cs : List (Option ε)) :
    firstFault (c :: cs) = c.or (firstFault cs) := by
  cases c <;> rfl

@[simp] theorem firstFault_append (l₁ l₂ : List (Option ε)) :
    firstFault (l₁ ++ l₂) = (firstFault l₁).or (firstFault l₂) :=
  List.findSome?_append

theorem firstFault_eq_none_iff {cs : List (Option ε)} :
    firstFault cs = none ↔ ∀ c ∈ cs, c = none := by
  induction cs with
  | nil => simp
  | cons c rest ih => cases c <;> simp [ih]

/-- A computation whose fault is the first of some checks succeeds exactly when all of them pass,
and fails exactly with the fault of the first that fails. -/
theorem reports_of_faultOf {x : Except ε α} {cs : List (Option ε)}
    (h : faultOf x = firstFault cs) :
    ((∃ r, x = .ok r) ↔ ∀ c ∈ cs, c = none) ∧ ∀ e, x = .error e ↔ firstFault cs = some e := by
  refine ⟨?_, fun e => by rw [← h, faultOf_eq_some_iff]⟩
  rw [← firstFault_eq_none_iff, ← h]
  cases x <;> simp

/-- A computation followed by one whose fault does not depend on the first's result fails with
the fault of the first, else with that of the second. -/
theorem faultOf_bind {x : Except ε α} {f : α → Except ε β} {y : Option ε}
    (hf : ∀ a, x = .ok a → faultOf (f a) = y) : faultOf (x >>= f) = (faultOf x).or y := by
  cases x with
  | error e => rfl
  | ok a => exact hf a rfl

/-- A bind that only builds a value from the result adds no fault. -/
theorem faultOf_bind_pure (x : Except ε α) (g : α → β) :
    faultOf (x >>= fun a => pure (g a)) = faultOf x := by
  cases x <;> rfl

/-- Running a step over a list fails with the first fault of the steps' checks, in order. -/
theorem faultOf_mapM {f : α → Except ε β} {checks : α → List (Option ε)} :
    ∀ {l : List α}, (∀ a ∈ l, faultOf (f a) = firstFault (checks a)) →
      faultOf (l.mapM f) = firstFault (l.flatMap checks)
  | [], _ => rfl
  | a :: rest, h => by
    have hrest := faultOf_mapM fun b hb => h b (List.mem_cons_of_mem a hb)
    rw [List.mapM_cons, List.flatMap_cons, firstFault_append, ← h a List.mem_cons_self, ← hrest]
    refine faultOf_bind fun _ _ => ?_
    rw [faultOf_bind_pure]

@[simp] theorem faultOf_map (x : Except ε α) (g : α → β) : faultOf (g <$> x) = faultOf x := by
  cases x <;> rfl

/-- Two stages in a row are checked by the checks of the first followed by those of the second,
when the second's checks do not depend on what the first built. -/
theorem faultOf_bind_append {x : Except ε α} {f : α → Except ε β} {c₁ c₂ : List (Option ε)}
    (hx : faultOf x = firstFault c₁) (hf : ∀ a, x = .ok a → faultOf (f a) = firstFault c₂) :
    faultOf (x >>= f) = firstFault (c₁ ++ c₂) := by
  rw [firstFault_append, ← hx]
  exact faultOf_bind hf

/-- What a successful `mapM` returns, seen through `g`, is its input seen through `h`, when every
step relates its input and its result so. -/
theorem map_of_mapM_eq_ok {γ : Type} {f : α → Except ε β} {g : β → γ} {h : α → γ}
    (hfg : ∀ x y, f x = .ok y → g y = h x) :
    ∀ {l : List α} {ys : List β}, l.mapM f = .ok ys → ys.map g = l.map h
  | [], ys, hl => by
    rw [List.mapM_nil] at hl
    cases hl
    rfl
  | x :: l, ys, hl => by
    rw [List.mapM_cons] at hl
    obtain ⟨y, hy, hl⟩ := exists_of_bind_eq_ok hl
    obtain ⟨rest, hrest, hl⟩ := exists_of_bind_eq_ok hl
    cases hl
    rw [List.map_cons, List.map_cons, hfg x y hy, map_of_mapM_eq_ok hfg hrest]

theorem faultOf_mapM_option (f : α → Except ε β) (o : Option α) :
    faultOf (o.mapM f) = o.bind fun a => faultOf (f a) := by
  cases o with
  | none => rfl
  | some a => simp [Option.mapM_some]

end Faults

/-! ## The checks of a rule, in order -/

namespace RuleFile

/-- The fault of an expression of a rule that does not compile. -/
def regexFault (E : RegexEngine) (pattern : String) (caseSensitive wholeText : Bool) :
    Option Error :=
  faultOf (compileRegex E pattern caseSensitive wholeText)

/-- The checks on the constraints of one token of element `position`, in order: a text together
with a back-reference, a back-reference to an element that does not precede it, then the
expressions of the text, the tag and the lemma. -/
def tokenChecks (E : RegexEngine) (t : TokenSpec) (caseSensitive : Bool) (position : Nat) :
    List (Option Error) :=
  let cs := t.caseSensitive.getD caseSensitive
  [if t.text.isSome && t.backReference.isSome then
      some (.malformed "token can not have both text and a back-reference")
    else none,
   t.backReference.bind fun id =>
     if id = 0 || id ≥ position then
       some (.malformed ("element " ++ toString position ++ " references element " ++
         toString id ++ ", which does not precede it"))
     else none,
   t.text.bind fun text => if t.regexp then regexFault E text cs true else none,
   t.postag.bind fun p => if t.postagRegexp then regexFault E p true true else none,
   t.lemmaForm.bind fun l => if t.regexp then regexFault E l cs true else none]

theorem faultOf_compileTag (postag : String) (isRegex negate : Bool) :
    faultOf (compileTag E postag isRegex negate) =
      if isRegex then regexFault E postag true true else none := by
  unfold compileTag
  split <;> simp [regexFault]

/-- Once the text matcher is built, a token fails with the fault of its tag's expression, else
with that of its lemma's. -/
theorem faultOf_readings (t : TokenSpec) (cs : Bool)
    (k : Option Matcher → Option Matcher → Atom) :
    faultOf (do
      let tagMatcher ← t.postag.mapM fun p => compileTag E p t.postagRegexp t.negatePos
      let lemmaMatcher ← t.lemmaForm.mapM fun l =>
        if t.regexp then do pure (Matcher.ofRegex (← compileRegex E l cs true) false true)
        else pure (Matcher.ofTarget (.text (trimBlank l)) false cs true)
      pure (k tagMatcher lemmaMatcher)) =
    (t.postag.bind fun p => if t.postagRegexp then regexFault E p true true else none).or
      (t.lemmaForm.bind fun l => if t.regexp then regexFault E l cs true else none) := by
  have hlemma : faultOf (t.lemmaForm.mapM fun l =>
      if t.regexp then do pure (Matcher.ofRegex (← compileRegex E l cs true) false true)
      else pure (Matcher.ofTarget (.text (trimBlank l)) false cs true)) =
      t.lemmaForm.bind fun l => if t.regexp then regexFault E l cs true else none := by
    rw [faultOf_mapM_option]
    congr 1
    funext l
    split <;> simp [regexFault]
  -- the lemma's fault does not depend on the tag matcher built before it
  rw [faultOf_bind
      (y := t.lemmaForm.bind fun l => if t.regexp then regexFault E l cs true else none)
      fun _ _ => by rw [faultOf_bind_pure, hlemma],
    faultOf_mapM_option]
  simp only [faultOf_compileTag]

/-- A step before the tag and lemma matchers fails first. -/
theorem faultOf_bind_readings {α : Type} (x : Except Error α) (t : TokenSpec) (cs : Bool)
    (k : α → Option Matcher → Option Matcher → Atom) :
    faultOf (x >>= fun a => do
      let tagMatcher ← t.postag.mapM fun p => compileTag E p t.postagRegexp t.negatePos
      let lemmaMatcher ← t.lemmaForm.mapM fun l =>
        if t.regexp then do pure (Matcher.ofRegex (← compileRegex E l cs true) false true)
        else pure (Matcher.ofTarget (.text (trimBlank l)) false cs true)
      pure (k a tagMatcher lemmaMatcher)) =
    (faultOf x).or
      ((t.postag.bind fun p => if t.postagRegexp then regexFault E p true true else none).or
        (t.lemmaForm.bind fun l => if t.regexp then regexFault E l cs true else none)) :=
  faultOf_bind fun a _ => faultOf_readings t cs (k a)

theorem faultOf_compileToken (t : TokenSpec) (caseSensitive : Bool) (position : Nat) :
    faultOf (compileToken E t caseSensitive position) =
      firstFault (tokenChecks E t caseSensitive position) := by
  -- the text matcher comes first, and each of its branches goes on to the tag and the lemma
  cases htext : t.text with
  | none =>
    cases hback : t.backReference with
    | none =>
      simp only [compileToken, htext, hback, pure_bind]
      rw [faultOf_readings]
      simp [tokenChecks, htext, hback]
    | some id =>
      simp only [compileToken, htext, hback]
      by_cases hid : id = 0 ∨ position ≤ id
      · -- the back-reference names an element that does not precede the token
        rw [if_pos (by simpa using hid), faultOf_bind_readings]
        simp [tokenChecks, htext, hback, hid]
      · rw [if_neg (by simpa using hid), pure_bind, faultOf_readings]
        simp [tokenChecks, htext, hback, hid]
  | some text =>
    cases hback : t.backReference with
    | none =>
      simp only [compileToken, htext, hback]
      by_cases hre : t.regexp = true
      · -- the text's expression is compiled before the tag and the lemma
        rw [if_pos hre]
        simp only [pure_bind]
        rw [faultOf_bind_readings]
        simp [tokenChecks, htext, hback, hre, regexFault]
      · rw [if_neg hre, pure_bind, faultOf_readings]
        simp [tokenChecks, htext, hback, hre]
    | some id =>
      -- a text and a back-reference together fail before anything else
      simp only [compileToken, htext, hback, faultOf_error_bind]
      simp [tokenChecks, htext, hback]

/-- The checks on a repetition count, in order: bounds out of order, then a maximum of zero. -/
def countChecks (min max : Nat) : List (Option Error) :=
  [if max < min then
      some (.malformed ("quantifier minimum " ++ toString min ++ " is larger than maximum " ++
        toString max))
    else none,
   if max = 0 then some (.malformed "quantifier maximum must be at least one") else none]

theorem faultOf_make (min max : Nat) :
    faultOf (Quantifier.make min max) = firstFault (countChecks min max) := by
  unfold Quantifier.make
  by_cases hlt : max < min
  · simp [countChecks, hlt]
  · by_cases hzero : max = 0
    · subst hzero
      simp [countChecks, hlt]
    · simp [countChecks, hlt, hzero]

/-- The checks on element `position` of a pattern, in order: its token, its alternatives, its
count, the tokens of its exceptions. -/
def elementChecks (E : RegexEngine) (e : ElementSpec) (caseSensitive : Bool) (position : Nat) :
    List (Option Error) :=
  tokenChecks E e.token caseSensitive position ++
    e.anyOf.flatMap (tokenChecks E · caseSensitive position) ++
    countChecks e.min (e.max.getD unboundedCount) ++
    e.exceptions.flatMap (tokenChecks E ·.token caseSensitive position)

theorem faultOf_compileElement (e : ElementSpec) (caseSensitive : Bool) (position : Nat) :
    faultOf (compileElement E e caseSensitive position) =
      firstFault (elementChecks E e caseSensitive position) := by
  unfold compileElement elementChecks
  simp only [List.append_assoc]
  refine faultOf_bind_append (faultOf_compileToken _ _ _) fun _ _ => ?_
  refine faultOf_bind_append (faultOf_mapM fun t _ => faultOf_compileToken t _ _) fun _ _ => ?_
  refine faultOf_bind_append (faultOf_make _ _) fun _ _ => ?_
  rw [faultOf_bind_pure]
  exact faultOf_mapM fun x _ => by simp [faultOf_compileToken]

/-- An element compiles to a part with the element's least count. -/
theorem compileElement_min {e : ElementSpec} {caseSensitive : Bool} {position : Nat} {p : Part}
    (h : compileElement E e caseSensitive position = .ok p) : p.quantifier.min = e.min := by
  unfold compileElement at h
  obtain ⟨_, -, h⟩ := exists_of_bind_eq_ok h
  obtain ⟨_, -, h⟩ := exists_of_bind_eq_ok h
  obtain ⟨q, hq, h⟩ := exists_of_bind_eq_ok h
  obtain ⟨_, -, h⟩ := exists_of_bind_eq_ok h
  cases h
  unfold Quantifier.make at hq
  split at hq
  · cases hq
  split at hq
  · cases hq
  cases hq
  rfl

/-- The checks on a pattern, in order: each element, numbered from 1; then the pattern as a
whole, first that it has an element, then that not every element is optional. -/
def patternChecks (E : RegexEngine) (elements : List ElementSpec) (caseSensitive : Bool) :
    List (Option Error) :=
  elements.zipIdx.flatMap (fun x => elementChecks E x.1 caseSensitive (x.2 + 1)) ++
    [if elements.isEmpty then some (.malformed "pattern must have at least one element") else none,
     if elements.all (·.min = 0) then
       some (.malformed "pattern can match the empty sequence: every element is optional")
     else none]

theorem faultOf_compileComposition (elements : List ElementSpec) (caseSensitive : Bool) :
    faultOf (compileComposition E elements caseSensitive) =
      firstFault (patternChecks E elements caseSensitive) := by
  unfold compileComposition patternChecks
  refine faultOf_bind_append (faultOf_mapM fun x _ => faultOf_compileElement _ _ _)
    fun parts hparts => ?_
  -- the parts are the elements, one each, with the same least counts
  have hmins : parts.map (·.quantifier.min) = elements.map (·.min) := by
    rw [map_of_mapM_eq_ok (h := fun x => x.1.min) (fun _ _ hy => compileElement_min hy) hparts,
      show (fun x : ElementSpec × Nat => x.1.min) = (·.min) ∘ Prod.fst from rfl, ← List.map_map,
      List.zipIdx_map_fst]
  have hempty : parts.isEmpty = elements.isEmpty := by
    rw [← List.isEmpty_map (f := (·.quantifier.min)), hmins, List.isEmpty_map]
  have hall : parts.all (·.quantifier.min = 0) = elements.all (·.min = 0) := by
    have := congrArg (List.all · (· = 0)) hmins
    simpa [List.all_map, Function.comp_def] using this
  unfold Composition.make
  rw [hempty, hall]
  split
  · simp [*]
  · split <;> simp [*]

/-- A pattern is checked first, then each antipattern the same way. -/
theorem faultOf_compileEngine (pattern : List ElementSpec) (antipatterns : List (List ElementSpec))
    (caseSensitive : Bool) :
    faultOf (compileEngine E pattern antipatterns caseSensitive) =
      firstFault (patternChecks E pattern caseSensitive ++
        antipatterns.flatMap (patternChecks E · caseSensitive)) := by
  unfold compileEngine
  refine faultOf_bind_append (faultOf_compileComposition _ _) fun _ _ => ?_
  rw [faultOf_bind_pure]
  exact faultOf_mapM fun a _ => faultOf_compileComposition a _

/-- The checks on one piece of a suggestion for a pattern of `groups` elements: a reference names
a group the pattern has, then its expression compiles, or is given with its replacement. -/
def pieceChecks (E : RegexEngine) (groups : Nat) : SuggestionPartSpec → List (Option Error)
  | .text _ => []
  | .ref id _ _ regexMatch regexReplace =>
    [if id > groups then
        some (.malformed ("suggestion references group " ++ toString id ++
          ", but the pattern has " ++ toString groups ++ " elements"))
      else none,
     match regexMatch, regexReplace with
     | some m, some _ => regexFault E m true false
     | none, none => none
     | _, _ => some (.malformed "regexp_match and regexp_replace must be given together")]

/-- The checks on a suggestion: its template reads, or each of its pieces passes its checks. -/
def suggestionChecks (E : RegexEngine) (groups : Nat) : SuggestionSpec → List (Option Error)
  | .template t => [faultOf (Synthesizer.parse t groups true)]
  | .parts ps => ps.flatMap (pieceChecks E groups)

theorem faultOf_compileSuggestion (spec : SuggestionSpec) (groups : Nat) :
    faultOf (compileSuggestion E spec groups) = firstFault (suggestionChecks E groups spec) := by
  cases spec with
  | template t => simp [compileSuggestion, suggestionChecks]
  | parts ps =>
    simp only [compileSuggestion, suggestionChecks]
    rw [faultOf_bind_pure]
    refine faultOf_mapM fun p _ => ?_
    cases p with
    | text s => rfl
    | ref id conversion postag regexMatch regexReplace =>
      simp only [pieceChecks]
      by_cases hid : id > groups
      · -- a reference past the last group fails before its expressions are looked at
        rw [if_pos hid]
        simp [hid]
      · rw [if_neg hid]
        rcases regexMatch with _ | m <;> rcases regexReplace with _ | r <;> simp [hid, regexFault]

/-- Whether the markers of an example are balanced: both absent, or the start before the end. -/
def markersBalanced : Option Nat → Option Nat → Bool
  | some a, some b => a < b
  | none, none => true
  | _, _ => false

/-- The checks on an example, in order: its markers are balanced, then it gives no correction
without a marked span. -/
def exampleChecks (spec : ExampleSpec) : List (Option Error) :=
  let opening := findChars spec.text.toList markerOpen.toList
  let closing := findChars spec.text.toList markerClose.toList
  [if markersBalanced opening closing then none
    else some (.malformed ("example " ++ Unicode.quoted spec.text ++ " has an unbalanced marker")),
   if opening.isNone && closing.isNone && spec.correction.isSome then
     some (.malformed ("example " ++ Unicode.quoted spec.text ++ " has a correction but no marker"))
   else none]

theorem faultOf_compileExample (spec : ExampleSpec) :
    faultOf (compileExample spec) = firstFault (exampleChecks spec) := by
  unfold compileExample exampleChecks
  cases ho : findChars spec.text.toList markerOpen.toList <;>
    cases hc : findChars spec.text.toList markerClose.toList
  · -- no marker at all: only a correction can be at fault
    cases spec.correction <;> simp [markersBalanced, ho, hc]
  · simp [markersBalanced, ho, hc]
  · simp [markersBalanced, ho, hc]
  · rename_i a b
    by_cases hab : a < b <;> simp [markersBalanced, ho, hc, hab]

end RuleFile

namespace RuleSpec

/-- The checks on a grammar rule, in the order compiling makes them: its identifier, its pattern,
its antipatterns, its message, its suggestions and its examples. -/
def checks (E : RegexEngine) (spec : RuleSpec) : List (Option Error) :=
  [faultOf (RuleId.parse spec.id)] ++
    RuleFile.patternChecks E spec.pattern spec.caseSensitive ++
    spec.antipatterns.flatMap (RuleFile.patternChecks E · spec.caseSensitive) ++
    [faultOf (Synthesizer.parse spec.message spec.pattern.length false)] ++
    spec.suggestions.flatMap (RuleFile.suggestionChecks E spec.pattern.length) ++
    spec.examples.flatMap RuleFile.exampleChecks

theorem faultOf_compile (spec : RuleSpec) :
    faultOf (spec.compile E) = firstFault (spec.checks E) := by
  unfold compile checks
  simp only [List.append_assoc]
  refine faultOf_bind_append (by simp) fun _ _ => ?_
  rw [← List.append_assoc]
  refine faultOf_bind_append (RuleFile.faultOf_compileEngine _ _ _) fun _ _ => ?_
  refine faultOf_bind_append (by simp) fun _ _ => ?_
  refine faultOf_bind_append
    (faultOf_mapM fun s _ => RuleFile.faultOf_compileSuggestion s _) fun _ _ => ?_
  rw [faultOf_bind_pure]
  exact faultOf_mapM fun x _ => RuleFile.faultOf_compileExample x

end RuleSpec

namespace BitextRuleSpec

/-- The checks on a bitext rule: its identifier, then those of its source rule and of its target
rule. -/
def checks (E : RegexEngine) (spec : BitextRuleSpec) : List (Option Error) :=
  [faultOf (RuleId.parse spec.id)] ++ spec.source.checks E ++ spec.target.checks E

theorem faultOf_compile (spec : BitextRuleSpec) :
    faultOf (spec.compile E) = firstFault (spec.checks E) := by
  unfold compile checks
  simp only [List.append_assoc]
  refine faultOf_bind_append (by simp) fun _ _ => ?_
  refine faultOf_bind_append (RuleSpec.faultOf_compile _) fun _ _ => ?_
  rw [faultOf_bind_pure]
  exact RuleSpec.faultOf_compile _

end BitextRuleSpec

/-- A grammar rule record compiles exactly when all of its checks pass, and otherwise fails with
the fault of the first check that fails, in the order of `RuleSpec.checks`: the identifier, each
element of the pattern in turn, the pattern as a whole, the antipatterns, the message, the
suggestions, the examples. A bitext rule record does the same, its identifier checked before its
source rule and its target rule. -/
theorem compile_reports_first_fault (E : RegexEngine) :
    (∀ spec : RuleSpec,
      ((∃ r, spec.compile E = .ok r) ↔ ∀ c ∈ spec.checks E, c = none) ∧
      ∀ e, spec.compile E = .error e ↔ firstFault (spec.checks E) = some e) ∧
    (∀ spec : BitextRuleSpec,
      ((∃ r, spec.compile E = .ok r) ↔ ∀ c ∈ spec.checks E, c = none) ∧
      ∀ e, spec.compile E = .error e ↔ firstFault (spec.checks E) = some e) :=
  ⟨fun spec => reports_of_faultOf spec.faultOf_compile,
    fun spec => reports_of_faultOf spec.faultOf_compile⟩

end Proofreader
