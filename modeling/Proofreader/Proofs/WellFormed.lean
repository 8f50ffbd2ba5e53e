import Mathlib
import Proofreader.Proofs.SuggestionSpans
import Proofreader.Proofs.GreatestFit

/-!
# Compiled rules are well formed

The rule format can say things a pattern cannot mean: a back-reference to an element that does
not come before it, a repetition whose bounds are out of order, a message that refers to an
element the pattern lacks. Compiling refuses each of these in its own place: the tokens of an
element (`RuleFile.compileToken`), its quantifier (`Quantifier.make`), the pattern as a whole
(`Composition.make`), and the templates and pieces of messages and suggestions
(`Synthesizer.parse`, `RuleFile.compileSuggestion`).

`Rule.WellFormed` states what these checks give together: every pattern has an element and a
required one, every quantifier is ordered and allows a token, every back-reference in an
element, its alternatives and its exceptions names an earlier element (elements counted from 1),
and every reference of the message and of the suggestions names a group the pattern has (group 0
being the whole match). The main result, `RuleSpec.compile_wellFormed`, is that every grammar
rule compiling accepts is well formed, and so is the engine of every disambiguation rule
(`DisambiguationRuleSpec.compile_wellFormed`).
-/

namespace Proofreader

variable {E : RegexEngine}

/-! ## Which elements a pattern refers to -/

namespace Matcher

/-- Whether the matcher, if it is a back-reference, names an element before position `n`, with
elements counted from 1. -/
def refersBelow (n : Nat) (m : Matcher) : Bool :=
  match m.target with
  | .group id => 0 < id && id < n
  | _ => true

/-- A matcher that is no back-reference refers below every position. -/
theorem refersBelow_of_groupRef {m : Matcher} (h : m.groupRef = none) (n : Nat) :
    m.refersBelow n = true := by
  unfold groupRef at h
  unfold refersBelow
  cases ht : m.target with
  | group id => simp [ht] at h
  | text s => rfl
  | regex r => rfl

/-- A back-reference below position `k + 1` reads no group after group `k`. -/
theorem readsUpTo_of_refersBelow {m : Matcher} {k : Nat} (h : m.refersBelow (k + 1) = true) :
    m.readsUpTo k = true := by
  unfold refersBelow at h
  unfold readsUpTo
  cases ht : m.target with
  | group id =>
    simp only [ht, Bool.and_eq_true, decide_eq_true_eq] at h
    simp only [decide_eq_true_eq]
    omega
  | text s => rfl
  | regex r => rfl

end Matcher

namespace Atom

mutual
/-- Whether every back-reference in the atom names an element before position `n`. -/
def refersBelow (n : Nat) : Atom → Bool
  | text m => m.refersBelow n
  | wordData pos lemmaForm => pos.all (·.refersBelow n) && lemmaForm.all (·.refersBelow n)
  | all atoms => allReferBelow n atoms
  | any atoms => allReferBelow n atoms
  | not a => refersBelow n a
  | _ => true
/-- Whether every back-reference in the atoms names an element before position `n`. -/
def allReferBelow (n : Nat) : List Atom → Bool
  | [] => true
  | a :: rest => refersBelow n a && allReferBelow n rest
end

theorem allReferBelow_eq_all (n : Nat) (atoms : List Atom) :
    allReferBelow n atoms = atoms.all (refersBelow n) := by
  induction atoms with
  | nil => rfl
  | cons a rest ih => simp [allReferBelow, ih]

/-- A conjunction refers below `n` when its parts do: building it only drops `true` parts. -/
theorem refersBelow_conj {n : Nat} {atoms : List Atom}
    (h : ∀ a ∈ atoms, a.refersBelow n = true) : (conj atoms).refersBelow n = true := by
  have hf : ∀ a ∈ atoms.filter (!·.isAlways), a.refersBelow n = true :=
    fun a ha => h a (List.mem_of_mem_filter ha)
  unfold conj
  split
  · rfl
  · rename_i a heq
    exact hf a (by rw [heq]; exact List.mem_singleton_self a)
  · simp only [refersBelow, allReferBelow_eq_all, List.all_eq_true]
    exact hf

/-- A disjunction refers below `n` when its parts do: building it only drops `false` parts. -/
theorem refersBelow_disj {n : Nat} {atoms : List Atom}
    (h : ∀ a ∈ atoms, a.refersBelow n = true) : (disj atoms).refersBelow n = true := by
  have hf : ∀ a ∈ atoms.filter (!·.isNever), a.refersBelow n = true :=
    fun a ha => h a (List.mem_of_mem_filter ha)
  unfold disj
  split
  · rfl
  · rename_i a heq
    exact hf a (by rw [heq]; exact List.mem_singleton_self a)
  · simp only [refersBelow, allReferBelow_eq_all, List.all_eq_true]
    exact hf

@[simp] theorem refersBelow_negation (n : Nat) (a : Atom) :
    (negation a).refersBelow n = a.refersBelow n := by
  cases a <;> rfl

mutual
/-- An atom whose back-references lie below position `k + 1` reads no group after group `k`. -/
theorem readsUpTo_of_refersBelow {k : Nat} :
    ∀ a : Atom, a.refersBelow (k + 1) = true → a.readsUpTo k = true
  | .always, _ => rfl
  | .never, _ => rfl
  | .text m, h => Matcher.readsUpTo_of_refersBelow (by simpa [refersBelow] using h)
  | .spaceBefore _, _ => rfl
  | .wordData pos lemmaForm, h => by
    simp only [refersBelow, Bool.and_eq_true, Option.all_eq_true] at h
    simp only [readsUpTo, Option.all_eq_true]
    exact fun m hm => Matcher.readsUpTo_of_refersBelow (h.2 m hm)
  | .all atoms, h => by
    simp only [refersBelow] at h
    simp only [readsUpTo]
    exact allReadUpTo_of_allReferBelow atoms h
  | .any atoms, h => by
    simp only [refersBelow] at h
    simp only [readsUpTo]
    exact allReadUpTo_of_allReferBelow atoms h
  | .not a, h => by
    simp only [refersBelow] at h
    simp only [readsUpTo]
    exact readsUpTo_of_refersBelow a h
/-- Atoms whose back-references lie below position `k + 1` read no group after group `k`. -/
theorem allReadUpTo_of_allReferBelow {k : Nat} :
    ∀ atoms : List Atom, allReferBelow (k + 1) atoms = true → allReadUpTo k atoms = true
  | [], _ => rfl
  | a :: rest, h => by
    simp only [allReferBelow, Bool.and_eq_true] at h
    simp only [allReadUpTo, Bool.and_eq_true]
    exact ⟨readsUpTo_of_refersBelow a h.1, allReadUpTo_of_allReferBelow rest h.2⟩
end

end Atom

/-! ## Well-formed rules -/

namespace Part

/-- The part at position `n` of a pattern (counted from 1) is well formed: its quantifier is
ordered and allows a token, and every back-reference of its atom and of its exceptions names an
element before it. -/
structure WellFormed (n : Nat) (p : Part) : Prop where
  ordered : p.quantifier.min ≤ p.quantifier.max
  max_pos : 0 < p.quantifier.max
  atom : p.atom.refersBelow n = true
  exceptions : ∀ e ∈ p.exceptions, e.atom.refersBelow n = true

/-- A well-formed part reads only the groups of the parts before it. -/
theorem WellFormed.readsUpTo {k : Nat} {p : Part} (h : p.WellFormed (k + 1)) :
    p.readsUpTo k = true := by
  simp only [Part.readsUpTo, Bool.and_eq_true, List.all_eq_true]
  exact ⟨Atom.readsUpTo_of_refersBelow p.atom h.atom,
    fun e he => Atom.readsUpTo_of_refersBelow e.atom (h.exceptions e he)⟩

end Part

namespace Composition

/-- A well-formed pattern: it has an element, one of its elements is required, and the part at
each index `k` is well formed at position `k + 1`. -/
structure WellFormed (c : Composition) : Prop where
  nonempty : 0 < c.parts.size
  required : ∃ k < c.parts.size, 0 < (c.part k).quantifier.min
  parts : ∀ k < c.parts.size, (c.part k).WellFormed (k + 1)

/-- A well-formed pattern is one `make` accepts as it is. -/
theorem WellFormed.make_eq {c : Composition} (h : c.WellFormed) : make c.parts.toList = .ok c := by
  obtain ⟨k, hk, hmin⟩ := h.required
  have hne : c.parts.toList.isEmpty = false := by
    simp only [List.isEmpty_eq_false_iff, ne_eq, Array.toList_eq_nil_iff]
    intro hnil
    simp [hnil] at hk
  have hall : (c.parts.toList.all fun p => decide (p.quantifier.min = 0)) = false := by
    rw [Bool.eq_false_iff, ne_eq, List.all_eq_true, not_forall]
    refine ⟨c.part k, ?_⟩
    simp only [part, Array.getElem?_eq_getElem hk, Option.getD_some] at hmin ⊢
    simp only [Array.mem_toList_iff, Array.getElem_mem, decide_eq_true_eq, forall_const]
    omega
  simp only [make, hne, hall, Bool.false_eq_true, if_false, Array.toArray_toList]

/-- A well-formed pattern reads in each part only the groups of the parts before it. -/
theorem WellFormed.backReferencesEarlier {c : Composition} (h : c.WellFormed) :
    c.BackReferencesEarlier :=
  fun k hk => (h.parts k hk).readsUpTo

end Composition

namespace Engine

/-- A well-formed engine: its pattern and all its antipatterns are well formed. -/
structure WellFormed (e : Engine) : Prop where
  composition : e.composition.WellFormed
  antipatterns : ∀ a ∈ e.antipatterns, a.WellFormed

end Engine

namespace Synthesizer

/-- Every reference of the synthesizer names a group of a pattern of `n` elements: group 0, the
whole match, or one of the elements. -/
def RefersWithin (n : Nat) (s : Synthesizer) : Prop :=
  ∀ r, SynthPart.ref r ∈ s.parts → r.id ≤ n

end Synthesizer

namespace Rule

/-- A well-formed grammar rule: its engine is well formed, and its message and suggestions refer
only to groups its pattern has. -/
structure WellFormed (r : Rule) : Prop where
  engine : r.engine.WellFormed
  message : r.message.RefersWithin r.engine.composition.parts.size
  suggesters : ∀ s ∈ r.suggesters, s.RefersWithin r.engine.composition.parts.size

end Rule

/-! ## What a successful `mapM` gives -/

/-- A successful `mapM` gives one result per input, each that of its input. -/
theorem getElem_of_mapM_eq_ok {ε α β : Type} {f : α → Except ε β} :
    ∀ {l : List α} {ys : List β}, l.mapM f = .ok ys →
      ∃ hlen : ys.length = l.length, ∀ k (hk : k < l.length), f l[k] = .ok (ys.get ⟨k, hlen ▸ hk⟩)
  | [], ys, h => by
    rw [List.mapM_nil] at h
    cases h
    exact ⟨rfl, fun k hk => absurd hk (Nat.not_lt_zero k)⟩
  | a :: l, ys, h => by
    rw [List.mapM_cons] at h
    obtain ⟨b, hb, h⟩ := exists_of_bind_eq_ok h
    obtain ⟨bs, hbs, h⟩ := exists_of_bind_eq_ok h
    cases h
    obtain ⟨hlen, hall⟩ := getElem_of_mapM_eq_ok hbs
    refine ⟨by simp [hlen], fun k hk => ?_⟩
    cases k with
    | zero => exact hb
    | succ k => exact hall k (by simpa using hk)

/-- An optional value mapped by a computation whose results are no back-references. -/
theorem groupRef_of_mapM {α : Type} {f : α → Except Error Matcher}
    (hf : ∀ x m, f x = .ok m → m.groupRef = none) {o : Option α} {r : Option Matcher}
    (h : o.mapM f = .ok r) : ∀ m ∈ r, m.groupRef = none := by
  cases o with
  | none =>
    cases h
    intro m hm
    cases hm
  | some x =>
    simp only [Option.mapM_some] at h
    obtain ⟨m, hm, h⟩ := exists_of_bind_eq_ok h
    cases h
    intro m' hm'
    cases hm'
    exact hf x m hm

/-! ## Compiling gives well-formed rules -/

namespace RuleFile

/-- Tag matchers compare with a text or an expression, never with a group. -/
theorem compileTag_groupRef {postag : String} {isRegex negate : Bool} {m : Matcher}
    (h : compileTag E postag isRegex negate = .ok m) : m.groupRef = none := by
  unfold compileTag at h
  split at h
  · obtain ⟨r, -, h⟩ := exists_of_bind_eq_ok h
    cases h
    rfl
  · cases h
    rfl

/-- The atoms of one token, given its text, tag and lemma matchers, refer below `n` when its
text matcher does: tag and lemma matchers are no back-references. -/
theorem tokenAtoms_refersBelow {n : Nat} {tm pos lemmaForm : Option Matcher}
    (htm : ∀ m ∈ tm, m.refersBelow n = true) (hpos : ∀ m ∈ pos, m.groupRef = none)
    (hlemma : ∀ m ∈ lemmaForm, m.groupRef = none) (spaceBefore : Option Bool) :
    (Atom.conj (((tm.map Atom.text).toList ++
        if (pos.isSome || lemmaForm.isSome) = true then [Atom.wordData pos lemmaForm] else []) ++
      (spaceBefore.map Atom.spaceBefore).toList)).refersBelow n = true := by
  apply Atom.refersBelow_conj
  intro a ha
  simp only [List.mem_append, Option.mem_toList, Option.map_eq_some_iff] at ha
  rcases ha with (⟨m, hm, rfl⟩ | ha) | ⟨v, -, rfl⟩
  · exact htm m hm
  · split at ha
    · simp only [List.mem_singleton] at ha
      subst ha
      simp only [Atom.refersBelow, Bool.and_eq_true, Option.all_eq_true]
      exact ⟨fun m hm => Matcher.refersBelow_of_groupRef (hpos m hm) n,
        fun m hm => Matcher.refersBelow_of_groupRef (hlemma m hm) n⟩
    · cases ha
  · rfl

/-- The atom of one token, compiled at position `position`, refers to earlier elements only:
compiling refuses a back-reference to the element itself, a later one or element 0. -/
theorem compileToken_refersBelow {t : TokenSpec} {caseSensitive : Bool} {position : Nat}
    {a : Atom} (h : compileToken E t caseSensitive position = .ok a) :
    a.refersBelow position = true := by
  -- the tag and lemma matchers, compiled after the text matcher, are never back-references
  have hpos : ∀ {pos : Option Matcher},
      t.postag.mapM (fun p => compileTag E p t.postagRegexp t.negatePos) = .ok pos →
      ∀ m ∈ pos, m.groupRef = none :=
    groupRef_of_mapM fun _ _ hm => compileTag_groupRef hm
  have hlemma : ∀ {lemmaForm : Option Matcher},
      t.lemmaForm.mapM (fun l =>
        if t.regexp = true then do
          let r ← compileRegex E l (t.caseSensitive.getD caseSensitive) true
          pure (Matcher.ofRegex r false true)
        else pure (Matcher.ofTarget (.text (trimBlank l)) false
          (t.caseSensitive.getD caseSensitive) true)) = .ok lemmaForm →
      ∀ m ∈ lemmaForm, m.groupRef = none := by
    refine groupRef_of_mapM fun l m hm => ?_
    split at hm
    · obtain ⟨r, -, hm⟩ := exists_of_bind_eq_ok hm
      cases hm
      rfl
    · cases hm
      rfl
  cases htext : t.text with
  | none =>
    cases hback : t.backReference with
    | none =>
      simp only [compileToken, htext, hback, pure_bind] at h
      obtain ⟨pos, hp, h⟩ := exists_of_bind_eq_ok h
      obtain ⟨lemmaForm, hl, h⟩ := exists_of_bind_eq_ok h
      cases h
      exact tokenAtoms_refersBelow (fun m hm => by cases hm) (hpos hp) (hlemma hl) _
    | some id =>
      simp only [compileToken, htext, hback] at h
      split at h
      · cases h
      · -- the back-reference passed the check: it names an element between 1 and `position`
        rename_i hid
        simp only [pure_bind] at h
        obtain ⟨pos, hp, h⟩ := exists_of_bind_eq_ok h
        obtain ⟨lemmaForm, hl, h⟩ := exists_of_bind_eq_ok h
        cases h
        refine tokenAtoms_refersBelow (fun m hm => ?_) (hpos hp) (hlemma hl) _
        cases hm
        simp only [Bool.or_eq_true, decide_eq_true_eq, not_or] at hid
        simp only [Matcher.refersBelow, Matcher.ofTarget, Bool.and_eq_true, decide_eq_true_eq]
        omega
  | some text =>
    cases hback : t.backReference with
    | none =>
      simp only [compileToken, htext, hback] at h
      -- the text is an expression or a literal; either way no back-reference
      by_cases hre : t.regexp = true
      · rw [if_pos hre] at h
        obtain ⟨r, -, h⟩ := exists_of_bind_eq_ok h
        simp only [pure_bind] at h
        obtain ⟨pos, hp, h⟩ := exists_of_bind_eq_ok h
        obtain ⟨lemmaForm, hl, h⟩ := exists_of_bind_eq_ok h
        cases h
        exact tokenAtoms_refersBelow (fun m hm => by cases hm; rfl) (hpos hp) (hlemma hl) _
      · rw [if_neg hre] at h
        simp only [pure_bind] at h
        obtain ⟨pos, hp, h⟩ := exists_of_bind_eq_ok h
        obtain ⟨lemmaForm, hl, h⟩ := exists_of_bind_eq_ok h
        cases h
        exact tokenAtoms_refersBelow (fun m hm => by cases hm; rfl) (hpos hp) (hlemma hl) _
    | some id =>
      simp only [compileToken, htext, hback] at h
      cases h

/-- An element compiled at `position` is a well-formed part there. -/
theorem compileElement_wellFormed {e : ElementSpec} {caseSensitive : Bool} {position : Nat}
    {p : Part} (h : compileElement E e caseSensitive position = .ok p) : p.WellFormed position := by
  unfold compileElement at h
  obtain ⟨main, hmain, h⟩ := exists_of_bind_eq_ok h
  obtain ⟨alternatives, halt, h⟩ := exists_of_bind_eq_ok h
  obtain ⟨q, hq, h⟩ := exists_of_bind_eq_ok h
  obtain ⟨exceptions, hexc, h⟩ := exists_of_bind_eq_ok h
  cases h
  -- the quantifier passed its checks
  unfold Quantifier.make at hq
  split at hq
  · cases hq
  split at hq
  · cases hq
  cases hq
  rename_i hlt hzero
  refine ⟨by dsimp only; omega, by dsimp only; omega, ?_, fun x hx => ?_⟩
  · -- the element's atom combines its token and its alternatives, perhaps negated
    have hcore : (Atom.conj (main :: if alternatives.isEmpty = true then []
        else [Atom.disj alternatives])).refersBelow position = true := by
      apply Atom.refersBelow_conj
      intro a ha
      rcases List.mem_cons.1 ha with rfl | ha
      · exact compileToken_refersBelow hmain
      · split at ha
        · cases ha
        · simp only [List.mem_singleton] at ha
          subst ha
          apply Atom.refersBelow_disj
          intro a' ha'
          obtain ⟨t, -, ht⟩ := exists_of_mapM_eq_ok halt a' ha'
          exact compileToken_refersBelow ht
    dsimp only
    split
    · rw [Atom.refersBelow_negation]
      exact hcore
    · exact hcore
  · obtain ⟨spec, -, hspec⟩ := exists_of_mapM_eq_ok hexc x hx
    obtain ⟨a, ha, hspec⟩ := exists_of_bind_eq_ok hspec
    cases hspec
    exact compileToken_refersBelow ha

/-- A compiled pattern is well formed and has one part per element. -/
theorem compileComposition_wellFormed {elements : List ElementSpec} {caseSensitive : Bool}
    {c : Composition} (h : compileComposition E elements caseSensitive = .ok c) :
    c.WellFormed ∧ c.parts.size = elements.length := by
  unfold compileComposition at h
  obtain ⟨parts, hparts, h⟩ := exists_of_bind_eq_ok h
  obtain ⟨hlen, hall⟩ := getElem_of_mapM_eq_ok hparts
  rw [List.length_zipIdx] at hlen
  -- `make` accepted the parts: there is one, and one is required
  unfold Composition.make at h
  split at h
  · cases h
  split at h
  · cases h
  cases h
  rename_i hne hnone
  have hsize : (parts.toArray).size = elements.length := by simp [hlen]
  have hpart : ∀ k (hk : k < parts.length), (⟨parts.toArray⟩ : Composition).part k = parts[k] := by
    intro k hk
    simp [Composition.part, hk]
  refine ⟨⟨?_, ?_, fun k hk => ?_⟩, hsize⟩
  · simp only [List.isEmpty_iff] at hne
    simpa [List.length_pos_iff] using hne
  · simp only [List.all_eq_true, decide_eq_true_eq, not_forall] at hnone
    obtain ⟨p, hp, hmin⟩ := hnone
    obtain ⟨k, hk, rfl⟩ := List.mem_iff_getElem.1 hp
    exact ⟨k, by simpa using hk, by rw [hpart k hk]; omega⟩
  · have hk' : k < parts.length := by simpa using hk
    have hel := hall k (by rw [List.length_zipIdx]; omega)
    rw [List.getElem_zipIdx] at hel
    rw [hpart k hk']
    simpa [Nat.zero_add] using compileElement_wellFormed hel

/-- A compiled engine is well formed, and its pattern has one part per element. -/
theorem compileEngine_wellFormed {pattern : List ElementSpec}
    {antipatterns : List (List ElementSpec)} {caseSensitive : Bool} {e : Engine}
    (h : compileEngine E pattern antipatterns caseSensitive = .ok e) :
    e.WellFormed ∧ e.composition.parts.size = pattern.length := by
  unfold compileEngine at h
  obtain ⟨c, hc, h⟩ := exists_of_bind_eq_ok h
  obtain ⟨as, has, h⟩ := exists_of_bind_eq_ok h
  cases h
  obtain ⟨hwf, hsize⟩ := compileComposition_wellFormed hc
  refine ⟨⟨hwf, fun a ha => ?_⟩, hsize⟩
  obtain ⟨spec, -, hspec⟩ := exists_of_mapM_eq_ok has a ha
  exact (compileComposition_wellFormed hspec).1

end RuleFile

namespace Synthesizer

/-- Reading a template refers only to groups up to `groups`: each reference it reads passed that
check, and the pieces read before keep theirs. -/
theorem readTemplate_refersWithin {template : String} {groups : Nat} :
    ∀ (cs text : List Char) (acc : List SynthPart) {parts : List SynthPart},
      readTemplate template groups cs text acc = .ok parts →
      (∀ r, SynthPart.ref r ∈ acc → r.id ≤ groups) → ∀ r, SynthPart.ref r ∈ parts → r.id ≤ groups
  | [], text, acc, parts, h, hacc => by
    rw [readTemplate] at h
    cases h
    intro r hr
    split at hr
    · exact hacc r (List.mem_reverse.1 hr)
    · rcases List.mem_cons.1 (List.mem_reverse.1 hr) with hr | hr
      · cases hr
      · exact hacc r hr
  | c :: rest, text, acc, parts, h, hacc => by
    rw [readTemplate] at h
    split at h
    · split at h
      · cases h
      · -- a reference that passed the check joins the pieces read so far
        rename_i r len _ hid
        refine readTemplate_refersWithin _ [] _ h fun r' hr' => ?_
        rcases List.mem_cons.1 hr' with hr' | hr'
        · cases hr'
          omega
        · split at hr'
          · exact hacc r' hr'
          · rcases List.mem_cons.1 hr' with hr' | hr'
            · cases hr'
            · exact hacc r' hr'
    · exact readTemplate_refersWithin rest (c :: text) acc h hacc
termination_by cs => cs.length

/-- A parsed template refers only to groups the pattern has. -/
theorem parse_refersWithin {template : String} {groups : Nat} {titlecase : Bool}
    {s : Synthesizer} (h : parse template groups titlecase = .ok s) : s.RefersWithin groups := by
  unfold parse at h
  obtain ⟨parts, hparts, h⟩ := exists_of_bind_eq_ok h
  cases h
  exact readTemplate_refersWithin _ [] [] hparts fun r hr => by cases hr

end Synthesizer

namespace RuleFile

/-- A compiled suggestion refers only to groups the pattern has. -/
theorem compileSuggestion_refersWithin {spec : SuggestionSpec} {groups : Nat} {s : Synthesizer}
    (h : compileSuggestion E spec groups = .ok s) : s.RefersWithin groups := by
  unfold compileSuggestion at h
  split at h
  · exact Synthesizer.parse_refersWithin h
  · obtain ⟨parts, hparts, h⟩ := exists_of_bind_eq_ok h
    cases h
    intro r hr
    obtain ⟨p, -, hp⟩ := exists_of_mapM_eq_ok hparts _ hr
    split at hp
    · cases hp
    · -- a reference past the pattern is refused, and one within it is kept as written
      rename_i id conversion postag regexMatch regexReplace
      by_cases hid : id > groups
      · rw [if_pos hid] at hp
        cases hp
      · rw [if_neg hid] at hp
        simp only at hp
        split at hp
        · obtain ⟨re, -, hp⟩ := exists_of_bind_eq_ok hp
          cases hp
          dsimp only
          omega
        · cases hp
          dsimp only
          omega
        · cases hp

end RuleFile

namespace RuleSpec

/-- Every grammar rule that compiling accepts is well formed. -/
theorem compile_wellFormed {spec : RuleSpec} {r : Rule} (h : spec.compile E = .ok r) :
    r.WellFormed := by
  unfold compile at h
  obtain ⟨id, -, h⟩ := exists_of_bind_eq_ok h
  obtain ⟨engine, hengine, h⟩ := exists_of_bind_eq_ok h
  obtain ⟨message, hmessage, h⟩ := exists_of_bind_eq_ok h
  obtain ⟨suggesters, hsuggesters, h⟩ := exists_of_bind_eq_ok h
  obtain ⟨examples, -, h⟩ := exists_of_bind_eq_ok h
  cases h
  obtain ⟨hwf, hsize⟩ := RuleFile.compileEngine_wellFormed hengine
  refine ⟨hwf, ?_, fun s hs => ?_⟩
  · rw [hsize]
    exact Synthesizer.parse_refersWithin hmessage
  · obtain ⟨spec, -, hspec⟩ := exists_of_mapM_eq_ok hsuggesters s hs
    rw [hsize]
    exact RuleFile.compileSuggestion_refersWithin hspec

end RuleSpec

namespace BitextRuleSpec

/-- Both rules of a bitext rule that compiling accepts are well formed. -/
theorem compile_wellFormed {spec : BitextRuleSpec} {r : BitextRule}
    (h : spec.compile E = .ok r) :
    r.source.WellFormed ∧ r.target.WellFormed := by
  unfold compile at h
  obtain ⟨id, -, h⟩ := exists_of_bind_eq_ok h
  obtain ⟨source, hsource, h⟩ := exists_of_bind_eq_ok h
  obtain ⟨target, htarget, h⟩ := exists_of_bind_eq_ok h
  cases h
  exact ⟨RuleSpec.compile_wellFormed hsource, RuleSpec.compile_wellFormed htarget⟩

end BitextRuleSpec

namespace DisambiguationRuleSpec

/-- The engine of every disambiguation rule that compiling accepts is well formed. -/
theorem compile_wellFormed {spec : DisambiguationRuleSpec} {r : DisambiguationRule}
    (h : spec.compile E = .ok r) : r.engine.WellFormed := by
  unfold compile at h
  obtain ⟨engine, hengine, h⟩ := exists_of_bind_eq_ok h
  obtain ⟨action, -, h⟩ := exists_of_bind_eq_ok h
  obtain ⟨id, -, h⟩ := exists_of_bind_eq_ok h
  cases h
  exact (RuleFile.compileEngine_wellFormed hengine).1

end DisambiguationRuleSpec

end Proofreader
