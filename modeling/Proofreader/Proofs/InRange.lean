import Mathlib
import Proofreader.Proofs.WellFormed
import Proofreader.Proofs.MatchScan
import Proofreader.Regex.Backtracking

/-!
# Well-formed rules stay within the sentence

Applying a rule to a sentence reads the groups of each match and turns ranges of view tokens
back into character spans and text. Each of these steps fails with an index error when it is
asked for a group the match does not have or for a token past the end of the view, and nothing
in the types of rules keeps that from happening: a rule built in memory can refer to any group.

For well-formed rules it never happens. A match of a well-formed pattern is the greatest count
vector that fits (`Composition.firstMatch_spec`), so its graph has one group per element plus
the whole match, every group ends within the tokens, the whole match takes a token, and the
groups of the elements follow one another (`MatchGraph.Fitted`). A rule whose references stay
within its elements then reads only groups that exist, and every range it turns back into text
lies within the view. The main results are that a well-formed grammar rule fails only by running
out of its budget (`Rule.apply_eq_error_iff`), that so does a disambiguation rule with a
well-formed engine (`DisambiguationRule.apply_eq_error_iff`), and that compiled rules are such
rules (`compiled_rules_stay_in_range`).
-/

namespace Proofreader

/-! ## Computations that cannot fail -/

/-- A loop whose body succeeds on every item and state succeeds. -/
theorem forIn_ok {ε α σ : Type} {f : α → σ → Except ε (ForInStep σ)} :
    ∀ (l : List α), (∀ x ∈ l, ∀ st, ∃ r, f x st = .ok r) → ∀ init : σ,
      ∃ r, forIn l init f = .ok r
  | [], _, init => ⟨init, rfl⟩
  | x :: l, hf, init => by
    obtain ⟨r, hr⟩ := hf x List.mem_cons_self init
    rw [List.forIn_cons, hr]
    cases r with
    | done st => exact ⟨st, rfl⟩
    | yield st => exact forIn_ok l (fun y hy => hf y (List.mem_cons_of_mem x hy)) st

/-- The form of `forIn_ok` that closes the failing branch of a match on the loop. -/
theorem forIn_ne_error {ε α σ : Type} {f : α → σ → Except ε (ForInStep σ)} {l : List α}
    (hf : ∀ x ∈ l, ∀ st, ∃ r, f x st = .ok r) {init : σ} {e : ε} :
    forIn l init f ≠ .error e := by
  obtain ⟨r, hr⟩ := forIn_ok l hf init
  rw [hr]
  nofun

/-- A `mapM` whose function succeeds on every item succeeds. -/
theorem mapM_ok {ε α β : Type} {f : α → Except ε β} :
    ∀ (l : List α), (∀ x ∈ l, ∃ y, f x = .ok y) → ∃ ys, l.mapM f = .ok ys
  | [], _ => ⟨[], rfl⟩
  | x :: l, hf => by
    obtain ⟨y, hy⟩ := hf x List.mem_cons_self
    obtain ⟨ys, hys⟩ := mapM_ok l fun z hz => hf z (List.mem_cons_of_mem x hz)
    rw [List.mapM_cons, hy, hys]
    exact ⟨y :: ys, rfl⟩

/-! ## Ranges of the view -/

namespace Sentence

/-- The view of a sentence has a token for each of the indices it keeps. -/
theorem size_view_tokens (s : Sentence) : s.view.tokens.size = s.view.mapping.size := by
  simp only [view]
  rw [Array.size_filterMap_eq_countP, Array.countP_eq_size]
  -- every index the view keeps is that of a token, so none is dropped
  intro i hi
  obtain ⟨a, ha, rfl⟩ := Array.mem_iff_getElem.1 hi
  have hlt := mapping_lt (Array.getElem?_eq_getElem ha)
  simp [hlt]

end Sentence

namespace View

/-- A view index within the view has a full index. -/
theorem fullIndex_ok {v : View} {i : Nat} (h : i < v.mapping.size) :
    v.fullIndex i = .ok v.mapping[i] := by
  simp [fullIndex, h]

/-- A non-empty range within the view has a character span. -/
theorem charSpan_ok {v : View} {a b : Nat} (hab : a < b) (hb : b ≤ v.mapping.size) :
    ∃ r, v.charSpan a b = .ok r := by
  have ha : a < v.mapping.size := by omega
  have hb' : b - 1 < v.mapping.size := by omega
  simp only [charSpan, fullIndex_ok ha, fullIndex_ok hb', if_neg (Nat.not_le.2 hab)]
  exact ⟨_, rfl⟩

/-- A range that ends within the view has a text. -/
theorem text_ok {v : View} (a : Nat) {b : Nat} (hb : b ≤ v.mapping.size) :
    ∃ t, v.text a b = .ok t := by
  by_cases hab : b ≤ a
  · simp only [text, if_pos hab]
    exact ⟨_, rfl⟩
  · have ha : a < v.mapping.size := by omega
    have hb' : b - 1 < v.mapping.size := by omega
    simp only [text, if_neg hab, fullIndex_ok ha, fullIndex_ok hb']
    exact ⟨_, rfl⟩

end View

/-! ## The graphs of matches -/

namespace MatchGraph

/-- The graph of a match of a pattern of `n` elements over `size` tokens: group 0 for the whole
match and one group per element, every group ending within the tokens, the whole match taking
a token, and each element's group ending no later than those of the elements after it. -/
structure Fitted (n size : Nat) (g : MatchGraph) : Prop where
  groups_size : g.groups.size = n + 1
  within : ∀ i s, g.group? i = some s → s.2 ≤ size
  whole : g.span.1 < g.span.2
  ordered : ∀ i j s t, 1 ≤ i → i ≤ j → g.group? i = some s → g.group? j = some t → s.2 ≤ t.2

namespace Fitted

variable {n size : Nat} {g : MatchGraph}

/-- A fitted graph has every group up to the number of elements. -/
theorem group?_eq_some (hg : g.Fitted n size) {i : Nat} (hi : i ≤ n) :
    ∃ s, g.group? i = some s := by
  have hlt : i < g.groups.size := by
    rw [hg.groups_size]
    omega
  exact ⟨g.groups[i], Array.getElem?_eq_getElem hlt⟩

/-- The whole match of a fitted graph ends within the tokens. -/
theorem span_le (hg : g.Fitted n size) : g.span.2 ≤ size := by
  obtain ⟨s, hs⟩ := hg.group?_eq_some (Nat.zero_le n)
  have hspan : g.span = s := by rw [span, hs, Option.getD_some]
  rw [hspan]
  exact hg.within 0 s hs

end Fitted

end MatchGraph

/-- Slots placed one after another keep their count, start at or after where they are placed and
end by the sum of the counts. -/
theorem slots_length : ∀ (p : Nat) (cs : List Nat), (slots p cs).length = cs.length
  | _, [] => rfl
  | p, x :: cs => by rw [slots, List.length_cons, slots_length (p + x) cs, List.length_cons]

theorem slots_bounds : ∀ (p : Nat) (cs : List Nat),
    ∀ s ∈ slots p cs, p ≤ s.1 ∧ s.1 ≤ s.2 ∧ s.2 ≤ p + cs.sum
  | _, [], s, hs => by cases hs
  | p, x :: cs, s, hs => by
    rw [slots] at hs
    rcases List.mem_cons.1 hs with rfl | hs
    · simp only [List.sum_cons]
      omega
    · have := slots_bounds (p + x) cs s hs
      simp only [List.sum_cons]
      omega

/-- Each slot ends where the slots after it can start at the earliest. -/
theorem slots_sorted : ∀ (p : Nat) (cs : List Nat), (slots p cs).Pairwise fun s t => s.2 ≤ t.1
  | _, [] => List.Pairwise.nil
  | p, x :: cs => by
    rw [slots]
    exact List.Pairwise.cons (fun t ht => (slots_bounds (p + x) cs t ht).1) (slots_sorted (p + x) cs)

namespace Composition

variable {c : Composition} {tokens : Array Token} {start : Nat}

/-- Counts that fit the parts after those placed give one count to each remaining part. -/
theorem FitsFrom.length_add {cs : List Nat} :
    ∀ {placed : List (Nat × Nat)} {p : Nat}, c.FitsFrom tokens start placed p cs →
      placed.length + cs.length = c.parts.size := by
  induction cs with
  | nil =>
    intro placed p h
    simpa [FitsFrom] using h
  | cons x rest ih =>
    intro placed p h
    obtain ⟨-, -, -, -, -, hrest⟩ := h
    have := ih hrest
    simp only [List.length_append, List.length_singleton] at this
    simp only [List.length_cons]
    omega

/-- Counts that fit take tokens up to the end at most. -/
theorem FitsFrom.sum_le {cs : List Nat} :
    ∀ {placed : List (Nat × Nat)} {p : Nat}, c.FitsFrom tokens start placed p cs →
      p ≤ tokens.size → p + cs.sum ≤ tokens.size := by
  induction cs with
  | nil =>
    intro placed p _ hp
    simpa using hp
  | cons x rest ih =>
    intro placed p h _
    obtain ⟨-, -, -, hx, -, hrest⟩ := h
    have := ih hrest hx
    simp only [List.sum_cons]
    omega

/-- The group `i` of a graph laid out from the whole match and the slots of the parts. -/
theorem group?_laid (whole : Nat × Nat) (slots : List (Nat × Nat)) (i : Nat) :
    (⟨(whole :: slots).toArray, tokens⟩ : MatchGraph).group? i =
      if i = 0 then some whole else slots[i - 1]? := by
  cases i with
  | zero => rfl
  | succ i => simp [MatchGraph.group?]

/-- The first match of a well-formed pattern at a position within the tokens is fitted: it is
laid out from the greatest count vector that fits. -/
theorem firstMatch_fitted (hc : c.WellFormed) (hstart : start ≤ tokens.size) {g : MatchGraph}
    (h : c.firstMatch tokens start = some g) : g.Fitted c.parts.size tokens.size := by
  obtain ⟨cs, hfits, -, hpos, rfl⟩ :=
    (firstMatch_spec hc.make_eq hc.backReferencesEarlier hstart).1 g h
  have hlen := FitsFrom.length_add hfits
  have hsum := FitsFrom.sum_le hfits hstart
  rw [List.length_nil, Nat.zero_add] at hlen
  refine ⟨?_, fun i s hs => ?_, ?_, fun i j s t hi hij hs ht => ?_⟩
  · simp [slots_length, hlen]
  · rw [group?_laid] at hs
    split at hs
    · cases hs
      exact hsum
    · have hmem := List.mem_of_getElem? hs
      have := slots_bounds start cs s hmem
      omega
  · rw [MatchGraph.span, group?_laid, if_pos rfl, Option.getD_some]
    dsimp only
    omega
  · rw [group?_laid, if_neg (by omega)] at hs ht
    -- two slots in order: the first ends before the second starts
    obtain ⟨hi', rfl⟩ := List.getElem?_eq_some_iff.1 hs
    obtain ⟨hj', rfl⟩ := List.getElem?_eq_some_iff.1 ht
    rcases Nat.lt_or_eq_of_le hij with hlt | rfl
    · have hle := List.pairwise_iff_getElem.1 (slots_sorted start cs) (i - 1) (j - 1) hi' hj'
        (by omega)
      have := slots_bounds start cs _ (List.getElem_mem hj')
      omega
    · exact Nat.le_refl _

end Composition

namespace Engine

/-- Every match of an engine with a well-formed pattern is fitted. -/
theorem findMatches_fitted {e : Engine} (he : e.composition.WellFormed) {tokens : Array Token}
    {findAll : Bool} {b : StepBudget} {gs : List MatchGraph}
    (h : (e.findMatches tokens findAll b).1 = .done gs) :
    ∀ g ∈ gs, g.Fitted e.composition.parts.size tokens.size := by
  intro g hg
  obtain ⟨j, hj, hm⟩ := findMatches_found h g hg
  exact Composition.firstMatch_fitted he (Nat.le_of_lt hj) hm

end Engine

/-! ## Messages and replacements -/

variable {n : Nat} {g : MatchGraph} {view : View}

namespace GroupRef

/-- A reference to a group a fitted graph has gives its candidates: the group exists and its
text lies within the view. -/
theorem candidates_ok {r : GroupRef} (hr : r.id ≤ n) (hg : g.Fitted n view.mapping.size)
    (inflect : Inflector) : ∃ l, r.candidates g view inflect = .ok l := by
  obtain ⟨span, hspan⟩ := hg.group?_eq_some hr
  have hend := hg.within r.id span hspan
  unfold candidates
  rw [hspan]
  dsimp only
  cases r.inflect with
  | none =>
    obtain ⟨t, ht⟩ := view.text_ok span.1 hend
    rw [ht]
    exact ⟨_, rfl⟩
  | some tag =>
    dsimp only
    split
    · exact ⟨_, rfl⟩
    · exact ⟨_, rfl⟩

end GroupRef

namespace Synthesizer

/-- A synthesizer that refers only to groups of a fitted graph builds its texts: each reference
gives its candidates, and the rest is assembling them. -/
theorem apply_ok {s : Synthesizer} (hs : s.RefersWithin n) (hg : g.Fitted n view.mapping.size)
    (inflect : Inflector) (firstGroup : Nat) : ∃ l, s.apply g view inflect firstGroup = .ok l := by
  unfold apply
  simp only [bind, Except.bind]
  split
  · rename_i err hloop
    refine absurd hloop (forIn_ne_error fun p hp st => ?_)
    -- each piece succeeds: a literal text always, a reference by `candidates_ok`
    cases p with
    | text t => exact ⟨_, rfl⟩
    | ref r =>
      obtain ⟨l, hl⟩ := GroupRef.candidates_ok (hs r hp) hg inflect
      dsimp only
      rw [hl]
      dsimp only
      split
      · exact ⟨_, rfl⟩
      · exact ⟨_, rfl⟩
  · split
    · exact ⟨_, rfl⟩
    · exact ⟨_, rfl⟩

end Synthesizer

namespace Rule

/-- A grammar rule fails on a sentence only by running out of its step budget. -/
def FailsOnlyByBudget (r : Rule) : Prop :=
  ∀ (s : Sentence) (inflect : Inflector) (err : Error),
    r.apply s inflect = .error err → err = .tooComplex r.id.text r.stepBudget

/-- The reported span of a match of a fitted graph is a non-empty range within the view: the
marked groups that took tokens, in order, or the whole match. -/
theorem markedSpan_within {r : Rule} {size : Nat}
    (hg : g.Fitted r.engine.composition.parts.size size) :
    (r.markedSpan g).2.1 < (r.markedSpan g).2.2 ∧ (r.markedSpan g).2.2 ≤ size := by
  unfold markedSpan
  dsimp only
  split
  · rename_i first rest hmarked
    -- the marked groups are numbered in increasing order, each with a non-empty span
    have hsorted : (first :: rest).Pairwise (· < ·) := by
      rw [← hmarked, List.pairwise_map]
      exact List.Pairwise.filter _ List.pairwise_lt_range |>.imp fun h => by omega
    have hmem : ∀ x ∈ first :: rest, 1 ≤ x ∧ ∃ s, g.group? x = some s ∧ s.1 < s.2 := by
      intro x hx
      rw [← hmarked] at hx
      simp only [List.mem_map, List.mem_filter, List.mem_range, Bool.and_eq_true] at hx
      obtain ⟨i, ⟨-, -, hgroup⟩, rfl⟩ := hx
      refine ⟨by omega, ?_⟩
      split at hgroup
      · rename_i s hs
        simp only [MatchGraph.spanIsEmpty, Bool.not_eq_eq_eq_not, Bool.not_true,
          decide_eq_false_iff_not, Nat.not_le] at hgroup
        exact ⟨s, hs, hgroup⟩
      · cases hgroup
    obtain ⟨hfirst1, s, hs, hs'⟩ := hmem first List.mem_cons_self
    -- the last marked group comes no earlier than the first
    have hlast : rest.getLast?.getD first ∈ first :: rest ∧ first ≤ rest.getLast?.getD first := by
      cases hl : rest.getLast? with
      | none => exact ⟨List.mem_cons_self, Nat.le_refl _⟩
      | some l =>
        have hl' := List.mem_of_getLast? hl
        exact ⟨List.mem_cons_of_mem first hl',
          Nat.le_of_lt (List.rel_of_pairwise_cons hsorted hl')⟩
    obtain ⟨-, t, ht, -⟩ := hmem _ hlast.1
    have hst := hg.ordered first _ s t hfirst1 hlast.2 hs ht
    have htend := hg.within _ t ht
    simp only [hs, ht, Option.map_some, Option.getD_some]
    omega
  · exact ⟨hg.whole, hg.span_le⟩

/-- A well-formed rule reports a fitted match: its span lies within the view, and its message
and replacements are built. -/
theorem suggestionFor_ok {r : Rule} (hr : r.WellFormed)
    (hg : g.Fitted r.engine.composition.parts.size view.mapping.size) (inflect : Inflector) :
    ∃ s, r.suggestionFor view inflect g = .ok s := by
  obtain ⟨hab, hb⟩ := markedSpan_within hg
  obtain ⟨span, hspan⟩ := View.charSpan_ok hab hb
  obtain ⟨message, hmessage⟩ := Synthesizer.apply_ok hr.message hg inflect (r.markedSpan g).1
  unfold suggestionFor
  simp only [bind, Except.bind, hspan, hmessage]
  split
  · rename_i err hloop
    -- every suggester builds its texts, and collecting them cannot fail
    refine absurd hloop (forIn_ne_error fun s hs st => ?_)
    obtain ⟨texts, htexts⟩ := Synthesizer.apply_ok (hr.suggesters s hs) hg inflect
      (r.markedSpan g).1
    rw [htexts]
    dsimp only
    split
    · rename_i err hinner
      refine absurd hinner (forIn_ne_error fun rep _ st => ?_)
      split
      · exact ⟨_, rfl⟩
      · exact ⟨_, rfl⟩
    · exact ⟨_, rfl⟩
  · exact ⟨_, rfl⟩

/-- Every match a rule with a well-formed pattern finds in a sentence is fitted to its view. -/
theorem matches_fitted {r : Rule} (hr : r.WellFormed) {s : Sentence} {findAll : Bool}
    {b : StepBudget} {gs : List MatchGraph}
    (h : (r.engine.findMatches s.view.tokens findAll b).1 = .done gs) :
    ∀ g ∈ gs, g.Fitted r.engine.composition.parts.size s.view.mapping.size := by
  rw [← s.size_view_tokens]
  exact Engine.findMatches_fitted hr.engine.composition h

/-- A well-formed grammar rule fails on a sentence only when its search runs out of budget, and
then with the error that names the rule and its budget. -/
theorem apply_eq_error_iff {r : Rule} (hr : r.WellFormed) (s : Sentence) (inflect : Inflector)
    (err : Error) :
    r.apply s inflect = .error err ↔
      (r.engine.findMatches s.view.tokens r.findAll (.fresh r.stepBudget)).1 = .exceeded ∧
        err = .tooComplex r.id.text r.stepBudget := by
  unfold apply matchesIn
  rcases hm : r.engine.findMatches s.view.tokens r.findAll (.fresh r.stepBudget) with
    ⟨gs | _, used⟩
  · -- the matches were found: each one gives its suggestion
    have hfit := matches_fitted hr (congrArg Prod.fst hm)
    obtain ⟨ss, hss⟩ := mapM_ok gs fun g hg => suggestionFor_ok hr (hfit g hg) inflect
    simp only [hm, bind, Except.bind, hss]
    simp
  · simp only [hm, bind, Except.bind]
    simp [eq_comm]

theorem failsOnlyByBudget_of_wellFormed {r : Rule} (hr : r.WellFormed) : r.FailsOnlyByBudget :=
  fun s inflect err h => ((apply_eq_error_iff hr s inflect err).1 h).2

end Rule

namespace DisambiguationRule

/-- A disambiguation rule fails on a sentence only by running out of its step budget. -/
def FailsOnlyByBudget (r : DisambiguationRule) : Prop :=
  ∀ (s : Sentence) (err : Error), r.apply s = .error err → err = .tooComplex r.id.text r.stepBudget

/-- The tokens a disambiguation rule changes for a fitted match lie within the view: those of
the marked groups, or of the whole match. -/
theorem markedIndices_lt {r : DisambiguationRule} {size : Nat}
    (hg : g.Fitted r.engine.composition.parts.size size) :
    ∀ i ∈ r.markedIndices g, i < size := by
  intro i hi
  unfold markedIndices at hi
  dsimp only at hi
  split at hi
  · simp only [List.mem_flatMap, List.mem_filter, List.mem_range] at hi
    obtain ⟨k, -, hk⟩ := hi
    split at hk
    · rename_i span hspan
      have hend := hg.within (k + 1) span hspan
      simp only [List.mem_map, List.mem_range] at hk
      omega
    · cases hk
  · have hend := hg.span_le
    simp only [List.mem_map, List.mem_range] at hi
    omega

/-- Changing the readings of tokens within the view succeeds. -/
theorem changeAll_ok (r : DisambiguationRule) {view : View} :
    ∀ (indices : List Nat), (∀ i ∈ indices, i < view.mapping.size) →
      ∀ tokens, ∃ t, r.changeAll view indices tokens = .ok t
  | [], _, tokens => ⟨tokens, rfl⟩
  | i :: rest, hlt, tokens => by
    have hrest := changeAll_ok r rest fun k hk => hlt k (List.mem_cons_of_mem i hk)
    rw [changeAll, View.fullIndex_ok (hlt i List.mem_cons_self)]
    dsimp only [bind, Except.bind]
    split
    · exact hrest _
    · exact hrest _

/-- A disambiguation rule with a well-formed pattern fails on a sentence only when its search runs
out of budget, and then with the error that names the rule and its budget. -/
theorem apply_eq_error_iff {r : DisambiguationRule} (he : r.engine.composition.WellFormed)
    (s : Sentence) (err : Error) :
    r.apply s = .error err ↔
      (r.engine.findMatches s.view.tokens true (.fresh r.stepBudget)).1 = .exceeded ∧
        err = .tooComplex r.id.text r.stepBudget := by
  unfold apply
  rcases hm : r.engine.findMatches s.view.tokens true (.fresh r.stepBudget) with
    ⟨gs | _, used⟩
  · -- every marked index of every match lies within the view
    have hfit := Engine.findMatches_fitted he (congrArg Prod.fst hm)
    rw [s.size_view_tokens] at hfit
    have hlt : ∀ i ∈ gs.flatMap r.markedIndices, i < s.view.mapping.size := by
      intro i hi
      obtain ⟨g, hg, hi⟩ := List.mem_flatMap.1 hi
      exact markedIndices_lt (hfit g hg) i hi
    obtain ⟨t, ht⟩ := r.changeAll_ok _ hlt s.tokens
    simp only [hm, bind, Except.bind, pure, Except.pure, ht]
    simp
  · simp only [hm, bind, Except.bind, throw, throwThe, MonadExceptOf.throw]
    simp [eq_comm]

theorem failsOnlyByBudget_of_wellFormed {r : DisambiguationRule}
    (he : r.engine.composition.WellFormed) : r.FailsOnlyByBudget :=
  fun s err h => ((apply_eq_error_iff he s err).1 h).2

end DisambiguationRule

/-! ## Compiled rules -/

/-- Every rule a rule file compiles to is well formed (patterns that can match, quantifiers that
allow a token, back-references to earlier elements, messages and suggestions that refer to the
pattern's groups), and so fails on a sentence only by running out of its step budget: grammar
rules, the two sides of bitext rules and disambiguation rules alike. -/
theorem compiled_rules_stay_in_range (E : RegexEngine) :
    (∀ (spec : RuleSpec) (r : Rule), spec.compile E = .ok r →
      r.WellFormed ∧ r.FailsOnlyByBudget) ∧
    (∀ (spec : BitextRuleSpec) (r : BitextRule), spec.compile E = .ok r →
      (r.source.WellFormed ∧ r.source.FailsOnlyByBudget) ∧
        (r.target.WellFormed ∧ r.target.FailsOnlyByBudget)) ∧
    (∀ (spec : DisambiguationRuleSpec) (r : DisambiguationRule), spec.compile E = .ok r →
      r.engine.WellFormed ∧ r.FailsOnlyByBudget) := by
  refine ⟨fun spec r h => ?_, fun spec r h => ?_, fun spec r h => ?_⟩
  · have hr := RuleSpec.compile_wellFormed h
    exact ⟨hr, Rule.failsOnlyByBudget_of_wellFormed hr⟩
  · obtain ⟨hsource, htarget⟩ := BitextRuleSpec.compile_wellFormed h
    exact ⟨⟨hsource, Rule.failsOnlyByBudget_of_wellFormed hsource⟩,
      ⟨htarget, Rule.failsOnlyByBudget_of_wellFormed htarget⟩⟩
  · have he := DisambiguationRuleSpec.compile_wellFormed h
    exact ⟨he, DisambiguationRule.failsOnlyByBudget_of_wellFormed he.composition⟩

/-- A grammar rule of one plain token. -/
def singleTokenRule : RuleSpec := { id := "A/B", message := "", pattern := [{ token := {} }] }

/-- Rules of each kind built from a single token compile, and so stay within range. -/
theorem single_token_rules_stay_in_range :
    (∃ r, singleTokenRule.compile Regex.backtracking = .ok r ∧ r.WellFormed ∧
      r.FailsOnlyByBudget) ∧
    (∃ r, ({ id := "A/C", source := singleTokenRule, target := singleTokenRule } :
        BitextRuleSpec).compile Regex.backtracking = .ok r ∧ r.source.WellFormed ∧
      r.target.WellFormed) ∧
    (∃ r, ({ id := "A/D", pattern := [{ token := {} }], action := .replace "a" "N" } :
        DisambiguationRuleSpec).compile Regex.backtracking = .ok r ∧ r.engine.WellFormed ∧
      r.FailsOnlyByBudget) := by
  have hrule : (singleTokenRule.compile Regex.backtracking).toBool = true := by cbv
  have hbitext : (({ id := "A/C", source := singleTokenRule, target := singleTokenRule } :
      BitextRuleSpec).compile Regex.backtracking).toBool = true := by cbv
  have hdis : (({ id := "A/D", pattern := [{ token := {} }], action := .replace "a" "N" } :
      DisambiguationRuleSpec).compile Regex.backtracking).toBool = true := by cbv
  refine ⟨?_, ?_, ?_⟩
  · obtain ⟨r, h⟩ := exists_eq_ok_of_toBool hrule
    exact ⟨r, h, (compiled_rules_stay_in_range Regex.backtracking).1 _ r h⟩
  · obtain ⟨r, h⟩ := exists_eq_ok_of_toBool hbitext
    obtain ⟨⟨hs, -⟩, ⟨ht, -⟩⟩ :=
      (compiled_rules_stay_in_range Regex.backtracking).2.1 _ r h
    exact ⟨r, h, hs, ht⟩
  · obtain ⟨r, h⟩ := exists_eq_ok_of_toBool hdis
    exact ⟨r, h, (compiled_rules_stay_in_range Regex.backtracking).2.2 _ r h⟩

end Proofreader
