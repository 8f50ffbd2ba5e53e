import Mathlib
import Proofreader.Proofs.InRange

/-!
# The span a rule reports

A rule reports a match with the character span of the parts of its pattern that are marked and
took tokens: from the start of the first token of the first such part to the end of the last
token of the last one. When no marked part took a token it reports the whole match.

The main statement, `Rule.apply_reports_marked_span`, says this of every suggestion a rule makes
on a sentence, against the match the engine returned for it: the span is read off the first and
the last marked parts that took tokens (`Rule.MarkedTook`), so marked parts that took nothing
never move it, and every part between those two, marked or not, lies inside it.

The last point needs the shape of the engine's matches. Whatever the pattern, the first match
at a position is laid out as the whole match followed by one group per part, the groups one
after another (`Composition.firstMatch_laid`): the search, from any depth, leaves the groups of
the parts above it as they were and, when it completes a match, the slots of the counts it
settled on after them (`Composition.Lays`).
-/

namespace Proofreader

/-! ## How the search lays out the groups -/

namespace Composition

/-- Setting group `i` of a graph sets entry `i` of its list of groups. -/
theorem setGroup_toList (g : MatchGraph) (i : Nat) (s : Nat × Nat) :
    (setGroup g i s).groups.toList = g.groups.toList.set i s := by
  simp [setGroup, Array.set!, Array.toList_setIfInBounds]

/-- What the search from a part at depth `k` leaves of the graph `g` it starts from, on its way
to completing the match with `d` parts from position `p`: the same tokens and number of
groups, the groups up to `k` as they were, and on a completed match the slots of `d` counts laid
one after another from `p` to where the match stops. -/
structure Lays (k d p : Nat) (g : MatchGraph) (P : Probe) : Prop where
  tokens : P.graph.tokens = g.tokens
  size : P.graph.groups.size = g.groups.size
  frame : P.graph.groups.toList.take (k + 1) = g.groups.toList.take (k + 1)
  done : ∀ s, P.stop = some s → ∃ cs, cs.length = d ∧ p + cs.sum = s ∧
    P.graph.groups.toList = g.groups.toList.take (k + 1) ++ slots p cs

namespace Lays

variable {k d p : Nat} {g g' : MatchGraph} {P : Probe}

/-- Spending steps first lays out the same groups. -/
theorem after (h : Lays k d p g P) (n : Nat) : Lays k d p g (P.after n) :=
  ⟨h.tokens, h.size, h.frame, h.done⟩

/-- A search from a graph that agrees with `g` on the tokens and the groups up to `k` lays out
from `g` what it lays out from that graph. -/
theorem of_frame (h : Lays k d p g' P) (htokens : g'.tokens = g.tokens)
    (hsize : g'.groups.size = g.groups.size)
    (hframe : g'.groups.toList.take (k + 1) = g.groups.toList.take (k + 1)) : Lays k d p g P := by
  refine ⟨h.tokens.trans htokens, h.size.trans hsize, h.frame.trans hframe, fun s hs => ?_⟩
  obtain ⟨cs, hlen, hsum, hgroups⟩ := h.done s hs
  exact ⟨cs, hlen, hsum, by rw [hgroups, hframe]⟩

/-- A search from depth `k + 1` keeps in particular the groups up to `k`. -/
theorem frame_below (h : Lays (k + 1) d p g P) :
    P.graph.groups.toList.take (k + 1) = g.groups.toList.take (k + 1) := by
  have := congrArg (List.take (k + 1)) h.frame
  simpa [List.take_take] using this

/-- Setting its own group `k + 1` afterwards keeps those groups too. -/
theorem frame_setGroup (h : Lays (k + 1) d p g P) (s : Nat × Nat) :
    (setGroup P.graph (k + 1) s).groups.toList.take (k + 1) = g.groups.toList.take (k + 1) := by
  rw [setGroup_toList, List.take_set_of_le (Nat.le_refl _)]
  exact h.frame_below

/-- A search that gives up and leaves its own group `k + 1` set to something lays out nothing
and keeps the groups up to `k`. -/
theorem give_up {child : Probe} (hchild : Lays (k + 1) d' q g child) (hnone : child.stop = none)
    (s : Nat × Nat) :
    Lays k d p g { child with graph := setGroup child.graph (k + 1) s } :=
  ⟨hchild.tokens, by simp [hchild.size], hchild.frame_setGroup s, fun t ht => by simp [hnone] at ht⟩

end Lays

variable {c : Composition} {tokens : Array Token}

/-- Trying the counts of part `k` from `cnt` down, from a graph whose group `k + 1` holds the
current count, lays out the part's slot and those of the `d` parts after it, provided the
search of the parts after it lays them out from wherever it starts. -/
theorem tryCounts_lays {child : MatchGraph → Nat → Probe} {k p least d N : Nat}
    (hk : k + 1 < N)
    (hchild : ∀ g q, g.groups.size = N → Lays (k + 1) d q g (child g q)) :
    ∀ cnt g, g.groups.size = N → g.groups.toList[k + 1]? = some (p, p + cnt) →
      Lays k (d + 1) p g (tryCounts child k p least cnt g) := by
  -- a completed match of the parts after `k` puts the slot of `k` before their slots
  have hfound : ∀ cnt g s, g.groups.size = N → g.groups.toList[k + 1]? = some (p, p + cnt) →
      (child g (p + cnt)).stop = some s → Lays k (d + 1) p g (child g (p + cnt)) := by
    intro cnt g s hg hslot hs
    have hc := hchild g (p + cnt) hg
    refine ⟨hc.tokens, hc.size, hc.frame_below, fun t ht => ?_⟩
    obtain ⟨cs, hlen, hsum, hgroups⟩ := hc.done t ht
    refine ⟨cnt :: cs, by simp [hlen], by simp only [List.sum_cons]; omega, ?_⟩
    rw [hgroups, List.take_add_one, hslot, Option.toList_some, slots, List.append_assoc,
      List.singleton_append]
  intro cnt
  induction cnt with
  | zero =>
    intro g hg hslot
    cases hR : (child g (p + 0)).stop with
    | some s =>
      rw [tryCounts.eq_1 _ _ _ _ _ _ _ hR]
      exact hfound 0 g s hg hslot hR
    | none =>
      rw [tryCounts.eq_3 _ _ _ _ _ hR]
      exact (hchild g (p + 0) hg).give_up hR _
  | succ cnt ih =>
    intro g hg hslot
    cases hR : (child g (p + (cnt + 1))).stop with
    | some s =>
      rw [tryCounts.eq_1 _ _ _ _ _ _ _ hR]
      exact hfound (cnt + 1) g s hg hslot hR
    | none =>
      have hc := hchild g (p + (cnt + 1)) hg
      rw [tryCounts.eq_2 _ _ _ _ _ _ hR]
      split
      · -- one token fewer: the next try starts from the graph the failed one left, with the
        -- part's group set to the smaller count
        have hsize : (setGroup (child g (p + (cnt + 1))).graph (k + 1) (p, p + cnt)).groups.size
            = N := by simp [hc.size, hg]
        have hnext := ih _ hsize (by
          rw [setGroup_toList, List.getElem?_set_self (by simp [hc.size, hg]; omega)])
        exact (hnext.after _).of_frame (by simp [setGroup, hc.tokens]) (by rw [hsize, hg])
          (hc.frame_setGroup _)
      · exact hc.give_up hR _

/-- The search with `d` parts left lays out their slots from where it starts. -/
theorem explore_lays :
    ∀ (d : Nat) (g : MatchGraph) (p : Nat), d ≤ c.parts.size →
      g.groups.size = c.parts.size + 1 →
      Lays (c.parts.size - d) d p g (c.explore tokens d g p)
  | 0, g, p, _, hg => by
    refine ⟨rfl, rfl, rfl, fun s hs => ⟨[], rfl, ?_, ?_⟩⟩
    · simp only [explore, Option.some.injEq] at hs
      simp [hs]
    · rw [explore, Nat.sub_zero, List.take_of_length_le (by simp [hg]), slots, List.append_nil]
  | d + 1, g, p, hd, hg => by
    have hk : c.parts.size - d = c.parts.size - (d + 1) + 1 := by omega
    rw [explore]
    split
    · -- the part takes its greedy count, then tries fewer, each with the parts after it
      refine (tryCounts_lays (N := c.parts.size + 1) (by omega) (fun g' q hg' => ?_) _ _
        (by simp [hg]) ?_).after _ |>.of_frame (by simp [setGroup]) (by simp) ?_
      · have := explore_lays d g' q (by omega) hg'
        rw [hk] at this
        exact this
      · rw [setGroup_toList, List.getElem?_set_self (by simp [hg]; omega)]
      · rw [setGroup_toList, List.take_set_of_le (Nat.le_refl _)]
    · refine ⟨rfl, rfl, rfl, fun s hs => ?_⟩
      cases hs

/-- The graph the search starts from has one empty group at the start for the whole match and
for each part. -/
theorem initialGraph_toList (start : Nat) :
    (c.initialGraph tokens start).groups.toList = List.replicate (c.parts.size + 1) (start, start) :=
  by simp [initialGraph]

/-- Whatever the pattern, the first match at a position is laid out as the whole match followed
by one group per part, one after another from the position; it takes a token. -/
theorem firstMatch_laid {start : Nat} {g : MatchGraph} (h : c.firstMatch tokens start = some g) :
    ∃ cs, cs.length = c.parts.size ∧ 0 < cs.sum ∧
      g = ⟨((start, start + cs.sum) :: slots start cs).toArray, tokens⟩ := by
  have hl := @explore_lays c tokens c.parts.size (c.initialGraph tokens start) start
    (Nat.le_refl _) (by simp [initialGraph])
  rw [Nat.sub_self] at hl
  simp only [firstMatch] at h
  cases hP : (c.explore tokens c.parts.size (c.initialGraph tokens start) start).stop with
  | none =>
    rw [hP] at h
    cases h
  | some stop =>
    rw [hP] at h
    obtain ⟨cs, hlen, hsum, hgroups⟩ := hl.done stop hP
    simp only [completed] at h
    split at h
    · cases h
    · rename_i hne
      cases h
      refine ⟨cs, hlen, by omega, ?_⟩
      -- group 0 is set to the span of the match, the groups after it are the slots
      have hgs : (setGroup (c.explore tokens c.parts.size (c.initialGraph tokens start)
          start).graph 0 (start, stop)).groups =
          ((start, start + cs.sum) :: slots start cs).toArray := by
        apply Array.ext'
        rw [setGroup_toList, hgroups, initialGraph_toList, List.replicate_succ, List.take_succ_cons,
          List.take_zero, List.singleton_append, List.set_cons_zero, hsum, List.toList_toArray]
      have htok : (setGroup (c.explore tokens c.parts.size (c.initialGraph tokens start)
          start).graph 0 (start, stop)).tokens = tokens := hl.tokens
      generalize setGroup (c.explore tokens c.parts.size (c.initialGraph tokens start)
        start).graph 0 (start, stop) = G at hgs htok ⊢
      cases G
      simp only at hgs htok
      rw [hgs, htok]

end Composition

namespace Engine

/-- Every match an engine returns is laid out as the whole match followed by one group per
part of its pattern, one after another. -/
theorem findMatches_laid {e : Engine} {tokens : Array Token} {findAll : Bool} {b : StepBudget}
    {gs : List MatchGraph} (h : (e.findMatches tokens findAll b).1 = .done gs) :
    ∀ g ∈ gs, ∃ start cs, cs.length = e.composition.parts.size ∧ 0 < cs.sum ∧
      g = ⟨((start, start + cs.sum) :: slots start cs).toArray, tokens⟩ := by
  intro g hg
  obtain ⟨j, -, hm⟩ := findMatches_found h g hg
  exact ⟨j, Composition.firstMatch_laid hm⟩

end Engine

/-- Of slots laid one after another, an earlier one starts and ends no later than a later one. -/
theorem slots_mono (p : Nat) (cs : List Nat) {i j : Nat} {a b : Nat × Nat}
    (ha : (slots p cs)[i]? = some a) (hb : (slots p cs)[j]? = some b) (hij : i ≤ j) :
    a.1 ≤ b.1 ∧ a.2 ≤ b.2 := by
  obtain ⟨hi, rfl⟩ := List.getElem?_eq_some_iff.1 ha
  obtain ⟨hj, rfl⟩ := List.getElem?_eq_some_iff.1 hb
  have hai := slots_bounds p cs _ (List.getElem_mem hi)
  have hbj := slots_bounds p cs _ (List.getElem_mem hj)
  rcases Nat.lt_or_eq_of_le hij with hlt | rfl
  · -- the earlier slot ends where the later one can start at the earliest
    have := List.pairwise_iff_getElem.1 (slots_sorted p cs) i j hi hj hlt
    omega
  · exact ⟨Nat.le_refl _, Nat.le_refl _⟩

/-! ## The reported span -/

/-- In a list of increasing numbers, the first is at most every member and the last at least. -/
theorem head_le_of_pairwise_lt {f : Nat} {rest : List Nat} (h : (f :: rest).Pairwise (· < ·))
    {x : Nat} (hx : x ∈ f :: rest) : f ≤ x ∧ x ≤ rest.getLast?.getD f := by
  induction rest generalizing f x with
  | nil =>
    rw [List.mem_singleton] at hx
    subst hx
    exact ⟨Nat.le_refl _, Nat.le_refl _⟩
  | cons y ys ih =>
    obtain ⟨hf, hrest⟩ := List.pairwise_cons.1 h
    have hfy := hf y List.mem_cons_self
    rw [List.getLast?_cons, Option.getD_some]
    rcases List.mem_cons.1 hx with rfl | hx
    · exact ⟨Nat.le_refl _, Nat.le_trans (Nat.le_of_lt hfy) (ih hrest List.mem_cons_self).2⟩
    · have := ih hrest hx
      exact ⟨by omega, this.2⟩

namespace Rule

/-- Part `k` of the rule's pattern is marked and took at least one token in the match. -/
def MarkedTook (r : Rule) (g : MatchGraph) (k : Nat) : Prop :=
  k < r.engine.composition.parts.size ∧ (r.engine.composition.part k).marker = true ∧
    ∃ x y, g.group? (k + 1) = some (x, y) ∧ x < y

/-- The test the reported span picks parts by: marked, and its group took a token. -/
def tookMarked (r : Rule) (g : MatchGraph) (i : Nat) : Bool :=
  (r.engine.composition.part i).marker &&
    match g.group? (i + 1) with
    | some s => !MatchGraph.spanIsEmpty s
    | none => false

theorem markedSpan_eq (r : Rule) (g : MatchGraph) :
    r.markedSpan g =
      match ((List.range r.engine.composition.parts.size).filter (r.tookMarked g)).map (· + 1)
      with
      | first :: rest =>
        (first, (((g.group? first).map (·.1)).getD 0,
          ((g.group? (rest.getLast?.getD first)).map (·.2)).getD 0))
      | [] => (1, g.span) := rfl

/-- The parts the reported span is read off are the marked parts that took a token. -/
theorem mem_filter_tookMarked {r : Rule} {g : MatchGraph} {k : Nat} :
    k ∈ (List.range r.engine.composition.parts.size).filter (r.tookMarked g) ↔
      r.MarkedTook g k := by
  simp only [List.mem_filter, List.mem_range, tookMarked, MarkedTook, Bool.and_eq_true]
  cases hk : g.group? (k + 1) with
  | none => simp
  | some s =>
    obtain ⟨x, y⟩ := s
    simp [MatchGraph.spanIsEmpty]

/-- When no marked part took a token, the span is that of the whole match. -/
theorem markedSpan_of_none {r : Rule} {g : MatchGraph} (h : ∀ k, ¬r.MarkedTook g k) :
    (r.markedSpan g).2 = g.span := by
  rw [markedSpan_eq]
  have hnil : (List.range r.engine.composition.parts.size).filter (r.tookMarked g) = [] :=
    List.eq_nil_iff_forall_not_mem.2 fun k hk => h k (mem_filter_tookMarked.1 hk)
  rw [hnil]
  rfl

/-- When some marked part took a token, the span runs from the first position of the group of
the first such part to the end of the group of the last. -/
theorem markedSpan_of_least {r : Rule} {g : MatchGraph} {k₁ k₂ : Nat}
    (h₁ : IsLeast {k | r.MarkedTook g k} k₁) (h₂ : IsGreatest {k | r.MarkedTook g k} k₂) :
    (r.markedSpan g).2 =
      (((g.group? (k₁ + 1)).map (·.1)).getD 0, ((g.group? (k₂ + 1)).map (·.2)).getD 0) := by
  rw [markedSpan_eq]
  have hsorted : ((List.range r.engine.composition.parts.size).filter (r.tookMarked g)).Pairwise
      (· < ·) := List.pairwise_lt_range.filter _
  have hmem : ∀ k, k ∈ (List.range r.engine.composition.parts.size).filter (r.tookMarked g) ↔
      r.MarkedTook g k := fun k => mem_filter_tookMarked
  generalize (List.range r.engine.composition.parts.size).filter (r.tookMarked g) = F
    at hsorted hmem
  cases F with
  | nil => exact absurd ((hmem k₁).2 h₁.1) List.not_mem_nil
  | cons f rest =>
    -- the filtered parts increase, so the first is the least and the last the greatest
    have hk₁ := head_le_of_pairwise_lt hsorted ((hmem k₁).2 h₁.1)
    have hk₂ := head_le_of_pairwise_lt hsorted ((hmem k₂).2 h₂.1)
    have hf := h₁.2 ((hmem f).1 List.mem_cons_self)
    have hlast : rest.getLast?.getD f ∈ f :: rest := by
      cases hl : rest.getLast? with
      | none => exact List.mem_cons_self
      | some l => exact List.mem_cons_of_mem f (List.mem_of_getLast? hl)
    have hl := h₂.2 ((hmem _).1 hlast)
    have hfirst : f = k₁ := by omega
    have hend : rest.getLast?.getD f = k₂ := by omega
    subst hfirst
    simp only [List.map_cons, List.getLast?_map, Option.getD_map]
    rw [hend]

/-- A suggestion a rule makes for a match reports the character span of the range its marked
parts give. -/
theorem suggestionFor_markedSpan {r : Rule} {view : View} {inflect : Inflector} {g : MatchGraph}
    {sug : Suggestion} (h : r.suggestionFor view inflect g = .ok sug) :
    view.charSpan (r.markedSpan g).2.1 (r.markedSpan g).2.2 = .ok (sug.start, sug.stop) := by
  unfold Rule.suggestionFor at h
  generalize r.markedSpan g = marked at h ⊢
  obtain ⟨firstGroup, span⟩ := marked
  obtain ⟨⟨start, stop⟩, hspan, h⟩ := exists_of_bind_eq_ok h
  -- the message and the replacements are computed after the span, and do not change it
  obtain ⟨_, -, h⟩ := exists_of_bind_eq_ok h
  obtain ⟨_, -, h⟩ := exists_of_bind_eq_ok h
  cases h
  exact hspan

end Rule

/-- A successful `mapM` pairs each input with the result it gave. -/
theorem forall₂_of_mapM_eq_ok {ε α β : Type} {f : α → Except ε β} :
    ∀ {l : List α} {ys : List β}, l.mapM f = .ok ys → List.Forall₂ (fun x y => f x = .ok y) l ys
  | [], ys, h => by
    rw [List.mapM_nil] at h
    cases h
    exact List.Forall₂.nil
  | a :: l, ys, h => by
    rw [List.mapM_cons] at h
    obtain ⟨b, hb, h⟩ := exists_of_bind_eq_ok h
    obtain ⟨bs, hbs, h⟩ := exists_of_bind_eq_ok h
    cases h
    exact List.Forall₂.cons hb (forall₂_of_mapM_eq_ok hbs)

namespace Rule

/-- What a rule reports for a match `g` of its engine on a sentence. When some marked part took
a token, the suggestion starts where the full token at the first position of the first such
part's group starts and ends where the full token at the last position of the last such part's
group ends, and every part between those two, marked or not, took only positions inside that
range. When no marked part took a token, it reports the character span of the whole match. -/
structure SpanOf (r : Rule) (s : Sentence) (g : MatchGraph) (sug : Suggestion) : Prop where
  marked : ∀ k₁ k₂, IsLeast {k | r.MarkedTook g k} k₁ → IsGreatest {k | r.MarkedTook g k} k₂ →
    ∃ x₁ y₁ x₂ y₂ i j, g.group? (k₁ + 1) = some (x₁, y₁) ∧ g.group? (k₂ + 1) = some (x₂, y₂) ∧
      s.mapping[x₁]? = some i ∧ s.mapping[y₂ - 1]? = some j ∧
      s.tokens[i]?.map Token.start = some sug.start ∧ s.tokens[j]?.map Token.stop = some sug.stop ∧
      ∀ k x y, k₁ ≤ k → k ≤ k₂ → g.group? (k + 1) = some (x, y) → x₁ ≤ x ∧ y ≤ y₂
  whole : (∀ k, ¬r.MarkedTook g k) →
    s.view.charSpan g.span.1 g.span.2 = .ok (sug.start, sug.stop)

/-- A token the view maps to lies in the sentence, so reading one of its positions gives it. -/
theorem map_getD_eq {s : Sentence} {a i : Nat} {f : Token → Nat} {x : Nat}
    (hi : s.mapping[a]? = some i) (hx : x = (s.tokens[i]?.map f).getD 0) :
    s.tokens[i]?.map f = some x := by
  rw [Array.getElem?_eq_getElem (Sentence.mapping_lt hi)] at hx ⊢
  rw [hx]
  rfl

/-- The suggestion for a match laid out part after part reports the span its marked parts give.
-/
theorem spanOf_of_laid {r : Rule} {s : Sentence} {inflect : Inflector} {g : MatchGraph}
    {sug : Suggestion}
    (hlaid : ∃ start cs, cs.length = r.engine.composition.parts.size ∧ 0 < cs.sum ∧
      g = ⟨((start, start + cs.sum) :: slots start cs).toArray, s.view.tokens⟩)
    (h : r.suggestionFor s.view inflect g = .ok sug) : r.SpanOf s g sug := by
  have hspan := suggestionFor_markedSpan h
  refine ⟨fun k₁ k₂ h₁ h₂ => ?_, fun hnone => ?_⟩
  · obtain ⟨-, -, x₁, y₁, hg₁, -⟩ := h₁.1
    obtain ⟨-, -, x₂, y₂, hg₂, -⟩ := h₂.1
    rw [markedSpan_of_least h₁ h₂, hg₁, hg₂] at hspan
    obtain ⟨-, i, j, hi, hj, hstart, hstop⟩ := View.charSpan_eq_ok hspan
    refine ⟨x₁, y₁, x₂, y₂, i, j, hg₁, hg₂, hi, hj, map_getD_eq hi hstart, map_getD_eq hj hstop,
      fun k x y hk₁ hk₂ hg => ?_⟩
    -- the parts' groups are slots one after another, so a part between lies between
    obtain ⟨start, cs, -, -, rfl⟩ := hlaid
    rw [Composition.group?_laid, if_neg (Nat.succ_ne_zero _), Nat.add_sub_cancel] at hg₁ hg₂ hg
    have hlo := slots_mono start cs hg₁ hg hk₁
    have hhi := slots_mono start cs hg hg₂ hk₂
    exact ⟨hlo.1, hhi.2⟩
  · rw [markedSpan_of_none hnone] at hspan
    exact hspan

/-- Every suggestion a rule makes on a sentence reports the span of its match that the marked
parts of its pattern give: for each match the engine returns, in order, from the start of the
full token at the first position of the first marked part that took a token to the end of the
full token at the last position of the last such part, with every part between them inside;
marked parts that took nothing never move it. When no marked part took a token, the suggestion
reports the character span of the whole match. -/
theorem apply_reports_marked_span {r : Rule} {s : Sentence} {inflect : Inflector}
    {ss : List Suggestion} (h : r.apply s inflect = .ok ss) :
    ∃ gs, r.matchesIn s.view = .ok gs ∧ List.Forall₂ (r.SpanOf s) gs ss := by
  unfold Rule.apply at h
  obtain ⟨gs, hgs, h⟩ := exists_of_bind_eq_ok h
  -- the matches are those of the engine, each laid out part after part
  have hdone : (r.engine.findMatches s.view.tokens r.findAll
      (StepBudget.fresh r.stepBudget)).1 = .done gs := by
    unfold matchesIn at hgs
    split at hgs
    · rename_i hm
      cases hgs
      rw [hm]
    · cases hgs
  obtain ⟨hlen, hpairs⟩ := List.forall₂_iff_zip.1 (forall₂_of_mapM_eq_ok h)
  refine ⟨gs, hgs, List.forall₂_iff_zip.2 ⟨hlen, fun {g sug} hmem => ?_⟩⟩
  exact spanOf_of_laid (Engine.findMatches_laid hdone g (List.of_mem_zip hmem).1) (hpairs hmem)

/-- A pattern of a token, a marked token and an optional marked token, over two words with a
blank between them: the optional part takes nothing, and the suggestion spans the second word,
the third token of the sentence. -/
theorem apply_reports_marked_span_of_pair :
    let r : Rule :=
      { id := ⟨⟨"T"⟩, "R"⟩,
        engine := ⟨⟨#[{ atom := .always }, { atom := .always, marker := true },
          { atom := .always, quantifier := ⟨0, 1⟩, marker := true }]⟩, []⟩,
        message := ⟨false, []⟩, suggesters := [] }
    let s : Sentence := ⟨#[⟨"a", 0, 1, [], false, false, false, false, false⟩,
      ⟨" ", 1, 2, [], true, false, false, false, false⟩,
      ⟨"b", 2, 3, [], false, false, false, false, false⟩]⟩
    r.apply s noInflection = .ok [⟨"T/R", "", 2, 3, [], none⟩] ∧
      ∃ gs, r.matchesIn s.view = .ok gs ∧
        List.Forall₂ (r.SpanOf s) gs [⟨"T/R", "", 2, 3, [], none⟩] := by
  intro r s
  have h : r.apply s noInflection = .ok [⟨"T/R", "", 2, 3, [], none⟩] := by decide +kernel
  exact ⟨h, apply_reports_marked_span h⟩

end Rule

end Proofreader
