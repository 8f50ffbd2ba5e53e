import Mathlib
import Proofreader.Proofs.MarkedSpan
import Proofreader.Proofs.ViewText

/-!
# What a disambiguation rule changes

A disambiguation rule rebuilds a sentence token by token. It changes the readings of the tokens
in the parts of its matches it is meant to change, and nothing else: no token moves, none is
added or dropped, texts, places and flags stay, and every action keeps the sentinel readings
(`SENT_START`, `SENT_END`, `PARA_END`) of the tokens it touches. Token by token this is
`Token.Rereads`, and sentence by sentence `Sentence.Rereads`; both are preorders, and what a
sentence shows of itself apart from readings (its text, its span and its filtered view) is the
same along them.

The rule changes a token at most once. Its engine looks for all matches, and these follow one
another without overlap; inside a match the groups of the parts follow one another too
(`Composition.firstMatch_laid`). So the view indices the rule changes are increasing
(`flatMap_markedIndices_sorted`), and so are the full indices they map to: each token is changed
once, from its own readings (`changeAll_eq_ok`). The main statement,
`DisambiguationRule.apply_changes_marked_readings`, says this of every rule and sentence, and
that a disambiguator, skipping the rules that fail, keeps the same frame.
-/

namespace Proofreader

/-! ## Changing readings only -/

namespace Token

/-- `t'` is `t` with other readings, among them every sentinel reading of `t`: with readings left
out the two are the same token. -/
structure Rereads (t t' : Token) : Prop where
  frame : t'.withReadings [] = t.withReadings []
  sentinels : ∀ x ∈ t.readings, x.isSentinel = true → x ∈ t'.readings

namespace Rereads

variable {t t' t'' : Token}

theorem refl (t : Token) : t.Rereads t := ⟨rfl, fun _ hx _ => hx⟩

theorem trans (h : t.Rereads t') (h' : t'.Rereads t'') : t.Rereads t'' :=
  ⟨h'.frame.trans h.frame, fun x hx hs => h'.sentinels x (h.sentinels x hx hs) hs⟩

/-- What a token shows apart from its readings is the same after rereading. -/
theorem eq_of_forget {β : Type} {f : Token → β} (hf : ∀ t : Token, f (t.withReadings []) = f t)
    (h : t.Rereads t') : f t' = f t := by
  rw [← hf t', h.frame, hf t]

end Rereads

/-- New readings that keep the sentinels reread the token. -/
theorem rereads_withReadings {t : Token} {rs : List Reading}
    (h : ∀ x ∈ t.readings, x.isSentinel = true → x ∈ rs) : t.Rereads (t.withReadings rs) :=
  ⟨rfl, h⟩

end Token

namespace Sentence

/-- `s'` is `s` with other readings: the same number of tokens, and at each index the token of
`s'` rereads the one of `s`. -/
structure Rereads (s s' : Sentence) : Prop where
  size_eq : s'.tokens.size = s.tokens.size
  token : ∀ (i : Nat) (hi : i < s.tokens.size) (hi' : i < s'.tokens.size),
    s.tokens[i].Rereads s'.tokens[i]

namespace Rereads

variable {s s' s'' : Sentence}

theorem refl (s : Sentence) : s.Rereads s := ⟨rfl, fun _ _ _ => Token.Rereads.refl _⟩

theorem trans (h : s.Rereads s') (h' : s'.Rereads s'') : s.Rereads s'' :=
  ⟨h'.size_eq.trans h.size_eq, fun i hi hi'' =>
    have hi' : i < s'.tokens.size := by rw [h.size_eq]; exact hi
    (h.token i hi hi').trans (h'.token i hi' hi'')⟩

/-- At every index the two sentences both lack a token, or have one that the other rereads. -/
theorem rel (h : s.Rereads s') (i : Nat) : Option.Rel Token.Rereads s.tokens[i]? s'.tokens[i]? := by
  by_cases hi : i < s.tokens.size
  · have hi' : i < s'.tokens.size := by rw [h.size_eq]; exact hi
    rw [Array.getElem?_eq_getElem hi, Array.getElem?_eq_getElem hi']
    exact .some (h.token i hi hi')
  · have hi' : ¬i < s'.tokens.size := by rw [h.size_eq]; exact hi
    rw [Array.getElem?_eq_none (Nat.le_of_not_lt hi), Array.getElem?_eq_none (Nat.le_of_not_lt hi')]
    exact .none

theorem map_eq {β : Type} {f : Token → β} (hf : ∀ t : Token, f (t.withReadings []) = f t)
    (h : s.Rereads s') : s'.tokens.toList.map f = s.tokens.toList.map f := by
  apply List.ext_getElem?
  intro i
  rw [List.getElem?_map, List.getElem?_map, Array.getElem?_toList, Array.getElem?_toList]
  have hi := h.rel i
  generalize s.tokens[i]? = a, s'.tokens[i]? = a' at hi ⊢
  cases hi with
  | none => rfl
  | some ht => rw [Option.map_some, Option.map_some, ht.eq_of_forget hf]

theorem text_eq (h : s.Rereads s') : s'.text = s.text := by
  rw [Sentence.text, Sentence.text, h.map_eq (f := Token.text) fun _ => rfl]

theorem span_eq (h : s.Rereads s') : s'.span = s.span := by
  unfold Sentence.span
  rw [Array.back?_eq_getElem?, Array.back?_eq_getElem?, h.size_eq]
  -- the first tokens, and the last ones, reread one another
  have hfirst := h.rel 0
  have hlast := h.rel (s.tokens.size - 1)
  generalize s.tokens[0]? = a, s'.tokens[0]? = a' at hfirst ⊢
  generalize s.tokens[s.tokens.size - 1]? = b, s'.tokens[s.tokens.size - 1]? = b' at hlast ⊢
  cases hfirst with
  | none =>
    cases hlast with
    | none => rfl
    | some hb =>
      dsimp only
      rw [hb.eq_of_forget (f := Token.stop) fun _ => rfl]
  | some ha =>
    cases hlast with
    | none =>
      dsimp only
      rw [ha.eq_of_forget (f := Token.start) fun _ => rfl]
    | some hb =>
      dsimp only
      rw [ha.eq_of_forget (f := Token.start) fun _ => rfl,
        hb.eq_of_forget (f := Token.stop) fun _ => rfl]

theorem mapping_eq (h : s.Rereads s') : s'.mapping = s.mapping := by
  unfold Sentence.mapping
  rw [h.size_eq]
  congr 1
  apply List.filter_congr
  intro i _
  -- whether the token at `i` is in the view does not depend on its readings
  have hi := h.rel i
  generalize s.tokens[i]? = a, s'.tokens[i]? = a' at hi ⊢
  cases hi with
  | none => rfl
  | some ht => exact ht.eq_of_forget (f := Token.isVisible) fun _ => rfl

end Rereads

end Sentence

/-! ## Changing the readings at a list of view indices -/

namespace DisambiguationRule

/-- Changing the readings at a list of view indices that map to distinct full indices changes
each of those tokens once, from its own readings, and leaves every other token as it was. The
induction is on the view indices; the token an index changes is not changed again after it. -/
theorem changeAll_eq_ok (r : DisambiguationRule) (view : View) :
    ∀ (is : List Nat) (ts ts' : Array Token), r.changeAll view is ts = .ok ts' →
      (is.filterMap (view.mapping[·]?)).Nodup →
      ts'.size = ts.size ∧ ∀ (j : Nat) (hj : j < ts.size) (hj' : j < ts'.size),
        ts'[j] = if j ∈ is.filterMap (view.mapping[·]?) then
          ts[j].withReadings (r.action.apply ts[j]) else ts[j]
  | [], ts, ts', h, _ => by
    cases h
    exact ⟨rfl, fun j _ _ => by simp⟩
  | i :: rest, ts, ts', h, hnodup => by
    simp only [changeAll, bind, Except.bind] at h
    cases hf : view.fullIndex i with
    | error e =>
      rw [hf] at h
      cases h
    | ok j =>
      rw [hf] at h
      dsimp only at h
      have hmap : view.mapping[i]? = some j := by
        simp only [View.fullIndex] at hf
        split at hf
        · cases hf
          assumption
        · cases hf
      rw [List.filterMap_cons_some hmap] at hnodup ⊢
      obtain ⟨hfresh, hrest⟩ := List.nodup_cons.1 hnodup
      cases ht : ts[j]? with
      | none =>
        -- the index lies past the tokens: nothing is changed for it
        rw [ht] at h
        obtain ⟨hsize, hget⟩ := changeAll_eq_ok r view rest ts ts' h hrest
        refine ⟨hsize, fun x hx hx' => ?_⟩
        have hxj : x ≠ j := by
          rintro rfl
          rw [Array.getElem?_eq_getElem hx] at ht
          cases ht
        rw [hget x hx hx']
        simp only [List.mem_cons, hxj, false_or]
      | some t =>
        -- the token at `j` is changed now, from its own readings, and never again
        rw [ht] at h
        have hj : j < ts.size := (Array.getElem?_eq_some_iff.1 ht).1
        have htj : ts[j] = t := (Array.getElem?_eq_some_iff.1 ht).2
        obtain ⟨hsize, hget⟩ := changeAll_eq_ok r view rest _ ts' h hrest
        rw [Array.size_set!] at hsize
        refine ⟨hsize, fun x hx hx' => ?_⟩
        rw [hget x (by rw [Array.size_set!]; exact hx) hx']
        by_cases hxj : x = j
        · subst hxj
          simp only [Array.set!_eq_setIfInBounds, Array.getElem_setIfInBounds_self, hfresh,
            if_false, List.mem_cons, true_or, if_true, htj]
        · simp only [Array.set!_eq_setIfInBounds, Array.getElem_setIfInBounds_ne hx (Ne.symm hxj),
            List.mem_cons, hxj, false_or]

/-! ## The view indices a rule changes -/

/-- View index `k` lies in the part of the match `g` whose tokens the rule changes: the group of
a marked part, or the whole match when no part of the pattern is marked. -/
def ChangesAt (r : DisambiguationRule) (g : MatchGraph) (k : Nat) : Prop :=
  if r.engine.composition.parts.any (·.marker) then
    ∃ j < r.engine.composition.parts.size, (r.engine.composition.part j).marker = true ∧
      ∃ a b, g.group? (j + 1) = some (a, b) ∧ a ≤ k ∧ k < b
  else g.span.1 ≤ k ∧ k < g.span.2

/-- The indices of a span, as the rule lists them, are the positions from its start up to its
end. -/
theorem range_map_add_eq (a b : Nat) :
    (List.range (b - a)).map (· + a) = List.range' a (b - a) := by
  rw [List.range'_eq_map_range]
  exact List.map_congr_left fun x _ => Nat.add_comm x a

/-- A view index lies among the indices of a group exactly when the group is there and spans
it. -/
theorem mem_groupIndices {o : Option (Nat × Nat)} {k : Nat} :
    k ∈ (match o with
      | some s => (List.range (s.2 - s.1)).map (· + s.1)
      | none => []) ↔ ∃ a b, o = some (a, b) ∧ a ≤ k ∧ k < b := by
  cases o with
  | none => simp
  | some s =>
    dsimp only
    rw [range_map_add_eq, List.mem_range'_1]
    constructor
    · rintro ⟨h1, h2⟩
      exact ⟨s.1, s.2, rfl, h1, by omega⟩
    · rintro ⟨a, b, hs, hak, hkb⟩
      cases hs
      exact ⟨hak, by omega⟩

theorem mem_markedIndices {r : DisambiguationRule} {g : MatchGraph} {k : Nat} :
    k ∈ r.markedIndices g ↔ r.ChangesAt g k := by
  unfold markedIndices ChangesAt
  simp only [Array.any_toList, Array.length_toList]
  split
  · simp only [List.mem_flatMap, List.mem_filter, List.mem_range, and_assoc]
    exact exists_congr fun j => and_congr_right fun _ => and_congr_right fun _ => mem_groupIndices
  · rw [range_map_add_eq, List.mem_range'_1]
    constructor
    · rintro ⟨h1, h2⟩
      exact ⟨h1, by omega⟩
    · rintro ⟨h1, h2⟩
      exact ⟨h1, by omega⟩

/-- Two entries of a list sorted by `R`, read at two indices, are related in the order of the
indices. -/
theorem pairwise_rel_of_getElem? {α : Type} {R : α → α → Prop} {l : List α} (h : l.Pairwise R)
    {i j : Nat} {a b : α} (ha : l[i]? = some a) (hb : l[j]? = some b) (hij : i < j) : R a b := by
  obtain ⟨hi, rfl⟩ := List.getElem?_eq_some_iff.1 ha
  obtain ⟨hj, rfl⟩ := List.getElem?_eq_some_iff.1 hb
  exact List.pairwise_iff_getElem.1 h i j hi hj hij

/-- For a match laid out from `p` with counts `cs`, the view indices the rule changes increase
and lie inside the match. -/
theorem markedIndices_laid (r : DisambiguationRule) (p : Nat) (cs : List Nat)
    (tokens : Array Token) :
    let g : MatchGraph := ⟨((p, p + cs.sum) :: slots p cs).toArray, tokens⟩
    (r.markedIndices g).Pairwise (· < ·) ∧
      ∀ k ∈ r.markedIndices g, g.span.1 ≤ k ∧ k < g.span.2 := by
  intro g
  have hgroup : ∀ j, g.group? (j + 1) = (slots p cs)[j]? := fun j => by
    simp [g, MatchGraph.group?]
  have hspan : g.span = (p, p + cs.sum) := by simp [g, MatchGraph.span, MatchGraph.group?]
  refine ⟨?_, fun k hk => ?_⟩
  · unfold markedIndices
    dsimp only
    split
    · -- the groups of the marked parts follow one another
      rw [List.pairwise_flatMap]
      refine ⟨fun j _ => ?_,
        (List.pairwise_lt_range.filter _).imp fun {j j'} hjj' x hx y hy => ?_⟩
      · split
        · rw [range_map_add_eq]
          exact List.pairwise_lt_range'
        · exact List.Pairwise.nil
      · rw [hgroup] at hx hy
        obtain ⟨a, b, ha, -, hxb⟩ := mem_groupIndices.1 hx
        obtain ⟨a', b', hb, hay, -⟩ := mem_groupIndices.1 hy
        have hapart : b ≤ a' := pairwise_rel_of_getElem? (slots_sorted p cs) ha hb hjj'
        omega
    · rw [range_map_add_eq]
      exact List.pairwise_lt_range'
  · rw [mem_markedIndices] at hk
    unfold ChangesAt at hk
    split at hk
    · obtain ⟨j, -, -, a, b, hs, hak, hkb⟩ := hk
      rw [hgroup] at hs
      have := slots_bounds p cs (a, b) (List.mem_of_getElem? hs)
      rw [hspan]
      omega
    · exact hk

/-- The view indices a rule changes for all the matches its engine finds increase: the matches
follow one another, and each one's indices increase and lie inside it. -/
theorem flatMap_markedIndices_sorted {r : DisambiguationRule} {tokens : Array Token}
    {b : StepBudget} {gs : List MatchGraph} (h : (r.engine.findMatches tokens true b).1 = .done gs) :
    (gs.flatMap r.markedIndices).Pairwise (· < ·) := by
  have hin : ∀ g ∈ gs, (r.markedIndices g).Pairwise (· < ·) ∧
      ∀ k ∈ r.markedIndices g, g.span.1 ≤ k ∧ k < g.span.2 := by
    intro g hg
    obtain ⟨start, cs, -, -, rfl⟩ := Engine.findMatches_laid h g hg
    exact markedIndices_laid r start cs tokens
  rw [List.pairwise_flatMap]
  refine ⟨fun g hg => (hin g hg).1, ?_⟩
  refine (Engine.findAll_keeps_unblocked r.engine tokens h).1.sorted.imp_of_mem
    fun {g g'} hg hg' hgg' x hx y hy => ?_
  have hx' := (hin g hg).2 x hx
  have hy' := (hin g' hg').2 y hy
  omega

end DisambiguationRule

/-! ## From view indices to full indices -/

/-- Later view indices map to later full indices. -/
theorem Sentence.mapping_lt_of_lt {s : Sentence} {a a' i i' : Nat} (h : s.mapping[a]? = some i)
    (h' : s.mapping[a']? = some i') (ha : a < a') : i < i' := by
  rw [← Array.getElem?_toList] at h h'
  exact DisambiguationRule.pairwise_rel_of_getElem? s.mapping_pairwise_lt h h' ha

/-- Increasing view indices map to increasing full indices. -/
theorem Sentence.filterMap_mapping_sorted (s : Sentence) {l : List Nat}
    (h : l.Pairwise (· < ·)) : (l.filterMap (s.mapping[·]?)).Pairwise (· < ·) := by
  rw [List.pairwise_filterMap]
  exact h.imp fun haa' i hi i' hi' => s.mapping_lt_of_lt hi hi' haa'

namespace DisambiguationRule

/-- A rule that succeeds changes, from its own readings, each token that a view index of its
matches maps to, and leaves the other tokens as they were. -/
theorem apply_eq_ok {r : DisambiguationRule} {s s' : Sentence} (h : r.apply s = .ok s') :
    ∃ gs, (r.engine.findMatches s.view.tokens true (.fresh r.stepBudget)).1 = .done gs ∧
      s'.tokens.size = s.tokens.size ∧
      ∀ (i : Nat) (hi : i < s.tokens.size) (hi' : i < s'.tokens.size),
        s'.tokens[i] = if i ∈ (gs.flatMap r.markedIndices).filterMap (s.mapping[·]?) then
          s.tokens[i].withReadings (r.action.apply s.tokens[i]) else s.tokens[i] := by
  simp only [DisambiguationRule.apply, bind, Except.bind] at h
  split at h
  · -- the engine finished: the tokens come from changing the readings of the matched ones
    rename_i gs _ hm
    dsimp only [pure, Except.pure] at h
    cases hc : r.changeAll s.view (gs.flatMap r.markedIndices) s.tokens with
    | error e =>
      rw [hc] at h
      cases h
    | ok tokens =>
      rw [hc] at h
      cases h
      have hdone : (r.engine.findMatches s.view.tokens true (.fresh r.stepBudget)).1 = .done gs := by
        rw [hm]
      have hnodup := (s.filterMap_mapping_sorted (flatMap_markedIndices_sorted hdone)).nodup
      obtain ⟨hsize, hget⟩ := changeAll_eq_ok r s.view _ s.tokens tokens hc hnodup
      exact ⟨gs, hdone, hsize, hget⟩
  · -- the engine ran out of steps: the rule fails
    cases h

/-- A rule that succeeds only rereads the sentence. -/
theorem apply_rereads {r : DisambiguationRule} {s s' : Sentence} (h : r.apply s = .ok s') :
    s.Rereads s' := by
  obtain ⟨gs, -, hsize, hget⟩ := apply_eq_ok h
  refine ⟨hsize, fun i hi hi' => ?_⟩
  rw [hget i hi hi']
  split
  · exact Token.rereads_withReadings fun x hx hs => r.action.sentinel_mem_apply _ hx hs
  · exact Token.Rereads.refl _

end DisambiguationRule

/-- A disambiguator only rereads a sentence: each rule that succeeds rereads it, and a rule that
fails leaves it as it was. -/
theorem Disambiguator.apply_rereads (d : Disambiguator) (s : Sentence) : s.Rereads (d.apply s) := by
  unfold Disambiguator.apply
  induction d.rules generalizing s with
  | nil => exact Sentence.Rereads.refl s
  | cons r rest ih =>
    rw [List.foldl_cons]
    refine Sentence.Rereads.trans ?_ (ih _)
    split
    · rename_i s' hs'
      exact DisambiguationRule.apply_rereads hs'
    · exact Sentence.Rereads.refl s

namespace DisambiguationRule

/-- A disambiguation rule that succeeds on a sentence changes the readings of exactly the tokens
that the view indices of its matches map to (the groups of the marked parts, or the whole match
when no part is marked), each once, to the action's readings for the token as it was, and
leaves every other token as it was. Every token keeps its place, text, flags and sentinel
readings, so the sentence keeps its size, text, span and filtered view. A disambiguator keeps
the same, whatever its rules and whichever of them fail. -/
theorem apply_changes_marked_readings (r : DisambiguationRule) {s s' : Sentence}
    (h : r.apply s = .ok s') :
    (∃ gs, (r.engine.findMatches s.view.tokens true (.fresh r.stepBudget)).1 = .done gs ∧
      s'.tokens.size = s.tokens.size ∧
      ∀ (i : Nat) (_ : i < s.tokens.size) (_ : i < s'.tokens.size),
        ((∃ g ∈ gs, ∃ k, r.ChangesAt g k ∧ s.mapping[k]? = some i) →
          s'.tokens[i] = s.tokens[i].withReadings (r.action.apply s.tokens[i])) ∧
        ((¬∃ g ∈ gs, ∃ k, r.ChangesAt g k ∧ s.mapping[k]? = some i) →
          s'.tokens[i] = s.tokens[i])) ∧
    s.Rereads s' ∧ s'.text = s.text ∧ s'.span = s.span ∧ s'.mapping = s.mapping ∧
    ∀ (d : Disambiguator) (t : Sentence),
      t.Rereads (d.apply t) ∧ (d.apply t).text = t.text ∧ (d.apply t).span = t.span ∧
        (d.apply t).mapping = t.mapping := by
  obtain ⟨gs, hdone, hsize, hget⟩ := apply_eq_ok h
  have hre := apply_rereads h
  -- a full index is changed when some view index of some match maps to it
  have hmem : ∀ i, i ∈ (gs.flatMap r.markedIndices).filterMap (s.mapping[·]?) ↔
      ∃ g ∈ gs, ∃ k, r.ChangesAt g k ∧ s.mapping[k]? = some i := by
    intro i
    simp only [List.mem_filterMap, List.mem_flatMap, mem_markedIndices]
    constructor
    · rintro ⟨k, ⟨g, hg, hk⟩, hi⟩
      exact ⟨g, hg, k, hk, hi⟩
    · rintro ⟨g, hg, k, hk, hi⟩
      exact ⟨k, ⟨g, hg, hk⟩, hi⟩
  refine ⟨⟨gs, hdone, hsize, fun i hi hi' => ⟨fun hc => ?_, fun hc => ?_⟩⟩,
    hre, hre.text_eq, hre.span_eq, hre.mapping_eq, fun d t => ?_⟩
  · rw [hget i hi hi', if_pos ((hmem i).2 hc)]
  · rw [hget i hi hi', if_neg (mt (hmem i).1 hc)]
  · have hd := d.apply_rereads t
    exact ⟨hd, hd.text_eq, hd.span_eq, hd.mapping_eq⟩

/-- A rule whose second part is marked, on a sentence of the opening token and one word, changes
the word only. -/
theorem apply_changes_marked_readings_of_pair :
    let r : DisambiguationRule :=
      { id := default, engine := ⟨⟨#[{ atom := .always }, { atom := .always, marker := true }]⟩, []⟩,
        action := .replace ⟨"b", none⟩ }
    let s : Sentence := ⟨#[⟨"", 0, 0, [⟨"", some "SENT_START"⟩], false, false, true, false, false⟩,
      ⟨"a", 0, 1, [⟨"a", some "X"⟩], false, false, false, false, false⟩]⟩
    let s' : Sentence := ⟨#[⟨"", 0, 0, [⟨"", some "SENT_START"⟩], false, false, true, false, false⟩,
      ⟨"a", 0, 1, [⟨"b", none⟩], false, false, false, false, false⟩]⟩
    r.apply s = .ok s' ∧
    (∃ gs, (r.engine.findMatches s.view.tokens true (.fresh r.stepBudget)).1 = .done gs ∧
      s'.tokens.size = s.tokens.size ∧
      ∀ (i : Nat) (_ : i < s.tokens.size) (_ : i < s'.tokens.size),
        ((∃ g ∈ gs, ∃ k, r.ChangesAt g k ∧ s.mapping[k]? = some i) →
          s'.tokens[i] = s.tokens[i].withReadings (r.action.apply s.tokens[i])) ∧
        ((¬∃ g ∈ gs, ∃ k, r.ChangesAt g k ∧ s.mapping[k]? = some i) →
          s'.tokens[i] = s.tokens[i])) ∧
    s.Rereads s' ∧ s'.text = s.text ∧ s'.span = s.span ∧ s'.mapping = s.mapping ∧
    ∀ (d : Disambiguator) (t : Sentence),
      t.Rereads (d.apply t) ∧ (d.apply t).text = t.text ∧ (d.apply t).span = t.span ∧
        (d.apply t).mapping = t.mapping := by
  intro r s s'
  have h : r.apply s = .ok s' := by decide +kernel
  exact ⟨h, apply_changes_marked_readings r h⟩

end DisambiguationRule

end Proofreader
