import Mathlib
import Proofreader.Proofs.SuggestionOrder
import Proofreader.Proofs.TokenSpans
import Proofreader.Regex.Backtracking

/-!
# The suggestions for a text are in order

Every suggestion a rule makes on a sentence spans tokens of that sentence: a grammar rule reports
the character span of a range of the sentence's tokens (`View.charSpan`), and a document rule
the span of one token. Since the tokens lie one after another over the sentence
(`Proofs/TokenSpans`), so do these spans, and resolving overlaps puts each sentence's suggestions
in order within the sentence (`RuleSet.apply_ordered`). Sentences follow one another over the
text, so the suggestions for the whole text, sentence by sentence, are in order within the text
(`RuleSet.suggest_ordered`, `RuleSet.checkDocument_ordered`), and correcting the text applies all
of them (`RuleSet.suggestions_in_order`).
-/

namespace Proofreader

/-- Every result of a successful `mapM` is the result of one of the inputs. -/
theorem exists_of_mapM_eq_ok {ε α β : Type} {f : α → Except ε β} :
    ∀ {l : List α} {ys : List β}, l.mapM f = .ok ys → ∀ y ∈ ys, ∃ x ∈ l, f x = .ok y
  | [], ys, h, y, hy => by
    rw [List.mapM_nil] at h
    cases h
    cases hy
  | a :: l, ys, h, y, hy => by
    rw [List.mapM_cons] at h
    obtain ⟨b, hb, h⟩ := exists_of_bind_eq_ok h
    obtain ⟨bs, hbs, h⟩ := exists_of_bind_eq_ok h
    cases h
    rcases List.mem_cons.1 hy with rfl | hy
    · exact ⟨a, List.mem_cons_self, hb⟩
    · obtain ⟨x, hx, hfx⟩ := exists_of_mapM_eq_ok hbs y hy
      exact ⟨x, List.mem_cons_of_mem a hx, hfx⟩

/-- A fold that only ever appends, each time items of which `P` holds, keeps `P` of all it
holds. -/
theorem forall_foldl_appends {α β σ : Type} (P : β → Prop) {f : List β × σ → α → List β × σ} :
    ∀ (L : List α), (∀ acc st a, a ∈ L → ∃ new, (f (acc, st) a).1 = acc ++ new ∧ ∀ x ∈ new, P x) →
      ∀ (acc : List β) (st : σ), (∀ x ∈ acc, P x) → ∀ x ∈ (L.foldl f (acc, st)).1, P x
  | [], _, _, _, hacc => hacc
  | a :: rest, hf, acc, st, hacc => by
    obtain ⟨new, hnew, hP⟩ := hf acc st a List.mem_cons_self
    rw [List.foldl_cons]
    refine forall_foldl_appends P rest (fun acc st b hb => hf acc st b (List.mem_cons_of_mem a hb))
      (f (acc, st) a).1 (f (acc, st) a).2 (fun x hx => ?_)
    rw [hnew] at hx
    rcases List.mem_append.1 hx with hx | hx
    · exact hacc x hx
    · exact hP x hx

/-! ## Where in a sentence a rule reports -/

/-- A character span of a view succeeds only for a non-empty range of it, and reports where the
range's first token starts and its last token ends. -/
theorem View.charSpan_eq_ok {v : View} {a b x y : Nat} (h : v.charSpan a b = .ok (x, y)) :
    a < b ∧ ∃ i j, v.mapping[a]? = some i ∧ v.mapping[b - 1]? = some j ∧
      x = (v.sentence.tokens[i]?.map Token.start).getD 0 ∧
      y = (v.sentence.tokens[j]?.map Token.stop).getD 0 := by
  simp only [View.charSpan, bind, Except.bind, View.fullIndex] at h
  by_cases hab : a ≥ b
  · rw [if_pos hab] at h
    cases h
  rw [if_neg hab] at h
  cases hi : v.mapping[a]? with
  | none =>
    rw [hi] at h
    cases h
  | some i =>
    cases hj : v.mapping[b - 1]? with
    | none =>
      rw [hi, hj] at h
      cases h
    | some j =>
      rw [hi, hj] at h
      cases h
      exact ⟨by omega, i, j, rfl, rfl, rfl, rfl⟩

/-- Between two tokens in order, the first starts no later than the second ends. -/
theorem Spells.start_le_stop {cs : List Char} {p : Nat} {xs : List Token.Place} (h : Spells cs p xs)
    {i j : Nat} (hij : i ≤ j) (hj : j < xs.length) :
    xs[i].start ≤ xs[j].stop := by
  have hi : i < xs.length := by omega
  have hbi := h.bounds (List.getElem_mem hi)
  have hbj := h.bounds (List.getElem_mem hj)
  rcases Nat.lt_or_eq_of_le hij with hlt | rfl
  · have := List.pairwise_iff_getElem.1 h.pairwise i j hi hj hlt
    omega
  · exact hbi.2.1

/-- The character span of a range of a sentence's tokens lies within the characters they spell,
and does not end before it starts. -/
theorem charSpan_bounds {s : Sentence} {cs : List Char} {o a b x y : Nat}
    (hsp : Spells cs o (s.tokens.toList.map Token.place)) (h : s.view.charSpan a b = .ok (x, y)) :
    o ≤ x ∧ x ≤ y ∧ y ≤ o + cs.length := by
  obtain ⟨hab, i, j, hi, hj, rfl, rfl⟩ := View.charSpan_eq_ok h
  have hi' : i < s.tokens.size := Sentence.mapping_lt hi
  have hj' : j < s.tokens.size := Sentence.mapping_lt hj
  have hij : i ≤ j := Sentence.mapping_mono hi hj (by omega)
  simp only [Sentence.view, Array.getElem?_eq_getElem hi', Array.getElem?_eq_getElem hj',
    Option.map_some, Option.getD_some]
  -- read the two tokens as places of the list the sentence spells
  have hli : i < (s.tokens.toList.map Token.place).length := by simp; omega
  have hlj : j < (s.tokens.toList.map Token.place).length := by simp; omega
  have hpi : (s.tokens.toList.map Token.place)[i] = s.tokens[i].place := by simp
  have hpj : (s.tokens.toList.map Token.place)[j] = s.tokens[j].place := by simp
  have hle := hsp.start_le_stop hij hlj
  have hbi := hsp.bounds (List.getElem_mem hli)
  have hbj := hsp.bounds (List.getElem_mem hlj)
  rw [hpi, hpj] at hle
  rw [hpi] at hbi
  rw [hpj] at hbj
  exact ⟨hbi.1, hle, hbj.2.2⟩

namespace Rule

/-- A rule's suggestion reports the character span of a range of the view. -/
theorem suggestionFor_span {r : Rule} {view : View} {inflect : Inflector} {g : MatchGraph}
    {sug : Suggestion} (h : r.suggestionFor view inflect g = .ok sug) :
    ∃ a b, view.charSpan a b = .ok (sug.start, sug.stop) := by
  unfold Rule.suggestionFor at h
  generalize r.markedSpan g = marked at h
  obtain ⟨firstGroup, span⟩ := marked
  obtain ⟨⟨start, stop⟩, hspan, h⟩ := exists_of_bind_eq_ok h
  -- the message and the replacements are computed after the span, and do not change it
  obtain ⟨_, -, h⟩ := exists_of_bind_eq_ok h
  obtain ⟨_, -, h⟩ := exists_of_bind_eq_ok h
  cases h
  exact ⟨span.1, span.2, hspan⟩

theorem apply_span {r : Rule} {s : Sentence} {inflect : Inflector} {ss : List Suggestion}
    (h : r.apply s inflect = .ok ss) :
    ∀ sug ∈ ss, ∃ a b, s.view.charSpan a b = .ok (sug.start, sug.stop) := by
  intro sug hsug
  unfold Rule.apply at h
  obtain ⟨graphs, -, h⟩ := exists_of_bind_eq_ok h
  obtain ⟨g, -, hg⟩ := exists_of_mapM_eq_ok h sug hsug
  exact suggestionFor_span hg

end Rule

namespace RuleSet

/-- The suggestions of a rule set on a sentence whose tokens spell `cs` from `o` are in order
within it. -/
theorem apply_ordered (rs : RuleSet) {s : Sentence} {cs : List Char} {o : Nat}
    (inflect : Inflector) (hsp : Spells cs o (s.tokens.toList.map Token.place)) :
    Suggestion.Ordered o (o + cs.length) (rs.apply s inflect) := by
  unfold RuleSet.apply
  split
  · exact Suggestion.Ordered.nil
  refine resolveOverlaps_ordered fun p hp => ?_
  obtain ⟨⟨r, i⟩, -, hp⟩ := List.mem_flatMap.1 hp
  dsimp only at hp
  cases hr : r.apply s inflect with
  | error e =>
    rw [hr] at hp
    cases hp
  | ok ss =>
    -- a rule that succeeded reports spans of ranges of the sentence's tokens
    rw [hr] at hp
    obtain ⟨sug, hsug, rfl⟩ := List.mem_map.1 hp
    obtain ⟨a, b, hab⟩ := Rule.apply_span hr sug hsug
    exact charSpan_bounds hsp hab

end RuleSet

/-! ## Where in a sentence a document rule reports -/

/-- A member of a list that holds one item when a condition holds, and none otherwise. -/
theorem eq_of_mem_ite_singleton {α : Type} {c : Prop} [Decidable c] {a x : α}
    (h : x ∈ (if c then [a] else [])) : x = a := by
  split at h
  · exact List.mem_singleton.1 h
  · cases h

namespace DocumentRule

/-- Word coherency reports spans of content tokens. -/
theorem coherency_spans (id : RuleId) (pairs : List (String × String)) (s : Sentence)
    (seen : List (String × String)) :
    ∀ sug ∈ (coherency id pairs s seen).1,
      ∃ tok ∈ contentTokens s, sug.start = tok.start ∧ sug.stop = tok.stop := by
  unfold coherency
  refine forall_foldl_appends _ _ (fun acc seen tok htok => ?_) [] seen (fun _ h => by cases h)
  dsimp only
  split
  · -- a spelling already seen the other way: the token itself is reported
    exact ⟨_, rfl, fun x hx => by
      rw [List.mem_singleton] at hx
      exact ⟨tok, htok, by rw [hx], by rw [hx]⟩⟩
  · split
    · split
      · exact ⟨[], by rw [List.append_nil], fun _ h => by cases h⟩
      · exact ⟨[], by rw [List.append_nil], fun _ h => by cases h⟩
    · exact ⟨[], by rw [List.append_nil], fun _ h => by cases h⟩

/-- Repeated beginnings report the span of the first content token. -/
theorem beginning_spans (id : RuleId) (allowed adverbs : List String) (s : Sentence)
    (previous : Option (String × Nat)) :
    ∀ sug ∈ (beginning id allowed adverbs s previous).1,
      ∃ tok ∈ contentTokens s, sug.start = tok.start ∧ sug.stop = tok.stop := by
  intro sug hsug
  unfold beginning at hsug
  split at hsug
  · rename_i first hfirst
    split at hsug
    · cases hsug
    · -- the only report is on the first content token
      dsimp only at hsug
      rw [eq_of_mem_ite_singleton hsug]
      exact ⟨first, List.mem_of_mem_head? hfirst, rfl, rfl⟩
  · cases hsug

theorem step_spans (r : DocumentRule) (s : Sentence) (state : Option DocumentState) :
    ∀ sug ∈ (r.step s state).1,
      ∃ tok ∈ contentTokens s, sug.start = tok.start ∧ sug.stop = tok.stop := by
  intro sug hsug
  unfold step at hsug
  split at hsug
  · split at hsug
    · exact coherency_spans _ _ s _ sug hsug
    · cases hsug
  · split at hsug
    · exact beginning_spans _ _ _ s _ sug hsug
    · cases hsug

end DocumentRule

/-- The document rules report spans of content tokens of the sentence they check. -/
theorem DocumentCheck.check_spans (c : DocumentCheck) (rules : List DocumentRule) (s : Sentence) :
    ∀ sug ∈ (c.check rules s).1,
      ∃ tok ∈ contentTokens s, sug.start = tok.start ∧ sug.stop = tok.stop := by
  unfold DocumentCheck.check
  show ∀ sug ∈ (List.foldl _ ([], c.states) rules.zipIdx).1, _
  refine forall_foldl_appends _ rules.zipIdx
    (fun acc st ri _ => ⟨(ri.1.step s (st.lookup ri.2)).1, ?_, ri.1.step_spans s _⟩)
    [] c.states (fun _ h => by cases h)
  rfl

/-! ## The suggestions for a text -/

namespace RuleSet

/-- Reading the sentences laid over `cs` from `p` one after another, each appending suggestions in
order within it, keeps the suggestions in order. -/
theorem ordered_foldl {β : Type} (t : Tokenizer) (out : β → List Suggestion)
    {step : β → Sentence → β}
    (hstep : ∀ (b : β) (s : Sentence) (cs : List Char) (o : Nat),
      Spells cs o (s.tokens.toList.map Token.place) →
      ∃ new, out (step b s) = out b ++ new ∧ Suggestion.Ordered o (o + cs.length) new) :
    ∀ (cs : List Char) (p : Nat) (sents : List (Nat × String)) (b : β), Laid cs p sents →
      p + cs.length < 2 ^ 64 → Suggestion.Ordered 0 p (out b) →
      Suggestion.Ordered 0 (p + cs.length)
        (out ((sents.map fun (o, s) => t.analyzeSentence s o).foldl step b))
  | cs, p, [], b, h, _, hb => by
    simp only [Laid] at h
    subst h
    exact hb
  | cs, p, (o, s) :: rest, b, ⟨ho, r, hcs, hr⟩, hbound, hb => by
    subst ho hcs
    rw [List.length_append, String.length_toList] at hbound ⊢
    have hsp := (t.analyzeSentence_spells s o (by omega)).2
    obtain ⟨new, hnew, hord⟩ := hstep b _ _ _ hsp
    -- the sentence's suggestions follow those before it, and the later sentences follow it
    have hb' : Suggestion.Ordered 0 (o + s.length) (out (step b (t.analyzeSentence s o))) := by
      rw [hnew, String.length_toList] at *
      exact hb.append hord (Nat.zero_le _) (Nat.le_add_right _ _)
    have hrest := ordered_foldl t out hstep r (o + s.length) rest _ hr (by omega) hb'
    rw [Nat.add_assoc] at hrest
    exact hrest

/-- Reading the sentences of a text one after another, each appending suggestions in order within
it, from no suggestions, gives suggestions in order within the text. -/
theorem ordered_foldl_analyze {β : Type} (t : Tokenizer) (out : β → List Suggestion)
    {step : β → Sentence → β}
    (hstep : ∀ (b : β) (s : Sentence) (cs : List Char) (o : Nat),
      Spells cs o (s.tokens.toList.map Token.place) →
      ∃ new, out (step b s) = out b ++ new ∧ Suggestion.Ordered o (o + cs.length) new)
    (text : String) (h : text.length < 2 ^ 64) {b : β} (hb : out b = []) :
    Suggestion.Ordered 0 text.length (out ((t.analyze text).foldl step b)) := by
  have hord := ordered_foldl t out hstep text.toList 0 (textSentences text) b
    (textSentences_laid text) (by rw [Nat.zero_add, String.length_toList]; exact h)
    (by rw [hb]; exact Suggestion.Ordered.nil)
  rw [Nat.zero_add, String.length_toList] at hord
  exact hord

/-- The suggestions for a text are in order within it. -/
theorem suggest_ordered (rs : RuleSet) (tokenizer : Tokenizer) (text : String)
    (h : text.length < 2 ^ 64) :
    Suggestion.Ordered 0 text.length (rs.suggest tokenizer text) := by
  unfold RuleSet.suggest RuleSet.suggestWith
  split
  · exact Suggestion.Ordered.nil
  rw [List.flatMap_eq_foldl]
  refine ordered_foldl_analyze tokenizer id
    (fun acc s cs o hsp => ⟨rs.apply s tokenizer.inflect, ?_, rs.apply_ordered tokenizer.inflect hsp⟩)
    text h rfl
  rfl

/-- The suggestions of the sentence and document rules over a text are in order within it. -/
theorem checkDocument_ordered (rs : RuleSet) (tokenizer : Tokenizer) (text : String)
    (h : text.length < 2 ^ 64) :
    Suggestion.Ordered 0 text.length (rs.checkDocument tokenizer text) := by
  unfold RuleSet.checkDocument
  dsimp only
  refine ordered_foldl_analyze tokenizer Prod.fst
    (fun acc s cs o hsp => ⟨resolveOverlaps ((rs.apply s tokenizer.inflect).map (0, ·) ++
      (acc.2.check rs.documentRules s).1.map (1, ·)), ?_, resolveOverlaps_ordered fun p hp => ?_⟩)
    text h (b := (([], {}) : List Suggestion × DocumentCheck)) rfl
  · rfl
  -- sentence rules report in order within the sentence, document rules on its tokens
  rcases List.mem_append.1 hp with hp | hp
  · obtain ⟨sug, hsug, rfl⟩ := List.mem_map.1 hp
    exact (rs.apply_ordered tokenizer.inflect hsp).bounds sug hsug
  · obtain ⟨sug, hsug, rfl⟩ := List.mem_map.1 hp
    obtain ⟨tok, htok, hstart, hstop⟩ := acc.2.check_spans rs.documentRules s sug hsug
    have hb := hsp.bounds (List.mem_map_of_mem (f := Token.place)
      (mem_of_mem_contentTokens htok))
    simp only [Token.place] at hb
    rw [hstart, hstop]
    exact hb

/-- The suggestions for a text, and those of a whole-document check, each lie within the text
and do not end before they start, and each ends at or before every later one starts: they are
sorted by start and no two share a character. Correcting the text therefore applies every one of
them. A text and its correction hold fewer than `2 ^ 64` characters, as every text in memory
does. -/
theorem suggestions_in_order (rs : RuleSet) (tokenizer : Tokenizer) (text : String)
    (htext : text.length < 2 ^ 64)
    (hfit : text.length + ((rs.suggest tokenizer text).map Suggestion.firstLength).sum < 2 ^ 64) :
    (∀ s ∈ rs.suggest tokenizer text, s.start ≤ s.stop ∧ s.stop ≤ text.length) ∧
    (rs.suggest tokenizer text).Pairwise (fun a b => a.stop ≤ b.start) ∧
    (∀ s ∈ rs.checkDocument tokenizer text, s.start ≤ s.stop ∧ s.stop ≤ text.length) ∧
    (rs.checkDocument tokenizer text).Pairwise (fun a b => a.stop ≤ b.start) ∧
    ∃ corrected, applySuggestions text (rs.suggest tokenizer text) = some corrected := by
  have hsuggest := rs.suggest_ordered tokenizer text htext
  have hdocument := rs.checkDocument_ordered tokenizer text htext
  refine ⟨fun s hs => (hsuggest.bounds s hs).2, hsuggest.ordered,
    fun s hs => (hdocument.bounds s hs).2, hdocument.ordered, ?_⟩
  exact Option.isSome_iff_exists.1 (applySuggestions_isSome hsuggest hfit)

/-- A rule file with two rules: `a b` becomes `c`, and `b` alone becomes `d`. -/
def overlappingRulesFile : Json :=
  .obj [("rules", .arr [
    .obj [("id", .str "A/PAIR"), ("message", .str "Pair."),
      ("pattern", .arr [.obj [("text", .str "a")], .obj [("text", .str "b")]]),
      ("suggestions", .arr [.str "c"])],
    .obj [("id", .str "A/ONE"), ("message", .str "One."),
      ("pattern", .arr [.obj [("text", .str "b")]]), ("suggestions", .arr [.str "d"])]])]

/-- In each of two sentences the second rule alone would rewrite `b`, inside the span on which
the first rewrites `a b`. Together, the first wins in each sentence: the suggestions are in order,
and correcting applies both. -/
theorem overlapping_suggestions_in_order :
    ∃ rs, ofJson Regex.backtracking overlappingRulesFile {} = .ok rs ∧
      ((rs.replay [.disable (.rule ⟨⟨"A"⟩, "PAIR"⟩)]).suggest default "a b. a b.").map
          (fun s => (s.start, s.stop, s.replacements)) = [(2, 3, ["d"]), (7, 8, ["d"])] ∧
      (rs.suggest default "a b. a b.").map (fun s => (s.start, s.stop, s.replacements)) =
        [(0, 3, ["c"]), (5, 8, ["c"])] ∧
      (rs.suggest default "a b. a b.").Pairwise (fun a b => a.stop ≤ b.start) ∧
      (rs.checkDocument default "a b. a b.").Pairwise (fun a b => a.stop ≤ b.start) ∧
      ∃ corrected, applySuggestions "a b. a b." (rs.suggest default "a b. a b.") =
        some corrected := by
  have hrun : ((ofJson Regex.backtracking overlappingRulesFile {}).toOption.map fun rs =>
      (((rs.replay [.disable (.rule ⟨⟨"A"⟩, "PAIR"⟩)]).suggest default "a b. a b.").map
          (fun s => (s.start, s.stop, s.replacements)),
        (rs.suggest default "a b. a b.").map (fun s => (s.start, s.stop, s.replacements)),
        ((rs.suggest default "a b. a b.").map Suggestion.firstLength).sum)) =
      some ([(2, 3, ["d"]), (7, 8, ["d"])], [(0, 3, ["c"]), (5, 8, ["c"])], 2) := by cbv
  obtain ⟨rs, h, hrun⟩ := exists_eq_ok_of_toOption_map hrun
  simp only [Prod.mk.injEq] at hrun
  obtain ⟨hone, hboth, hsum⟩ := hrun
  have hfit : "a b. a b.".length +
      ((rs.suggest default "a b. a b.").map Suggestion.firstLength).sum < 2 ^ 64 := by
    rw [hsum]
    decide
  obtain ⟨-, hsorted, -, hdocument, hcorrect⟩ :=
    suggestions_in_order rs default "a b. a b." (by decide) hfit
  exact ⟨rs, h, hone, hboth, hsorted, hdocument, hcorrect⟩

end RuleSet

end Proofreader
