import Mathlib
import Proofreader.Proofs.SuggestionSpans

/-!
# The filtered view and the text it spans

The filtered view of a sentence keeps the tokens that are not blank, and the boundary tokens even
when blank, each with its index among all the tokens (`Sentence.mapping`). Two functions read
the view back onto the sentence: `View.text` joins the texts of all the tokens between the full
indices of a range's ends, blanks included, and `View.charSpan` reads the start of the first
and the end of the last of them.

When the tokens are contiguous, each spanning as many positions as its text has characters and
each starting where the one before it ends (`Sentence.Contiguous`), as the tokenizer makes them
(`Tokenizer.analyze_contiguous`), the two describe the same stretch of the sentence's text
(`View.text_eq_span_text`): the tokens between two full indices spell the characters between the
start of the first and the end of the last (`Spells.of_append`, `Spells.middle`).
-/

namespace Proofreader

/-! ## Contiguous tokens spell the text -/

/-- The tokens of a sentence are contiguous: each spans as many positions as its text has
characters, and each starts where the one before it ends. The tokenizer makes them so
(`Tokenizer.analyze_contiguous`). -/
def Sentence.Contiguous (s : Sentence) : Prop :=
  (∀ t ∈ s.tokens.toList, t.stop = t.start + t.text.length) ∧
    s.tokens.toList.IsChain fun a b => a.stop = b.start

namespace Spells

variable {cs : List Char} {p : Nat} {xs ys : List Token.Place}

/-- The first of places that spell characters holds the first of them, and the rest spell the
others from where it ends. -/
theorem uncons {x : Token.Place} (h : Spells cs p (x :: xs)) :
    x.start = p ∧ x.stop = p + x.text.length ∧
      ∃ r, cs = x.text.toList ++ r ∧ Spells r x.stop xs := by
  obtain ⟨hlaid, hstop⟩ := h
  rw [List.map_cons] at hlaid
  obtain ⟨hx, r, hcs, hr⟩ := hlaid
  have hx' : x.stop = p + x.text.length := by rw [hstop x List.mem_cons_self, hx]
  refine ⟨hx, hx', r, hcs, ?_, fun y hy => hstop y (List.mem_cons_of_mem x hy)⟩
  rw [hx']
  exact hr

/-- Contiguous tokens from `p` spell their joined texts from `p`. -/
theorem of_contiguous :
    ∀ {toks : List Token} {p : Nat}, (∀ t ∈ toks, t.stop = t.start + t.text.length) →
      toks.IsChain (fun a b => a.stop = b.start) → (∀ t ∈ toks.head?, t.start = p) →
      Spells (String.join (toks.map Token.text)).toList p (toks.map Token.place)
  | [], _, _, _, _ => by simpa using Spells.nil
  | t :: rest, p, hstop, hchain, hhead => by
    have hstart : t.start = p := hhead t rfl
    have hrest : Spells (String.join (rest.map Token.text)).toList t.stop (rest.map Token.place) :=
      of_contiguous (fun x hx => hstop x (List.mem_cons_of_mem t hx))
        (List.isChain_cons.1 hchain).2 (fun x hx => ((List.isChain_cons.1 hchain).1 x hx).symm)
    have hstop' : t.stop = p + t.text.length := by
      rw [← hstart]
      exact hstop t List.mem_cons_self
    rw [List.map_cons, List.map_cons, String.join_cons, String.toList_append]
    exact Spells.cons (x := t.place) hstart hstop' hrest

/-- Places that spell characters one after another split where the list splits. -/
theorem of_append :
    ∀ {cs : List Char} {p : Nat} {xs ys : List Token.Place}, Spells cs p (xs ++ ys) →
      ∃ cs₁ cs₂, cs = cs₁ ++ cs₂ ∧ Spells cs₁ p xs ∧ Spells cs₂ (p + cs₁.length) ys
  | cs, p, [], ys, h => ⟨[], cs, rfl, Spells.nil, by simpa using h⟩
  | cs, p, x :: xs, ys, h => by
    obtain ⟨hx, hx', r, rfl, hr⟩ := uncons h
    obtain ⟨cs₁, cs₂, rfl, h₁, h₂⟩ := of_append hr
    refine ⟨x.text.toList ++ cs₁, cs₂, (List.append_assoc _ _ _).symm, Spells.cons hx hx' h₁, ?_⟩
    rw [List.length_append, String.length_toList, ← Nat.add_assoc, ← hx']
    exact h₂

/-- Places that spell characters one after another each start where the one before ends. -/
theorem isChain :
    ∀ {cs : List Char} {p : Nat} {xs : List Token.Place}, Spells cs p xs →
      xs.IsChain fun a b => a.stop = b.start
  | _, _, [], _ => List.IsChain.nil
  | _, _, _ :: _, h => by
    obtain ⟨-, -, r, -, hr⟩ := uncons h
    exact List.isChain_cons.2 ⟨fun y hy => (hr.head_start hy).symm, isChain hr⟩

/-- The places `i` to `j` of places that spell `cs` from `p` spell the characters of `cs` from
the start of place `i` to the end of place `j`. -/
theorem middle (h : Spells cs p xs) {i j : Nat} (hi : i < xs.length) (hij : i ≤ j)
    (hj : j < xs.length) :
    (String.join (((xs.drop i).take (j + 1 - i)).map (·.text))).toList =
      (cs.drop (xs[i].start - p)).take (xs[j].stop - xs[i].start) := by
  -- cut the places before `i` and after `j` off, with the characters they spell
  have hsplit : xs = xs.take i ++ ((xs.drop i).take (j + 1 - i) ++ (xs.drop i).drop (j + 1 - i)) := by
    rw [List.take_append_drop, List.take_append_drop]
  rw [hsplit] at h
  obtain ⟨cs₁, rest, rfl, h₁, hrest⟩ := of_append h
  obtain ⟨cs₂, cs₃, rfl, h₂, -⟩ := of_append hrest
  have hlen₁ : (xs.take i).length = i := by simp; omega
  have hlen₂ : ((xs.drop i).take (j + 1 - i)).length = j + 1 - i := by simp; omega
  -- the first and last of the middle places are places `i` and `j`
  have hfirst : ((xs.drop i).take (j + 1 - i)).head? = some xs[i] := by
    rw [List.head?_take, if_neg (by omega), List.head?_drop, List.getElem?_eq_getElem (by omega)]
  have hlast : ((xs.drop i).take (j + 1 - i)).getLast? = some xs[j] := by
    rw [List.getLast?_eq_getElem?, hlen₂, List.getElem?_take_of_lt (by omega),
      List.getElem?_drop, show i + (j + 1 - i - 1) = j by omega,
      List.getElem?_eq_getElem hj]
  have hstart := h₂.head_start hfirst
  have hstop := h₂.last_stop hlast
  rw [h₂.join, hstart, hstop, Nat.add_sub_cancel_left, Nat.add_sub_cancel_left, List.drop_left,
    List.take_left]

end Spells

/-- The tokens of a sentence that spell characters from some position are contiguous. -/
theorem Sentence.contiguous_of_spells {s : Sentence} {cs : List Char} {p : Nat}
    (h : Spells cs p (s.tokens.toList.map Token.place)) : s.Contiguous :=
  ⟨fun t ht => h.stop_eq t.place (List.mem_map_of_mem ht),
    (List.isChain_map Token.place).1 h.isChain⟩

/-- Every sentence the tokenizer makes of a text has contiguous tokens. -/
theorem Tokenizer.analyze_contiguous (t : Tokenizer) (text : String) (h : text.length < 2 ^ 64) :
    ∀ sen ∈ t.analyze text, sen.Contiguous := by
  intro sen hsen
  simp only [Tokenizer.analyze, List.mem_map] at hsen
  obtain ⟨⟨o, s⟩, hmem, rfl⟩ := hsen
  -- each sentence lies within the text, so its offset and length stay below the bound
  have hb := (textSentences_laid text).mem hmem
  rw [String.length_toList] at hb
  exact Sentence.contiguous_of_spells (t.analyzeSentence_spells s o (by simp only at hb; omega)).2

/-! ## Text and span agree -/

namespace View

/-- For contiguous tokens, a non-empty range of the view reports a character span, and its text,
inner blanks included, is the sentence's text between the two ends of the span, counted from
the start of the sentence's first token. -/
theorem text_eq_span_text {s : Sentence} (hs : s.Contiguous) {a b : Nat} (hab : a < b)
    (hb : b ≤ s.view.size) :
    ∃ x y t, s.view.charSpan a b = .ok (x, y) ∧ s.view.text a b = .ok t ∧
      t.toList = (s.text.toList.drop (x - s.span.1)).take (y - x) := by
  obtain ⟨i, hi, hmi⟩ := (fullIndex_spec s a).1 (by omega)
  obtain ⟨j, hj, hmj⟩ := (fullIndex_spec s (b - 1)).1 (by omega)
  have hi' : i < s.tokens.size := Sentence.mapping_lt hmi
  have hj' : j < s.tokens.size := Sentence.mapping_lt hmj
  have hij : i ≤ j := Sentence.mapping_mono hmi hmj (by omega)
  -- the tokens spell the text from the start of the first one
  have hhead : ∀ t ∈ s.tokens.toList.head?, t.start = s.span.1 := by
    intro t ht
    rw [Option.mem_def, List.head?_eq_getElem?, Array.getElem?_toList] at ht
    simp [Sentence.span, ht]
  have hsp := Spells.of_contiguous hs.1 hs.2 hhead
  have hmid := hsp.middle (by simpa using hi') hij (by simpa using hj')
  refine ⟨s.tokens[i].start, s.tokens[j].stop,
    String.join ((s.tokens.extract i (j + 1)).toList.map Token.text), ?_, ?_, ?_⟩
  · have hsent : s.view.sentence = s := rfl
    simp only [charSpan, if_neg (Nat.not_le.2 hab), hi, hj, hsent, bind, Except.bind, pure,
      Except.pure, Array.getElem?_eq_getElem hi', Array.getElem?_eq_getElem hj', Option.map_some,
      Option.getD_some]
  · simp only [text, if_neg (Nat.not_le.2 hab), hi, hj, bind, Except.bind, pure, Except.pure]
    rfl
  · -- the view's range covers the full tokens `i` to `j`, which spell that stretch of the text
    simp only [List.getElem_map, Array.getElem_toList] at hmid
    rw [← List.map_drop, ← List.map_take, List.map_map] at hmid
    rw [Array.toList_extract, List.extract_eq_take_drop]
    exact hmid

end View

/-- The filtered view of a sentence maps onto the sentence. Its full indices are, in increasing
order, exactly those of the tokens that are not blank or are boundaries; its tokens are the
sentence's tokens at those indices; a position has a full index exactly when it lies within the
view, and past the view the lookup fails with an index error naming the position and the view's
length. When the sentence's tokens are contiguous, the text of every non-empty range of the
view, inner blanks included, is the sentence's text between the two ends of the range's
character span, counted from the start of the first token. -/
theorem Sentence.view_maps_onto_text (s : Sentence) :
    s.view.mapping.toList.Pairwise (· < ·) ∧
      (∀ j : Nat, j ∈ s.view.mapping.toList ↔
        ∃ t, s.tokens[j]? = some t ∧ (t.isBlank = false ∨ t.isBoundary = true)) ∧
      s.view.size = s.view.mapping.size ∧
      (∀ i j : Nat, s.view.mapping[i]? = some j → s.view.tokens[i]? = s.tokens[j]?) ∧
      (∀ i : Nat, (i < s.view.size → ∃ j, s.view.fullIndex i = .ok j ∧ s.view.mapping[i]? = some j) ∧
        (s.view.size ≤ i → s.view.fullIndex i = .error (.index i s.view.size))) ∧
      (s.Contiguous → ∀ a b : Nat, a < b → b ≤ s.view.size →
        ∃ x y t, s.view.charSpan a b = .ok (x, y) ∧ s.view.text a b = .ok t ∧
          t.toList = (s.text.toList.drop (x - s.span.1)).take (y - x)) :=
  ⟨s.mapping_pairwise_lt, fun _ => Sentence.mem_mapping, s.view_size,
    fun _ _ h => Sentence.view_tokens_getElem? h, View.fullIndex_spec s,
    fun hs _ _ hab hb => View.text_eq_span_text hs hab hb⟩

end Proofreader
