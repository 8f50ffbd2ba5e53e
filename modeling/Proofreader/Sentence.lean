import Proofreader.Token
import Proofreader.Error

/-!
# Sentences and their filtered view

A sentence is its full sequence of tokens, blanks included, and its text is the concatenation
of their texts. Rules do not see blanks: they work on the *filtered view*, the tokens that are
not blank, plus the boundary tokens even when blank (a line break that ends a paragraph). The
view keeps, for each of its tokens, the index of that token in the full sequence, so a range of
view tokens can be turned back into text and a character span.
-/

namespace Proofreader

/-- A sentence as its full sequence of tokens. -/
structure Sentence where
  tokens : Array Token
deriving DecidableEq, Repr, Inhabited, Hashable

namespace Sentence

/-- The text the sentence covers: its token texts, joined. -/
def text (s : Sentence) : String := String.join (s.tokens.toList.map Token.text)

/-- The character span of the sentence, `(0, 0)` when it has no tokens. -/
def span (s : Sentence) : Nat × Nat :=
  let start := match s.tokens[0]? with
    | some t => t.start
    | none => 0
  let stop := match s.tokens.back? with
    | some t => t.stop
    | none => start
  (start, stop)

/-- Full indices of the tokens of the filtered view, in order. -/
def mapping (s : Sentence) : Array Nat :=
  ((List.range s.tokens.size).filter fun i =>
    match s.tokens[i]? with
    | some t => t.isVisible
    | none => false).toArray

/-- The full indices the view keeps are exactly those of the tokens that are not blank or are
boundaries. -/
theorem mem_mapping {s : Sentence} {j : Nat} :
    j ∈ s.mapping.toList ↔
      ∃ t, s.tokens[j]? = some t ∧ (t.isBlank = false ∨ t.isBoundary = true) := by
  simp only [mapping, List.toList_toArray, List.mem_filter, List.mem_range]
  constructor
  · rintro ⟨hj, hvis⟩
    rw [Array.getElem?_eq_getElem hj] at hvis ⊢
    refine ⟨_, rfl, ?_⟩
    simpa [Token.isVisible] using hvis
  · rintro ⟨t, ht, hvis⟩
    obtain ⟨hj, rfl⟩ := Array.getElem?_eq_some_iff.1 ht
    refine ⟨hj, ?_⟩
    rw [Array.getElem?_eq_getElem hj]
    simpa [Token.isVisible] using hvis

/-- The view of a sentence indexes only its tokens. -/
theorem mapping_lt {s : Sentence} {a i : Nat} (h : s.mapping[a]? = some i) :
    i < s.tokens.size := by
  simp only [mapping, List.getElem?_toArray] at h
  have hmem := List.mem_of_getElem? h
  simp only [List.mem_filter, List.mem_range] at hmem
  exact hmem.1

/-- The view of a sentence keeps the order of its tokens. -/
theorem mapping_mono {s : Sentence} {a a' i i' : Nat} (h : s.mapping[a]? = some i)
    (h' : s.mapping[a']? = some i') (ha : a ≤ a') : i ≤ i' := by
  simp only [mapping, List.getElem?_toArray] at h h'
  obtain ⟨hlt, rfl⟩ := List.getElem?_eq_some_iff.1 h
  obtain ⟨hlt', rfl⟩ := List.getElem?_eq_some_iff.1 h'
  rcases Nat.lt_or_eq_of_le ha with ha | rfl
  · -- indices kept by a filter of an increasing list stay increasing
    exact Nat.le_of_lt (List.pairwise_iff_getElem.1
      ((List.pairwise_lt_range (n := s.tokens.size)).filter _) a a' hlt hlt' ha)
  · exact Nat.le_refl _

/-- The full indices the view keeps increase strictly. -/
theorem mapping_pairwise_lt (s : Sentence) : s.mapping.toList.Pairwise (· < ·) := by
  simp only [mapping, List.toList_toArray]
  exact List.pairwise_lt_range.filter _

end Sentence

/-- The non-blank tokens of a sentence (boundaries kept) with their full indices. -/
structure View where
  sentence : Sentence
  mapping : Array Nat
  tokens : Array Token

namespace Sentence

/-- The filtered view of a sentence. -/
def view (s : Sentence) : View :=
  let m := s.mapping
  ⟨s, m, m.filterMap fun i => s.tokens[i]?⟩

/-- The view's tokens are the sentence's tokens at the kept full indices. -/
theorem view_tokens_toList (s : Sentence) :
    s.view.tokens.toList = s.mapping.toList.map fun i => s.tokens.getD i default := by
  simp only [view, Array.toList_filterMap]
  -- every kept full index is in range, so each lookup succeeds
  have hlt : ∀ i ∈ s.mapping.toList, i < s.tokens.size := by
    intro i hi
    simp only [mapping, List.toList_toArray, List.mem_filter, List.mem_range] at hi
    exact hi.1
  generalize s.mapping.toList = l at hlt
  induction l with
  | nil => rfl
  | cons i l ih =>
    have hi : i < s.tokens.size := hlt i List.mem_cons_self
    rw [List.filterMap_cons, Array.getElem?_eq_getElem hi, List.map_cons,
      ih fun j hj => hlt j (List.mem_cons_of_mem i hj)]
    simp [Array.getD, hi]

/-- View token `i` is the sentence's token at the full index kept at `i`. -/
theorem view_tokens_getElem? {s : Sentence} {i j : Nat} (h : s.mapping[i]? = some j) :
    s.view.tokens[i]? = s.tokens[j]? := by
  have hj : j < s.tokens.size := mapping_lt h
  rw [← Array.getElem?_toList, view_tokens_toList, List.getElem?_map, Array.getElem?_toList, h]
  simp [Array.getD, hj]

end Sentence

namespace View

/-- Number of tokens in the view. -/
def size (v : View) : Nat := v.tokens.size

/-- The full index of view token `i`. -/
def fullIndex (v : View) (i : Nat) : Except Error Nat :=
  match v.mapping[i]? with
  | some j => .ok j
  | none => .error (.index i v.mapping.size)

/-- The character span of the non-empty range `[a, b)` of view tokens. -/
def charSpan (v : View) (a b : Nat) : Except Error (Nat × Nat) := do
  if a ≥ b then throw (.index a v.mapping.size)
  let i ← v.fullIndex a
  let j ← v.fullIndex (b - 1)
  let start := (v.sentence.tokens[i]?.map Token.start).getD 0
  let stop := (v.sentence.tokens[j]?.map Token.stop).getD 0
  pure (start, stop)

/-- The text of the range `[a, b)` of view tokens, blanks between them included; empty for an
empty range. -/
def text (v : View) (a b : Nat) : Except Error String := do
  if a ≥ b then return ""
  let i ← v.fullIndex a
  let j ← v.fullIndex (b - 1)
  pure (String.join ((v.sentence.tokens.extract i (j + 1)).toList.map Token.text))

end View

/-- The view has a token for each kept full index. -/
theorem Sentence.view_size (s : Sentence) : s.view.size = s.mapping.size := by
  simp only [View.size, ← Array.length_toList, view_tokens_toList, List.length_map]

/-- A position of the view has a full index exactly when it lies within the view; past its end,
the lookup fails with an index error that names the position and the view's length. -/
theorem View.fullIndex_spec (s : Sentence) (i : Nat) :
    (i < s.view.size → ∃ j, s.view.fullIndex i = .ok j ∧ s.mapping[i]? = some j) ∧
      (s.view.size ≤ i → s.view.fullIndex i = .error (.index i s.view.size)) := by
  rw [Sentence.view_size]
  refine ⟨fun hi => ⟨s.mapping[i], ?_, Array.getElem?_eq_getElem hi⟩, fun hi => ?_⟩
  · simp only [fullIndex, Sentence.view, Array.getElem?_eq_getElem hi]
  · simp only [fullIndex, Sentence.view, Array.getElem?_eq_none hi]

end Proofreader
