import Mathlib
import Proofreader.Tokenizer.Split

/-!
# The pieces and the sentences of a text cover it

Both splitters of `Tokenizer/Split` work on character positions: the piece splitter closes a
span at each delimiter and at each change between a word and a run of spaces, and the sentence
splitter closes one after the spaces that follow a sentence end. Either way the spans it returns
are non-empty and follow one another from 0 to the end of the text (`Consecutive`), so their
texts, taken in order, spell the text out again.

The results of this file are that the pieces of a text, with web addresses joined, are non-empty
and spell the text (`textPieces_flatten`, `textPieces_ne_empty`), and that the sentences of a text
lie one after another over it, each at its offset (`textSentences_laid`).
-/

namespace Proofreader

/-! ## Spans that follow one another -/

/-- Non-empty spans that follow one another from position `p` to position `q`: each starts where
the one before ends. -/
def Consecutive : Nat → List (Nat × Nat) → Nat → Prop
  | p, [], q => p = q
  | p, s :: rest, q => s.1 = p ∧ s.1 < s.2 ∧ Consecutive s.2 rest q

/-- The characters of `cs` in the span `s`. -/
def slice (cs : List Char) (s : Nat × Nat) : List Char := (cs.drop s.1).take (s.2 - s.1)

namespace Consecutive

theorem le : ∀ {p q : Nat} {spans : List (Nat × Nat)}, Consecutive p spans q → p ≤ q
  | _, _, [], h => Nat.le_of_eq h
  | _, _, _ :: _, ⟨h1, h2, h3⟩ => by
    have := le h3
    omega

/-- A span closed after the others extends them to its end. -/
theorem append_single {p q : Nat} {spans : List (Nat × Nat)} (h : Consecutive p spans q)
    {r : Nat} (hr : q < r) : Consecutive p (spans ++ [(q, r)]) r := by
  induction spans generalizing p with
  | nil =>
    simp only [Consecutive] at h
    exact ⟨h.symm, hr, rfl⟩
  | cons s rest ih =>
    obtain ⟨h1, h2, h3⟩ := h
    exact ⟨h1, h2, ih h3⟩

/-- Every span lies between the two ends and is not empty. -/
theorem mem_bounds : ∀ {p q : Nat} {spans : List (Nat × Nat)}, Consecutive p spans q →
    ∀ s ∈ spans, p ≤ s.1 ∧ s.1 < s.2 ∧ s.2 ≤ q
  | _, _, [], _, _, hs => by cases hs
  | _, _, s' :: rest, ⟨h1, h2, h3⟩, s, hs => by
    have hq := le h3
    rcases List.mem_cons.1 hs with rfl | hs
    · exact ⟨Nat.le_of_eq h1.symm, h2, hq⟩
    · obtain ⟨hs1, hs2, hs3⟩ := mem_bounds h3 s hs
      exact ⟨by omega, hs2, hs3⟩

end Consecutive

/-- Two slices that meet make the slice of their union. -/
theorem slice_append (cs : List Char) {a b c : Nat} (hab : a ≤ b) (hbc : b ≤ c) :
    slice cs (a, b) ++ slice cs (b, c) = slice cs (a, c) := by
  simp only [slice]
  have hc : c - a = (b - a) + (c - b) := by omega
  rw [hc, List.take_add, List.drop_drop, Nat.add_sub_cancel' hab]

theorem length_slice {cs : List Char} {s : Nat × Nat} (h : s.2 ≤ cs.length) :
    (slice cs s).length = s.2 - s.1 := by
  simp only [slice, List.length_take, List.length_drop]
  omega

theorem slice_ne_nil {cs : List Char} {s : Nat × Nat} (hs : s.1 < s.2) (h : s.2 ≤ cs.length) :
    slice cs s ≠ [] := by
  intro hnil
  have hlen := length_slice h
  rw [hnil, List.length_nil] at hlen
  omega

/-- The slices of spans that follow one another make the slice from the first start to the
last end. -/
theorem Consecutive.flatten_slice {cs : List Char} {q : Nat} (hq : q ≤ cs.length) :
    ∀ {p : Nat} {spans : List (Nat × Nat)}, Consecutive p spans q →
      (spans.map (slice cs)).flatten = slice cs (p, q)
  | _, [], h => by
    simp only [Consecutive] at h
    subst h
    simp [slice]
  | p, s :: rest, ⟨h1, h2, h3⟩ => by
    rw [List.map_cons, List.flatten_cons, flatten_slice hq h3, ← h1]
    exact slice_append cs (Nat.le_of_lt h2) h3.le

/-! ## Pieces -/

namespace Piece

/-- What the piece splitter has done once it has read the characters before `i`: the closed
spans follow one another from 0, and an open word or run of spaces, if any, starts where they end
and holds at least one character. -/
def SplitSoFar (i : Nat) : List (Nat × Nat) × Option (Nat × Bool) → Prop
  | (acc, none) => Consecutive 0 acc.reverse i
  | (acc, some (s, _)) => Consecutive 0 acc.reverse s ∧ s < i

/-- Closing the open span, if any, at `i`. -/
theorem SplitSoFar.close {i : Nat} {acc : List (Nat × Nat)} {current : Option (Nat × Bool)}
    (h : SplitSoFar i (acc, current)) :
    Consecutive 0 (match current with
      | some (s, _) => (s, i) :: acc
      | none => acc).reverse i := by
  match current, h with
  | none, h => exact h
  | some (s, _), ⟨h1, h2⟩ =>
    rw [List.reverse_cons]
    exact h1.append_single h2

/-- One character read keeps the splitter's spans following one another. -/
theorem splitSoFar_splitStep {i : Nat} {st : List (Nat × Nat) × Option (Nat × Bool)}
    (h : SplitSoFar i st) (c : Char) : SplitSoFar (i + 1) (splitStep st (i, c)) := by
  obtain ⟨acc, current⟩ := st
  simp only [splitStep]
  by_cases hspace : (Unicode.isSpace c && !Unicode.isNewline c) = true
  · -- a space: it joins an open run of spaces, or closes a word and opens a run
    rw [if_pos hspace]
    match current, h with
    | some (s, true), ⟨h1, h2⟩ => exact ⟨h1, by omega⟩
    | some (s, false), ⟨h1, h2⟩ =>
      refine ⟨?_, Nat.lt_succ_self i⟩
      rw [List.reverse_cons]
      exact h1.append_single h2
    | none, h => exact ⟨h, Nat.lt_succ_self i⟩
  rw [if_neg hspace]
  by_cases hdelim : isDelimiter c = true
  · -- a delimiter closes the open span and stands as a span of its own
    rw [if_pos hdelim]
    show Consecutive 0 ((i, i + 1) :: _).reverse (i + 1)
    rw [List.reverse_cons]
    exact (SplitSoFar.close h).append_single (Nat.lt_succ_self i)
  · -- a word character: it joins an open word, or closes a run of spaces and opens a word
    rw [if_neg hdelim]
    match current, h with
    | some (s, false), ⟨h1, h2⟩ => exact ⟨h1, by omega⟩
    | some (s, true), ⟨h1, h2⟩ =>
      refine ⟨?_, Nat.lt_succ_self i⟩
      rw [List.reverse_cons]
      exact h1.append_single h2
    | none, h => exact ⟨h, Nat.lt_succ_self i⟩

/-- Reading the characters `cs` from position `n` on keeps the spans following one another. -/
theorem splitSoFar_foldl (cs : List Char) :
    ∀ (n : Nat) (st : List (Nat × Nat) × Option (Nat × Bool)), SplitSoFar n st →
      SplitSoFar (n + cs.length)
        (((cs.zipIdx n).map fun (c, i) => (i, c)).foldl splitStep st) := by
  induction cs with
  | nil =>
    intro n st h
    exact h
  | cons c rest ih =>
    intro n st h
    rw [List.zipIdx_cons, List.map_cons, List.foldl_cons, List.length_cons,
      show n + (rest.length + 1) = n + 1 + rest.length by omega]
    exact ih (n + 1) _ (splitSoFar_splitStep h c)

/-- The spans of the pieces are non-empty and follow one another over the whole text. -/
theorem spans_consecutive (cs : List Char) : Consecutive 0 (spans cs) cs.length := by
  have hrun := splitSoFar_foldl cs 0 ([], none) rfl
  rw [Nat.zero_add] at hrun
  unfold spans
  generalize ((cs.zipIdx.map fun (c, i) => (i, c)).foldl splitStep ([], none)) = st at hrun ⊢
  obtain ⟨acc, current⟩ := st
  exact SplitSoFar.close hrun

theorem text_split {text : String} {p : Piece} (hp : p ∈ split text) :
    ∃ s ∈ spans text.toList, p.text.toList = slice text.toList s := by
  simp only [split, List.mem_map] at hp
  obtain ⟨s, hs, rfl⟩ := hp
  exact ⟨s, hs, String.toList_ofList⟩

/-- The text of each piece is the slice of its span. -/
theorem split_toList (text : String) :
    (split text).map (·.text.toList) = (spans text.toList).map (slice text.toList) := by
  simp only [split, List.map_map]
  exact List.map_congr_left fun s _ => String.toList_ofList

/-- The pieces of a text spell it out. -/
theorem split_flatten (text : String) :
    ((split text).map (·.text.toList)).flatten = text.toList := by
  have h := (spans_consecutive text.toList).flatten_slice (Nat.le_refl _)
  rw [split_toList, h]
  simp [slice]

/-- No piece is empty. -/
theorem split_ne_empty {text : String} {p : Piece} (hp : p ∈ split text) : p.text ≠ "" := by
  obtain ⟨s, hs, hp'⟩ := text_split hp
  obtain ⟨-, hlt, hle⟩ := (spans_consecutive text.toList).mem_bounds s hs
  intro hempty
  rw [hempty, String.toList_empty] at hp'
  exact slice_ne_nil hlt hle hp'.symm

/-- A text has no pieces exactly when it is empty. -/
theorem split_eq_nil_iff {text : String} : split text = [] ↔ text = "" := by
  have hflat := split_flatten text
  constructor
  · intro hnil
    rw [hnil, List.map_nil, List.flatten_nil, eq_comm, String.toList_eq_nil_iff] at hflat
    exact hflat
  · intro hempty
    cases hs : split text with
    | nil => rfl
    | cons p ps =>
      -- the pieces make the empty text, but no piece is empty
      rw [hs, hempty, String.toList_empty, List.flatten_eq_nil_iff] at hflat
      exact absurd (String.toList_eq_nil_iff.1 (hflat _ List.mem_cons_self))
        (split_ne_empty (hs ▸ List.mem_cons_self))

/-! ## Joining web addresses -/

/-- Joining web addresses keeps the characters of the pieces, the open address first. -/
theorem joinAddresses_flatten (protocols : List String) (cur : Option Piece) (ps : List Piece) :
    ((joinAddresses protocols cur ps).map (·.text.toList)).flatten =
      (cur.map (·.text.toList)).getD [] ++ (ps.map (·.text.toList)).flatten := by
  fun_induction joinAddresses protocols cur ps with
  | case1 => rfl
  | case2 cur => simp
  | case3 p rest hstart ih =>
    rw [ih]
    simp
  | case4 p rest hstart ih =>
    rw [List.map_cons, List.flatten_cons, ih]
    simp
  | case5 cur p rest hend ih =>
    rw [List.map_cons, List.map_cons, List.flatten_cons, List.flatten_cons, ih]
    simp
  | case6 cur p rest hend ih =>
    rw [ih]
    simp [String.toList_append]

/-- Joining web addresses makes no empty piece out of non-empty ones. -/
theorem joinAddresses_ne_empty (protocols : List String) (cur : Option Piece) (ps : List Piece)
    (hcur : ∀ c, cur = some c → c.text ≠ "") (hps : ∀ p ∈ ps, p.text ≠ "") :
    ∀ p ∈ joinAddresses protocols cur ps, p.text ≠ "" := by
  fun_induction joinAddresses protocols cur ps with
  | case1 => intro p hp; cases hp
  | case2 cur =>
    intro p hp
    rw [List.mem_singleton] at hp
    exact hcur p (hp ▸ rfl)
  | case3 p rest hstart ih =>
    refine ih (fun c hc => ?_) (fun q hq => hps q (List.mem_cons_of_mem p hq))
    cases hc
    exact hps _ List.mem_cons_self
  | case4 p rest hstart ih =>
    intro q hq
    rcases List.mem_cons.1 hq with rfl | hq
    · exact hps q List.mem_cons_self
    · exact ih hcur (fun q hq => hps q (List.mem_cons_of_mem p hq)) q hq
  | case5 cur p rest hend ih =>
    intro q hq
    rcases List.mem_cons.1 hq with rfl | hq
    · exact hcur q rfl
    rcases List.mem_cons.1 hq with rfl | hq
    · exact hps q List.mem_cons_self
    · exact ih (fun c hc => by cases hc) (fun q hq => hps q (List.mem_cons_of_mem p hq)) q hq
  | case6 cur p rest hend ih =>
    -- the joined piece is non-empty because the address it extends is
    refine ih (fun c hc => ?_) (fun q hq => hps q (List.mem_cons_of_mem p hq))
    cases hc
    intro hempty
    have hcur' := hcur cur rfl
    rw [← String.toList_inj, String.toList_append, String.toList_empty,
      List.append_eq_nil_iff] at hempty
    exact hcur' (String.toList_eq_nil_iff.1 hempty.1)

end Piece

/-- The pieces of a text, web addresses joined, spell it out. -/
theorem textPieces_flatten (protocols : List String) (text : String) :
    ((textPieces protocols text).map (·.text.toList)).flatten = text.toList := by
  rw [textPieces, Piece.joinAddresses_flatten, Piece.split_flatten]
  rfl

/-- No piece of a text is empty. -/
theorem textPieces_ne_empty (protocols : List String) (text : String) :
    ∀ p ∈ textPieces protocols text, p.text ≠ "" :=
  Piece.joinAddresses_ne_empty protocols none _ (fun c hc => by cases hc)
    fun _ hp => Piece.split_ne_empty hp

/-! ## Sentences -/

/-- What the sentence splitter has done at position `pos`: the sentences closed so far follow
one another from 0 to where the open one starts, and the open one holds a character once its end
has been seen. -/
def SentencesSoFar (acc : List (Nat × Nat)) (start pos : Nat) (skipping : Bool) : Prop :=
  Consecutive 0 acc.reverse start ∧ start ≤ pos ∧ (skipping = true → start < pos)

/-- The sentence splitter, run to the end from any state it can reach, returns sentences that
follow one another over the whole text. -/
theorem sentenceSpansFrom_consecutive : ∀ (cs : List Char) (pos start : Nat) (skipping : Bool)
    (acc : List (Nat × Nat)), SentencesSoFar acc start pos skipping →
      Consecutive 0 (sentenceSpansFrom pos start skipping cs acc) (pos + cs.length)
  | [], pos, start, skipping, acc, ⟨h1, h2, h3⟩ => by
    rw [sentenceSpansFrom, List.length_nil, Nat.add_zero]
    by_cases hclose : (skipping || decide (start < pos)) = true
    · -- the open sentence holds a character: it is closed at the end of the text
      rw [if_pos hclose, List.reverse_cons]
      have hlt : start < pos := by
        cases skipping
        · simpa using hclose
        · exact h3 rfl
      exact h1.append_single hlt
    · rw [if_neg hclose]
      have heq : start = pos := by
        simp only [Bool.or_eq_true, decide_eq_true_eq, not_or] at hclose
        omega
      exact heq ▸ h1
  | c :: rest, pos, start, skipping, acc, ⟨h1, h2, h3⟩ => by
    rw [sentenceSpansFrom, List.length_cons,
      show pos + (rest.length + 1) = pos + 1 + rest.length by omega]
    by_cases hskip : (skipping && Unicode.isSpace c) = true
    · -- a space after a sentence end joins that sentence
      rw [if_pos hskip]
      exact sentenceSpansFrom_consecutive rest (pos + 1) start true acc
        ⟨h1, by omega, fun _ => by omega⟩
    · rw [if_neg hskip]
      cases skipping with
      | true =>
        -- the first character after the spaces closes the sentence and opens the next
        refine sentenceSpansFrom_consecutive rest (pos + 1) pos _ ((start, pos) :: acc)
          ⟨?_, by omega, fun _ => by omega⟩
        rw [List.reverse_cons]
        exact h1.append_single (h3 rfl)
      | false =>
        exact sentenceSpansFrom_consecutive rest (pos + 1) start _ acc
          ⟨h1, by omega, fun _ => by omega⟩

/-- Texts laid one after another over the characters `cs` from position `p`, each at its offset. -/
def Laid : List Char → Nat → List (Nat × String) → Prop
  | cs, _, [] => cs = []
  | cs, p, (o, s) :: rest => o = p ∧ ∃ r, cs = s.toList ++ r ∧ Laid r (p + s.length) rest

namespace Laid

variable {cs cs' : List Char} {p : Nat} {l l' : List (Nat × String)}

/-- Texts laid over two stretches that meet are laid over both. -/
theorem append (h : Laid cs p l) (h' : Laid cs' (p + cs.length) l') : Laid (cs ++ cs') p (l ++ l') := by
  induction l generalizing cs p with
  | nil =>
    simp only [Laid] at h
    subst h
    simpa using h'
  | cons x rest ih =>
    obtain ⟨o, s⟩ := x
    obtain ⟨ho, r, rfl, hr⟩ := h
    refine ⟨ho, r ++ cs', by rw [List.append_assoc], ih hr ?_⟩
    rw [List.length_append, String.length_toList, ← Nat.add_assoc] at h'
    exact h'

/-- The texts laid over `cs` spell it out. -/
theorem flatten (h : Laid cs p l) : (l.map (·.2.toList)).flatten = cs := by
  induction l generalizing cs p with
  | nil => exact h.symm
  | cons x rest ih =>
    obtain ⟨o, s⟩ := x
    obtain ⟨-, r, rfl, hr⟩ := h
    rw [List.map_cons, List.flatten_cons, ih hr]

/-- Each text laid over `cs` is the stretch of `cs` at its offset, and ends within `cs`. -/
theorem mem (h : Laid cs p l) {x : Nat × String} (hx : x ∈ l) :
    p ≤ x.1 ∧ x.1 + x.2.length ≤ p + cs.length ∧
      x.2.toList = (cs.drop (x.1 - p)).take x.2.length := by
  induction l generalizing cs p with
  | nil => cases hx
  | cons y rest ih =>
    obtain ⟨o, s⟩ := y
    obtain ⟨rfl, r, rfl, hr⟩ := h
    rw [List.length_append, String.length_toList]
    rcases List.mem_cons.1 hx with rfl | hx
    · -- the first text is the front of `cs`
      refine ⟨Nat.le_refl _, Nat.add_le_add_left (Nat.le_add_right _ _) _, ?_⟩
      rw [Nat.sub_self, List.drop_zero, ← String.length_toList, List.take_left]
    · -- a later text is a stretch of what follows the first
      obtain ⟨h1, h2, h3⟩ := ih hr hx
      have hdrop : (s.toList ++ r).drop (x.1 - o) = r.drop (x.1 - (o + s.length)) := by
        rw [show x.1 - o = s.toList.length + (x.1 - (o + s.length)) by
          rw [String.length_toList]; omega]
        exact List.drop_length_add_append _
      exact ⟨by omega, by omega, by rw [hdrop, h3]⟩

/-- The first text starts at `p`. -/
theorem head (h : Laid cs p l) {x : Nat × String} (hx : l.head? = some x) : x.1 = p := by
  cases l with
  | nil => cases hx
  | cons y rest =>
    cases hx
    exact h.1

/-- The last text ends where `cs` ends. -/
theorem last (h : Laid cs p l) {x : Nat × String} (hx : l.getLast? = some x) :
    x.1 + x.2.length = p + cs.length := by
  induction l generalizing cs p with
  | nil => cases hx
  | cons y rest ih =>
    obtain ⟨o, s⟩ := y
    obtain ⟨rfl, r, rfl, hr⟩ := h
    rw [List.length_append, String.length_toList]
    cases rest with
    | nil =>
      simp only [Laid] at hr
      subst hr
      cases hx
      simp
    | cons z more =>
      rw [List.getLast?_cons_cons] at hx
      rw [ih hr hx]
      omega

end Laid

/-- The slices of consecutive spans, each at its start, lie one after another over the slice
they make up. -/
theorem Consecutive.laid {cs : List Char} {q : Nat} (hq : q ≤ cs.length) :
    ∀ {p : Nat} {spans : List (Nat × Nat)}, Consecutive p spans q →
      Laid (slice cs (p, q)) p (spans.map fun s => (s.1, String.ofList (slice cs s)))
  | _, [], h => by
    simp only [Consecutive] at h
    subst h
    simp [Laid, slice]
  | p, s :: rest, ⟨h1, h2, h3⟩ => by
    have hsq := h3.le
    refine ⟨h1, slice cs (s.2, q), ?_, ?_⟩
    · rw [String.toList_ofList, ← h1]
      exact (slice_append cs (Nat.le_of_lt h2) hsq).symm
    · rw [String.length_toList.symm, String.toList_ofList, length_slice (by omega)]
      have hp : p + (s.2 - s.1) = s.2 := by omega
      rw [hp]
      exact laid hq h3

/-- The sentences of a text lie one after another over it, each at its offset. -/
theorem textSentences_laid (text : String) : Laid text.toList 0 (textSentences text) := by
  have hc := sentenceSpansFrom_consecutive text.toList 0 0 false []
    ⟨rfl, Nat.le_refl _, fun h => by cases h⟩
  rw [Nat.zero_add] at hc
  have h := hc.laid (Nat.le_refl _)
  simp only [slice, List.drop_zero, Nat.sub_zero, List.take_length] at h
  exact h

end Proofreader
