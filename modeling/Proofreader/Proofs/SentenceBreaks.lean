import Mathlib
import Proofreader.Proofs.Words

/-!
# Where a text is cut into sentences

The sentence splitter reads a text once, looking one character ahead. It notes a sentence end at
`.`, `!` or `?` followed by a space, and at a line break followed by another; it then takes the
spaces after the end into the sentence and cuts before the first character that is no space.

Said of the text alone, a new sentence starts at position `p` when the character there is no
space and the maximal run of spaces just before it is not empty and either follows a sentence
end or holds two line breaks next to each other (`isSentenceBreak`). The main statement,
`sentences_start_at_breaks`, says that the sentences of every text are non-empty, lie one after
another over it, each paired with the number of characters before it, and start exactly at
position 0 and at these breaks.

The splitter's flag "the spaces after an end are being taken" is the one invariant: before the
character at a position it holds exactly when the characters read so far, with the one ahead,
close a sentence (`pendingBreak`). `closesSentence_cons` moves that fact one character on, and
`sentenceSpansFrom_starts` carries it through the whole text.
-/

namespace Proofreader

/-! ## Sentence breaks, said of the text -/

/-- Characters that end a sentence when a space follows them. -/
def isSentenceEnd (c : Char) : Bool := c = '.' || c = '!' || c = '?'

/-- Whether two line breaks stand next to each other in a list of characters. -/
def hasNewlinePair : List Char → Bool
  | a :: b :: rest => (Unicode.isNewline a && Unicode.isNewline b) || hasNewlinePair (b :: rest)
  | _ => false

/-- Whether the characters before a position, read backwards from it, close a sentence: they
start with a non-empty run of spaces (the maximal run that ends at the position) that follows a
sentence end or holds a paragraph break. -/
def closesSentence (back : List Char) : Bool :=
  let run := back.takeWhile Unicode.isSpace
  !run.isEmpty &&
    ((back.dropWhile Unicode.isSpace).head?.any isSentenceEnd || hasNewlinePair run)

/-- Whether a new sentence starts at position `p` of the characters `T`: the character there is
no space, and the characters before it close a sentence. -/
def isSentenceBreak (T : List Char) (p : Nat) : Bool :=
  T[p]?.any (!Unicode.isSpace ·) && closesSentence (T.take p).reverse

/-! ## The splitter's flag -/

/-- Whether the character `c`, with `next` after it, ends a sentence or a paragraph: the test the
splitter makes at each character it does not skip. -/
def endsBefore (c : Char) (next : Option Char) : Bool :=
  (isSentenceEnd c && next.any Unicode.isSpace) ||
    (Unicode.isNewline c && next.any Unicode.isNewline)

/-- Whether a sentence is closed by the characters before a position (read backwards) together
with the character `next` there: the last one ends a sentence before `next`, or they close a
sentence already. -/
def pendingBreak (back : List Char) (next : Option Char) : Bool :=
  back.head?.any (endsBefore · next) || closesSentence back

theorem isSentenceEnd_not_isSpace {c : Char} (h : isSentenceEnd c = true) :
    Unicode.isSpace c = false := by
  simp only [isSentenceEnd, Bool.or_eq_true, decide_eq_true_eq] at h
  rcases h with (rfl | rfl) | rfl <;> decide +kernel

/-- Something ends before a character only if that character is a space. -/
theorem isSpace_of_endsBefore {b c : Char} (h : endsBefore b (some c) = true) :
    Unicode.isSpace c = true := by
  simp only [endsBefore, Option.any_some, Bool.or_eq_true, Bool.and_eq_true] at h
  rcases h with ⟨-, hc⟩ | ⟨-, hc⟩
  · exact hc
  · exact Unicode.isSpace_of_isNewline hc

@[simp] theorem hasNewlinePair_nil : hasNewlinePair [] = false := rfl

@[simp] theorem hasNewlinePair_cons (a : Char) (rest : List Char) :
    hasNewlinePair (a :: rest) =
      ((Unicode.isNewline a && rest.head?.any Unicode.isNewline) || hasNewlinePair rest) := by
  cases rest with
  | nil => simp [hasNewlinePair]
  | cons b rest => simp [hasNewlinePair]

@[simp] theorem closesSentence_nil : closesSentence [] = false := rfl

/-- Reading one more character: the characters close a sentence exactly when the new one is a
space and a sentence was pending before it. This is the step the splitter's flag follows. -/
theorem closesSentence_cons (c : Char) (back : List Char) :
    closesSentence (c :: back) = (Unicode.isSpace c && pendingBreak back (some c)) := by
  by_cases hc : Unicode.isSpace c = true
  · rw [hc, Bool.true_and]
    simp only [closesSentence, pendingBreak, List.takeWhile_cons_of_pos hc,
      List.dropWhile_cons_of_pos hc, hasNewlinePair_cons]
    cases back with
    | nil => simp [endsBefore]
    | cons b back =>
      by_cases hb : Unicode.isSpace b = true
      · -- the run goes on before `c`: the character before it is the same
        have hend : isSentenceEnd b = false := by
          cases h : isSentenceEnd b
          · rfl
          · rw [isSentenceEnd_not_isSpace h] at hb
            cases hb
        simp only [List.takeWhile_cons_of_pos hb, List.isEmpty_cons, Bool.not_false,
          List.head?_cons, Option.any_some, hasNewlinePair_cons, Bool.true_and, endsBefore, hc,
          Bool.and_true, hend, Bool.false_or]
        rw [Bool.and_comm (Unicode.isNewline c), Bool.or_left_comm]
      · -- the run starts at `c`: the character before it is `b`
        have hnl : Unicode.isNewline b = false := by
          cases h : Unicode.isNewline b
          · rfl
          · exact (hb (Unicode.isSpace_of_isNewline h)).elim
        simp [List.takeWhile_cons_of_neg hb, List.dropWhile_cons_of_neg hb, endsBefore, hnl, hc]
  · rw [Bool.not_eq_true] at hc
    simp [closesSentence, hc]

/-- Before a character that is no space, a sentence is pending only if it is closed already. -/
theorem pendingBreak_of_not_isSpace {c : Char} (hc : Unicode.isSpace c = false)
    (back : List Char) : pendingBreak back (some c) = closesSentence back := by
  have hend : back.head?.any (endsBefore · (some c)) = false := by
    cases back with
    | nil => rfl
    | cons b back =>
      cases h : endsBefore b (some c)
      · simp [h]
      · rw [isSpace_of_endsBefore h] at hc
        cases hc
  rw [pendingBreak, hend, Bool.false_or]

/-- The flag after reading `c`: still skipping if it skipped and `c` is a space, else whether
`c` ends a sentence before the character after it. -/
theorem pendingBreak_cons (c : Char) (back : List Char) (next : Option Char) :
    pendingBreak (c :: back) next =
      (if pendingBreak back (some c) && Unicode.isSpace c then true else endsBefore c next) := by
  rw [pendingBreak, List.head?_cons, Option.any_some, closesSentence_cons]
  split
  · rename_i h
    rw [Bool.and_comm] at h
    rw [h, Bool.or_true]
  · rename_i h
    rw [Bool.and_comm, Bool.not_eq_true] at h
    rw [h, Bool.or_false]

/-! ## The cuts the splitter makes -/

/-- The characters before position `p + 1`, read backwards, are the one at `p` and then those
before `p`. -/
theorem reverse_take_succ {T : List Char} {p : Nat} {c : Char} (h : T[p]? = some c) :
    (T.take (p + 1)).reverse = c :: (T.take p).reverse := by
  rw [List.take_add_one, h, Option.toList_some, List.reverse_append, List.reverse_singleton,
    List.singleton_append]

/-- The splitter, run from a position whose flag is the pending break there, starts its
sentences at the one open now and at every break from that position on. The induction is on the
characters left; the flag is kept equal to `pendingBreak` by `pendingBreak_cons`. -/
theorem sentenceSpansFrom_starts (T : List Char) :
    ∀ (cs : List Char) (pos start : Nat) (acc : List (Nat × Nat)),
      T.drop pos = cs → start < T.length →
      (sentenceSpansFrom pos start (pendingBreak (T.take pos).reverse cs.head?) cs acc).map
          (·.1) =
        acc.reverse.map (·.1) ++ start :: (List.range' pos cs.length).filter (isSentenceBreak T)
  | [], pos, start, acc, hdrop, hstart => by
    -- the text is read: the open sentence holds a character and is closed
    have hpos : T.length ≤ pos := List.drop_eq_nil_iff.1 hdrop
    rw [sentenceSpansFrom, if_pos (by simp only [Bool.or_eq_true, decide_eq_true_eq]; omega)]
    simp
  | c :: rest, pos, start, acc, hdrop, hstart => by
    obtain ⟨hc, hrest⟩ := Piece.getElem?_of_drop_eq_cons hdrop
    have hpos : pos < T.length := (List.getElem?_eq_some_iff.1 hc).1
    have hflag := pendingBreak_cons c (T.take pos).reverse rest.head?
    rw [← reverse_take_succ hc] at hflag
    rw [List.head?_cons, sentenceSpansFrom, List.length_cons, List.range'_succ, List.filter_cons]
    by_cases hskip : (pendingBreak (T.take pos).reverse (some c) && Unicode.isSpace c) = true
    · -- a space after a sentence end joins that sentence
      have hbreak : isSentenceBreak T pos = false := by
        simp only [Bool.and_eq_true] at hskip
        simp [isSentenceBreak, hc, hskip.2]
      rw [if_pos hskip, if_neg (by rw [hbreak]; decide)]
      rw [if_pos hskip] at hflag
      have := sentenceSpansFrom_starts T rest (pos + 1) start acc hrest hstart
      rwa [hflag] at this
    · rw [if_neg hskip]
      rw [if_neg hskip] at hflag
      cases hp : pendingBreak (T.take pos).reverse (some c) with
      | true =>
        -- the first character after the spaces is no space: a new sentence starts at it
        have hsp : Unicode.isSpace c = false := by
          rw [hp, Bool.true_and] at hskip
          simpa using hskip
        have hbreak : isSentenceBreak T pos = true := by
          rw [pendingBreak_of_not_isSpace hsp] at hp
          simp [isSentenceBreak, hc, hsp, hp]
        show (sentenceSpansFrom (pos + 1) pos (endsBefore c rest.head?) rest
          ((start, pos) :: acc)).map (·.1) = _
        rw [if_pos hbreak, ← hflag, sentenceSpansFrom_starts T rest (pos + 1) pos _ hrest hpos]
        simp
      | false =>
        have hbreak : isSentenceBreak T pos = false := by
          cases hsp : Unicode.isSpace c with
          | true => simp [isSentenceBreak, hc, hsp]
          | false =>
            rw [pendingBreak_of_not_isSpace hsp] at hp
            simp [isSentenceBreak, hp]
        show (sentenceSpansFrom (pos + 1) start (endsBefore c rest.head?) rest acc).map (·.1) = _
        rw [if_neg (by rw [hbreak]; decide), ← hflag]
        exact sentenceSpansFrom_starts T rest (pos + 1) start acc hrest hstart

/-- The sentences of a text start at position 0 and at its sentence breaks, and nowhere else. -/
theorem textSentences_offsets (text : String) :
    (textSentences text).map (·.1) =
      (List.range text.length).filter fun p => p == 0 || isSentenceBreak text.toList p := by
  by_cases hne : text.toList = []
  · have hlen : text.length = 0 := by rw [← String.length_toList, hne, List.length_nil]
    simp [textSentences, hne, hlen, sentenceSpansFrom]
  · have hpos : 0 < text.toList.length := List.length_pos_iff.2 hne
    have h := sentenceSpansFrom_starts text.toList text.toList 0 0 [] List.drop_zero hpos
    have hflag : pendingBreak (text.toList.take 0).reverse text.toList.head? = false := by
      simp [pendingBreak]
    rw [hflag] at h
    simp only [textSentences, List.map_map]
    rw [show ((fun x : Nat × String => x.1) ∘ fun x : Nat × Nat =>
        (x.1, String.ofList ((text.toList.drop x.1).take (x.2 - x.1)))) = (·.1) from rfl, h,
      List.range_eq_range', ← String.length_toList]
    obtain ⟨n, hn⟩ : ∃ n, text.toList.length = n + 1 := ⟨_, (Nat.succ_pred_eq_of_pos hpos).symm⟩
    rw [hn, List.range'_succ, List.filter_cons, List.filter_cons]
    -- position 0 starts the first sentence and is no break; later positions are kept by breaks
    have hzero : isSentenceBreak text.toList 0 = false := by simp [isSentenceBreak]
    simp only [hzero, Bool.false_eq_true, if_false, beq_self_eq_true, Bool.true_or, if_true,
      List.reverse_nil, List.map_nil, List.nil_append]
    congr 1
    apply List.filter_congr
    intro p hp
    rw [List.mem_range'_1] at hp
    have : (p == 0) = false := by simp only [beq_eq_false_iff_ne]; omega
    rw [this, Bool.false_or]

/-- The breaks of a text with a sentence end inside a number and a paragraph break. -/
example : (List.range 34).filter (isSentenceBreak "A cat ran. Then? It is 3.5 m.\n\nNew".toList) =
    [11, 17, 31] := by decide +kernel

/-- No sentence of a text is empty. -/
theorem textSentences_ne_empty (text : String) : ∀ x ∈ textSentences text, x.2 ≠ "" := by
  have hc := sentenceSpansFrom_consecutive text.toList 0 0 false []
    ⟨rfl, Nat.le_refl _, fun h => by cases h⟩
  rw [Nat.zero_add] at hc
  intro x hx
  simp only [textSentences, List.mem_map] at hx
  obtain ⟨s, hs, rfl⟩ := hx
  obtain ⟨-, hlt, hle⟩ := hc.mem_bounds s hs
  rw [ne_eq, ← String.toList_inj, String.toList_ofList, String.toList_empty]
  exact slice_ne_nil hlt hle

/-- The sentences of every text are non-empty, lie one after another over it, each paired with
the number of characters before it, and start at position 0 and exactly at the sentence breaks:
the positions of a character that is no space, after a non-empty run of spaces that follows
`.`, `!` or `?` or holds two line breaks next to each other. -/
theorem sentences_start_at_breaks (t : Tokenizer) (text : String) :
    (∀ x ∈ t.sentences text, x.2 ≠ "") ∧ Laid text.toList 0 (t.sentences text) ∧
      (t.sentences text).map (·.1) =
        (List.range text.length).filter fun p => p == 0 || isSentenceBreak text.toList p :=
  ⟨textSentences_ne_empty text, textSentences_laid text, textSentences_offsets text⟩

end Proofreader
