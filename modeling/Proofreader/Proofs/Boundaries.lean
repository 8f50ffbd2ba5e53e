import Mathlib
import Proofreader.Proofs.Words
import Proofreader.Proofs.ReadingChanges

/-!
# Sentence and paragraph ends

The tokenizer marks two kinds of boundary in a sentence, after splitting it and before the
disambiguation rules run. The sentence end is the last token that is neither blank nor the
opening one (`Tokenizer.endsSentence`). A paragraph end is a line break that is the last line
break of a run of blank tokens holding at least two (`Tokenizer.endsParagraph`). The main
statement, `Tokenizer.analyzeSentence_flags_boundaries`, says that these are exactly the tokens
an analyzed sentence flags, and that a sentence with a token that is neither blank nor the
opening one has exactly one sentence end.

The sentence end is found by a search down from the last index (`markSentenceEnd_getElem?`).
The paragraph ends are marked by a walk over the tokens that keeps the line breaks of the
current run of blanks, clears them at each token that is not blank and after each mark, and
looks ahead for a later line break in the run (`markParagraphs_getElem?`). Its invariant
(`Pending`) says that the kept line breaks are there only when the run so far has one, and are
there whenever, in addition, a line break is still ahead in the run.

Both rest on every line break being a blank token. Pieces are blank or hold no space at all,
and a web address starts at a protocol, so this holds when no protocol is blank
(`textPieces_blank_or_spaceless`).
-/

namespace Proofreader

/-! ## Line breaks are blank -/

/-- A text that holds no space. -/
def Spaceless (s : String) : Prop := ∀ c ∈ s.toList, Unicode.isSpace c = false

namespace Piece

/-- Two joining characters are both spaces or both not. -/
theorem isSpace_eq_of_joins {a b : Char} (h : joins a b = true) :
    Unicode.isSpace a = Unicode.isSpace b := by
  obtain ⟨k, ha, hb⟩ := joins_iff.1 h
  cases k with
  | true => rw [isSpace_of_kind ha, isSpace_of_kind hb]
  | false =>
    -- word characters are no spaces
    have hword : ∀ c, kind c = some false → Unicode.isSpace c = false := fun c hc => by
      cases hs : Unicode.isSpace c with
      | false => rfl
      | true => exact absurd hc (kind_ne_word_of_isSpace hs)
    rw [hword a ha, hword b hb]

/-- In a chain of joining characters, a character is a space exactly when the first one is. -/
theorem isSpace_eq_head_of_isChain :
    ∀ {g : List Char} {a : Char}, (a :: g).IsChain (fun x y => joins x y = true) →
      ∀ c ∈ a :: g, Unicode.isSpace c = Unicode.isSpace a
  | [], a, _, c, hc => by rw [List.mem_singleton.1 hc]
  | b :: rest, a, hchain, c, hc => by
    rw [List.isChain_cons_cons] at hchain
    have hab := isSpace_eq_of_joins hchain.1
    rcases List.mem_cons.1 hc with rfl | hc
    · rfl
    · rw [isSpace_eq_head_of_isChain hchain.2 c hc, hab]

/-- Every piece of a text is a run of spaces or holds no space at all. -/
theorem split_blank_or_spaceless {text : String} {p : Piece} (hp : p ∈ split text) :
    isBlankText p.text = true ∨ Spaceless p.text := by
  have hchain : p.text.toList.IsChain fun x y => joins x y = true := by
    apply List.isChain_of_mem_splitBy (r := joins) (l := text.toList)
    rw [split_eq_splitBy]
    exact List.mem_map_of_mem hp
  cases hcs : p.text.toList with
  | nil => exact absurd (String.toList_eq_nil_iff.1 hcs) (split_ne_empty hp)
  | cons a g =>
    rw [hcs] at hchain
    have hsame := isSpace_eq_head_of_isChain hchain
    cases ha : Unicode.isSpace a with
    | true =>
      left
      simp only [isBlankText, hcs, Bool.and_eq_true, Bool.not_eq_true',
        List.all_eq_true]
      exact ⟨by simp [← String.toList_eq_nil_iff, hcs],
        fun c hc => (hsame c hc).trans ha⟩
    | false => exact Or.inr fun c hc => (hsame c (hcs ▸ hc)).trans ha

/-- Joining web addresses keeps every piece blank or without spaces, when no protocol is blank:
an address starts at a protocol and takes in no blank piece. -/
theorem joinAddresses_blank_or_spaceless {protocols : List String}
    (hpr : ∀ x ∈ protocols, isBlankText x = false) :
    ∀ (ps : List Piece) (cur : Option Piece), (∀ c ∈ cur, Spaceless c.text) →
      (∀ p ∈ ps, isBlankText p.text = true ∨ Spaceless p.text) →
      ∀ q ∈ joinAddresses protocols cur ps, isBlankText q.text = true ∨ Spaceless q.text
  | [], none, _, _, q, hq => by simp [joinAddresses] at hq
  | [], some c, hcur, _, q, hq => by
    rw [joinAddresses, List.mem_singleton] at hq
    exact hq ▸ Or.inr (hcur c rfl)
  | p :: rest, none, _, hps, q, hq => by
    have hrest : ∀ x ∈ rest, isBlankText x.text = true ∨ Spaceless x.text :=
      fun x hx => hps x (List.mem_cons_of_mem p hx)
    rw [joinAddresses] at hq
    split at hq
    · -- the address starts at a protocol, which is no blank piece
      rename_i hstart
      have hprot : isBlankText p.text = false := by
        simp only [startsAddress, Bool.and_eq_true, List.contains_iff_mem] at hstart
        exact hpr _ hstart.1
      have hp : Spaceless p.text := by
        rcases hps p List.mem_cons_self with hb | hs
        · rw [hb] at hprot
          cases hprot
        · exact hs
      exact joinAddresses_blank_or_spaceless hpr rest (some p) (fun c hc => by cases hc; exact hp)
        hrest q hq
    · rcases List.mem_cons.1 hq with rfl | hq
      · exact hps q List.mem_cons_self
      · exact joinAddresses_blank_or_spaceless hpr rest none (fun c hc => by cases hc) hrest q hq
  | p :: rest, some c, hcur, hps, q, hq => by
    have hrest : ∀ x ∈ rest, isBlankText x.text = true ∨ Spaceless x.text :=
      fun x hx => hps x (List.mem_cons_of_mem p hx)
    rw [joinAddresses] at hq
    split at hq
    · rcases List.mem_cons.1 hq with rfl | hq
      · exact Or.inr (hcur q rfl)
      rcases List.mem_cons.1 hq with rfl | hq
      · exact hps q List.mem_cons_self
      · exact joinAddresses_blank_or_spaceless hpr rest none (fun c hc => by cases hc) hrest q hq
    · -- the address goes on over a piece that is not blank, so holds no space
      rename_i hends
      have hp : Spaceless p.text := by
        rcases hps p List.mem_cons_self with hb | hs
        · simp [endsAddress, hb] at hends
        · exact hs
      refine joinAddresses_blank_or_spaceless hpr rest _ (fun c' hc' => ?_) hrest q hq
      cases hc'
      intro x hx
      rw [String.toList_append, List.mem_append] at hx
      rcases hx with hx | hx
      · exact hcur c rfl x hx
      · exact hp x hx

end Piece

/-- When no protocol is blank, every piece of a text is blank or holds no space. -/
theorem textPieces_blank_or_spaceless {protocols : List String}
    (hpr : ∀ x ∈ protocols, isBlankText x = false) (text : String) :
    ∀ p ∈ textPieces protocols text, isBlankText p.text = true ∨ Spaceless p.text :=
  Piece.joinAddresses_blank_or_spaceless hpr _ none (fun c hc => by cases hc)
    fun _ hp => Piece.split_blank_or_spaceless hp

namespace Tokenizer

/-! ## Where the boundaries are -/

/-- Token `i` is the last token that is neither blank nor the sentence start. -/
def endsSentence (tokens : List Token) (i : Nat) : Bool :=
  match tokens[i]? with
  | some tok => !tok.isBlank && !tok.sentStart &&
      (tokens.drop (i + 1)).all fun x => x.isBlank || x.sentStart
  | none => false

/-- The blank tokens right before token `i`, nearest first. -/
def blanksBefore (tokens : List Token) (i : Nat) : List Token :=
  (tokens.take i).reverse.takeWhile (·.isBlank)

/-- The blank tokens right after token `i`. -/
def blanksAfter (tokens : List Token) (i : Nat) : List Token :=
  (tokens.drop (i + 1)).takeWhile (·.isBlank)

/-- Token `i` is a blank line break, the last line break of its run of blank tokens, and not
the only one. -/
def endsParagraph (tokens : List Token) (i : Nat) : Bool :=
  match tokens[i]? with
  | some tok => tok.isBlank && hasNewline tok && !(blanksAfter tokens i).any hasNewline &&
      (blanksBefore tokens i).any hasNewline
  | none => false

/-! ## The sentence end -/

/-- Searching down from `n - 1` finds the last index below `n` that passes the test. -/
theorem find?_range_reverse_eq_some {p : Nat → Bool} {j : Nat} (n : Nat) :
    (List.range n).reverse.find? p = some j ↔
      j < n ∧ p j = true ∧ ∀ k, j < k → k < n → p k = false := by
  induction n with
  | zero => simp
  | succ n ih =>
    rw [List.range_succ, List.reverse_append, List.reverse_singleton, List.singleton_append,
      List.find?_cons]
    cases hn : p n with
    | true =>
      -- `n` itself passes, and nothing above it is below `n + 1`
      constructor
      · intro h
        cases h
        exact ⟨Nat.lt_succ_self _, hn, fun k hk hk' => absurd hk' (by omega)⟩
      · rintro ⟨hj, hpj, habove⟩
        by_cases hjn : j = n
        · rw [hjn]
        · have := habove n (by omega) (Nat.lt_succ_self n)
          rw [hn] at this
          cases this
    | false =>
      rw [ih]
      constructor
      · rintro ⟨hj, hpj, habove⟩
        refine ⟨by omega, hpj, fun k hk hk' => ?_⟩
        rcases Nat.lt_succ_iff_lt_or_eq.1 hk' with hk' | rfl
        · exact habove k hk hk'
        · exact hn
      · rintro ⟨hj, hpj, habove⟩
        have hjn : j ≠ n := fun h => by rw [h, hn] at hpj; cases hpj
        exact ⟨by omega, hpj, fun k hk hk' => habove k hk (by omega)⟩

/-- The test the sentence end is searched with: the token at `i` is neither blank nor the
sentence start. -/
def contentAt (tokens : Array Token) (i : Nat) : Bool :=
  match tokens[i]? with
  | some t => !t.isBlank && !t.sentStart
  | none => false

/-- A token ends the sentence exactly when the search down from the last token stops at it. -/
theorem endsSentence_iff (tokens : Array Token) (j : Nat) :
    endsSentence tokens.toList j = true ↔
      (List.range tokens.size).reverse.find? (contentAt tokens) = some j := by
  rw [find?_range_reverse_eq_some]
  unfold endsSentence contentAt
  rw [Array.getElem?_toList]
  cases hj : tokens[j]? with
  | none =>
    simp only [Bool.false_eq_true, false_iff, not_and]
    intro hlt
    exact absurd hj (by simp [hlt])
  | some tok =>
    have hlt : j < tokens.size := (Array.getElem?_eq_some_iff.1 hj).1
    simp only [Bool.and_eq_true, List.all_eq_true, Bool.or_eq_true, hlt, true_and]
    -- the tokens after `j` are those at the indices above it
    have hafter :
        (∀ x ∈ tokens.toList.drop (j + 1), x.isBlank = true ∨ x.sentStart = true) ↔
        ∀ k, j < k → k < tokens.size →
          (match tokens[k]? with
            | some t => !t.isBlank && !t.sentStart
            | none => false) = false := by
      constructor
      · intro h k hk hk'
        rw [Array.getElem?_eq_getElem hk']
        have hmem : tokens[k] ∈ tokens.toList.drop (j + 1) :=
          List.mem_drop_iff_getElem.2 ⟨k - (j + 1), by simp; omega, by simp; congr 1; omega⟩
        rcases h _ hmem with h | h <;> simp [h]
      · intro h x hx
        obtain ⟨m, hm, rfl⟩ := List.mem_drop_iff_getElem.1 hx
        have hlt : j + 1 + m < tokens.size := by simp at hm; omega
        have hk := h (j + 1 + m) (by omega) hlt
        rw [Array.getElem?_eq_getElem hlt] at hk
        simp only [Bool.and_eq_false_iff, Bool.not_eq_false'] at hk
        simpa using hk
    rw [hafter]

/-- Marking the sentence end marks the token the search stops at, and no other. -/
theorem markSentenceEnd_getElem? (tokens : Array Token) (j : Nat) :
    (markSentenceEnd tokens)[j]? =
      tokens[j]?.map fun t => if endsSentence tokens.toList j then t.markSentenceEnd else t := by
  unfold markSentenceEnd
  dsimp only
  split
  · rename_i i hi
    have hfound : (List.range tokens.size).reverse.find? (contentAt tokens) = some i := hi
    -- token `j` ends the sentence exactly when it is the one found
    have hends : endsSentence tokens.toList j = true ↔ i = j := by
      rw [endsSentence_iff, hfound, Option.some.injEq]
    split
    · rename_i t ht
      rw [Array.set!_eq_setIfInBounds, Array.getElem?_setIfInBounds]
      by_cases hij : i = j
      · subst hij
        rw [if_pos rfl, if_pos (Array.getElem?_eq_some_iff.1 ht).1, ht, Option.map_some,
          if_pos (hends.2 rfl)]
      · rw [if_neg hij]
        cases tokens[j]? with
        | none => rfl
        | some t' => rw [Option.map_some, if_neg (mt hends.1 hij)]
    · -- the search stops only at a token
      rename_i ht
      have hc := ((find?_range_reverse_eq_some _).1 hfound).2.1
      simp [contentAt, ht] at hc
  · rename_i hnone
    cases tokens[j]? with
    | none => rfl
    | some t =>
      have hnot : endsSentence tokens.toList j = false := by
        rw [Bool.eq_false_iff]
        intro h
        rw [endsSentence_iff] at h
        exact absurd (hnone.symm.trans h) (by simp)
      rw [Option.map_some, hnot]
      rfl

/-! ## The paragraph ends -/

/-- The blanks before the token after `i` are token `i` and the blanks before it, when token `i`
is blank, and none otherwise. -/
theorem blanksBefore_succ {tokens : List Token} {i : Nat} {tok : Token}
    (h : tokens[i]? = some tok) :
    blanksBefore tokens (i + 1) = if tok.isBlank then tok :: blanksBefore tokens i else [] := by
  unfold blanksBefore
  rw [List.take_add_one, h, Option.toList_some, List.reverse_append, List.reverse_singleton,
    List.singleton_append, List.takeWhile_cons]

/-- The run of blanks from token `i` on is token `i` and the blanks after it, when token `i` is
blank, and empty otherwise. -/
theorem takeWhile_drop_of_getElem? {tokens : List Token} {i : Nat} {tok : Token}
    (h : tokens[i]? = some tok) :
    (tokens.drop i).takeWhile (·.isBlank) =
      if tok.isBlank then tok :: blanksAfter tokens i else [] := by
  obtain ⟨hi, rfl⟩ := List.getElem?_eq_some_iff.1 h
  rw [List.drop_eq_getElem_cons hi, List.takeWhile_cons, blanksAfter]

/-- Every token that holds a line break is blank. -/
def NewlinesBlank (tokens : List Token) : Prop :=
  ∀ x ∈ tokens, hasNewline x = true → x.isBlank = true

/-- When every line break is blank, the look-ahead of the walk says that no line break follows
in the run of blanks after token `i`. -/
theorem runEndsAfter_eq {tokens : Array Token} {i : Nat}
    (hnl : NewlinesBlank (tokens.toList.drop (i + 1))) :
    runEndsAfter tokens i = !(blanksAfter tokens.toList i).any hasNewline := by
  unfold runEndsAfter blanksAfter
  generalize tokens.toList.drop (i + 1) = l at hnl ⊢
  induction l with
  | nil => rfl
  | cons x l ih =>
    have hrest := ih fun y hy => hnl y (List.mem_cons_of_mem x hy)
    cases hb : x.isBlank with
    | true =>
      cases hn : hasNewline x with
      | true => simp [hb, hn]
      | false => simpa [hb, hn] using hrest
    | false =>
      -- a token that is not blank holds no line break, and ends the run
      have hn : hasNewline x = false := by
        cases h : hasNewline x with
        | false => rfl
        | true => rw [hnl x List.mem_cons_self h] at hb; cases hb
      simp [hb, hn]

/-- What the walk over the tokens keeps before token `i`: line breaks of the current run of
blanks only when the run so far has one, and some whenever the run also has a line break at or
after `i`. -/
structure Pending (tokens : List Token) (i : Nat) (newlines : List Nat) : Prop where
  only : newlines ≠ [] → (blanksBefore tokens i).any hasNewline = true
  kept : (blanksBefore tokens i).any hasNewline = true →
    ((tokens.drop i).takeWhile (·.isBlank)).any hasNewline = true → newlines ≠ []

/-- Token `t` at index `j`, marked as a paragraph end if it ends one. -/
def paragraphMarked (tokens : List Token) (j : Nat) (t : Token) : Token :=
  if endsParagraph tokens j then t.markParagraphEnd else t

/-- The tokens once the walk has passed those before `i`: marked where they end a paragraph,
and as they were from `i` on. -/
def Walked (A : Array Token) (i : Nat) (cur : Array Token) : Prop :=
  ∀ j, cur[j]? = if j < i then A[j]?.map (paragraphMarked A.toList j) else A[j]?

section Walk

variable {A : Array Token}

/-- Leaving a token that ends no paragraph as it is walks past it. -/
theorem Walked.succ_of_not_ends {i : Nat} {cur : Array Token} {tok : Token}
    (hwalked : Walked A i cur) (htok : A[i]? = some tok)
    (hnot : ¬endsParagraph A.toList i = true) : Walked A (i + 1) cur := by
  intro j
  rw [hwalked j]
  rcases Nat.lt_trichotomy j i with hj | rfl | hj
  · rw [if_pos hj, if_pos (by omega)]
  · rw [if_neg (Nat.lt_irrefl j), if_pos (Nat.lt_succ_self j), htok, Option.map_some,
      paragraphMarked, if_neg hnot]
  · rw [if_neg (by omega), if_neg (by omega)]

/-- Marking a token that ends a paragraph walks past it. -/
theorem Walked.succ_of_ends {i : Nat} {cur : Array Token} {tok : Token}
    (hwalked : Walked A i cur) (htok : A[i]? = some tok) (hend : endsParagraph A.toList i = true) :
    Walked A (i + 1) (cur.set! i tok.markParagraphEnd) := by
  have hcur : cur[i]? = some tok := by rw [hwalked i, if_neg (Nat.lt_irrefl i), htok]
  intro j
  rw [Array.set!_eq_setIfInBounds, Array.getElem?_setIfInBounds]
  by_cases hij : i = j
  · subst hij
    rw [if_pos rfl, if_pos (Array.getElem?_eq_some_iff.1 hcur).1, if_pos (Nat.lt_succ_self i),
      htok, Option.map_some, paragraphMarked, if_pos hend]
  · rw [if_neg hij, hwalked j]
    rcases Nat.lt_or_gt_of_ne hij with hj | hj
    · rw [if_neg (by omega), if_neg (by omega)]
    · rw [if_pos hj, if_pos (by omega)]

/-- The look-ahead of the walk reads tokens it has not touched: it says whether no line break
follows in the run of blanks. -/
theorem Walked.lookAhead_eq (hnl : NewlinesBlank A.toList)
    {i : Nat} {cur : Array Token} (hwalked : Walked A i cur) :
    runEndsAfter cur i = !(blanksAfter A.toList i).any hasNewline := by
  have hdrop : cur.toList.drop (i + 1) = A.toList.drop (i + 1) := by
    apply List.ext_getElem?
    intro k
    rw [List.getElem?_drop, List.getElem?_drop, Array.getElem?_toList, Array.getElem?_toList,
      hwalked, if_neg (by omega)]
  rw [runEndsAfter_eq (hdrop ▸ fun x hx => hnl x (List.mem_of_mem_drop hx)), blanksAfter,
    blanksAfter, hdrop]

/-- At a line break the walk marks the token exactly when it ends a paragraph: the kept line
breaks and the look-ahead tell whether the run holds another one before it and none after. -/
theorem Walked.mark_eq (hnl : NewlinesBlank A.toList)
    {i : Nat} {newlines : List Nat} {cur : Array Token} {tok : Token} (hwalked : Walked A i cur)
    (hpend : Pending A.toList i newlines) (hlist : A.toList[i]? = some tok)
    (hn : hasNewline tok = true) :
    (decide ((newlines ++ [i]).length ≥ 2) && runEndsAfter cur i) = endsParagraph A.toList i := by
  have hb : tok.isBlank = true := hnl tok (List.mem_of_getElem? hlist) hn
  -- a second line break of the run is there exactly when the run so far has one
  have hsecond :
      (newlines ++ [i]).length ≥ 2 ↔ (blanksBefore A.toList i).any hasNewline = true := by
    rw [List.length_append, List.length_singleton]
    constructor
    · intro h
      exact hpend.only (List.ne_nil_of_length_pos (by omega))
    · intro h
      have := hpend.kept h (by rw [takeWhile_drop_of_getElem? hlist, if_pos hb]; simp [hn])
      have := List.length_pos_of_ne_nil this
      omega
  have hlen :
      decide ((newlines ++ [i]).length ≥ 2) = (blanksBefore A.toList i).any hasNewline := by
    rw [Bool.eq_iff_iff, decide_eq_true_iff]
    exact hsecond
  simp only [endsParagraph, hlist, hb, hn, Bool.true_and]
  rw [hlen, hwalked.lookAhead_eq hnl, Bool.and_comm]

/-- One step of the walk, over a token: it marks the token exactly when it ends a paragraph,
and keeps its invariant. -/
theorem markParagraphs_step
    (hnl : NewlinesBlank A.toList) {i : Nat}
    {newlines : List Nat} {cur : Array Token} {tok : Token} (hwalked : Walked A i cur)
    (hpend : Pending A.toList i newlines) (htok : A[i]? = some tok) (f : Nat) :
    ∃ newlines' cur',
      markParagraphs (f + 1) i newlines cur = markParagraphs f (i + 1) newlines' cur' ∧
      Walked A (i + 1) cur' ∧ Pending A.toList (i + 1) newlines' := by
  have hcur : cur[i]? = some tok := by rw [hwalked i, if_neg (Nat.lt_irrefl i), htok]
  have hlist : A.toList[i]? = some tok := by rw [Array.getElem?_toList, htok]
  have hbefore := blanksBefore_succ hlist
  have hahead := takeWhile_drop_of_getElem? hlist
  rw [markParagraphs.eq_2, hcur]
  dsimp only
  by_cases hn : hasNewline tok = true
  · rw [if_pos hn, hwalked.mark_eq hnl hpend hlist hn]
    have hb : tok.isBlank = true := hnl tok (List.mem_of_getElem? hlist) hn
    by_cases hend : endsParagraph A.toList i = true
    · rw [if_pos hend]
      refine ⟨[], _, rfl, hwalked.succ_of_ends htok hend, ⟨fun h => absurd rfl h, ?_⟩⟩
      -- the mark falls on the last line break of the run
      intro _ hlater
      have hnone : (blanksAfter A.toList i).any hasNewline = false := by
        simp only [endsParagraph, hlist, Bool.and_eq_true, Bool.not_eq_eq_eq_not,
          Bool.not_true] at hend
        exact hend.1.2
      have hafter : (blanksAfter A.toList i).any hasNewline = true := hlater
      rw [hnone] at hafter
      cases hafter
    · rw [if_neg hend]
      refine ⟨newlines ++ [i], cur, rfl, hwalked.succ_of_not_ends htok hend,
        ⟨fun _ => ?_, fun _ _ => by simp⟩⟩
      rw [hbefore, if_pos hb]
      simp [hn]
  · rw [if_neg hn]
    have hnot : ¬endsParagraph A.toList i = true := by simp [endsParagraph, hlist, hn]
    by_cases hb : tok.isBlank = true
    · -- a blank without a line break leaves the run as it was on both sides
      rw [if_pos hb]
      refine ⟨newlines, cur, rfl, hwalked.succ_of_not_ends htok hnot,
        ⟨fun h => ?_, fun h h' => ?_⟩⟩
      · have := hpend.only h
        rw [hbefore, if_pos hb]
        simpa [hn] using this
      · apply hpend.kept
        · rw [hbefore, if_pos hb] at h
          simpa [hn] using h
        · have hafter : (blanksAfter A.toList i).any hasNewline = true := h'
          rw [hahead, if_pos hb]
          simp [hn, hafter]
    · -- a token that is not blank ends the run
      rw [if_neg hb]
      refine ⟨[], cur, rfl, hwalked.succ_of_not_ends htok hnot,
        ⟨fun h => absurd rfl h, fun h => ?_⟩⟩
      rw [hbefore, if_neg hb] at h
      simp at h

/-- Past the last token, the walk has marked every paragraph end. -/
theorem walked_of_size_le {i : Nat} {cur : Array Token} (hi : A.size ≤ i)
    (hwalked : Walked A i cur) (j : Nat) : cur[j]? = A[j]?.map (paragraphMarked A.toList j) := by
  rw [hwalked j]
  split
  · rfl
  · rw [Array.getElem?_eq_none (by omega), Option.map_none]

/-- The walk, run with enough fuel from any point it reaches, marks exactly the paragraph ends.
-/
theorem markParagraphs_walk (hnl : NewlinesBlank A.toList) :
    ∀ (fuel i : Nat) (newlines : List Nat) (cur : Array Token), A.size ≤ i + fuel →
      Walked A i cur → Pending A.toList i newlines →
      ∀ j, (markParagraphs fuel i newlines cur)[j]? = A[j]?.map (paragraphMarked A.toList j)
  | 0, i, newlines, cur, hfuel, hwalked, _ => by
    rw [markParagraphs.eq_1]
    exact walked_of_size_le (by omega) hwalked
  | f + 1, i, newlines, cur, hfuel, hwalked, hpend => by
    cases htok : A[i]? with
    | none =>
      -- past the last token the walk stops
      have hi : A.size ≤ i := by simpa using htok
      have hcur : cur[i]? = none := by rw [hwalked i, if_neg (Nat.lt_irrefl i), htok]
      rw [markParagraphs.eq_2, hcur]
      exact walked_of_size_le hi hwalked
    | some tok =>
      obtain ⟨newlines', cur', hstep, hwalked', hpend'⟩ :=
        markParagraphs_step hnl hwalked hpend htok f
      rw [hstep]
      exact markParagraphs_walk hnl f (i + 1) newlines' cur' (by omega) hwalked' hpend'

/-- When every line break is blank, marking the paragraph ends marks exactly the last line
break of each run of blanks that holds at least two. -/
theorem markParagraphs_getElem? (hnl : NewlinesBlank A.toList)
    (j : Nat) :
    (markParagraphs A.size 0 [] A)[j]? = A[j]?.map (paragraphMarked A.toList j) :=
  markParagraphs_walk hnl A.size 0 [] A (by omega) (fun j => by rw [if_neg (Nat.not_lt_zero j)])
    ⟨fun h => absurd rfl h, fun h => by simp [blanksBefore] at h⟩ j

end Walk

/-! ## What the boundaries depend on -/

section Views

variable {L L' : List Token}

/-- Whether a run of blanks holds a line break is read off the word views. -/
theorem any_takeWhile_blank (l : List Token) :
    (l.takeWhile (·.isBlank)).any hasNewline =
      ((l.map Token.wordView).takeWhile (·.2.1)).any fun v => v.1.toList.any Unicode.isNewline := by
  rw [List.takeWhile_map (p := fun v : String × Bool × Bool => v.2.1) (f := Token.wordView),
    List.any_map]
  rfl

/-- Lists of tokens with the same word views both lack a token at an index, or both have one,
with the same word view. -/
theorem getElem?_of_views (h : L.map Token.wordView = L'.map Token.wordView) (i : Nat) :
    (L[i]? = none ∧ L'[i]? = none) ∨
      ∃ t t', L[i]? = some t ∧ L'[i]? = some t' ∧ t.wordView = t'.wordView := by
  have hget : L[i]?.map Token.wordView = L'[i]?.map Token.wordView := by
    rw [← List.getElem?_map, h, List.getElem?_map]
  cases hL : L[i]? with
  | none =>
    rw [hL, Option.map_none, eq_comm, Option.map_eq_none_iff] at hget
    exact Or.inl ⟨rfl, hget⟩
  | some t =>
    rw [hL, Option.map_some, eq_comm, Option.map_eq_some_iff] at hget
    obtain ⟨t', hL', hv⟩ := hget
    exact Or.inr ⟨t, t', rfl, hL', hv.symm⟩

/-- Whether a token ends the sentence depends on the word views of the tokens only. -/
theorem endsSentence_congr (h : L.map Token.wordView = L'.map Token.wordView) (i : Nat) :
    endsSentence L i = endsSentence L' i := by
  have hdrop : (L.drop (i + 1)).all (fun x => x.isBlank || x.sentStart) =
      (L'.drop (i + 1)).all (fun x => x.isBlank || x.sentStart) := by
    have := congrArg
      (fun l => (l.drop (i + 1)).all fun v : String × Bool × Bool => v.2.1 || v.2.2) h
    simpa only [← List.map_drop, List.all_map, Function.comp_def, Token.wordView] using this
  rcases getElem?_of_views h i with ⟨hL, hL'⟩ | ⟨t, t', hL, hL', hv⟩
  · simp only [endsSentence, hL, hL']
  · simp only [Token.wordView, Prod.mk.injEq] at hv
    simp only [endsSentence, hL, hL', hv.2.1, hv.2.2, hdrop]

/-- Whether a token ends a paragraph depends on the word views of the tokens only. -/
theorem endsParagraph_congr (h : L.map Token.wordView = L'.map Token.wordView) (i : Nat) :
    endsParagraph L i = endsParagraph L' i := by
  have hafter : (blanksAfter L i).any hasNewline = (blanksAfter L' i).any hasNewline := by
    rw [blanksAfter, blanksAfter, any_takeWhile_blank, any_takeWhile_blank, List.map_drop,
      List.map_drop, h]
  have hbefore : (blanksBefore L i).any hasNewline = (blanksBefore L' i).any hasNewline := by
    rw [blanksBefore, blanksBefore, any_takeWhile_blank, any_takeWhile_blank, List.map_reverse,
      List.map_reverse, List.map_take, List.map_take, h]
  rcases getElem?_of_views h i with ⟨hL, hL'⟩ | ⟨t, t', hL, hL', hv⟩
  · simp only [endsParagraph, hL, hL']
  · simp only [Token.wordView, Prod.mk.injEq] at hv
    simp only [endsParagraph, hL, hL', hafter, hbefore, hasNewline, hv.1, hv.2.1]

end Views

/-! ## The tokens before marking -/

/-- The step `tokensOf` reads pieces with pushes tokens that end no sentence and no paragraph. -/
theorem tokensOf_step_unmarked (t : Tokenizer) :
    PushesView (fun tok => (tok.sentEnd, tok.paraEnd)) (fun _ => (false, false))
      fun (acc : Array Token × Nat × Bool) (p : Piece) =>
        let (toks, pos, spaceBefore) := acc
        let rs := if isBlankText p.text then [] else t.readings p.text
        let tok := (Token.make p.text pos rs).withSpaceBefore spaceBefore
        (toks.push tok, Token.advance pos p.text.length, tok.isBlank) :=
  fun _ _ _ _ => ⟨_, _, rfl, rfl⟩

/-- The tokens of a sentence are those read from its pieces, after the opening token, with the
sentence end marked and then the paragraph ends. Before marking, each token after the opening
one has its piece's text and blankness, and no token ends the sentence or a paragraph. -/
theorem tokensOf_shape (t : Tokenizer) (text : String) (offset : Nat) :
    ∃ T : Array Token,
      t.tokensOf text offset = markParagraphs (markSentenceEnd T).size 0 [] (markSentenceEnd T) ∧
      T.toList.map Token.wordView = (Token.opening offset).wordView ::
        ((textPieces t.options.protocols text).map fun p => (p.text, isBlankText p.text, false)) ∧
      ∀ x ∈ T.toList, x.sentEnd = false ∧ x.paraEnd = false := by
  refine ⟨_, rfl, ?_, ?_⟩
  · rw [wordView_foldl (tokensOf_step_pushesWord t)]
    rfl
  · -- the opening token and every token pushed after it end nothing
    have hflags := map_foldl_of_pushesView (tokensOf_step_unmarked t)
      (textPieces t.options.protocols text) #[Token.opening offset] offset false
    intro x hx
    have hmem := List.mem_map_of_mem (f := fun tok : Token => (tok.sentEnd, tok.paraEnd)) hx
    rw [hflags] at hmem
    simp only [List.mem_append, List.mem_map, List.mem_singleton] at hmem
    rcases hmem with hopen | ⟨_, _, hpiece⟩
    · simpa [Token.opening, Token.make] using hopen
    · simp only [Prod.mk.injEq] at hpiece
      exact ⟨hpiece.1.symm, hpiece.2.symm⟩

/-! ## Line breaks are blank tokens -/

/-- Whether every line break is blank is read off the word views of the tokens. -/
theorem NewlinesBlank.of_views {L L' : List Token}
    (h : L.map Token.wordView = L'.map Token.wordView) (hL : NewlinesBlank L) :
    NewlinesBlank L' := by
  intro x hx hn
  have hv : x.wordView ∈ L.map Token.wordView := by
    rw [h]
    exact List.mem_map_of_mem hx
  obtain ⟨y, hy, hyx⟩ := List.mem_map.1 hv
  simp only [Token.wordView, Prod.mk.injEq] at hyx
  rw [← hyx.2.1]
  exact hL y hy (by rw [hasNewline, hyx.1]; exact hn)

/-- Tokens read from the pieces of a text after an opening token have their line breaks in
blank tokens, when no protocol is blank. -/
theorem newlinesBlank_of_pieces {protocols : List String}
    (hpr : ∀ p ∈ protocols, isBlankText p = false) {text : String} {offset : Nat}
    {T : List Token}
    (h : T.map Token.wordView = (Token.opening offset).wordView ::
      (textPieces protocols text).map fun p => (p.text, isBlankText p.text, false)) :
    NewlinesBlank T := by
  intro x hx hn
  have hv : x.wordView ∈ T.map Token.wordView := List.mem_map_of_mem hx
  rw [h, List.mem_cons, List.mem_map] at hv
  rcases hv with hopen | ⟨p, hp, hpx⟩
  · -- the opening token is empty
    simp only [Token.wordView, Token.opening, Token.make, Prod.mk.injEq] at hopen
    rw [hasNewline_eq, hopen.1] at hn
    simp at hn
  · simp only [Token.wordView, Prod.mk.injEq] at hpx
    rw [← hpx.2.1]
    rcases textPieces_blank_or_spaceless hpr text p hp with hb | hs
    · exact hb
    · -- a line break is a space, which a piece without spaces does not hold
      rw [hasNewline_eq, ← hpx.1, List.any_eq_true] at hn
      obtain ⟨c, hc, hnc⟩ := hn
      have hsp := Unicode.isSpace_of_isNewline hnc
      rw [hs c hc] at hsp
      cases hsp

/-! ## The flags after marking -/

@[simp] theorem paragraphMarked_sentEnd (L : List Token) (j : Nat) (t : Token) :
    (paragraphMarked L j t).sentEnd = t.sentEnd := by
  unfold paragraphMarked
  split <;> simp

@[simp] theorem paragraphMarked_paraEnd (L : List Token) (j : Nat) (t : Token) :
    (paragraphMarked L j t).paraEnd = (endsParagraph L j || t.paraEnd) := by
  unfold paragraphMarked
  split <;> simp_all

/-- Marking the sentence end and then the paragraph ends of tokens that flag neither, where every
line break is blank, flags the sentence end and the paragraph ends and nothing else. -/
theorem marked_flags {T : Array Token} (hnl : NewlinesBlank T.toList)
    (hflags : ∀ x ∈ T.toList, x.sentEnd = false ∧ x.paraEnd = false) {j : Nat} {tok : Token}
    (h : (markParagraphs (markSentenceEnd T).size 0 [] (markSentenceEnd T))[j]? = some tok) :
    tok.sentEnd = endsSentence T.toList j ∧ tok.paraEnd = endsParagraph T.toList j := by
  have hviews := map_markSentenceEnd Token.keptByPasses_wordView T
  rw [markParagraphs_getElem? (hnl.of_views hviews.symm), markSentenceEnd_getElem?] at h
  rw [← endsParagraph_congr hviews j]
  cases hx : T[j]? with
  | none =>
    rw [hx] at h
    cases h
  | some x =>
    rw [hx, Option.map_some, Option.map_some, Option.some.injEq] at h
    subst h
    have hx' := hflags x (List.mem_of_getElem? (by rw [Array.getElem?_toList]; exact hx))
    cases endsSentence T.toList j <;> simp [hx'.1, hx'.2]

/-- The tokens of an analyzed sentence flag the sentence end and the paragraph ends and nothing
else, when no protocol is blank: disambiguation changes readings only. -/
theorem analyzeSentence_flags (t : Tokenizer)
    (hpr : ∀ p ∈ t.options.protocols, isBlankText p = false)
    (text : String) (offset : Nat) {j : Nat} {tok : Token}
    (h : (t.analyzeSentence text offset).tokens[j]? = some tok) :
    tok.sentEnd = endsSentence (t.analyzeSentence text offset).tokens.toList j ∧
      tok.paraEnd = endsParagraph (t.analyzeSentence text offset).tokens.toList j := by
  obtain ⟨T, htok, hviews, hflags⟩ := tokensOf_shape t text offset
  have hre : Sentence.Rereads ⟨t.tokensOf text offset⟩ (t.analyzeSentence text offset) :=
    t.disambiguator.apply_rereads _
  have hviewsS : (t.analyzeSentence text offset).tokens.toList.map Token.wordView =
      T.toList.map Token.wordView := by
    rw [hre.map_eq (f := Token.wordView) fun x => Token.keptByPasses_wordView.withReadings x [],
      htok,
      map_markParagraphs Token.keptByPasses_wordView,
      map_markSentenceEnd Token.keptByPasses_wordView]
  -- the token before disambiguation, which the analyzed one rereads
  obtain ⟨tok', h', hrt⟩ :
      ∃ tok', (t.tokensOf text offset)[j]? = some tok' ∧ tok'.Rereads tok := by
    have hrel := hre.rel j
    rw [h] at hrel
    generalize (t.tokensOf text offset)[j]? = o at hrel
    cases hrel with
    | some hr => exact ⟨_, rfl, hr⟩
  rw [htok] at h'
  have hmarked := marked_flags (newlinesBlank_of_pieces hpr hviews) hflags h'
  rw [endsSentence_congr hviewsS, endsParagraph_congr hviewsS,
    hrt.eq_of_forget (f := Token.sentEnd) fun _ => rfl,
    hrt.eq_of_forget (f := Token.paraEnd) fun _ => rfl]
  exact hmarked

/-! ## Exactly one sentence end -/

/-- At most one token ends the sentence. -/
theorem endsSentence_unique {tokens : Array Token} {j j' : Nat}
    (h : endsSentence tokens.toList j = true) (h' : endsSentence tokens.toList j' = true) :
    j = j' := by
  rw [endsSentence_iff] at h h'
  exact Option.some.inj (h.symm.trans h')

/-- Some token ends the sentence when some token is neither blank nor the sentence start. -/
theorem exists_endsSentence {tokens : Array Token}
    (h : ∃ tok ∈ tokens, tok.isBlank = false ∧ tok.sentStart = false) :
    ∃ j, endsSentence tokens.toList j = true := by
  obtain ⟨tok, htok, hb, hs⟩ := h
  obtain ⟨i, hi, rfl⟩ := Array.mem_iff_getElem.1 htok
  -- the search down from the last token stops, at the latest at `i`
  have hsome : ((List.range tokens.size).reverse.find? (contentAt tokens)).isSome := by
    rw [List.find?_isSome]
    exact ⟨i, by simp [hi], by simp [contentAt, hi, hb, hs]⟩
  obtain ⟨j, hj⟩ := Option.isSome_iff_exists.1 hsome
  exact ⟨j, (endsSentence_iff tokens j).2 hj⟩

/-- A token that is blank or the sentence start does not end the sentence. -/
theorem endsSentence_eq_false {tokens : Array Token} {j : Nat} {tok : Token}
    (hj : tokens[j]? = some tok) (h : tok.isBlank = true ∨ tok.sentStart = true) :
    endsSentence tokens.toList j = false := by
  unfold endsSentence
  rw [Array.getElem?_toList, hj]
  rcases h with h | h <;> simp [h]

/-- The sentence-end flags of tokens that are where they belong, and what follows: a sentence with
a token that is neither blank nor the sentence start has exactly one sentence end, and any other
sentence has none. -/
structure FlagsBoundaries (tokens : Array Token) : Prop where
  sentEnd : ∀ (j : Nat) (tok : Token), tokens[j]? = some tok →
    tok.sentEnd = endsSentence tokens.toList j
  paraEnd : ∀ (j : Nat) (tok : Token), tokens[j]? = some tok →
    tok.paraEnd = endsParagraph tokens.toList j
  existsUnique_sentEnd : (∃ tok ∈ tokens, tok.isBlank = false ∧ tok.sentStart = false) →
    ∃! j : Nat, ∃ tok : Token, tokens[j]? = some tok ∧ tok.sentEnd = true
  no_sentEnd : (∀ tok ∈ tokens, tok.isBlank = true ∨ tok.sentStart = true) →
    ∀ tok ∈ tokens, tok.sentEnd = false

/-- Flags that are where they belong give exactly one sentence end, or none. -/
theorem FlagsBoundaries.of_flags {tokens : Array Token}
    (hsent : ∀ j tok, tokens[j]? = some tok → tok.sentEnd = endsSentence tokens.toList j)
    (hpara : ∀ j tok, tokens[j]? = some tok → tok.paraEnd = endsParagraph tokens.toList j) :
    FlagsBoundaries tokens := by
  -- a token is flagged exactly where the sentence ends
  have hflagged : ∀ j, (∃ tok, tokens[j]? = some tok ∧ tok.sentEnd = true) ↔
      endsSentence tokens.toList j = true := by
    intro j
    constructor
    · rintro ⟨tok, hj, hs⟩
      rw [← hsent j tok hj, hs]
    · intro he
      cases hj : tokens[j]? with
      | none => simp [endsSentence, hj] at he
      | some tok => exact ⟨tok, rfl, (hsent j tok hj).trans he⟩
  refine ⟨hsent, hpara, fun hc => ?_, fun hnone tok htok => ?_⟩
  · obtain ⟨j, hj⟩ := exists_endsSentence hc
    exact ⟨j, (hflagged j).2 hj, fun j' hj' => endsSentence_unique ((hflagged j').1 hj') hj⟩
  · obtain ⟨j, hj, rfl⟩ := Array.mem_iff_getElem.1 htok
    have hget : tokens[j]? = some tokens[j] := Array.getElem?_eq_getElem hj
    rw [hsent j _ hget]
    exact endsSentence_eq_false hget (hnone _ htok)

/-- The tokens of an analyzed sentence flag its sentence end on the last token that is neither
blank nor the opening one, and on no other, and flag a paragraph end on the last line break of
each run of blanks that holds at least two, and on no other, when no protocol is blank. -/
theorem analyzeSentence_flags_boundaries (t : Tokenizer)
    (hpr : ∀ p ∈ t.options.protocols, isBlankText p = false) (text : String) (offset : Nat) :
    FlagsBoundaries (t.analyzeSentence text offset).tokens :=
  FlagsBoundaries.of_flags (fun _ _ h => (analyzeSentence_flags t hpr text offset h).1)
    fun _ _ h => (analyzeSentence_flags t hpr text offset h).2

/-- With the default protocols, a sentence that ends in two line breaks flags its boundaries. -/
theorem default_flags_boundaries :
    (∀ p ∈ ({} : Tokenizer).options.protocols, isBlankText p = false) ∧
      FlagsBoundaries (({} : Tokenizer).analyzeSentence "Hi.\n\n" 0).tokens :=
  ⟨default_protocols_not_blank,
    analyzeSentence_flags_boundaries _ default_protocols_not_blank _ _⟩

end Tokenizer

end Proofreader
