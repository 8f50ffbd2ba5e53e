import Mathlib
import Proofreader.Proofs.Splitting
import Proofreader.Tokenizer

/-!
# Token spans lie over the text

The tokenizer gives each token its text and its character span, and marks the token that opens a
sentence. What it fixes there is the token's *place* (`Token.Place`); every later pass (marking
the sentence end and the paragraph ends, and each disambiguation rule) only changes flags and
readings, so it keeps every view of the tokens that these leave alone (`Token.KeptByPasses`),
the places among them (`Tokenizer.map_markParagraphs`, `Disambiguator.map_apply`).

The places of a sentence's tokens open with one empty sentence-start token at the sentence's
offset (`Opens`), and then lie one after another over the sentence's text (`Spells`). Laid
sentence after sentence, the tokens of a whole text lie over it from 0 to its end
(`analyze_spells`), so each token's text is the text inside its span and the token texts
concatenate to the text (`tokens_lie_over_text`).

Character positions are 64-bit words that wrap around (`Token.advance`); the offsets stay exact
as long as the text ends before `2 ^ 64`, which every text that fits in memory does.
-/

namespace Proofreader

namespace Token

/-- What the tokenizer fixes about a token and every later pass keeps: its text, its span and
whether it opens a sentence. -/
structure Place where
  text : String
  start : Nat
  stop : Nat
  sentStart : Bool

/-- Where the token lies. -/
def place (t : Token) : Place := ⟨t.text, t.start, t.stop, t.sentStart⟩

@[simp] theorem place_markSentenceEnd (t : Token) : t.markSentenceEnd.place = t.place := by
  unfold markSentenceEnd
  split <;> rfl

@[simp] theorem place_markParagraphEnd (t : Token) : t.markParagraphEnd.place = t.place := by
  unfold markParagraphEnd
  split <;> rfl

@[simp] theorem place_withReadings (t : Token) (rs : List Reading) :
    (t.withReadings rs).place = t.place := rfl

/-- A view of tokens that the passes after splitting keep: marking the sentence end and the
paragraph ends and changing readings touch nothing it sees. -/
structure KeptByPasses {β : Type} (π : Token → β) : Prop where
  markSentenceEnd : ∀ t : Token, π t.markSentenceEnd = π t
  markParagraphEnd : ∀ t : Token, π t.markParagraphEnd = π t
  withReadings : ∀ (t : Token) (rs : List Reading), π (t.withReadings rs) = π t

theorem keptByPasses_place : KeptByPasses place :=
  ⟨place_markSentenceEnd, place_markParagraphEnd, place_withReadings⟩

/-- Advancing from a position by a count that stays below `2 ^ 64` adds. -/
theorem advance_of_lt {p n : Nat} (h : p + n < 2 ^ 64) : advance p n = p + n := by
  rw [advance_eq, Nat.mod_eq_of_lt (show p + n < 18446744073709551616 by omega)]

end Token

/-- Writing over a token one that it cannot be told from keeps what a view sees of an array's
tokens. -/
theorem map_set! {β : Type} {π : Token → β} {tokens : Array Token} {j : Nat} {t x : Token}
    (h : tokens[j]? = some t) (hx : π x = π t) :
    (tokens.set! j x).toList.map π = tokens.toList.map π := by
  have hj : j < (tokens.toList.map π).length := by
    rw [List.length_map, Array.length_toList]
    exact (Array.getElem?_eq_some_iff.1 h).1
  have hget : (tokens.toList.map π)[j] = π t := by
    rw [List.getElem_map, Array.getElem_toList]
    rw [(Array.getElem?_eq_some_iff.1 h).2]
  rw [Array.toList_set!, List.map_set, hx, ← hget, List.set_getElem_self]

/-! ## The passes after splitting keep the places -/

namespace Tokenizer

variable {β : Type} {π : Token → β}

theorem map_markSentenceEnd (hπ : Token.KeptByPasses π) (tokens : Array Token) :
    (markSentenceEnd tokens).toList.map π = tokens.toList.map π := by
  unfold markSentenceEnd
  dsimp only
  split
  · split
    · rename_i ht
      exact map_set! ht (hπ.markSentenceEnd _)
    · rfl
  · rfl

theorem map_markParagraphs (hπ : Token.KeptByPasses π) (fuel i : Nat) (newlines : List Nat)
    (tokens : Array Token) :
    (markParagraphs fuel i newlines tokens).toList.map π = tokens.toList.map π := by
  fun_induction markParagraphs fuel i newlines tokens with
  | case1 => rfl
  | case2 => rfl
  | case3 i newlines tokens f tok htok hnl run hends ih =>
    -- the only pass that writes: a paragraph end keeps what the view sees
    rw [ih, map_set! htok (hπ.markParagraphEnd tok)]
  | case4 => assumption
  | case5 => assumption
  | case6 => assumption

end Tokenizer

namespace DisambiguationRule

variable {β : Type} {π : Token → β}

theorem map_changeAll (hπ : Token.KeptByPasses π) (r : DisambiguationRule) (view : View) :
    ∀ (indices : List Nat) (tokens tokens' : Array Token),
      r.changeAll view indices tokens = .ok tokens' →
        tokens'.toList.map π = tokens.toList.map π
  | [], tokens, tokens', h => by
    cases h
    rfl
  | i :: rest, tokens, tokens', h => by
    simp only [changeAll, bind, Except.bind] at h
    cases hj : view.fullIndex i with
    | error e =>
      rw [hj] at h
      cases h
    | ok j =>
      rw [hj] at h
      dsimp only at h
      cases ht : tokens[j]? with
      | none =>
        rw [ht] at h
        exact map_changeAll hπ r view rest tokens tokens' h
      | some t =>
        rw [ht] at h
        rw [map_changeAll hπ r view rest _ tokens' h, map_set! ht (hπ.withReadings _ _)]

/-- A disambiguation rule changes readings only: the sentence it returns has its tokens where
they were, with their texts and flags. -/
theorem map_apply (hπ : Token.KeptByPasses π) {r : DisambiguationRule} {s s' : Sentence}
    (h : r.apply s = .ok s') : s'.tokens.toList.map π = s.tokens.toList.map π := by
  simp only [DisambiguationRule.apply, bind, Except.bind] at h
  split at h
  · -- the engine finished: the tokens come from changing the readings of the matched ones
    rename_i gs _ _
    dsimp only [pure, Except.pure] at h
    cases hc : r.changeAll s.view (gs.flatMap r.markedIndices) s.tokens with
    | error e =>
      rw [hc] at h
      cases h
    | ok tokens =>
      rw [hc] at h
      cases h
      exact map_changeAll hπ r s.view _ s.tokens tokens hc
  · -- the engine ran out of steps: the rule fails
    cases h

end DisambiguationRule

namespace Disambiguator

/-- However its rules fare, the disambiguator leaves every token where it was, with its text and
flags. -/
theorem map_apply {β : Type} {π : Token → β} (hπ : Token.KeptByPasses π) (d : Disambiguator)
    (s : Sentence) : (d.apply s).tokens.toList.map π = s.tokens.toList.map π := by
  unfold Disambiguator.apply
  induction d.rules generalizing s with
  | nil => rfl
  | cons r rest ih =>
    rw [List.foldl_cons, ih]
    split
    · rename_i s' hs'
      exact DisambiguationRule.map_apply hπ hs'
    · rfl

end Disambiguator

/-! ## Places that spell a text -/

/-- The places of a sentence's tokens open with one sentence-start token, empty and at `o`; every
other token is no sentence start and holds at least one character. -/
def Opens (o : Nat) : List Token.Place → Prop
  | [] => False
  | x :: xs => x.sentStart = true ∧ x.text = "" ∧ x.start = o ∧ x.stop = o ∧
      ∀ y ∈ xs, y.sentStart = false ∧ y.text ≠ ""

/-- Places that lie one after another over the characters `cs` from position `p`: their texts,
each at its start, are laid over `cs`, and each spans as many positions as it has characters. -/
structure Spells (cs : List Char) (p : Nat) (xs : List Token.Place) : Prop where
  laid : Laid cs p (xs.map fun x => (x.start, x.text))
  stop_eq : ∀ x ∈ xs, x.stop = x.start + x.text.length

namespace Spells

variable {cs cs' : List Char} {p : Nat} {xs xs' : List Token.Place}

theorem nil : Spells [] p [] := ⟨rfl, fun _ hx => by cases hx⟩

/-- A place that holds the first characters, followed by places that spell the rest. -/
theorem cons {x : Token.Place} (hstart : x.start = p) (hstop : x.stop = p + x.text.length)
    (h : Spells cs x.stop xs) : Spells (x.text.toList ++ cs) p (x :: xs) := by
  refine ⟨⟨hstart, cs, rfl, ?_⟩, fun y hy => ?_⟩
  · rw [← hstop]
    exact h.laid
  · rcases List.mem_cons.1 hy with rfl | hy
    · rw [hstop, hstart]
    · exact h.stop_eq y hy

theorem append (h : Spells cs p xs) (h' : Spells cs' (p + cs.length) xs') :
    Spells (cs ++ cs') p (xs ++ xs') := by
  refine ⟨?_, fun x hx => ?_⟩
  · rw [List.map_append]
    exact h.laid.append h'.laid
  · rcases List.mem_append.1 hx with hx | hx
    · exact h.stop_eq x hx
    · exact h'.stop_eq x hx

/-- The texts of places that spell `cs` concatenate to it. -/
theorem join (h : Spells cs p xs) : (String.join (xs.map (·.text))).toList = cs := by
  rw [String.toList_join, List.flatMap_def, List.map_map]
  have hl := h.laid.flatten
  rw [List.map_map] at hl
  exact hl

/-- Each place holds the characters inside its span. -/
theorem text_eq {x : Token.Place} (h : Spells cs p xs) (hx : x ∈ xs) :
    x.text.toList = (cs.drop (x.start - p)).take (x.stop - x.start) := by
  have hmem := h.laid.mem (List.mem_map_of_mem (f := fun x => (x.start, x.text)) hx)
  rw [h.stop_eq x hx, Nat.add_sub_cancel_left]
  exact hmem.2.2

theorem head_start {x : Token.Place} (h : Spells cs p xs) (hx : xs.head? = some x) :
    x.start = p := by
  have hh := h.laid.head (x := (x.start, x.text)) (by rw [List.head?_map, hx]; rfl)
  exact hh

theorem last_stop {x : Token.Place} (h : Spells cs p xs) (hx : xs.getLast? = some x) :
    x.stop = p + cs.length := by
  have hl := h.laid.last (x := (x.start, x.text)) (by rw [List.getLast?_map, hx]; rfl)
  rw [h.stop_eq x (List.mem_of_getLast? hx)]
  exact hl

/-- Each place lies within the characters spelled and does not end before it starts. -/
theorem bounds {x : Token.Place} (h : Spells cs p xs) (hx : x ∈ xs) :
    p ≤ x.start ∧ x.start ≤ x.stop ∧ x.stop ≤ p + cs.length := by
  have hmem := h.laid.mem (List.mem_map_of_mem (f := fun x => (x.start, x.text)) hx)
  have hstop := h.stop_eq x hx
  simp only at hmem
  omega

/-- Each place ends at or before every later one starts. -/
theorem pairwise (h : Spells cs p xs) : xs.Pairwise fun a b => a.stop ≤ b.start := by
  induction xs generalizing cs p with
  | nil => exact List.Pairwise.nil
  | cons x rest ih =>
    obtain ⟨hlaid, hstop⟩ := h
    rw [List.map_cons] at hlaid
    obtain ⟨hx, r, -, hr⟩ := hlaid
    have hrest : Spells r (p + x.text.length) rest :=
      ⟨hr, fun y hy => hstop y (List.mem_cons_of_mem x hy)⟩
    refine List.pairwise_cons.2 ⟨fun y hy => ?_, ih hrest⟩
    -- the later places start where the first one ends, or after
    have hy := (hrest.bounds hy).1
    have hx' := hstop x List.mem_cons_self
    omega

end Spells

/-! ## The tokens of a sentence -/

namespace Tokenizer

/-- One step of reading pieces into tokens: it pushes a token that holds the piece's text, is no
sentence start, starts at the position and ends after the piece's characters, and advances the
position past them. -/
def PushesPiece (step : Array Token × Nat × Bool → Piece → Array Token × Nat × Bool) : Prop :=
  ∀ toks pos sb (p : Piece), ∃ tok sb', step (toks, pos, sb) p =
    (toks.push tok, Token.advance pos p.text.length, sb') ∧
    tok.place = ⟨p.text, pos, Token.advance pos p.text.length, false⟩

/-- Reading non-empty pieces into tokens from position `pos` on lays the new tokens over the
pieces' characters, as long as they end before `2 ^ 64`. -/
theorem spells_foldl {step : Array Token × Nat × Bool → Piece → Array Token × Nat × Bool}
    (hstep : PushesPiece step) :
    ∀ (ps : List Piece) (toks : Array Token) (pos : Nat) (sb : Bool),
      (∀ p ∈ ps, p.text ≠ "") → pos + (ps.flatMap (·.text.toList)).length < 2 ^ 64 →
      ∃ L : List Token, (ps.foldl step (toks, pos, sb)).1.toList = toks.toList ++ L ∧
        Spells (ps.flatMap (·.text.toList)) pos (L.map Token.place) ∧
        ∀ x ∈ L.map Token.place, x.sentStart = false ∧ x.text ≠ ""
  | [], toks, pos, sb, _, _ => ⟨[], by simp, Spells.nil, fun _ hx => by cases hx⟩
  | p :: ps, toks, pos, sb, hne, hbound => by
    obtain ⟨tok, sb', hs, hplace⟩ := hstep toks pos sb p
    have hlen : pos + p.text.length + (ps.flatMap (·.text.toList)).length < 2 ^ 64 := by
      rw [List.flatMap_cons, List.length_append, String.length_toList] at hbound
      omega
    have hadv : Token.advance pos p.text.length = pos + p.text.length :=
      Token.advance_of_lt (by omega)
    rw [hadv] at hs hplace
    obtain ⟨L, hL, hsp, hnew⟩ := spells_foldl hstep ps (toks.push tok) (pos + p.text.length) sb'
      (fun q hq => hne q (List.mem_cons_of_mem p hq)) hlen
    refine ⟨tok :: L, ?_, ?_, ?_⟩
    · rw [List.foldl_cons, hs, hL, Array.toList_push, List.append_assoc, List.singleton_append]
    · -- the new token holds the piece, and the later ones spell the rest from its end
      rw [List.map_cons, hplace, List.flatMap_cons]
      exact Spells.cons (x := ⟨p.text, pos, pos + p.text.length, false⟩) rfl rfl hsp
    · intro x hx
      rw [List.map_cons, hplace] at hx
      rcases List.mem_cons.1 hx with rfl | hx
      · exact ⟨rfl, hne p List.mem_cons_self⟩
      · exact hnew x hx

/-- The step `tokensOf` reads pieces with. -/
theorem tokensOf_step_pushes (t : Tokenizer) :
    PushesPiece fun (acc : Array Token × Nat × Bool) (p : Piece) =>
      let (toks, pos, spaceBefore) := acc
      let rs := if isBlankText p.text then [] else t.readings p.text
      let tok := (Token.make p.text pos rs).withSpaceBefore spaceBefore
      (toks.push tok, Token.advance pos p.text.length, tok.isBlank) :=
  fun _ _ _ _ => ⟨_, _, rfl, rfl⟩

/-- The tokens of a sentence text at `offset`: an empty sentence start at the offset, then tokens
laid over the text. -/
theorem tokensOf_places (t : Tokenizer) (text : String) (offset : Nat)
    (h : offset + text.length < 2 ^ 64) :
    ∃ L : List Token, (t.tokensOf text offset).toList.map Token.place =
        (Token.opening offset).place :: L.map Token.place ∧
      Spells text.toList offset (L.map Token.place) ∧
      ∀ x ∈ L.map Token.place, x.sentStart = false ∧ x.text ≠ "" := by
  have hflat := textPieces_flatten t.options.protocols text
  rw [← List.flatMap_def] at hflat
  have hbound : offset + ((textPieces t.options.protocols text).flatMap
      (·.text.toList)).length < 2 ^ 64 := by
    rw [hflat, String.length_toList]
    exact h
  obtain ⟨L, hL, hsp, hnew⟩ := spells_foldl (tokensOf_step_pushes t)
    (textPieces t.options.protocols text) #[Token.opening offset] offset false
    (textPieces_ne_empty t.options.protocols text) hbound
  refine ⟨L, ?_, hflat ▸ hsp, hnew⟩
  -- the two marking passes change no place
  unfold Tokenizer.tokensOf
  simp only []
  rw [Tokenizer.map_markParagraphs Token.keptByPasses_place,
    Tokenizer.map_markSentenceEnd Token.keptByPasses_place, hL]
  rfl

/-- The tokens of a sentence at `offset`: one empty sentence start at the offset, then non-empty
tokens laid one after another over the sentence's text. -/
theorem analyzeSentence_spells (t : Tokenizer) (s : String) (offset : Nat)
    (h : offset + s.length < 2 ^ 64) :
    Opens offset ((t.analyzeSentence s offset).tokens.toList.map Token.place) ∧
      Spells s.toList offset ((t.analyzeSentence s offset).tokens.toList.map Token.place) := by
  obtain ⟨L, hL, hsp, hnew⟩ := t.tokensOf_places s offset h
  have hopen : (Token.opening offset).place = ⟨"", offset, offset, true⟩ := by
    simp only [Token.opening, Token.make, Token.place, Token.advance_of_lt (p := offset) (n := 0)
      (by rw [Nat.add_zero]; omega), String.length_empty, Nat.add_zero]
  rw [Tokenizer.analyzeSentence, Disambiguator.map_apply Token.keptByPasses_place, hL, hopen]
  refine ⟨⟨rfl, rfl, rfl, rfl, hnew⟩, ?_⟩
  -- the sentence start holds no character and ends where it starts
  have hcons := Spells.cons (x := ⟨"", offset, offset, true⟩) rfl rfl hsp
  rw [String.toList_empty, List.nil_append] at hcons
  exact hcons

/-! ## The tokens of a text -/

/-- The tokens of the sentences laid over `cs` from `p` lie, sentence after sentence, over the
same characters. -/
theorem spells_of_laid (t : Tokenizer) :
    ∀ (cs : List Char) (p : Nat) (sents : List (Nat × String)), Laid cs p sents →
      p + cs.length < 2 ^ 64 →
      Spells cs p ((sents.flatMap fun (o, s) =>
        (t.analyzeSentence s o).tokens.toList).map Token.place)
  | cs, p, [], h, _ => by
    simp only [Laid] at h
    subst h
    exact Spells.nil
  | cs, p, (o, s) :: rest, ⟨ho, r, hcs, hr⟩, hbound => by
    subst ho hcs
    rw [List.length_append, String.length_toList] at hbound
    have hs := (t.analyzeSentence_spells s o (by omega)).2
    have hrest := spells_of_laid t r (o + s.length) rest hr (by omega)
    rw [List.flatMap_cons, List.map_append]
    exact hs.append (by rw [String.length_toList]; exact hrest)

/-- The tokens of a whole text lie one after another over it, and each sentence's tokens open
with one empty sentence start. -/
theorem analyze_spells (t : Tokenizer) (text : String) (h : text.length < 2 ^ 64) :
    (∀ sen ∈ t.analyze text, ∃ o, Opens o (sen.tokens.toList.map Token.place)) ∧
      Spells text.toList 0 (((t.analyze text).flatMap (·.tokens.toList)).map Token.place) := by
  have hlaid := textSentences_laid text
  refine ⟨fun sen hsen => ?_, ?_⟩
  · simp only [Tokenizer.analyze, List.mem_map] at hsen
    obtain ⟨⟨o, s⟩, hmem, rfl⟩ := hsen
    have hb := hlaid.mem hmem
    rw [String.length_toList] at hb
    exact ⟨o, (t.analyzeSentence_spells s o (by simp only at hb; omega)).1⟩
  · have hs := spells_of_laid t text.toList 0 (textSentences text) hlaid
      (by rw [Nat.zero_add, String.length_toList]; exact h)
    simp only [Tokenizer.analyze, List.flatMap_map]
    exact hs

/-- The tokens of a text, and of a sentence at an offset, lie over it: each sentence opens with
one empty sentence-start token at its offset, every other token holds at least one character,
each token spans as many characters as it holds and starts where the one before ends, from the
start of the text to its end; each token's text is the text inside its span, and the token texts
concatenate to the text. -/
theorem tokens_lie_over_text (t : Tokenizer) (s text : String) (offset : Nat)
    (hs : offset + s.length < 2 ^ 64) (htext : text.length < 2 ^ 64) :
    (Opens offset ((t.analyzeSentence s offset).tokens.toList.map Token.place) ∧
      Spells s.toList offset ((t.analyzeSentence s offset).tokens.toList.map Token.place) ∧
      String.join ((t.analyzeSentence s offset).tokens.toList.map Token.text) = s ∧
      ∀ tok ∈ (t.analyzeSentence s offset).tokens.toList,
        tok.text.toList = (s.toList.drop (tok.start - offset)).take (tok.stop - tok.start)) ∧
    ((∀ sen ∈ t.analyze text, ∃ o, Opens o (sen.tokens.toList.map Token.place)) ∧
      Spells text.toList 0 (((t.analyze text).flatMap (·.tokens.toList)).map Token.place) ∧
      (∀ tok, ((t.analyze text).flatMap (·.tokens.toList)).head? = some tok → tok.start = 0) ∧
      (∀ tok, ((t.analyze text).flatMap (·.tokens.toList)).getLast? = some tok →
        tok.stop = text.length) ∧
      String.join (((t.analyze text).flatMap (·.tokens.toList)).map Token.text) = text ∧
      ∀ tok ∈ (t.analyze text).flatMap (·.tokens.toList),
        tok.text.toList = (text.toList.drop tok.start).take (tok.stop - tok.start)) := by
  obtain ⟨hopen, hspell⟩ := t.analyzeSentence_spells s offset hs
  obtain ⟨hopens, hall⟩ := t.analyze_spells text htext
  -- the texts of the places are the texts of the tokens
  have htexts : ∀ toks : List Token,
      (toks.map Token.place).map (·.text) = toks.map Token.text := fun toks => by
    rw [List.map_map]
    rfl
  refine ⟨⟨hopen, hspell, ?_, fun tok htok => ?_⟩, ⟨hopens, hall, fun tok htok => ?_,
    fun tok htok => ?_, ?_, fun tok htok => ?_⟩⟩
  · rw [← String.toList_inj, ← htexts, hspell.join]
  · exact hspell.text_eq (List.mem_map_of_mem htok)
  · have hh := hall.head_start (x := tok.place) (by rw [List.head?_map, htok]; rfl)
    exact hh
  · have hl := hall.last_stop (x := tok.place) (by rw [List.getLast?_map, htok]; rfl)
    rw [Nat.zero_add, String.length_toList] at hl
    exact hl
  · rw [← String.toList_inj, ← htexts, hall.join]
  · have he := hall.text_eq (List.mem_map_of_mem htok)
    rw [Nat.sub_zero] at he
    exact he

/-- Two sentences, the spaces after the first one included, tokenized with no word list. -/
theorem tokens_lie_over_two_sentences :
    0 + "Hi. Yo".length < 2 ^ 64 ∧ "Hi. Yo".length < 2 ^ 64 ∧
    ((Opens 0 (((default : Tokenizer).analyzeSentence "Hi. Yo" 0).tokens.toList.map Token.place) ∧
      Spells "Hi. Yo".toList 0
        (((default : Tokenizer).analyzeSentence "Hi. Yo" 0).tokens.toList.map Token.place) ∧
      String.join (((default : Tokenizer).analyzeSentence "Hi. Yo" 0).tokens.toList.map
        Token.text) = "Hi. Yo" ∧
      ∀ tok ∈ ((default : Tokenizer).analyzeSentence "Hi. Yo" 0).tokens.toList,
        tok.text.toList = ("Hi. Yo".toList.drop (tok.start - 0)).take (tok.stop - tok.start)) ∧
    ((∀ sen ∈ (default : Tokenizer).analyze "Hi. Yo",
        ∃ o, Opens o (sen.tokens.toList.map Token.place)) ∧
      Spells "Hi. Yo".toList 0
        (((default : Tokenizer).analyze "Hi. Yo").flatMap (·.tokens.toList) |>.map Token.place) ∧
      (∀ tok, (((default : Tokenizer).analyze "Hi. Yo").flatMap (·.tokens.toList)).head? =
        some tok → tok.start = 0) ∧
      (∀ tok, (((default : Tokenizer).analyze "Hi. Yo").flatMap (·.tokens.toList)).getLast? =
        some tok → tok.stop = "Hi. Yo".length) ∧
      String.join ((((default : Tokenizer).analyze "Hi. Yo").flatMap (·.tokens.toList)).map
        Token.text) = "Hi. Yo" ∧
      ∀ tok ∈ ((default : Tokenizer).analyze "Hi. Yo").flatMap (·.tokens.toList),
        tok.text.toList = ("Hi. Yo".toList.drop tok.start).take (tok.stop - tok.start))) :=
  ⟨by decide, by decide,
    tokens_lie_over_text default "Hi. Yo" "Hi. Yo" 0 (by decide) (by decide)⟩

end Tokenizer

end Proofreader
