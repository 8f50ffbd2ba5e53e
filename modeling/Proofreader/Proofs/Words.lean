import Mathlib
import Proofreader.Proofs.Runs
import Proofreader.Proofs.TokenSpans
import Proofreader.Rule.Document

/-!
# The words of a text are the words of its sentences

A tokenizer gives the words of a text in two ways: `Tokenizer.words` splits the whole text into
pieces at once and joins web addresses, and `Tokenizer.analyze` first cuts the text into
sentences and tokenizes each on its own. The two agree (`words_are_analyzed_words`): the words
of a text are the texts of the tokens of its sentences that are neither blank nor a sentence
start, as long as no protocol of the options is itself blank.

Every cut between two sentences falls after a space and before a character that is no space
(`sentenceSpansFrom_cuts`). Nothing joins across such a cut, so the pieces of the text are those
of its sentences one after another (`Piece.split_texts_append`), and the last piece before the
cut is blank. A web address ends at a blank piece and starts only at a protocol followed by `:`,
`/`, `/`, none of them blank, so no address spans the cut either (`Piece.joinAddresses_append`).
A blank protocol would break this: it could start an address at the blank piece before a cut.
-/

namespace Proofreader

/-! ## Spaces -/

/-- Line breaks are spaces. -/
theorem Unicode.isSpace_of_isNewline {c : Char} (h : Unicode.isNewline c = true) :
    Unicode.isSpace c = true := by
  simp only [Unicode.isNewline, Bool.or_eq_true, decide_eq_true_eq] at h
  rcases h with (rfl | rfl) | rfl <;> decide +kernel

theorem isBlankText_colon : isBlankText ":" = false := by
  simp only [isBlankText]
  decide +kernel

theorem isBlankText_slash : isBlankText "/" = false := by
  simp only [isBlankText]
  decide +kernel

/-- Two texts cut after a space and before a character that is no space. -/
def CutAfterSpace (s t : String) : Prop :=
  (∀ c ∈ s.toList.getLast?, Unicode.isSpace c = true) ∧
    ∀ c ∈ t.toList.head?, Unicode.isSpace c = false

namespace Piece

/-- Cut a text after a space and before a character that is no space: the texts of its pieces
are those of the part before the cut followed by those of the part after it. -/
theorem split_texts_append {s t : String} (h : CutAfterSpace s t) :
    (split (s ++ t)).map (·.text) = (split s).map (·.text) ++ (split t).map (·.text) := by
  have htexts := congrArg (List.map String.ofList) (split_append h.1 h.2)
  simpa only [List.map_map, List.map_append, Function.comp_def, String.ofList_toList]
    using htexts

/-! ## Joining web addresses across a blank piece -/

/-- Whether a web address starts at a piece depends on the texts only. -/
theorem startsAddress_eq (protocols : List String) (p : Piece) (rest : List Piece) :
    startsAddress protocols p rest = (protocols.contains p.text &&
      match rest.map (·.text) with
      | a :: b :: c :: _ => a = ":" && b = "/" && c = "/"
      | _ => false) := by
  rcases rest with _ | ⟨a, _ | ⟨b, _ | ⟨c, rest⟩⟩⟩ <;> rfl

/-- Whether a web address ends before a piece depends on the texts only. -/
theorem endsAddress_eq (p : Piece) (rest : List Piece) :
    endsAddress p rest = (if isBlankText p.text || p.text = ")" then true
      else match rest.map (·.text) with
        | q :: _ => isBlankText q && [".", ",", ";", ":", "!", "?"].contains p.text
        | [] => p.text.isEmpty || !p.text.all isAddressChar) := by
  rcases rest with _ | ⟨q, rest⟩ <;> rfl

/-- Joining web addresses sees the texts of the pieces only. -/
theorem joinAddresses_texts (protocols : List String) :
    ∀ (cur cur' : Option Piece) (ps qs : List Piece), cur.map (·.text) = cur'.map (·.text) →
      ps.map (·.text) = qs.map (·.text) →
      (joinAddresses protocols cur ps).map (·.text) =
        (joinAddresses protocols cur' qs).map (·.text) := by
  intro cur cur' ps
  induction ps generalizing cur cur' with
  | nil =>
    intro qs hcur hps
    rw [List.map_nil, eq_comm, List.map_eq_nil_iff] at hps
    subst hps
    cases cur <;> cases cur' <;> simp_all [joinAddresses]
  | cons p ps ih =>
    intro qs hcur hps
    cases qs with
    | nil => simp at hps
    | cons q qs =>
      simp only [List.map_cons, List.cons.injEq] at hps
      obtain ⟨hpq, hps⟩ := hps
      cases cur with
      | none =>
        cases cur' with
        | some _ => simp at hcur
        | none =>
          -- the same texts start an address at both
          have hstart : startsAddress protocols p ps = startsAddress protocols q qs := by
            rw [startsAddress_eq, startsAddress_eq, hpq, hps]
          rw [joinAddresses, joinAddresses, hstart]
          split
          · exact ih (some p) (some q) qs (by simp [hpq]) hps
          · rw [List.map_cons, List.map_cons, hpq, ih none none qs rfl hps]
      | some c =>
        cases cur' with
        | none => simp at hcur
        | some c' =>
          simp only [Option.map_some, Option.some.injEq] at hcur
          -- the same texts end the address at both
          have hend : endsAddress p ps = endsAddress q qs := by
            rw [endsAddress_eq, endsAddress_eq, hpq, hps]
          rw [joinAddresses, joinAddresses, hend]
          split
          · simp only [List.map_cons, hcur, hpq, ih none none qs rfl hps]
          · exact ih _ _ qs (by simp [hcur, hpq]) hps

/-- Whether a web address starts at a piece is decided before the next blank piece: the pieces
`:`, `/`, `/` it needs are not blank. -/
theorem startsAddress_append (protocols : List String) (p : Piece) :
    ∀ {rs : List Piece} (qs : List Piece), rs ≠ [] →
      (∀ x ∈ rs.getLast?, isBlankText x.text = true) →
      startsAddress protocols p (rs ++ qs) = startsAddress protocols p rs
  | [], _, hne, _ => absurd rfl hne
  | [a], qs, _, hlast => by
    have ha : a.text ≠ ":" := fun h => by
      have := hlast a rfl
      rw [h, isBlankText_colon] at this
      cases this
    rw [startsAddress_eq, startsAddress_eq]
    rcases qs with _ | ⟨b, _ | ⟨c, qs⟩⟩ <;> simp [ha]
  | [a, b], qs, _, hlast => by
    have hb : b.text ≠ "/" := fun h => by
      have := hlast b rfl
      rw [h, isBlankText_slash] at this
      cases this
    rw [startsAddress_eq, startsAddress_eq]
    rcases qs with _ | ⟨c, qs⟩ <;> simp [hb]
  | _ :: _ :: _ :: _, _, _, _ => rfl

/-- A blank piece ends every web address and starts none, as long as no protocol is blank; so
the pieces after it are joined on their own. -/
theorem joinAddresses_append {protocols : List String}
    (hpr : ∀ x ∈ protocols, isBlankText x = false) :
    ∀ (cur : Option Piece) (ps qs : List Piece), ps ≠ [] →
      (∀ p ∈ ps.getLast?, isBlankText p.text = true) →
      joinAddresses protocols cur (ps ++ qs) =
        joinAddresses protocols cur ps ++ joinAddresses protocols none qs
  | _, [], _, hne, _ => absurd rfl hne
  | cur, [p], qs, _, hlast => by
    have hblank := hlast p rfl
    -- the blank piece is no protocol, and it ends an open address
    have hproto : p.text ∉ protocols := fun hmem => by
      rw [hpr _ hmem] at hblank
      cases hblank
    cases cur with
    | none => simp [joinAddresses, startsAddress, hproto]
    | some c => simp [joinAddresses, endsAddress, hblank]
  | cur, p :: q :: rest, qs, _, hlast => by
    rw [List.getLast?_cons_cons] at hlast
    have ih := fun cur => joinAddresses_append hpr cur (q :: rest) qs (List.cons_ne_nil q rest) hlast
    rw [List.cons_append]
    cases cur with
    | none =>
      rw [joinAddresses, joinAddresses,
        startsAddress_append protocols p qs (List.cons_ne_nil q rest) hlast]
      split
      · exact ih (some p)
      · rw [ih none, List.cons_append]
    | some c =>
      -- whether the address ends before `p` depends on `q` only
      have hend : endsAddress p (q :: rest ++ qs) = endsAddress p (q :: rest) := rfl
      conv_lhs => rw [joinAddresses, hend]
      conv_rhs => rw [joinAddresses]
      split
      · rw [ih none]
        rfl
      · exact ih _

end Piece

/-! ## The words of a text cut after a space -/

/-- The words of a text: the texts of its pieces, web addresses joined, that are not blank. -/
theorem textWords_eq (protocols : List String) (text : String) :
    textWords protocols text =
      ((textPieces protocols text).map (·.text)).filter fun x => !isBlankText x := by
  rw [textWords, List.filter_map]
  rfl

theorem textWords_empty (protocols : List String) : textWords protocols "" = [] := by
  rw [textWords_eq, textPieces, Piece.split_eq_nil_iff.2 rfl]
  rfl

/-- The words of a text cut after a space and before a character that is no space are those of
the part before the cut followed by those of the part after it. -/
theorem textWords_append {protocols : List String} (hpr : ∀ x ∈ protocols, isBlankText x = false)
    {s t : String} (h : CutAfterSpace s t) :
    textWords protocols (s ++ t) = textWords protocols s ++ textWords protocols t := by
  by_cases hs : s = ""
  · subst hs
    rw [String.empty_append, textWords_empty, List.nil_append]
  have htexts := Piece.split_texts_append h
  -- cut the pieces of the whole where those of the first part end
  have hlen : ((Piece.split s).map (·.text)).length = (Piece.split s).length := List.length_map _
  have hA : ((Piece.split (s ++ t)).take (Piece.split s).length).map (·.text) =
      (Piece.split s).map (·.text) := by
    rw [List.map_take, htexts, List.take_left' hlen]
  have hB : ((Piece.split (s ++ t)).drop (Piece.split s).length).map (·.text) =
      (Piece.split t).map (·.text) := by
    rw [List.map_drop, htexts, List.drop_left' hlen]
  have hne : Piece.split s ≠ [] := mt Piece.split_eq_nil_iff.1 hs
  have hneA : (Piece.split (s ++ t)).take (Piece.split s).length ≠ [] := fun hnil => by
    rw [hnil, List.map_nil, eq_comm, List.map_eq_nil_iff] at hA
    exact hne hA
  -- the last piece before the cut is blank
  have hlastA : ∀ p ∈ ((Piece.split (s ++ t)).take (Piece.split s).length).getLast?,
      isBlankText p.text = true := by
    intro p hp
    have hmap := congrArg List.getLast? hA
    rw [List.getLast?_map, List.getLast?_map, hp, Option.map_some] at hmap
    obtain ⟨q, hq, hqp⟩ := Option.map_eq_some_iff.1 hmap.symm
    rw [← hqp]
    exact Piece.split_getLast_blank h.1 q hq
  rw [textWords_eq, textPieces, ← List.take_append_drop (Piece.split s).length (Piece.split (s ++ t)),
    Piece.joinAddresses_append hpr none _ _ hneA hlastA, List.map_append, List.filter_append,
    Piece.joinAddresses_texts protocols none none _ (Piece.split s) rfl hA,
    Piece.joinAddresses_texts protocols none none _ (Piece.split t) rfl hB, textWords_eq, textWords_eq]
  rfl

/-- The words of texts that follow one another, each cut from the next after a space, are the
words of each in turn. -/
theorem textWords_join {protocols : List String} (hpr : ∀ x ∈ protocols, isBlankText x = false) :
    ∀ (ss : List String), ss.IsChain (fun s t => t ≠ "" ∧ CutAfterSpace s t) →
      textWords protocols (String.join ss) = ss.flatMap (textWords protocols)
  | [], _ => textWords_empty protocols
  | [s], _ => by
    rw [String.join_cons, String.join_nil, String.append_empty, List.flatMap_singleton]
  | s :: t :: rest, h => by
    rw [List.isChain_cons_cons] at h
    obtain ⟨⟨hne, hs, ht⟩, hrest⟩ := h
    -- the text after the cut starts with the first character of `t`
    have hhead : ∀ c ∈ (String.join (t :: rest)).toList.head?, Unicode.isSpace c = false := by
      rw [String.toList_join, List.flatMap_cons,
        List.head?_append_of_ne_nil _ (mt String.toList_eq_nil_iff.1 hne)]
      exact ht
    rw [String.join_cons, textWords_append hpr ⟨hs, hhead⟩, textWords_join hpr (t :: rest) hrest]
    simp only [List.flatMap_cons]

/-! ## Sentences are cut after a space -/

/-- The characters around position `b` of `T`, where both exist: a space, then a character that
is no space. -/
def SpaceCut (T : List Char) (b : Nat) : Prop :=
  ∀ a c, T[b - 1]? = some a → T[b]? = some c →
    Unicode.isSpace a = true ∧ Unicode.isSpace c = false

/-- The sentence splitter, run from any state in which it skips spaces only after a space or
before one, cuts only after a space and before a character that is no space. -/
theorem sentenceSpansFrom_cuts (T : List Char) :
    ∀ (cs : List Char) (pos start : Nat) (skipping : Bool) (acc : List (Nat × Nat)),
      T.drop pos = cs → (∀ s ∈ acc, SpaceCut T s.2) →
      (skipping = true → (∃ a, T[pos - 1]? = some a ∧ Unicode.isSpace a = true) ∨
        ∃ c, T[pos]? = some c ∧ Unicode.isSpace c = true) →
      ∀ s ∈ sentenceSpansFrom pos start skipping cs acc, SpaceCut T s.2
  | [], pos, start, skipping, acc, hdrop, hacc, _ => by
    -- the sentence closed at the end of the text has nothing after it
    have hend : T[pos]? = none := by
      rw [← List.head?_drop, hdrop]
      rfl
    rw [sentenceSpansFrom]
    intro s hs
    split at hs
    · rw [List.mem_reverse] at hs
      rcases List.mem_cons.1 hs with rfl | hs
      · intro a c _ hc
        rw [hend] at hc
        cases hc
      · exact hacc s hs
    · exact hacc s (List.mem_reverse.1 hs)
  | c :: rest, pos, start, skipping, acc, hdrop, hacc, hskip => by
    obtain ⟨hc, hrest⟩ := Piece.getElem?_of_drop_eq_cons hdrop
    -- a sentence end is followed by a space: a line break is one
    have hends : ∀ e, e = ((c = '.' || c = '!' || c = '?') && rest.head?.any Unicode.isSpace ||
        Unicode.isNewline c && rest.head?.any Unicode.isNewline) → e = true →
        (∃ a, T[pos + 1 - 1]? = some a ∧ Unicode.isSpace a = true) ∨
          ∃ c', T[pos + 1]? = some c' ∧ Unicode.isSpace c' = true := by
      intro e he hetrue
      subst he
      right
      rw [← List.head?_drop, hrest]
      cases hhead : rest.head? with
      | none => simp [hhead] at hetrue
      | some n =>
        refine ⟨n, rfl, ?_⟩
        simp only [hhead, Option.any_some, Bool.or_eq_true, Bool.and_eq_true] at hetrue
        rcases hetrue with ⟨-, hn⟩ | ⟨-, hn⟩
        · exact hn
        · exact Unicode.isSpace_of_isNewline hn
    rw [sentenceSpansFrom]
    by_cases hsp : (skipping && Unicode.isSpace c) = true
    · -- a space after a sentence end joins that sentence
      rw [if_pos hsp]
      simp only [Bool.and_eq_true] at hsp
      exact sentenceSpansFrom_cuts T rest (pos + 1) start true acc hrest hacc
        fun _ => .inl ⟨c, hc, hsp.2⟩
    · rw [if_neg hsp]
      cases skipping with
      | true =>
        -- the first character after the spaces is no space: the sentence is cut before it
        have hcsp : Unicode.isSpace c = false := by simpa using hsp
        have hcut : SpaceCut T pos := by
          intro a c' ha hc'
          rw [hc] at hc'
          cases hc'
          refine ⟨?_, hcsp⟩
          rcases hskip rfl with ⟨a', ha', hsa⟩ | ⟨c', hc'', hsc⟩
          · rw [ha] at ha'
            cases ha'
            exact hsa
          · rw [hc] at hc''
            cases hc''
            rw [hsc] at hcsp
            cases hcsp
        exact sentenceSpansFrom_cuts T rest (pos + 1) pos _ ((start, pos) :: acc) hrest
          (fun s hs => by
            rcases List.mem_cons.1 hs with rfl | hs
            · exact hcut
            · exact hacc s hs)
          (hends _ rfl)
      | false =>
        exact sentenceSpansFrom_cuts T rest (pos + 1) start _ acc hrest hacc (hends _ rfl)

/-- Each sentence of a text is cut from the next after a space and before a character that is
no space, and no sentence after the first is empty. -/
theorem textSentences_cut (text : String) :
    ((textSentences text).map (·.2)).IsChain fun s t => t ≠ "" ∧ CutAfterSpace s t := by
  have hcons := sentenceSpansFrom_consecutive text.toList 0 0 false []
    ⟨rfl, Nat.le_refl _, fun h => by cases h⟩
  rw [Nat.zero_add] at hcons
  have hcuts := sentenceSpansFrom_cuts text.toList text.toList 0 0 false [] List.drop_zero
    (fun _ h => by cases h) (fun h => by cases h)
  have hchain := Piece.isChain_slices (R := fun a c => Unicode.isSpace a = true ∧ Unicode.isSpace c = false)
    hcons (Nat.le_refl _) fun s hs a c ha hc => hcuts s hs a c ha hc
  -- the sentences are the slices of the spans, read back as texts
  have htexts : (textSentences text).map (·.2) =
      ((sentenceSpansFrom 0 0 false text.toList []).map (slice text.toList)).map String.ofList := by
    simp only [textSentences, List.map_map]
    rfl
  rw [htexts, List.isChain_map]
  refine hchain.imp fun x y ⟨hx, hy, hxy⟩ => ⟨?_, ?_, ?_⟩
  · rw [ne_eq, ← String.toList_inj, String.toList_ofList, String.toList_empty]
    exact hy
  · intro a ha
    rw [String.toList_ofList] at ha
    obtain ⟨c, l, hc⟩ := List.ne_nil_iff_exists_cons.1 hy
    exact (hxy a ha c (by rw [hc]; rfl)).1
  · intro c hc
    rw [String.toList_ofList] at hc
    obtain ⟨a, ha⟩ := (Option.isSome_iff_exists).1 (List.getLast?_isSome.2 hx)
    exact (hxy a ha c hc).2

/-- The words of a text are the words of its sentences, one sentence after another. -/
theorem textWords_sentences {protocols : List String}
    (hpr : ∀ x ∈ protocols, isBlankText x = false) (text : String) :
    textWords protocols text = (textSentences text).flatMap fun x => textWords protocols x.2 := by
  have hjoin : String.join ((textSentences text).map (·.2)) = text := by
    rw [← String.toList_inj, String.toList_join, List.flatMap_map, ← (textSentences_laid text).flatten,
      List.flatMap_def]
  conv_lhs => rw [← hjoin]
  rw [textWords_join hpr _ (textSentences_cut text), List.flatMap_map]

/-! ## The words among the tokens of a sentence -/

namespace Token

/-- What decides whether a token is a word of its text, and which: its text, whether it is
blank, and whether it opens a sentence. -/
def wordView (t : Token) : String × Bool × Bool := (t.text, t.isBlank, t.sentStart)

theorem keptByPasses_wordView : KeptByPasses wordView where
  markSentenceEnd t := by
    unfold markSentenceEnd
    split <;> rfl
  markParagraphEnd t := by
    unfold markParagraphEnd
    split <;> rfl
  withReadings _ _ := rfl

end Token

/-- The texts of the tokens that are neither blank nor a sentence start are read off their word
views. -/
theorem map_text_filter (toks : List Token) :
    (toks.filter fun tok => !tok.isBlank && !tok.sentStart).map Token.text =
      ((toks.map Token.wordView).filter fun v => !v.2.1 && !v.2.2).map (·.1) := by
  rw [List.filter_map, List.map_map]
  rfl

namespace Tokenizer

/-- One step of reading pieces into tokens pushes one token, which the view `π` sees as `f` of
the piece. -/
def PushesView {β : Type} (π : Token → β) (f : Piece → β)
    (step : Array Token × Nat × Bool → Piece → Array Token × Nat × Bool) : Prop :=
  ∀ toks pos sb (p : Piece), ∃ tok rest, step (toks, pos, sb) p = (toks.push tok, rest) ∧
    π tok = f p

/-- Reading pieces into tokens adds what the view sees of each piece. -/
theorem map_foldl_of_pushesView {β : Type} {π : Token → β} {f : Piece → β}
    {step : Array Token × Nat × Bool → Piece → Array Token × Nat × Bool}
    (hstep : PushesView π f step) :
    ∀ (ps : List Piece) (toks : Array Token) (pos : Nat) (sb : Bool),
      (ps.foldl step (toks, pos, sb)).1.toList.map π = toks.toList.map π ++ ps.map f
  | [], toks, pos, sb => by simp
  | p :: ps, toks, pos, sb => by
    obtain ⟨tok, ⟨pos', sb'⟩, hs, hview⟩ := hstep toks pos sb p
    rw [List.foldl_cons, hs, map_foldl_of_pushesView hstep ps, Array.toList_push, List.map_append,
      List.map_singleton, hview, List.map_cons, List.append_assoc, List.singleton_append]

/-- One step of reading pieces into tokens: it pushes a token that holds the piece's text, is
blank exactly when the piece is, and opens no sentence. -/
def PushesWord (step : Array Token × Nat × Bool → Piece → Array Token × Nat × Bool) : Prop :=
  ∀ toks pos sb (p : Piece), ∃ tok rest, step (toks, pos, sb) p = (toks.push tok, rest) ∧
    tok.wordView = (p.text, isBlankText p.text, false)

/-- Reading pieces into tokens adds one word view per piece. -/
theorem wordView_foldl {step : Array Token × Nat × Bool → Piece → Array Token × Nat × Bool}
    (hstep : PushesWord step) :
    ∀ (ps : List Piece) (toks : Array Token) (pos : Nat) (sb : Bool),
      (ps.foldl step (toks, pos, sb)).1.toList.map Token.wordView =
        toks.toList.map Token.wordView ++ ps.map fun p => (p.text, isBlankText p.text, false) :=
  map_foldl_of_pushesView hstep

/-- The step `tokensOf` reads pieces with. -/
theorem tokensOf_step_pushesWord (t : Tokenizer) :
    PushesWord fun (acc : Array Token × Nat × Bool) (p : Piece) =>
      let (toks, pos, spaceBefore) := acc
      let rs := if isBlankText p.text then [] else t.readings p.text
      let tok := (Token.make p.text pos rs).withSpaceBefore spaceBefore
      (toks.push tok, Token.advance pos p.text.length, tok.isBlank) :=
  fun _ _ _ _ => ⟨_, _, rfl, rfl⟩

/-- The tokens of a sentence that are neither blank nor a sentence start hold the words of its
text. -/
theorem analyzeSentence_words (t : Tokenizer) (s : String) (offset : Nat) :
    (contentTokens (t.analyzeSentence s offset)).map Token.text =
      textWords t.options.protocols s := by
  -- after the opening token, one token per piece, and the passes after splitting keep them
  have hviews : (t.analyzeSentence s offset).tokens.toList.map Token.wordView =
      (Token.opening offset).wordView ::
        (textPieces t.options.protocols s).map fun p => (p.text, isBlankText p.text, false) := by
    rw [analyzeSentence, Disambiguator.map_apply Token.keptByPasses_wordView]
    unfold tokensOf
    simp only []
    rw [map_markParagraphs Token.keptByPasses_wordView,
      map_markSentenceEnd Token.keptByPasses_wordView,
      wordView_foldl (tokensOf_step_pushesWord t)]
    rfl
  rw [contentTokens, map_text_filter, hviews, textWords_eq]
  -- the opening token is a sentence start, and no other token is
  simp [Token.opening, Token.wordView, List.filter_map, Function.comp_def]

end Tokenizer

/-! ## The words of a text -/

/-- The words of a text, split and joined all at once, are the texts of the tokens of its
sentences that are neither blank nor a sentence start, in order, as long as no protocol of the
options is blank. -/
theorem words_are_analyzed_words (t : Tokenizer) (text : String)
    (hpr : ∀ p ∈ t.options.protocols, isBlankText p = false) :
    t.words text = ((t.analyze text).flatMap contentTokens).map Token.text := by
  rw [Tokenizer.words, textWords_sentences hpr, Tokenizer.analyze, List.flatMap_map,
    List.map_flatMap]
  exact List.flatMap_congr fun x _ => (Tokenizer.analyzeSentence_words t x.2 x.1).symm

/-- No default protocol is blank. -/
theorem Tokenizer.default_protocols_not_blank :
    ∀ p ∈ ({} : Tokenizer).options.protocols, isBlankText p = false := by
  intro p hp
  change p ∈ ["http", "https", "ftp"] at hp
  simp only [List.mem_cons, List.not_mem_nil, or_false] at hp
  rcases hp with rfl | rfl | rfl <;> simp only [isBlankText] <;>
    decide +kernel

/-- With the default protocols, a text with a web address before a sentence end gives the same
words both ways. -/
theorem default_words_are_analyzed_words :
    (∀ p ∈ ({} : Tokenizer).options.protocols, isBlankText p = false) ∧
      ({} : Tokenizer).words "See http://a.b. Yo" =
        ((({} : Tokenizer).analyze "See http://a.b. Yo").flatMap contentTokens).map Token.text :=
  ⟨Tokenizer.default_protocols_not_blank,
    words_are_analyzed_words _ _ Tokenizer.default_protocols_not_blank⟩

end Proofreader
