import Mathlib
import Proofreader.Proofs.Runs

/-!
# The pieces of a text partition it

The piece splitter cuts a text into spans that follow one another from its first character to its
last (`spans_consecutive`), and each span is one of three shapes (`IsPieceSpan`): a run of spaces
within a line, a single delimiter that stands alone (punctuation or a line break), or a run of
word characters, each run as long as the text lets it be. Positions count characters, so every
position is a character boundary.

Joining web addresses merges blocks of pieces that follow one another (`joinAddresses_blocks`):
each joined piece covers one block, from the start of its first piece to the stop of its last, so
the joined pieces again follow one another over the whole text (`pieces_partition_text`).
-/

namespace Proofreader

/-- In spans that follow one another from `p`, each starts at `p` or where a span ends. -/
theorem Consecutive.start_eq_or {P : Nat → Prop} :
    ∀ {p q : Nat} {sp : List (Nat × Nat)}, Consecutive p sp q → (∀ s ∈ sp, P s.2) →
      ∀ s ∈ sp, s.1 = p ∨ P s.1
  | _, _, [], _, _, _, hs => by cases hs
  | _, _, s' :: rest, ⟨h1, _, h3⟩, hP, s, hs => by
    rcases List.mem_cons.1 hs with rfl | hs
    · exact .inl h1
    · -- a later span starts where the first ends, or where a later one ends
      rcases Consecutive.start_eq_or h3 (fun x hx => hP x (List.mem_cons_of_mem s' hx)) s hs with
        h | h
      · exact .inr (h ▸ hP s' List.mem_cons_self)
      · exact .inr h

namespace Piece

/-- The character span of a piece. -/
def span (p : Piece) : Nat × Nat := (p.start, p.stop)

/-! ## Kinds of characters, said with the splitter's tests -/

theorem kind_eq_some_true_iff {c : Char} : kind c = some true ↔ lineSpace c = true := by
  unfold kind
  split <;> simp_all

theorem kind_eq_some_false_iff {c : Char} : kind c = some false ↔ isDelimiter c = false := by
  unfold kind
  split
  · -- a space within a line is a delimiter
    rename_i hs
    simp only [lineSpace, Bool.and_eq_true] at hs
    simp [isDelimiter, hs.1]
  · split <;> simp_all

theorem kind_eq_none_iff {c : Char} : kind c = none ↔ isDelimiter c = true ∧ lineSpace c = false := by
  unfold kind
  split <;> simp_all

/-- Characters that join are of one kind. -/
theorem kind_eq_of_joins {a b : Char} (h : joins a b = true) : kind a = kind b := by
  obtain ⟨k, ha, hb⟩ := joins_iff.1 h
  rw [ha, hb]

/-! ## The shape of a piece -/

/-- Positions `a` to `b` of `T` hold a maximal run of characters with the property `p`: the run is
not empty, each of its characters has the property, and neither the character before it nor the
one after it has. -/
def IsMaximalRun (p : Char → Bool) (T : List Char) (a b : Nat) : Prop :=
  a < b ∧ (∀ j, a ≤ j → j < b → ∃ c, T[j]? = some c ∧ p c = true) ∧
    (∀ c, 0 < a → T[a - 1]? = some c → p c = false) ∧ (∀ c, T[b]? = some c → p c = false)

/-- The shapes a piece from `a` to `b` of `T` may have: a maximal run of spaces within a line, a
single delimiter that is no such space (a line break or a punctuation mark), or a maximal run of
characters that are no delimiters. -/
def IsPieceSpan (T : List Char) (a b : Nat) : Prop :=
  IsMaximalRun lineSpace T a b ∨
    (b = a + 1 ∧ ∃ c, T[a]? = some c ∧ isDelimiter c = true ∧ lineSpace c = false) ∨
    IsMaximalRun (fun c => !isDelimiter c) T a b

/-- Inside a span whose neighbouring characters join, every character is of the kind of the
first. -/
theorem kind_of_joinsAt {T : List Char} {a b : Nat} (h : ∀ j, a < j → j < b → JoinsAt T j)
    {c₀ : Char} (h₀ : T[a]? = some c₀) :
    ∀ j, a ≤ j → j < b → ∃ c, T[j]? = some c ∧ kind c = kind c₀ := by
  intro j haj
  induction j, haj using Nat.le_induction with
  | base => exact fun _ => ⟨c₀, h₀, rfl⟩
  | succ j haj ih =>
    intro hjb
    obtain ⟨c, hc, hkc⟩ := ih (by omega)
    -- the character at `j + 1` joins the one at `j`, so it is of its kind
    obtain ⟨x, y, hx, hy, hxy⟩ := h (j + 1) (by omega) hjb
    rw [Nat.add_sub_cancel, hc] at hx
    cases hx
    exact ⟨y, hy, (kind_eq_of_joins hxy).symm.trans hkc⟩

/-- Characters that do not join are not of one kind. -/
theorem kind_ne_of_not_joins {a b : Char} {k : Bool} (h : joins a b = false)
    (ha : kind a = some k) : kind b ≠ some k := fun hb => by
  rw [joins_iff.2 ⟨k, ha, hb⟩] at h
  cases h

/-- A span of characters of kind `k` that the characters around it do not join is a maximal run
of that kind. -/
theorem isMaximalRun_kind {T : List Char} {a b : Nat} {k : Bool} (hab : a < b)
    (hrun : ∀ j, a ≤ j → j < b → ∃ c, T[j]? = some c ∧ kind c = some k)
    (hbefore : a = 0 ∨ CutAt T a) (hafter : CutAt T b) :
    IsMaximalRun (fun c => kind c == some k) T a b := by
  refine ⟨hab, fun j hj hjb => ?_, fun c ha hc => ?_, fun c hc => ?_⟩
  · obtain ⟨c, hc, hk⟩ := hrun j hj hjb
    exact ⟨c, hc, by simp [hk]⟩
  · -- the character before the run does not join its first character
    obtain ⟨c₀, h₀, hk₀⟩ := hrun a (Nat.le_refl a) hab
    have hcut : joins c c₀ = false := by
      rcases hbefore with rfl | hcut
      · exact absurd ha (Nat.lt_irrefl 0)
      · exact hcut c c₀ hc h₀
    exact beq_eq_false_iff_ne.2 fun hk => kind_ne_of_not_joins hcut hk hk₀
  · -- nor does the character after it join its last one
    obtain ⟨cl, hl, hkl⟩ := hrun (b - 1) (by omega) (by omega)
    exact beq_eq_false_iff_ne.2 (kind_ne_of_not_joins (hafter cl c hl hc) hkl)

/-- A span whose characters join their neighbours inside it and nothing outside it has the shape
of a piece. -/
theorem isPieceSpan_of_runs {T : List Char} {a b : Nat} (hab : a < b) (hb : b ≤ T.length)
    (hinner : ∀ j, a < j → j < b → JoinsAt T j) (hbefore : a = 0 ∨ CutAt T a)
    (hafter : CutAt T b) : IsPieceSpan T a b := by
  obtain ⟨c₀, h₀⟩ : ∃ c₀, T[a]? = some c₀ := ⟨T[a], List.getElem?_eq_getElem (by omega)⟩
  have hrun := kind_of_joinsAt hinner h₀
  cases hk : kind c₀ with
  | none =>
    -- a lone delimiter joins nothing, so it is the whole span
    refine .inr (.inl ⟨?_, c₀, h₀, kind_eq_none_iff.1 hk⟩)
    by_contra hlen
    obtain ⟨x, y, hx, hy, hxy⟩ := hinner (a + 1) (by omega) (by omega)
    rw [Nat.add_sub_cancel, h₀] at hx
    cases hx
    obtain ⟨k, hk', -⟩ := joins_iff.1 hxy
    rw [hk] at hk'
    cases hk'
  | some k =>
    have hrun' : ∀ j, a ≤ j → j < b → ∃ c, T[j]? = some c ∧ kind c = some k := fun j hj hjb => by
      obtain ⟨c, hc, hkc⟩ := hrun j hj hjb
      exact ⟨c, hc, hkc.trans hk⟩
    have hmax := isMaximalRun_kind hab hrun' hbefore hafter
    cases k with
    | true =>
      -- a run of spaces within a line
      left
      have hp : (fun c => kind c == some true) = lineSpace := by
        funext c
        rw [Bool.eq_iff_iff, beq_iff_eq, kind_eq_some_true_iff]
      rwa [hp] at hmax
    | false =>
      -- a run of word characters
      right; right
      have hp : (fun c => kind c == some false) = fun c => !isDelimiter c := by
        funext c
        rw [Bool.eq_iff_iff, beq_iff_eq, kind_eq_some_false_iff, Bool.not_eq_true']
      rwa [hp] at hmax

/-- Every span of the pieces of `T` has the shape of a piece. -/
theorem spans_isPieceSpan (T : List Char) : ∀ s ∈ spans T, IsPieceSpan T s.1 s.2 := by
  have hcons := spans_consecutive T
  have hruns := spans_runs T
  have hstart := hcons.start_eq_or (P := CutAt T) fun s hs => (hruns s hs).2
  intro s hs
  obtain ⟨-, hlt, hle⟩ := hcons.mem_bounds s hs
  exact isPieceSpan_of_runs hlt hle (hruns s hs).1 (hstart s hs) (hruns s hs).2

theorem split_map_span (text : String) : (split text).map span = spans text.toList := by
  simp only [split, List.map_map]
  exact List.map_id' _

/-! ## Joining web addresses merges blocks of pieces -/

/-- One piece over a block of pieces: it starts where the first starts, stops where the last
stops, and holds their texts in order. -/
def cover (first : Piece) (rest : List Piece) : Piece :=
  rest.foldl (fun cur p => ⟨cur.start, p.stop, cur.text ++ p.text⟩) first

@[simp] theorem cover_nil (first : Piece) : cover first [] = first := rfl

theorem cover_cons (first p : Piece) (rest : List Piece) :
    cover first (p :: rest) = cover ⟨first.start, p.stop, first.text ++ p.text⟩ rest := rfl

theorem cover_append_single (first : Piece) (rest : List Piece) (p : Piece) :
    cover first (rest ++ [p]) =
      ⟨(cover first rest).start, p.stop, (cover first rest).text ++ p.text⟩ := by
  rw [cover, List.foldl_append]
  rfl

theorem cover_start (first : Piece) (rest : List Piece) : (cover first rest).start = first.start := by
  induction rest generalizing first with
  | nil => rfl
  | cons p rest ih => rw [cover_cons, ih]

theorem cover_stop (first : Piece) (rest : List Piece) :
    (cover first rest).stop = (rest.getLastD first).stop := by
  induction rest generalizing first with
  | nil => rfl
  | cons p rest ih =>
    rw [cover_cons, ih, List.getLastD_cons]
    -- the piece extended by `p` stops where `p` does
    cases rest with
    | nil => rfl
    | cons q rest => rw [List.getLastD_cons, List.getLastD_cons]

/-- Joining web addresses, with an open address over the block `pending`, groups what remains
into blocks that follow one another and joins each block into one piece. -/
theorem joinAddresses_blocks (protocols : List String) (cur : Option Piece) (ps : List Piece)
    (pending : Option (Piece × List Piece)) (hcur : cur = pending.map fun b => cover b.1 b.2) :
    ∃ blocks : List (Piece × List Piece),
      (blocks.flatMap fun b => b.1 :: b.2) = (pending.map fun b => b.1 :: b.2).getD [] ++ ps ∧
      joinAddresses protocols cur ps = blocks.map fun b => cover b.1 b.2 := by
  fun_induction joinAddresses protocols cur ps generalizing pending with
  | case1 =>
    obtain rfl : pending = none := Option.map_eq_none_iff.1 hcur.symm
    exact ⟨[], rfl, rfl⟩
  | case2 cur =>
    -- the open address is the last block
    obtain ⟨b, rfl, rfl⟩ := Option.map_eq_some_iff.1 hcur.symm
    exact ⟨[b], by simp, rfl⟩
  | case3 p rest _ ih =>
    -- an address starts: its first piece opens a block
    obtain rfl : pending = none := Option.map_eq_none_iff.1 hcur.symm
    obtain ⟨blocks, hflat, hjoin⟩ := ih (some (p, [])) rfl
    exact ⟨blocks, by simpa using hflat, hjoin⟩
  | case4 p rest _ ih =>
    obtain rfl : pending = none := Option.map_eq_none_iff.1 hcur.symm
    obtain ⟨blocks, hflat, hjoin⟩ := ih none rfl
    refine ⟨(p, []) :: blocks, by simpa using hflat, ?_⟩
    rw [hjoin]
    rfl
  | case5 cur p rest _ ih =>
    -- the address ends before `p`: its block closes and `p` stands alone
    obtain ⟨b, rfl, rfl⟩ := Option.map_eq_some_iff.1 hcur.symm
    obtain ⟨blocks, hflat, hjoin⟩ := ih none rfl
    refine ⟨b :: (p, []) :: blocks, by simpa using hflat, ?_⟩
    rw [hjoin]
    rfl
  | case6 cur p rest _ ih =>
    -- the address goes on over `p`, which joins its block
    obtain ⟨b, rfl, rfl⟩ := Option.map_eq_some_iff.1 hcur.symm
    obtain ⟨blocks, hflat, hjoin⟩ :=
      ih (some (b.1, b.2 ++ [p])) (by rw [Option.map_some, cover_append_single])
    exact ⟨blocks, by simpa using hflat, hjoin⟩

end Piece

/-- A block of pieces that follow one another from `p`, then more spans: the piece over the block
starts at `p`, is not empty, and the rest follow from where it stops. -/
theorem Consecutive.cover_block {q : Nat} {more : List (Nat × Nat)} :
    ∀ {p : Nat} (first : Piece) (rest : List Piece),
      Consecutive p ((first :: rest).map Piece.span ++ more) q →
      Consecutive p ((Piece.cover first rest).span :: more) q
  | _, _, [], h => h
  | _, first, r :: rs, ⟨h1, h2, h3, h4, h5⟩ =>
    -- the first two pieces make one from the start of the first to the stop of the second
    Consecutive.cover_block ⟨first.start, r.stop, first.text ++ r.text⟩ rs
      ⟨h1, Nat.lt_trans h2 (h3 ▸ h4), h5⟩

/-- Pieces over blocks that follow one another follow one another. -/
theorem Consecutive.cover_blocks :
    ∀ {p q : Nat} (blocks : List (Piece × List Piece)),
      Consecutive p ((blocks.flatMap fun b => b.1 :: b.2).map Piece.span) q →
      Consecutive p ((blocks.map fun b => Piece.cover b.1 b.2).map Piece.span) q
  | _, _, [], h => h
  | _, _, b :: blocks, h => by
    rw [List.flatMap_cons, List.map_append] at h
    obtain ⟨h1, h2, h3⟩ := Consecutive.cover_block b.1 b.2 h
    exact ⟨h1, h2, Consecutive.cover_blocks blocks h3⟩

/-- The spans of the pieces of a text follow one another over the whole text. -/
theorem split_consecutive (text : String) :
    Consecutive 0 ((Piece.split text).map Piece.span) text.length := by
  rw [Piece.split_map_span, ← String.length_toList]
  exact Piece.spans_consecutive _

/-- The pieces of a text are non-empty spans that follow one another from its start to its end,
each a maximal run of spaces within a line, a single delimiter, or a maximal run of word
characters. With web addresses joined, the pieces again follow one another over the whole text,
each covering a block of the first pieces: from the start of the block's first piece to the stop
of its last. -/
theorem pieces_partition_text (protocols : List String) (text : String) :
    Consecutive 0 ((Piece.split text).map Piece.span) text.length ∧
    (∀ p ∈ Piece.split text, Piece.IsPieceSpan text.toList p.start p.stop) ∧
    Consecutive 0 ((textPieces protocols text).map Piece.span) text.length ∧
    ∃ blocks : List (Piece × List Piece),
      (blocks.flatMap fun b => b.1 :: b.2) = Piece.split text ∧
      (textPieces protocols text).map Piece.span =
        blocks.map fun b => (b.1.start, (b.2.getLastD b.1).stop) := by
  have hcons := split_consecutive text
  obtain ⟨blocks, hflat, hjoin⟩ :=
    Piece.joinAddresses_blocks protocols none (Piece.split text) none rfl
  rw [Option.map_none, Option.getD_none, List.nil_append] at hflat
  refine ⟨hcons, fun p hp => ?_, ?_, blocks, hflat, ?_⟩
  · have hmem : p.span ∈ Piece.spans text.toList := by
      rw [← Piece.split_map_span]
      exact List.mem_map_of_mem hp
    exact Piece.spans_isPieceSpan text.toList p.span hmem
  · rw [textPieces, hjoin]
    exact Consecutive.cover_blocks blocks (hflat ▸ hcons)
  · rw [textPieces, hjoin, List.map_map]
    refine List.map_congr_left fun b _ => ?_
    simp [Piece.span, Piece.cover_start, Piece.cover_stop]

/-! ## Pieces in the bytes of the text -/

/-- Spans that follow one another stay so under a map that increases up to their end. -/
theorem Consecutive.map_of_lt {f : Nat → Nat} {n : Nat}
    (hf : ∀ a b, a < b → b ≤ n → f a < f b) :
    ∀ {p q : Nat} {spans : List (Nat × Nat)}, Consecutive p spans q → q ≤ n →
      Consecutive (f p) (spans.map fun s => (f s.1, f s.2)) (f q)
  | _, _, [], h, _ => congrArg f h
  | _, _, _ :: _, ⟨h1, h2, h3⟩, hq =>
    ⟨congrArg f h1, hf _ _ h2 ((Consecutive.le h3).trans hq), map_of_lt hf h3 hq⟩

/-- In the UTF-8 bytes of a text, the pieces follow one another from the first byte to the last,
and each piece is spelled by the bytes of the text between the byte offsets of its ends: the byte
ranges a splitter working on the bytes finds, and the texts it slices out of them. -/
theorem pieces_partition_bytes (text : String) :
    Consecutive 0 ((Piece.split text).map fun p =>
        (byteOffset text.toList p.start, byteOffset text.toList p.stop)) text.utf8ByteSize ∧
    ∀ p ∈ Piece.split text, p.text.toByteArray =
      text.toByteArray.extract (byteOffset text.toList p.start) (byteOffset text.toList p.stop) := by
  have hcons := split_consecutive text
  refine ⟨?_, fun p hp => ?_⟩
  · have hbytes := hcons.map_of_lt (f := byteOffset text.toList)
      (fun a b hab hb => byteOffset_lt hab (by rwa [String.length_toList])) (Nat.le_refl _)
    rw [List.map_map, byteOffset_length] at hbytes
    exact hbytes
  · -- a piece is the slice of the text over its span
    obtain ⟨s, -, rfl⟩ := List.mem_map.1 hp
    have hs := (hcons.mem_bounds _ (List.mem_map_of_mem hp)).2.1
    exact toByteArray_slice text (Nat.le_of_lt hs)

end Proofreader
