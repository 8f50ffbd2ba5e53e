import Mathlib
import Proofreader.Proofs.Splitting

/-!
# The pieces of a text are its runs

The piece splitter reads a text one character at a time, keeping the spans it has closed and the
word or run of spaces it has open. Said without the reading loop: every character is of one
*kind* (`Piece.kind`): a space within a line, a word character, or a delimiter that stands
alone (punctuation and line breaks). Two neighbouring characters stay in one piece exactly when
they are of one kind and that kind is spaces or word (`Piece.joins`), so the pieces of a text are
its maximal runs of joining characters, which is `List.splitBy` (`split_eq_splitBy`).

The invariant the splitter keeps while it reads (`Piece.Runs`) says that the characters inside
every closed span join, that no closed span joins the character after it, and that the open span
is of one kind. One step keeps it (`Runs.step`), so the whole run does (`runs_foldl`).

The characterization makes the splitter compositional. Where a text is cut between a space and
a character that is no space, nothing joins across the cut, so the pieces of the whole are those
of the first part followed by those of the second (`split_append`), and the last piece of the
first part is blank (`split_getLast_blank`).
-/

namespace Proofreader

namespace Piece

/-! ## Kinds of characters -/

/-- A space within a line: what a run of spaces is made of. -/
def lineSpace (c : Char) : Bool := Unicode.isSpace c && !Unicode.isNewline c

/-- What a character takes part in: a run of spaces (`some true`), a word (`some false`), or
nothing, for a delimiter that stands alone. -/
def kind (c : Char) : Option Bool :=
  if lineSpace c then some true else if isDelimiter c then none else some false

/-- Two neighbouring characters stay in one piece when they are of one kind, spaces or word. -/
def joins (a b : Char) : Bool := kind a == kind b && (kind a).isSome

theorem joins_iff {a b : Char} : joins a b = true ↔ ∃ k, kind a = some k ∧ kind b = some k := by
  unfold joins
  cases kind a with
  | none => simp
  | some x =>
    cases kind b with
    | none => simp
    | some y => simpa using eq_comm

/-- A character of the kind of spaces is a space. -/
theorem isSpace_of_kind {c : Char} (h : kind c = some true) : Unicode.isSpace c = true := by
  unfold kind lineSpace at h
  split at h
  · rename_i hs
    simp only [Bool.and_eq_true] at hs
    exact hs.1
  · split at h <;> cases h

/-- A space is no word character. -/
theorem kind_ne_word_of_isSpace {c : Char} (h : Unicode.isSpace c = true) : kind c ≠ some false := by
  unfold kind
  split
  · simp
  · rw [if_pos (by simp [isDelimiter, h])]
    simp

/-- What is no space is not of the kind of spaces. -/
theorem kind_ne_space_of_not_isSpace {c : Char} (h : Unicode.isSpace c = false) :
    kind c ≠ some true := fun hk => by
  rw [isSpace_of_kind hk] at h
  cases h

/-- A character that joins a space is a space. -/
theorem isSpace_of_joins {a b : Char} (h : joins a b = true) (hb : Unicode.isSpace b = true) :
    Unicode.isSpace a = true := by
  obtain ⟨k, ha, hb'⟩ := joins_iff.1 h
  cases k with
  | true => exact isSpace_of_kind ha
  | false => exact absurd hb' (kind_ne_word_of_isSpace hb)

/-- Nothing joins across a cut between a space and a character that is no space. -/
theorem joins_eq_false_of_isSpace {a b : Char} (ha : Unicode.isSpace a = true)
    (hb : Unicode.isSpace b = false) : joins a b = false := by
  cases h : joins a b
  · rfl
  · obtain ⟨k, hka, hkb⟩ := joins_iff.1 h
    cases k with
    | true =>
      rw [isSpace_of_kind hkb] at hb
      cases hb
    | false => exact absurd hka (kind_ne_word_of_isSpace ha)

/-! ## One step of the splitter -/

/-- The open span, if any, closed at `i`, put before the spans closed so far. -/
def close (cur : Option (Nat × Bool)) (i : Nat) (acc : List (Nat × Nat)) : List (Nat × Nat) :=
  match cur with
  | some (s, _) => (s, i) :: acc
  | none => acc

/-- One step of the splitter, by the kind of the character read: a lone delimiter closes the
open span and stands alone; a character of the open span's kind extends it; any other closes it
and opens a span of its own kind. -/
theorem splitStep_eq (acc : List (Nat × Nat)) (cur : Option (Nat × Bool)) (i : Nat) (c : Char) :
    splitStep (acc, cur) (i, c) =
      match kind c with
      | none => ((i, i + 1) :: close cur i acc, none)
      | some k => if cur.map (·.2) = some k then (acc, cur) else (close cur i acc, some (i, k)) := by
  unfold splitStep kind lineSpace
  dsimp only
  by_cases hs : (Unicode.isSpace c && !Unicode.isNewline c) = true
  · simp only [if_pos hs]
    rcases cur with _ | ⟨s, _ | _⟩ <;> rfl
  · simp only [if_neg hs]
    by_cases hd : isDelimiter c = true
    · simp only [if_pos hd]
      rfl
    · simp only [if_neg hd]
      rcases cur with _ | ⟨s, _ | _⟩ <;> rfl

/-! ## What the splitter keeps while it reads -/

/-- The characters at `j - 1` and `j` of `T` exist and join. -/
def JoinsAt (T : List Char) (j : Nat) : Prop :=
  ∃ a b, T[j - 1]? = some a ∧ T[j]? = some b ∧ joins a b = true

/-- The characters at `j - 1` and `j` of `T`, where both exist, do not join. -/
def CutAt (T : List Char) (j : Nat) : Prop :=
  ∀ a b, T[j - 1]? = some a → T[j]? = some b → joins a b = false

/-- Two neighbouring characters of one kind, spaces or word, join. -/
theorem joinsAt_of_kind {T : List Char} {j : Nat} {k : Bool}
    (ha : ∃ a, T[j - 1]? = some a ∧ kind a = some k) (hb : ∃ b, T[j]? = some b ∧ kind b = some k) :
    JoinsAt T j := by
  obtain ⟨a, ha, hka⟩ := ha
  obtain ⟨b, hb, hkb⟩ := hb
  exact ⟨a, b, ha, hb, joins_iff.2 ⟨k, hka, hkb⟩⟩

/-- What the splitter has found once it has read the characters of `T` before `i`: the spans
follow one another (`SplitSoFar`); the characters inside each closed span join; no closed span
joins the character after it; every character of the open span is of its kind; and with no span
open, the last character read is a lone delimiter. -/
structure Runs (T : List Char) (i : Nat) (st : List (Nat × Nat) × Option (Nat × Bool)) :
    Prop where
  soFar : SplitSoFar i st
  inner : ∀ s ∈ st.1, ∀ j, s.1 < j → j < s.2 → JoinsAt T j
  cut : ∀ s ∈ st.1, CutAt T s.2
  openKind : ∀ s k, st.2 = some (s, k) → ∀ j, s ≤ j → j < i →
    ∃ c, T[j]? = some c ∧ kind c = some k
  lone : st.2 = none → 0 < i → ∃ c, T[i - 1]? = some c ∧ kind c = none

namespace Runs

variable {T : List Char} {i : Nat} {acc : List (Nat × Nat)} {cur : Option (Nat × Bool)}

/-- Closing the open span at `i`, before a character of another kind or at the end of the
text, gives a span whose characters join and that joins nothing after it. -/
theorem close_spans (h : Runs T i (acc, cur))
    (hnext : ∀ c, T[i]? = some c → ∀ k, cur.map (·.2) = some k → kind c ≠ some k) :
    ∀ s ∈ close cur i acc, (∀ j, s.1 < j → j < s.2 → JoinsAt T j) ∧ CutAt T s.2 := by
  intro sp hsp
  cases cur with
  | none => exact ⟨h.inner sp hsp, h.cut sp hsp⟩
  | some open_ =>
    obtain ⟨s, k⟩ := open_
    rcases List.mem_cons.1 hsp with rfl | hsp
    · have hopen := h.openKind s k rfl
      have hsi : s < i := h.soFar.2
      refine ⟨fun j hj hji => joinsAt_of_kind ?_ (hopen j (by omega) hji), ?_⟩
      · exact hopen (j - 1) (by omega) (by omega)
      · -- the last character of the span is of its kind, the next one of another
        intro a b ha hb
        obtain ⟨a', ha', hka⟩ := hopen (i - 1) (by omega) (by omega)
        rw [ha] at ha'
        cases ha'
        cases hj : joins a b
        · rfl
        · obtain ⟨k', hka', hkb⟩ := joins_iff.1 hj
          rw [hka] at hka'
          cases hka'
          exact absurd hkb (hnext b hb k rfl)
    · exact ⟨h.inner sp hsp, h.cut sp hsp⟩

/-- Reading one more character keeps what the splitter has found. -/
theorem step (h : Runs T i (acc, cur)) {c : Char} (hc : T[i]? = some c) :
    Runs T (i + 1) (splitStep (acc, cur) (i, c)) := by
  have hsoFar := splitSoFar_splitStep h.soFar c
  rw [splitStep_eq] at hsoFar ⊢
  cases hk : kind c with
  | none =>
    -- a lone delimiter: the open span closes and the delimiter is a span of its own
    rw [hk] at hsoFar
    dsimp only at hsoFar ⊢
    have hclosed := h.close_spans fun c' hc' k _ => by
      rw [hc] at hc'
      cases hc'
      rw [hk]
      simp
    refine ⟨hsoFar, ?_, ?_, (fun s k hcur => by cases hcur), (fun _ _ => ⟨c, hc, hk⟩)⟩
    · intro sp hsp j hj hj'
      rcases List.mem_cons.1 hsp with rfl | hsp
      · dsimp only at hj hj'
        omega
      · exact (hclosed sp hsp).1 j hj hj'
    · intro sp hsp
      rcases List.mem_cons.1 hsp with rfl | hsp
      · intro a b ha _
        rw [show (i, i + 1).2 - 1 = i from rfl, hc] at ha
        cases ha
        cases hj : joins c b
        · rfl
        · obtain ⟨k, hka, -⟩ := joins_iff.1 hj
          rw [hk] at hka
          cases hka
      · exact (hclosed sp hsp).2
  | some k =>
    rw [hk] at hsoFar
    dsimp only at hsoFar ⊢
    by_cases hsame : cur.map (·.2) = some k
    · -- a character of the open span's kind extends it
      rw [if_pos hsame] at hsoFar ⊢
      obtain ⟨⟨s, k'⟩, hcur, hk'⟩ := Option.map_eq_some_iff.1 hsame
      dsimp only at hk'
      subst hk'
      refine ⟨hsoFar, h.inner, h.cut, (fun s' k'' hcur' j hj hji => ?_), (fun hnone => ?_)⟩
      · rw [hcur] at hcur'
        cases hcur'
        rcases Nat.lt_succ_iff_lt_or_eq.1 hji with hji | rfl
        · exact h.openKind s k' hcur j hj hji
        · exact ⟨c, hc, hk⟩
      · rw [hcur] at hnone
        cases hnone
    · -- a character of another kind closes the open span and opens one of its own
      rw [if_neg hsame] at hsoFar ⊢
      have hclosed := h.close_spans fun c' hc' k' hk' => by
        rw [hc] at hc'
        cases hc'
        rw [hk]
        intro heq
        cases heq
        exact hsame hk'
      refine ⟨hsoFar, (fun sp hsp => (hclosed sp hsp).1), (fun sp hsp => (hclosed sp hsp).2),
        (fun s k' hcur j hj hji => ?_), (fun hnone => by cases hnone)⟩
      cases hcur
      have hji' : j = i := by omega
      subst hji'
      exact ⟨c, hc, hk⟩

end Runs

/-- The rest of `T` from `n` on starts with the character at `n`, followed by the rest from
`n + 1` on. -/
theorem getElem?_of_drop_eq_cons {T cs : List Char} {n : Nat} {c : Char}
    (h : T.drop n = c :: cs) : T[n]? = some c ∧ T.drop (n + 1) = cs := by
  constructor
  · rw [← List.head?_drop, h]
    rfl
  · rw [← List.tail_drop, h]
    rfl

/-- Reading the characters `cs` of `T` from position `n` on keeps what the splitter finds. -/
theorem runs_foldl (T : List Char) :
    ∀ (cs : List Char) (n : Nat) (st : List (Nat × Nat) × Option (Nat × Bool)),
      T.drop n = cs → Runs T n st →
      Runs T (n + cs.length) (((cs.zipIdx n).map fun (c, i) => (i, c)).foldl splitStep st) := by
  intro cs
  induction cs with
  | nil =>
    intro n st _ h
    exact h
  | cons c rest ih =>
    intro n st hdrop h
    obtain ⟨hc, hrest⟩ := getElem?_of_drop_eq_cons hdrop
    obtain ⟨acc, cur⟩ := st
    rw [List.zipIdx_cons, List.map_cons, List.foldl_cons, List.length_cons,
      show n + (rest.length + 1) = n + 1 + rest.length by omega]
    exact ih (n + 1) _ hrest (h.step hc)

/-- The characters inside each span of the pieces of `T` join, and no span joins the character
after it. -/
theorem spans_runs (T : List Char) :
    ∀ s ∈ spans T, (∀ j, s.1 < j → j < s.2 → JoinsAt T j) ∧ CutAt T s.2 := by
  have hstart : Runs T 0 ([], none) :=
    ⟨rfl, (fun _ hs => by cases hs), (fun _ hs => by cases hs), (fun _ _ h => by cases h),
      (fun _ h => absurd h (Nat.lt_irrefl 0))⟩
  have hrun := runs_foldl T T 0 ([], none) List.drop_zero hstart
  rw [Nat.zero_add] at hrun
  unfold spans
  generalize ((T.zipIdx.map fun (c, i) => (i, c)).foldl splitStep ([], none)) = st at hrun ⊢
  obtain ⟨acc, cur⟩ := st
  intro s hs
  rw [List.mem_reverse] at hs
  -- nothing follows the end of the text, so the open span closes there
  exact hrun.close_spans (fun c hc => by simp at hc) s hs

/-! ## The pieces are the runs -/

theorem getElem?_slice {T : List Char} {s : Nat × Nat} {k : Nat} (hk : k < s.2 - s.1) :
    (slice T s)[k]? = T[s.1 + k]? := by
  simp [slice, hk, List.getElem?_drop]

theorem head?_slice {T : List Char} {s : Nat × Nat} (h : s.1 < s.2) :
    (slice T s).head? = T[s.1]? := by
  rw [List.head?_eq_getElem?, getElem?_slice (by omega), Nat.add_zero]

theorem getLast?_slice {T : List Char} {s : Nat × Nat} (h : s.1 < s.2) (hT : s.2 ≤ T.length) :
    (slice T s).getLast? = T[s.2 - 1]? := by
  rw [List.getLast?_eq_getElem?, length_slice hT, getElem?_slice (by omega)]
  congr 1
  omega

/-- The characters of a span whose neighbours inside it join form a chain of joining
characters. -/
theorem isChain_slice {T : List Char} {s : Nat × Nat}
    (h : ∀ j, s.1 < j → j < s.2 → JoinsAt T j) :
    (slice T s).IsChain fun x y => joins x y = true := by
  rw [List.isChain_iff_getElem]
  intro k hk
  have hlen : k + 1 < s.2 - s.1 := by
    simp only [slice, List.length_take, List.length_drop] at hk
    omega
  obtain ⟨a, b, ha, hb, hab⟩ := h (s.1 + k + 1) (by omega) (by omega)
  have ha' : (slice T s)[k]? = some a := by
    rw [getElem?_slice (by omega)]
    simpa using ha
  have hb' : (slice T s)[k + 1]? = some b := by
    rw [getElem?_slice hlen, ← Nat.add_assoc]
    exact hb
  rw [List.getElem?_eq_getElem (by omega)] at ha' hb'
  rw [Option.some.inj ha', Option.some.inj hb']
  exact hab

/-- Spans that follow one another, the characters around each border related by `R`: their
slices are not empty, and the last character of each and the first of the next are related by
`R`. -/
theorem isChain_slices {R : Char → Char → Prop} {T : List Char} :
    ∀ {p q : Nat} {sp : List (Nat × Nat)}, Consecutive p sp q → q ≤ T.length →
      (∀ s ∈ sp, ∀ a b, T[s.2 - 1]? = some a → T[s.2]? = some b → R a b) →
      (sp.map (slice T)).IsChain fun x y =>
        x ≠ [] ∧ y ≠ [] ∧ ∀ a ∈ x.getLast?, ∀ b ∈ y.head?, R a b
  | _, _, [], _, _, _ => List.IsChain.nil
  | _, _, [_], _, _, _ => List.isChain_singleton _
  | _, q, s :: t :: rest, ⟨_, hst, hrest⟩, hq, hcut => by
    have ht : t.1 = s.2 := hrest.1
    have htt : t.1 < t.2 := hrest.2.1
    have hs2 : s.2 ≤ T.length := Nat.le_trans hrest.le hq
    have ht2 : t.2 ≤ T.length := Nat.le_trans hrest.2.2.le hq
    rw [List.map_cons, List.map_cons, List.isChain_cons_cons]
    refine ⟨?_, isChain_slices hrest hq fun x hx => hcut x (List.mem_cons_of_mem s hx)⟩
    -- the last character of one span and the first of the next meet at the border
    refine ⟨slice_ne_nil hst hs2, slice_ne_nil htt ht2,
      fun a ha b hb => hcut s List.mem_cons_self a b ?_ ?_⟩
    · rw [← getLast?_slice hst hs2]
      exact ha
    · rw [← ht, ← head?_slice htt]
      exact hb

/-- The pieces of a text are its maximal runs of joining characters: each run of spaces within a
line, each word, and each other delimiter alone. -/
theorem split_eq_splitBy (text : String) :
    text.toList.splitBy joins = (split text).map (·.text.toList) := by
  have hcons := spans_consecutive text.toList
  have hruns := spans_runs text.toList
  rw [List.splitBy_eq_iff]
  refine ⟨(split_flatten text).symm, ?_, ?_, ?_⟩
  · -- no piece is empty
    intro hnil
    obtain ⟨p, hp, hempty⟩ := List.mem_map.1 hnil
    exact split_ne_empty hp (String.toList_eq_nil_iff.1 hempty)
  · rw [split_toList]
    intro m hm
    obtain ⟨s, hs, rfl⟩ := List.mem_map.1 hm
    exact isChain_slice (hruns s hs).1
  · rw [split_toList]
    refine (isChain_slices hcons (Nat.le_refl _) fun s hs => (hruns s hs).2).imp ?_
    rintro x y ⟨hx, hy, hxy⟩
    exact ⟨hx, hy, hxy _ (List.getLast_mem_getLast? hx) _ (List.head_mem_head? hy)⟩

/-! ## Cutting a text after a space -/

/-- Cut a text between a space and a character that is no space: its pieces are those of the
part before the cut followed by those of the part after it. -/
theorem split_append {s t : String} (hs : ∀ c ∈ s.toList.getLast?, Unicode.isSpace c = true)
    (ht : ∀ c ∈ t.toList.head?, Unicode.isSpace c = false) :
    (split (s ++ t)).map (·.text.toList) =
      (split s).map (·.text.toList) ++ (split t).map (·.text.toList) := by
  rw [← split_eq_splitBy, ← split_eq_splitBy, ← split_eq_splitBy, String.toList_append]
  exact List.splitBy_append fun a ha b hb => joins_eq_false_of_isSpace (hs a ha) (ht b hb)

/-- In a chain of joining characters that ends with a space, every character is a space. -/
theorem forall_isSpace_of_isChain :
    ∀ {g : List Char}, (g.IsChain fun x y => joins x y = true) →
      (∀ c ∈ g.getLast?, Unicode.isSpace c = true) → ∀ c ∈ g, Unicode.isSpace c = true
  | [], _, _, c, hc => by cases hc
  | [a], _, hlast, c, hc => by
    rw [List.mem_singleton] at hc
    subst hc
    exact hlast c rfl
  | a :: b :: rest, hchain, hlast, c, hc => by
    rw [List.isChain_cons_cons] at hchain
    rw [List.getLast?_cons_cons] at hlast
    have hrest := forall_isSpace_of_isChain hchain.2 hlast
    rcases List.mem_cons.1 hc with rfl | hc
    · exact isSpace_of_joins hchain.1 (hrest b List.mem_cons_self)
    · exact hrest c hc

/-- A text that ends with a space has a blank last piece. -/
theorem split_getLast_blank {s : String}
    (hs : ∀ c ∈ s.toList.getLast?, Unicode.isSpace c = true) :
    ∀ p ∈ (split s).getLast?, isBlankText p.text = true := by
  intro p hp
  obtain ⟨ps, hps⟩ := List.getLast?_eq_some_iff.1 hp
  have hne : p.text.toList ≠ [] := fun h =>
    split_ne_empty (List.mem_of_getLast? hp) (String.toList_eq_nil_iff.1 h)
  -- the last piece is a run of joining characters that ends with the text's last character
  have hchain : p.text.toList.IsChain fun x y => joins x y = true := by
    apply List.isChain_of_mem_splitBy (r := joins) (l := s.toList)
    rw [split_eq_splitBy, hps, List.map_append]
    exact List.mem_append_right _ List.mem_cons_self
  have hlast : p.text.toList.getLast? = s.toList.getLast? := by
    rw [← split_flatten s, hps, List.map_append, List.flatten_append, List.map_singleton,
      List.flatten_singleton, List.getLast?_append_of_ne_nil _ hne]
  have hall := forall_isSpace_of_isChain hchain (hlast ▸ hs)
  simp only [isBlankText, Bool.and_eq_true, Bool.not_eq_true',
    List.all_eq_true]
  refine ⟨?_, hall⟩
  cases he : p.text.isEmpty
  · rfl
  · exact absurd (String.isEmpty_iff.1 he ▸ String.toList_empty) hne

end Piece

end Proofreader
