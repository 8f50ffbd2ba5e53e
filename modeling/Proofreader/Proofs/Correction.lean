import Mathlib
import Proofreader.Proofs.SuggestionOrder

/-!
# Correcting a text is one pass over it

`applySuggestions` splices suggestions into a buffer one after another, each span shifted by
what the replacements before it put in and took out. Read as one pass over the original text,
the corrected text is the text up to the first suggestion, then what each suggestion puts in
(its first replacement, or its own characters when it has none) followed by the text up to the
next one, and after the last suggestion the rest of the text (`Suggestion.rewrite`).

The two agree for suggestions that lie within the text and each end at or before the next one
starts (`applySuggestions_eq_rewrite`). While they are applied, the buffer is what the pass has
written so far followed by the rest of the original text, and the offset is the length of what
was written less the position reached in the original (`Rewriting`); so each span, shifted by
the offset, falls on the suggestion's own characters in the buffer, and no splice leaves it. As
in `Proofs/SuggestionOrder`, the 64-bit offset is exact while the text and the replacements fit
below `2 ^ 64` characters.
-/

namespace Proofreader

namespace Suggestion

/-- What applying the suggestion to the characters `cs` puts in place of its span: its first
replacement, or the characters there when it has none. -/
def replacementIn (cs : List Char) (s : Suggestion) : List Char :=
  match s.replacements with
  | [] => (cs.take s.stop).drop s.start
  | r :: _ => r.toList

/-- The characters `cs` from position `p` on with suggestions applied in one pass: the characters
up to each suggestion, then what it puts in, and after the last suggestion the rest. -/
def rewrite (cs : List Char) : Nat → List Suggestion → List Char
  | p, [] => cs.drop p
  | p, s :: rest => (cs.take s.start).drop p ++ s.replacementIn cs ++ rewrite cs s.stop rest

/-- A suggestion from `lo` on, followed by suggestions in order from where it ends. -/
theorem Ordered.cons {lo hi : Nat} {s : Suggestion} {l : List Suggestion} (hlo : lo ≤ s.start)
    (hs : s.start ≤ s.stop) (hhi : s.stop ≤ hi) (h : Ordered s.stop hi l) :
    Ordered lo hi (s :: l) := by
  refine ⟨fun x hx => ?_, List.Pairwise.cons (fun b hb => (h.bounds b hb).1) h.ordered⟩
  rcases List.mem_cons.1 hx with rfl | hx
  · exact ⟨hlo, hs, hhi⟩
  · obtain ⟨h1, h2, h3⟩ := h.bounds x hx
    exact ⟨by omega, h2, h3⟩

/-- Suggestions within `[0, n]`, each ending at or before the next one starts, are in order
from any position at or before the first one starts. -/
theorem ordered_of_isChain {n : Nat} :
    ∀ {p : Nat} {l : List Suggestion}, (∀ s ∈ l, s.start ≤ s.stop ∧ s.stop ≤ n) →
      (∀ s ∈ l.head?, p ≤ s.start) → l.IsChain (fun a b => a.stop ≤ b.start) → Ordered p n l
  | _, [], _, _, _ => Ordered.nil
  | _, s :: rest, hspans, hhead, hchain => by
    obtain ⟨hs, hn⟩ := hspans s List.mem_cons_self
    -- the chain starts the rest after `s`, so the rest is in order from where `s` ends
    have hrest : Ordered s.stop n rest :=
      ordered_of_isChain (fun x hx => hspans x (List.mem_cons_of_mem s hx))
        (fun x hx => (List.isChain_cons.1 hchain).1 x hx) (List.isChain_cons.1 hchain).2
    exact Ordered.cons (hhead s rfl) hs hn hrest

end Suggestion

/-! ## One splice -/

/-- Cutting the characters from `p` at two later positions `a ≤ b` within them. -/
theorem drop_eq_take_drop_append {cs : List Char} {p a b : Nat} (hpa : p ≤ a) (hab : a ≤ b)
    (hb : b ≤ cs.length) :
    cs.drop p = (cs.take a).drop p ++ (cs.take b).drop a ++ cs.drop b := by
  have hcut : ∀ {n : Nat} (xs : List Char), n ≤ xs.length → ∀ {q : Nat}, q ≤ n →
      xs.drop q = (xs.take n).drop q ++ xs.drop n := by
    intro n xs hn q hq
    conv_lhs => rw [← List.take_append_drop n xs]
    rw [List.drop_append_of_le_length (by simp; omega)]
  rw [hcut cs hb (Nat.le_trans hpa hab), hcut (cs.take b) (by simp; omega) hpa,
    List.take_take, Nat.min_eq_left hab]

/-- The buffer while suggestions are applied, as the one pass sees it: what the pass has written
up to position `p` of the original (`out`), then the rest of the original. `added` and `removed`
count what the replacements so far put in and took out, the offset is their difference as a
64-bit word, and what was taken out lies before `p`. -/
structure Rewriting (p added removed : Nat) (out : List Char) (offset : UInt64) : Prop where
  length : out.length + removed = p + added
  offset : offset + UInt64.ofNat removed = UInt64.ofNat added
  removed_le : removed ≤ p

/-- One suggestion from the position reached splices what it puts in over its own characters:
the pass writes the original up to the suggestion and what it puts in, and goes on from its end.
-/
theorem spliceStep_rewrite {cs out : List Char} {p added removed : Nat} {offset : UInt64}
    (h : Rewriting p added removed out offset) {s : Suggestion} (hp : p ≤ s.start)
    (hs : s.start ≤ s.stop) (hstop : s.stop ≤ cs.length)
    (hbound : cs.length + added + s.firstLength < 2 ^ 64) :
    ∃ offset' removed', spliceStep (some (out ++ cs.drop p, offset)) s =
        some (out ++ ((cs.take s.start).drop p ++ s.replacementIn cs) ++ cs.drop s.stop,
          offset') ∧
      Rewriting s.stop (added + s.firstLength) removed'
        (out ++ ((cs.take s.start).drop p ++ s.replacementIn cs)) offset' := by
  obtain ⟨hlen, hoff, hrem⟩ := h
  have hlead : ((cs.take s.start).drop p).length = s.start - p := by simp; omega
  cases hr : s.replacements with
  | nil =>
    -- no replacement: the buffer is left as it is, which is the pass copying the span
    have hzero : s.firstLength = 0 := by
      simp only [Suggestion.firstLength, hr, List.head?_nil, Option.map_none, Option.getD_none]
    have hin : s.replacementIn cs = (cs.take s.stop).drop s.start := by
      simp only [Suggestion.replacementIn, hr]
    refine ⟨offset, removed, ?_, ⟨?_, ?_, by omega⟩⟩
    · simp only [spliceStep, hr, hin, List.append_assoc]
      rw [drop_eq_take_drop_append hp hs hstop, List.append_assoc]
    · simp only [List.length_append, hlead, hin, List.length_drop, List.length_take]
      omega
    · rw [hzero, Nat.add_zero]
      exact hoff
  | cons r rest =>
    have hfirst : s.firstLength = r.length := by
      simp only [Suggestion.firstLength, hr, List.head?_cons, Option.map_some, Option.getD_some]
    have hin : s.replacementIn cs = r.toList := by simp only [Suggestion.replacementIn, hr]
    rw [hfirst] at hbound
    -- the shifted span starts and ends where the pass has reached the suggestion's characters
    have ha := shift_toNat hoff (by omega : removed ≤ s.start) (by omega)
    have hb := shift_toNat hoff (by omega : removed ≤ s.stop) (by omega)
    have hA : s.start - removed + added = out.length + (s.start - p) := by omega
    have hB : s.stop - removed + added = out.length + (s.stop - p) := by omega
    have hguard : ¬((out.length + (s.stop - p) < out.length + (s.start - p) ||
        decide (out.length + (s.stop - p) > (out ++ cs.drop p).length)) = true) := by
      simp only [List.length_append, List.length_drop, Bool.or_eq_true, decide_eq_true_eq,
        not_or, Nat.not_lt, gt_iff_lt]
      omega
    have htake : (out ++ cs.drop p).take (out.length + (s.start - p)) =
        out ++ (cs.take s.start).drop p := by
      rw [List.take_append, List.take_of_length_le (by omega), Nat.add_sub_cancel_left,
        List.drop_take]
    have hdrop : (out ++ cs.drop p).drop (out.length + (s.stop - p)) = cs.drop s.stop := by
      rw [List.drop_append, List.drop_eq_nil_of_le (by omega), Nat.add_sub_cancel_left,
        List.drop_drop, Nat.add_sub_cancel' (by omega), List.nil_append]
    refine ⟨offset + UInt64.ofNat r.toList.length - (UInt64.ofNat s.stop - UInt64.ofNat s.start),
      removed + (s.stop - s.start), ?_, ⟨?_, ?_, by omega⟩⟩
    · simp only [spliceStep, hr, ha, hb, hA, hB]
      rw [if_neg hguard, htake, hdrop, hin]
      simp only [List.append_assoc]
    · simp only [List.length_append, hlead, hin, String.length_toList, hfirst]
      omega
    · -- the new offset, plus all that was taken out, is all that was put in
      rw [hfirst, ← String.length_toList, UInt64.ofNat_add, UInt64.ofNat_add,
        UInt64.ofNat_sub hs, ← hoff]
      grind

/-! ## The whole application -/

/-- Suggestions in order from the position the pass has reached all apply, and the buffer ends
as what the pass writes from there. -/
theorem foldl_spliceStep_rewrite (cs : List Char) :
    ∀ (l : List Suggestion) (p added removed : Nat) (out : List Char) (offset : UInt64),
      Rewriting p added removed out offset → Suggestion.Ordered p cs.length l →
      cs.length + added + (l.map Suggestion.firstLength).sum < 2 ^ 64 →
      ∃ offset', l.foldl spliceStep (some (out ++ cs.drop p, offset)) =
        some (out ++ Suggestion.rewrite cs p l, offset')
  | [], _, _, _, _, offset, _, _, _ => ⟨offset, rfl⟩
  | s :: rest, p, added, removed, out, offset, h, hord, hbound => by
    obtain ⟨hp, hs, hstop⟩ := hord.bounds s List.mem_cons_self
    rw [List.map_cons, List.sum_cons] at hbound
    obtain ⟨offset', removed', hstep, h'⟩ := spliceStep_rewrite h hp hs hstop (by omega)
    obtain ⟨offset'', hrest⟩ :=
      foldl_spliceStep_rewrite cs rest _ _ _ _ _ h' hord.tail (by omega)
    refine ⟨offset'', ?_⟩
    rw [List.foldl_cons, hstep, hrest, Suggestion.rewrite, List.append_assoc, List.append_assoc]

/-- Applying suggestions that lie within a text, each ending at or before the next one starts,
gives the text as one pass over it writes it: the text up to the first suggestion, then each
suggestion's first replacement (its own characters when it has none) followed by the text up to
the next one, and the text after the last. No splice falls outside the buffer on the way. The
text and the replacements fit below `2 ^ 64` characters, as every text in memory does. -/
theorem applySuggestions_eq_rewrite {text : String} {l : List Suggestion}
    (hspans : ∀ s ∈ l, s.start ≤ s.stop ∧ s.stop ≤ text.length)
    (hchain : l.IsChain fun a b => a.stop ≤ b.start)
    (hbound : text.length + (l.map Suggestion.firstLength).sum < 2 ^ 64) :
    applySuggestions text l = some (String.ofList (Suggestion.rewrite text.toList 0 l)) := by
  have hord : Suggestion.Ordered 0 text.toList.length l := by
    rw [String.length_toList]
    exact Suggestion.ordered_of_isChain hspans (fun _ _ => Nat.zero_le _) hchain
  obtain ⟨offset, hrun⟩ := foldl_spliceStep_rewrite text.toList l 0 0 0 [] 0
    ⟨rfl, by rfl, Nat.le_refl 0⟩ hord (by rw [String.length_toList]; omega)
  rw [applySuggestions_eq_foldl, List.nil_append, List.drop_zero] at *
  rw [hrun, List.nil_append, Option.map_some]

/-- A suggestion without replacement, two replacements of words by longer ones and an insertion
at the end, applied to one sentence. -/
theorem applySuggestions_eq_rewrite_sentence :
    let l : List Suggestion := [⟨"A", "", 0, 5, [], none⟩, ⟨"B", "", 9, 12, ["the"], none⟩,
      ⟨"C", "", 13, 16, ["kitten", "cub"], none⟩, ⟨"D", "", 17, 17, ["!"], none⟩]
    (∀ s ∈ l, s.start ≤ s.stop ∧ s.stop ≤ "Where is teh cat?".length) ∧
      (l.IsChain fun a b => a.stop ≤ b.start) ∧
      "Where is teh cat?".length + (l.map Suggestion.firstLength).sum < 2 ^ 64 ∧
      applySuggestions "Where is teh cat?" l =
        some (String.ofList (Suggestion.rewrite "Where is teh cat?".toList 0 l)) := by
  intro l
  have hspans : ∀ s ∈ l, s.start ≤ s.stop ∧ s.stop ≤ "Where is teh cat?".length := by decide
  have hchain : l.IsChain fun a b => a.stop ≤ b.start := by decide
  have hbound : "Where is teh cat?".length + (l.map Suggestion.firstLength).sum < 2 ^ 64 := by
    decide
  exact ⟨hspans, hchain, hbound, applySuggestions_eq_rewrite hspans hchain hbound⟩

example : applySuggestions "Where is teh cat?"
    [⟨"A", "", 0, 5, [], none⟩, ⟨"B", "", 9, 12, ["the"], none⟩,
      ⟨"C", "", 13, 16, ["kitten", "cub"], none⟩, ⟨"D", "", 17, 17, ["!"], none⟩] =
    some "Where is the kitten?!" := by decide +kernel

end Proofreader
