import Mathlib
import Proofreader.RuleSet

/-!
# Suggestions in order, and applying them

Suggestions are *in order* between two positions (`Suggestion.Ordered`) when each lies between
them and does not end before it starts, and each ends at or before every later one starts: they
are sorted by start and no two share a character.

Resolving overlaps keeps, by priority, the suggestions that overlap none kept before them and
sorts what it keeps by start and end; whatever it is given, as long as each suggestion lies
between two positions, its result is in order between them (`resolveOverlaps_ordered`).

Suggestions in order within a text can all be applied to it (`applySuggestions_isSome`): each
span, shifted by what the replacements before it added and removed, lies within the text as
corrected so far. The shift is kept as a 64-bit word, which stays exact as long as the text and
all the replacements fit below `2 ^ 64` characters.
-/

namespace Proofreader

namespace Suggestion

/-- Suggestions in order between `lo` and `hi`: each lies between the two and does not end
before it starts, and each ends at or before every later one starts. -/
structure Ordered (lo hi : Nat) (l : List Suggestion) : Prop where
  bounds : ∀ s ∈ l, lo ≤ s.start ∧ s.start ≤ s.stop ∧ s.stop ≤ hi
  ordered : l.Pairwise fun a b => a.stop ≤ b.start

namespace Ordered

variable {lo mid hi : Nat} {l l' : List Suggestion}

theorem nil : Ordered lo hi [] := ⟨fun _ hs => (List.not_mem_nil hs).elim, List.Pairwise.nil⟩

/-- Suggestions in order up to `mid`, followed by suggestions in order from `mid`. -/
theorem append (h : Ordered lo mid l) (h' : Ordered mid hi l') (hlo : lo ≤ mid)
    (hhi : mid ≤ hi) : Ordered lo hi (l ++ l') := by
  refine ⟨fun s hs => ?_, ?_⟩
  · rcases List.mem_append.1 hs with hs | hs
    · obtain ⟨h1, h2, h3⟩ := h.bounds s hs
      exact ⟨h1, h2, by omega⟩
    · obtain ⟨h1, h2, h3⟩ := h'.bounds s hs
      exact ⟨by omega, h2, h3⟩
  · -- a suggestion of the first part ends by `mid`, where those of the second start at the
    -- earliest
    refine List.pairwise_append.2 ⟨h.ordered, h'.ordered, fun a ha b hb => ?_⟩
    have := (h.bounds a ha).2.2
    have := (h'.bounds b hb).1
    omega

/-- After the first suggestion, the rest are in order from where it ends. -/
theorem tail {s : Suggestion} (h : Ordered lo hi (s :: l)) : Ordered s.stop hi l := by
  refine ⟨fun b hb => ?_, (List.pairwise_cons.1 h.ordered).2⟩
  obtain ⟨-, h2, h3⟩ := h.bounds b (List.mem_cons_of_mem s hb)
  exact ⟨(List.pairwise_cons.1 h.ordered).1 b hb, h2, h3⟩

end Ordered

end Suggestion

/-! ## Resolving overlaps -/

section ResolveOverlaps

open Suggestion

/-- Keeping, one after another, the suggestions that overlap none kept so far keeps kept
suggestions apart, and keeps only suggestions it was given. -/
theorem keep_foldl (l : List (Nat × Suggestion)) :
    ∀ kept : List Suggestion, kept.Pairwise (fun a b => a.overlaps b = false) →
      let r := l.foldl (fun kept (_, s) =>
        if kept.all (!·.overlaps s) then kept ++ [s] else kept) kept
      r.Pairwise (fun a b => a.overlaps b = false) ∧ ∀ s ∈ r, s ∈ kept ∨ ∃ i, (i, s) ∈ l := by
  induction l with
  | nil =>
    intro kept h
    exact ⟨h, fun s hs => Or.inl hs⟩
  | cons p rest ih =>
    intro kept h
    obtain ⟨i, s⟩ := p
    rw [List.foldl_cons]
    dsimp only
    by_cases hall : (kept.all fun x => !x.overlaps s) = true
    · -- `s` overlaps nothing kept: keeping it keeps the kept suggestions apart
      rw [if_pos hall]
      have hnew : (kept ++ [s]).Pairwise (fun a b => a.overlaps b = false) := by
        refine List.pairwise_append.2 ⟨h, List.pairwise_singleton _ _, fun a ha b hb => ?_⟩
        rw [List.mem_singleton] at hb
        subst hb
        simpa using List.all_eq_true.1 hall a ha
      obtain ⟨hp, hmem⟩ := ih (kept ++ [s]) hnew
      refine ⟨hp, fun x hx => ?_⟩
      rcases hmem x hx with hx | ⟨j, hj⟩
      · rcases List.mem_append.1 hx with hx | hx
        · exact Or.inl hx
        · rw [List.mem_singleton] at hx
          exact Or.inr ⟨i, hx ▸ List.mem_cons_self⟩
      · exact Or.inr ⟨j, List.mem_cons_of_mem _ hj⟩
    · rw [if_neg hall]
      obtain ⟨hp, hmem⟩ := ih kept h
      refine ⟨hp, fun x hx => ?_⟩
      rcases hmem x hx with hx | ⟨j, hj⟩
      · exact Or.inl hx
      · exact Or.inr ⟨j, List.mem_cons_of_mem _ hj⟩

/-- The order the kept suggestions are sorted in: by start, then by end. -/
theorem le_total_trans :
    (∀ a b c : Suggestion,
      (a.start < b.start || (a.start = b.start && a.stop ≤ b.stop)) = true →
      (b.start < c.start || (b.start = c.start && b.stop ≤ c.stop)) = true →
      (a.start < c.start || (a.start = c.start && a.stop ≤ c.stop)) = true) ∧
    (∀ a b : Suggestion,
      ((a.start < b.start || (a.start = b.start && a.stop ≤ b.stop)) ||
        (b.start < a.start || (b.start = a.start && b.stop ≤ a.stop))) = true) := by
  refine ⟨fun a b c hab hbc => ?_, fun a b => ?_⟩
  · simp only [Bool.or_eq_true, decide_eq_true_eq, Bool.and_eq_true] at hab hbc ⊢
    omega
  · simp only [Bool.or_eq_true, decide_eq_true_eq, Bool.and_eq_true]
    omega

/-- Two suggestions sorted by start and then end that do not overlap: the first ends at or
before the second starts. -/
theorem stop_le_start_of_sorted {a b : Suggestion} (hb : b.start ≤ b.stop)
    (hle : (a.start < b.start || (a.start = b.start && a.stop ≤ b.stop)) = true)
    (hapart : a.overlaps b = false) : a.stop ≤ b.start := by
  simp only [Bool.or_eq_true, decide_eq_true_eq, Bool.and_eq_true] at hle
  simp only [overlaps, Bool.and_eq_false_iff, decide_eq_false_iff_not, Nat.not_lt] at hapart
  omega

/-- Resolving overlaps keeps only suggestions it was given. -/
theorem mem_resolveOverlaps {found : List (Nat × Suggestion)} {s : Suggestion}
    (hs : s ∈ resolveOverlaps found) : ∃ i, (i, s) ∈ found := by
  unfold resolveOverlaps at hs
  rw [(List.mergeSort_perm _ _).mem_iff] at hs
  rcases (keep_foldl _ [] List.Pairwise.nil).2 s hs with hs | ⟨i, hi⟩
  · cases hs
  · exact ⟨i, (List.mergeSort_perm _ _).mem_iff.1 hi⟩

/-- Suggestions that lie between `lo` and `hi` and overlap pairwise nowhere, sorted by start and
then end, are in order. -/
theorem ordered_mergeSort {kept : List Suggestion} {lo hi : Nat}
    (hbounds : ∀ s ∈ kept, lo ≤ s.start ∧ s.start ≤ s.stop ∧ s.stop ≤ hi)
    (hapart : kept.Pairwise fun a b => a.overlaps b = false) :
    Ordered lo hi (kept.mergeSort fun a b =>
      a.start < b.start || (a.start = b.start && a.stop ≤ b.stop)) := by
  have hperm := List.mergeSort_perm kept fun a b =>
    a.start < b.start || (a.start = b.start && a.stop ≤ b.stop)
  have hbounds' : ∀ s ∈ kept.mergeSort (fun a b =>
      a.start < b.start || (a.start = b.start && a.stop ≤ b.stop)),
      lo ≤ s.start ∧ s.start ≤ s.stop ∧ s.stop ≤ hi :=
    fun s hs => hbounds s (hperm.mem_iff.1 hs)
  refine ⟨hbounds', ?_⟩
  -- sorting puts them in order and, being a permutation, keeps them apart
  have hsorted := List.pairwise_mergeSort le_total_trans.1 le_total_trans.2 kept
  have hapart' := (hperm.pairwise_iff
    (fun {a b} (hab : a.overlaps b = false) => (overlaps_comm b a).trans hab)).2 hapart
  exact (hsorted.and hapart').imp_of_mem fun {a b} _ hb hab =>
    stop_le_start_of_sorted (hbounds' b hb).2.1 hab.1 hab.2

/-- Whatever suggestions it is given, each between `lo` and `hi` and not ending before it
starts, resolving overlaps returns suggestions in order between `lo` and `hi`. -/
theorem resolveOverlaps_ordered {found : List (Nat × Suggestion)} {lo hi : Nat}
    (h : ∀ p ∈ found, lo ≤ p.2.start ∧ p.2.start ≤ p.2.stop ∧ p.2.stop ≤ hi) :
    Ordered lo hi (resolveOverlaps found) := by
  unfold resolveOverlaps
  dsimp only
  refine ordered_mergeSort (fun s hs => ?_) (keep_foldl _ [] List.Pairwise.nil).1
  -- a kept suggestion is one of those given
  rcases (keep_foldl _ [] List.Pairwise.nil).2 s hs with hs | ⟨i, hi⟩
  · cases hs
  · exact h (i, s) ((List.mergeSort_perm _ _).mem_iff.1 hi)

end ResolveOverlaps

/-! ## Applying suggestions -/

namespace Suggestion

/-- The length of the first replacement, which applying the suggestion puts in; none when it
has no replacement. -/
def firstLength (s : Suggestion) : Nat := (s.replacements.head?.map String.length).getD 0

end Suggestion

/-- One suggestion applied to the characters so far, its span shifted by the offset so far: the
step `applySuggestions` folds with. -/
def spliceStep (acc : Option (List Char × UInt64)) (s : Suggestion) : Option (List Char × UInt64) :=
  match acc with
  | none => none
  | some (chars, offset) =>
    match s.replacements with
    | [] => some (chars, offset)
    | r :: _ =>
      let start := UInt64.ofNat s.start
      let stop := UInt64.ofNat s.stop
      let a := (start + offset).toNat
      let b := (stop + offset).toNat
      if b < a || b > chars.length then none
      else
        let rep := r.toList
        some (chars.take a ++ rep ++ chars.drop b,
          offset + UInt64.ofNat rep.length - (stop - start))

theorem applySuggestions_eq_foldl (text : String) (l : List Suggestion) :
    applySuggestions text l =
      (l.foldl spliceStep (some (text.toList, 0))).map fun (cs, _) => String.ofList cs := rfl

/-- What is true of the characters while suggestions are applied to a text: they are the text
with `added` characters put in and `removed` taken out, the offset is their difference as a
64-bit word, and what was taken out lies before position `p`. -/
def Spliced (text : String) (p added removed : Nat) (chars : List Char) (offset : UInt64) :
    Prop :=
  chars.length + removed = text.length + added ∧
    offset + UInt64.ofNat removed = UInt64.ofNat added ∧ removed ≤ p

/-- Shifting a position past what was taken out by the offset, below `2 ^ 64`. -/
theorem shift_toNat {added removed x : Nat} {offset : UInt64}
    (hoff : offset + UInt64.ofNat removed = UInt64.ofNat added) (hx : removed ≤ x)
    (hbound : x + added < 2 ^ 64) :
    (UInt64.ofNat x + offset).toNat = x - removed + added := by
  have hx' : UInt64.ofNat x = UInt64.ofNat (x - removed) + UInt64.ofNat removed := by
    rw [← UInt64.ofNat_add, Nat.sub_add_cancel hx]
  have hsum : UInt64.ofNat x + offset = UInt64.ofNat (x - removed + added) := by
    rw [UInt64.ofNat_add, hx', ← hoff]
    grind
  rw [hsum, UInt64.toNat_ofNat_of_lt' (by change _ < 18446744073709551616; omega)]

/-- One suggestion in order applies, and the characters stay spliced. -/
theorem spliceStep_spliced {text : String} {p added removed : Nat} {chars : List Char}
    {offset : UInt64} (h : Spliced text p added removed chars offset) {s : Suggestion}
    (hp : p ≤ s.start) (hs : s.start ≤ s.stop) (hstop : s.stop ≤ text.length)
    (hbound : text.length + added + s.firstLength < 2 ^ 64) :
    ∃ chars' offset' removed', spliceStep (some (chars, offset)) s = some (chars', offset') ∧
      Spliced text s.stop (added + s.firstLength) removed' chars' offset' := by
  obtain ⟨hlen, hoff, hrem⟩ := h
  cases hr : s.replacements with
  | nil =>
    -- no replacement: nothing changes, and the suggestion is passed over
    have hzero : s.firstLength = 0 := by simp only [Suggestion.firstLength, hr, List.head?_nil,
      Option.map_none, Option.getD_none]
    refine ⟨chars, offset, removed, by simp only [spliceStep, hr], ?_⟩
    rw [hzero, Nat.add_zero]
    exact ⟨hlen, hoff, by omega⟩
  | cons r rest =>
    have hfirst : s.firstLength = r.length := by
      simp only [Suggestion.firstLength, hr, List.head?_cons, Option.map_some, Option.getD_some]
    rw [hfirst] at hbound
    -- the shifted span is the span moved by what was put in and taken out before it
    have ha := shift_toNat hoff (by omega : removed ≤ s.start) (by omega)
    have hb := shift_toNat hoff (by omega : removed ≤ s.stop) (by omega)
    have hguard : ¬((s.stop - removed + added < s.start - removed + added ||
        decide (s.stop - removed + added > chars.length)) = true) := by
      simp only [Bool.or_eq_true, decide_eq_true_eq, not_or, Nat.not_lt, gt_iff_lt]
      omega
    refine ⟨chars.take (s.start - removed + added) ++ r.toList ++
      chars.drop (s.stop - removed + added),
      offset + UInt64.ofNat r.toList.length - (UInt64.ofNat s.stop - UInt64.ofNat s.start),
      removed + (s.stop - s.start), ?_, ?_⟩
    · simp only [spliceStep, hr, ha, hb, if_neg hguard]
    · refine ⟨?_, ?_, by omega⟩
      · simp only [List.length_append, List.length_take, List.length_drop, String.length_toList]
        rw [hfirst]
        omega
      · -- the new offset, plus all that was taken out, is all that was put in
        rw [hfirst, ← String.length_toList, UInt64.ofNat_add, UInt64.ofNat_add,
          UInt64.ofNat_sub hs, ← hoff]
        grind

/-- Suggestions in order from where the last applied one ends all apply. -/
theorem foldl_spliceStep_isSome (text : String) :
    ∀ (l : List Suggestion) (p added removed : Nat) (chars : List Char) (offset : UInt64),
      Spliced text p added removed chars offset → Suggestion.Ordered p text.length l →
      text.length + added + (l.map Suggestion.firstLength).sum < 2 ^ 64 →
      (l.foldl spliceStep (some (chars, offset))).isSome
  | [], _, _, _, _, _, _, _, _ => rfl
  | s :: rest, p, added, removed, chars, offset, h, hord, hbound => by
    obtain ⟨hp, hs, hstop⟩ := hord.bounds s List.mem_cons_self
    rw [List.map_cons, List.sum_cons] at hbound
    rw [List.foldl_cons]
    obtain ⟨chars', offset', removed', hstep, h'⟩ := spliceStep_spliced h hp hs hstop (by omega)
    rw [hstep]
    exact foldl_spliceStep_isSome text rest _ _ _ _ _ h' hord.tail (by omega)

/-- Suggestions in order within a text all apply to it, when the text and the replacements
together stay below `2 ^ 64` characters. -/
theorem applySuggestions_isSome {text : String} {l : List Suggestion}
    (h : Suggestion.Ordered 0 text.length l)
    (hbound : text.length + (l.map Suggestion.firstLength).sum < 2 ^ 64) :
    (applySuggestions text l).isSome := by
  rw [applySuggestions_eq_foldl, Option.isSome_map]
  exact foldl_spliceStep_isSome text l 0 0 0 text.toList 0
    ⟨by rw [String.length_toList], by rfl, Nat.le_refl 0⟩ h (by omega)

end Proofreader
