import Mathlib
import Proofreader.Proofs.MarkedSpan

/-!
# The token that decides the capital

A synthesizer with title-casing on starts its texts with a capital when the text it replaces
does: it looks at the first token of the first group, from the first group of the reported span
on, that holds a token (`Synthesizer.titleToken`). The rule finds the reported span on its own,
from the marked parts that took tokens (`Rule.markedSpan`). The two searches agree on every
match of the rule's engine (`Rule.capital_follows_reported_span`): the token the synthesizer
looks at is the first token of the reported span, whether a marked part took tokens or the
whole match is reported, and whatever marked parts took nothing.

They agree because a match lays its groups one after another (`Composition.firstMatch_laid`):
the groups from any part on start with empty ones at one position, and the first that holds a
token holds the token there (`findSome_slots`).
-/

namespace Proofreader

namespace Synthesizer

/-- Whether the synthesizer opens with a reference that changes case. -/
def startsWithConversion (s : Synthesizer) : Bool :=
  match s.parts with
  | .ref r :: _ => r.conversion != .keep
  | _ => false

/-- The token whose case decides the capital: the first token of the first group, from group
`firstGroup` on and at least group 1, that holds a token. -/
def titleToken (graph : MatchGraph) (firstGroup : Nat) : Option Token :=
  (graph.groups.toList.drop (min (max firstGroup 1) graph.groups.size)).findSome? fun (a, b) =>
    (graph.tokens.extract a b)[0]?

theorem capitalizes_eq (s : Synthesizer) (graph : MatchGraph) (firstGroup : Nat) :
    s.capitalizes graph firstGroup = (s.titlecase && !s.startsWithConversion &&
      ((titleToken graph firstGroup).map fun t => startsUppercase t.text).getD false) := rfl

end Synthesizer

/-! ## Groups laid one after another -/

/-- The first token of a range of tokens is the one at its start, if the range is not empty. -/
theorem extract_getElem?_zero (tokens : Array Token) (a b : Nat) :
    (tokens.extract a b)[0]? = if a < b then tokens[a]? else none := by
  rw [Array.getElem?_extract, Nat.add_zero]
  by_cases hab : a < b
  · rw [if_pos hab]
    by_cases ha : a < tokens.size
    · rw [if_pos (by omega)]
    · rw [if_neg (by omega), Array.getElem?_eq_none (by omega)]
  · rw [if_neg hab, if_neg (by omega)]

/-- The slots laid after the first `k` start where those `k` end. -/
theorem drop_slots : ∀ (p : Nat) (cs : List Nat) (k : Nat),
    (slots p cs).drop k = slots (p + (cs.take k).sum) (cs.drop k)
  | p, [], k => by simp [slots]
  | p, x :: cs, 0 => by simp
  | p, x :: cs, k + 1 => by
    rw [slots, List.drop_succ_cons, drop_slots (p + x) cs k, List.take_succ_cons,
      List.drop_succ_cons, List.sum_cons, Nat.add_assoc]

/-- Among slots laid one after another from `p`, the first that holds a token holds the one at
`p`: every slot before it is empty at `p`. -/
theorem findSome_slots (tokens : Array Token) :
    ∀ (p : Nat) (cs : List Nat), (slots p cs).findSome? (fun s => (tokens.extract s.1 s.2)[0]?) =
      if 0 < cs.sum then tokens[p]? else none
  | p, [] => by simp [slots]
  | p, x :: cs => by
    rw [slots, List.findSome?_cons, extract_getElem?_zero, List.sum_cons]
    dsimp only
    by_cases hx : 0 < x
    · rw [if_pos (by omega), if_pos (by omega)]
      cases hp : tokens[p]? with
      | some t => rfl
      | none =>
        -- past the last token every later slot is past it too
        have hsize : tokens.size ≤ p := by simpa using hp
        have hrest : tokens[p + x]? = none := Array.getElem?_eq_none (by omega)
        simp [findSome_slots tokens (p + x) cs, hrest]
    · rw [if_neg (by omega), Nat.eq_zero_of_not_pos hx, Nat.add_zero, Nat.zero_add]
      exact findSome_slots tokens p cs

/-- In a match laid out as the whole match and one slot per part, the synthesizer looks, from
group `k` on, at the token where the slot of part `k - 1` starts, if that slot or a later one
holds a token. -/
theorem titleToken_laid (tokens : Array Token) (start : Nat) (cs : List Nat) {k : Nat}
    (hk : 1 ≤ k) (hlen : k ≤ cs.length) :
    Synthesizer.titleToken ⟨((start, start + cs.sum) :: slots start cs).toArray, tokens⟩ k =
      if 0 < (cs.drop (k - 1)).sum then tokens[start + (cs.take (k - 1)).sum]? else none := by
  have hfrom : min (max k 1) (cs.length + 1) = (k - 1) + 1 := by omega
  simp only [Synthesizer.titleToken, List.size_toArray, List.length_cons, slots_length, hfrom,
    List.drop_succ_cons, drop_slots]
  exact findSome_slots tokens _ _

/-! ## The first group of the reported span -/

namespace Rule

variable {r : Rule} {g : MatchGraph}

/-- The parts the reported span is read off start with the least marked part that took a token. -/
theorem filter_tookMarked_eq_cons {k₁ : Nat} (h₁ : IsLeast {k | r.MarkedTook g k} k₁) :
    ∃ rest,
      (List.range r.engine.composition.parts.size).filter (r.tookMarked g) = k₁ :: rest := by
  have hsorted : ((List.range r.engine.composition.parts.size).filter (r.tookMarked g)).Pairwise
      (· < ·) := List.pairwise_lt_range.filter _
  have hiff : ∀ k, k ∈ (List.range r.engine.composition.parts.size).filter (r.tookMarked g) ↔
      r.MarkedTook g k := fun k => mem_filter_tookMarked
  generalize (List.range r.engine.composition.parts.size).filter (r.tookMarked g) = F
    at hsorted hiff
  cases F with
  | nil => exact absurd ((hiff k₁).2 h₁.1) List.not_mem_nil
  | cons f rest =>
    -- the filtered parts increase, so their head is the least
    have hle := (head_le_of_pairwise_lt hsorted ((hiff k₁).2 h₁.1)).1
    have hge := h₁.2 ((hiff f).1 List.mem_cons_self)
    exact ⟨rest, by rw [Nat.le_antisymm hle hge]⟩

/-- When some marked part took a token, the reported span starts with the group of the least
such part, where that group starts. -/
theorem markedSpan_of_least_fst {k₁ : Nat} (h₁ : IsLeast {k | r.MarkedTook g k} k₁) :
    (r.markedSpan g).1 = k₁ + 1 ∧
      (r.markedSpan g).2.1 = ((g.group? (k₁ + 1)).map (·.1)).getD 0 := by
  obtain ⟨rest, hF⟩ := filter_tookMarked_eq_cons h₁
  rw [markedSpan_eq, hF]
  exact ⟨rfl, rfl⟩

/-- When no marked part took a token, the reported span starts with group 1. -/
theorem markedSpan_of_none_fst (h : ∀ k, ¬r.MarkedTook g k) : (r.markedSpan g).1 = 1 := by
  have hnil : (List.range r.engine.composition.parts.size).filter (r.tookMarked g) = [] :=
    List.eq_nil_iff_forall_not_mem.2 fun k hk => h k (mem_filter_tookMarked.1 hk)
  rw [markedSpan_eq, hnil]
  rfl

/-- On every match of a rule's engine, over any tokens, the token a synthesizer looks at for
the capital is the first token of the span the rule reports, whether some marked part took
tokens or the whole match is reported. So the synthesizer capitalizes exactly when its
title-casing is on, it does not open with a reference that changes case, and the first token
of the reported span starts with an uppercase letter. -/
theorem capital_follows_reported_span {tokens : Array Token} {findAll : Bool} {b : StepBudget}
    {gs : List MatchGraph} (h : (r.engine.findMatches tokens findAll b).1 = .done gs)
    (hg : g ∈ gs) (s : Synthesizer) :
    Synthesizer.titleToken g (r.markedSpan g).1 = tokens[(r.markedSpan g).2.1]? ∧
      (s.capitalizes g (r.markedSpan g).1 = true ↔
        s.titlecase = true ∧ s.startsWithConversion = false ∧
          ∃ tok, tokens[(r.markedSpan g).2.1]? = some tok ∧
            Synthesizer.startsUppercase tok.text = true) := by
  have htitle : Synthesizer.titleToken g (r.markedSpan g).1 = tokens[(r.markedSpan g).2.1]? := by
    classical
    obtain ⟨start, cs, hlen, hsum, hgeq⟩ := Engine.findMatches_laid h g hg
    by_cases hsome : ∃ k, r.MarkedTook g k
    · -- the span starts at the group of the least marked part that took a token
      obtain ⟨k₁, hk₁⟩ : ∃ k₁, IsLeast {k | r.MarkedTook g k} k₁ :=
        ⟨Nat.find hsome, Nat.find_spec hsome, fun k hk => Nat.find_min' hsome hk⟩
      obtain ⟨hfst, hstart⟩ := markedSpan_of_least_fst hk₁
      obtain ⟨hk, -, x, y, hxy, hlt⟩ := hk₁.1
      rw [hfst, hstart]
      subst hgeq
      rw [titleToken_laid tokens start cs (by omega) (by omega), Nat.add_sub_cancel]
      rw [Composition.group?_laid, if_neg (Nat.succ_ne_zero _), Nat.add_sub_cancel,
        ← List.head?_drop, drop_slots] at hxy ⊢
      cases hd : cs.drop k₁ with
      | nil => simp [hd, slots] at hxy
      | cons c rest =>
        rw [hd, slots, List.head?_cons, Option.some.injEq, Prod.mk.injEq] at hxy
        -- the slot of that part holds a token, so the slots from it on hold one
        rw [if_pos (by rw [List.sum_cons]; omega), slots]
        rfl
    · -- the whole match is reported, and the slots from the first one on hold its tokens
      have hnone : ∀ k, ¬r.MarkedTook g k := fun k hk => hsome ⟨k, hk⟩
      rw [markedSpan_of_none_fst hnone, markedSpan_of_none hnone]
      subst hgeq
      have hne : 1 ≤ cs.length := by
        cases cs with
        | nil => simp at hsum
        | cons c rest => simp
      rw [titleToken_laid tokens start cs (Nat.le_refl 1) hne, Nat.sub_self, List.drop_zero,
        List.take_zero, List.sum_nil, Nat.add_zero, if_pos hsum]
      rfl
  refine ⟨htitle, ?_⟩
  rw [Synthesizer.capitalizes_eq, htitle]
  cases tokens[(r.markedSpan g).2.1]? with
  | none => simp
  | some tok => simp [and_assoc]

/-- A plain token, a marked token and an optional marked token over `x Y`: the optional part
takes nothing, and the synthesizer looks at `Y`, where the reported span starts. -/
theorem capital_follows_reported_span_of_optional_mark :
    let r : Rule :=
      { id := ⟨⟨"T"⟩, "R"⟩,
        engine := ⟨⟨#[{ atom := .always }, { atom := .always, marker := true },
          { atom := .always, quantifier := ⟨0, 1⟩, marker := true }]⟩, []⟩,
        message := ⟨false, []⟩, suggesters := [] }
    let tokens : Array Token := #[⟨"x", 0, 1, [], false, false, false, false, false⟩,
      ⟨"Y", 1, 2, [], false, false, false, false, false⟩]
    let g : MatchGraph := ⟨#[(0, 2), (0, 1), (1, 2), (2, 2)], tokens⟩
    let s : Synthesizer := ⟨true, [.text "z"]⟩
    (r.engine.findMatches tokens false (.fresh 100)).1 = .done [g] ∧ g ∈ [g] ∧
      Synthesizer.titleToken g (r.markedSpan g).1 = tokens[(r.markedSpan g).2.1]? ∧
      (s.capitalizes g (r.markedSpan g).1 = true ↔
        s.titlecase = true ∧ s.startsWithConversion = false ∧
          ∃ tok, tokens[(r.markedSpan g).2.1]? = some tok ∧
            Synthesizer.startsUppercase tok.text = true) := by
  intro r tokens g s
  have h : (r.engine.findMatches tokens false (.fresh 100)).1 = .done [g] := by decide +kernel
  exact ⟨h, List.mem_singleton_self g,
    capital_follows_reported_span h (List.mem_singleton_self g) s⟩

end Rule

end Proofreader
