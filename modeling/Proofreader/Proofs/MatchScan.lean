import Mathlib
import Proofreader.Proofs.GreatestFit

/-!
# The matches an engine keeps

An engine scans the start positions of a token sequence from left to right. At each one it
matches its pattern; a match that overlaps a span matched by one of its antipatterns is dropped
and the scan goes on at the next position, and a match it keeps either ends the scan (the
leftmost match) or the scan resumes where that match ends (all matches). A match always takes a
token (`Composition.firstMatch_span`), so the scan always moves on.

`Engine.Kept` says which matches a scan from a position keeps without running it: each is the
first match at its start, none overlaps a blocked span, each ends before the next one starts,
and every start position outside them has no match or a blocked one. The main result,
`Engine.findAll_keeps_unblocked`, is that whatever the budget, the matches the engine returns
when it looks for all of them are kept in this sense against the spans its antipatterns match at
any position (`Engine.Blocked`), and that the leftmost match alone is the first of them.
-/

namespace Proofreader

/-! ## Where a match lies -/

namespace Composition

variable {c : Composition} {tokens : Array Token}

/-- Trying the counts of a part from `cnt` down keeps the number of groups and completes a match,
if it does, no earlier than the part's start, provided the parts after it do the same from
wherever they start. -/
theorem tryCounts_bounded {child : MatchGraph → Nat → Probe} {k p least : Nat}
    (hchild : ∀ g q, (∀ s, (child g q).stop = some s → q ≤ s) ∧
      (child g q).graph.groups.size = g.groups.size) :
    ∀ cnt g, (∀ s, (tryCounts child k p least cnt g).stop = some s → p ≤ s) ∧
      (tryCounts child k p least cnt g).graph.groups.size = g.groups.size := by
  intro cnt
  induction cnt with
  | zero =>
    intro g
    obtain ⟨hstop, hsize⟩ := hchild g p
    cases hR : (child g p).stop with
    | some stop =>
      rw [tryCounts.eq_1 _ _ _ _ _ _ _ hR]
      exact ⟨hstop, hsize⟩
    | none =>
      rw [tryCounts.eq_3 _ _ _ _ _ hR]
      refine ⟨fun s hs => ?_, by simp only [setGroup_size]; exact hsize⟩
      simp only [Nat.add_zero, hR] at hs
      cases hs
  | succ cnt ih =>
    intro g
    obtain ⟨hstop, hsize⟩ := hchild g (p + (cnt + 1))
    cases hR : (child g (p + (cnt + 1))).stop with
    | some stop =>
      rw [tryCounts.eq_1 _ _ _ _ _ _ _ hR]
      exact ⟨fun s hs => by have := hstop s hs; omega, hsize⟩
    | none =>
      rw [tryCounts.eq_2 _ _ _ _ _ _ hR]
      split
      · obtain ⟨hstop', hsize'⟩ := ih (setGroup (child g (p + (cnt + 1))).graph (k + 1) (p, p + cnt))
        exact ⟨hstop', by simp [hsize', hsize]⟩
      · refine ⟨fun s hs => ?_, by simp only [setGroup_size]; exact hsize⟩
        simp only [hR] at hs
        cases hs

/-- The recursive search keeps the number of groups and completes a match, if it does, no
earlier than where it starts. -/
theorem explore_bounded (d : Nat) :
    ∀ g p, (∀ s, (c.explore tokens d g p).stop = some s → p ≤ s) ∧
      (c.explore tokens d g p).graph.groups.size = g.groups.size := by
  induction d with
  | zero =>
    intro g p
    refine ⟨fun s hs => ?_, rfl⟩
    simp only [explore, Option.some.injEq] at hs
    omega
  | succ d ih =>
    intro g p
    dsimp only [explore]
    split
    · obtain ⟨hstop, hsize⟩ := @tryCounts_bounded (c.explore tokens d) (c.parts.size - (d + 1)) p
        (c.part (c.parts.size - (d + 1))).quantifier.min ih
        ((c.part (c.parts.size - (d + 1))).greedy tokens g p 0).1
        (setGroup g (c.parts.size - (d + 1) + 1)
          (p, p + ((c.part (c.parts.size - (d + 1))).greedy tokens g p 0).1))
      exact ⟨hstop, by simp only [Probe.after_graph, hsize, setGroup_size]⟩
    · refine ⟨fun s hs => ?_, rfl⟩
      cases hs

/-- The first match at `start`, when there is one, spans from `start` and takes a token. -/
theorem firstMatch_span {start : Nat} {g : MatchGraph} (h : c.firstMatch tokens start = some g) :
    g.span.1 = start ∧ start < g.span.2 := by
  obtain ⟨hstop, hsize⟩ := @explore_bounded c tokens c.parts.size
    (c.initialGraph tokens start) start
  simp only [firstMatch] at h
  cases hP : (c.explore tokens c.parts.size (c.initialGraph tokens start) start).stop with
  | none =>
    rw [hP] at h
    cases h
  | some stop =>
    rw [hP] at h
    have hle := hstop stop hP
    simp only [completed] at h
    split at h
    · cases h
    · rename_i hne
      cases h
      -- group 0 exists, so setting it to the match's span is what `span` reads back
      have hpos : 0 < (c.explore tokens c.parts.size (c.initialGraph tokens start) start).graph.groups.size := by
        rw [hsize]
        simp [initialGraph]
      rw [MatchGraph.span, group?_setGroup, if_pos ⟨rfl, hpos⟩, Option.getD_some]
      exact ⟨rfl, by omega⟩

end Composition

/-! ## The spans the antipatterns block -/

namespace Engine

variable {e : Engine} {tokens : Array Token}

/-- A span that one of the engine's antipatterns matches at some start position. -/
def Blocked (e : Engine) (tokens : Array Token) (s : Nat × Nat) : Prop :=
  ∃ a ∈ e.antipatterns, ∃ j g, j < tokens.size ∧ a.firstMatch tokens j = some g ∧ g.span = s

/-- Scanning one antipattern from `i` adds to `acc` the spans of its matches at the positions
from `i` on, whatever the budget. -/
theorem antipatternSpans_mem (a : Composition) (i : Nat) (acc : List (Nat × Nat))
    (b : StepBudget) {r : List (Nat × Nat)} (h : (antipatternSpans a tokens i acc b).1 = .done r)
    (s : Nat × Nat) :
    s ∈ r ↔ s ∈ acc ∨ ∃ j g, i ≤ j ∧ j < tokens.size ∧ a.firstMatch tokens j = some g ∧
      g.span = s := by
  fun_induction antipatternSpans a tokens i acc b with
  | case1 i acc b hi b' happly => cases h
  | case2 i acc b hi b' happly ih =>
    have hnone : a.firstMatch tokens i = none :=
      (Composition.apply_done (by rw [happly])).symm
    rw [ih h]
    constructor
    · rintro (hs | ⟨j, g, hj, hjs, hm, rfl⟩)
      · exact .inl hs
      · exact .inr ⟨j, g, by omega, hjs, hm, rfl⟩
    · rintro (hs | ⟨j, g, hj, hjs, hm, rfl⟩)
      · exact .inl hs
      · -- no match at `i`, so a match found from `i` on starts after it
        rcases Nat.lt_or_eq_of_le hj with hj | rfl
        · exact .inr ⟨j, g, hj, hjs, hm, rfl⟩
        · rw [hnone] at hm
          cases hm
  | case3 i acc b hi g b' happly ih =>
    have hsome : a.firstMatch tokens i = some g :=
      (Composition.apply_done (by rw [happly])).symm
    rw [ih h, List.mem_cons]
    constructor
    · rintro ((rfl | hs) | ⟨j, g', hj, hjs, hm, rfl⟩)
      · exact .inr ⟨i, g, le_refl i, hi, hsome, rfl⟩
      · exact .inl hs
      · exact .inr ⟨j, g', by omega, hjs, hm, rfl⟩
    · rintro (hs | ⟨j, g', hj, hjs, hm, rfl⟩)
      · exact .inl (.inr hs)
      · rcases Nat.lt_or_eq_of_le hj with hj | rfl
        · exact .inr ⟨j, g', hj, hjs, hm, rfl⟩
        · rw [hsome] at hm
          cases hm
          exact .inl (.inl rfl)
  | case4 i acc b hi =>
    cases h
    constructor
    · exact .inl
    · rintro (hs | ⟨j, g, hj, hjs, -⟩)
      · exact hs
      · omega

/-- Scanning a list of antipatterns adds to `acc` the spans of all their matches. -/
theorem blockedSpans_mem :
    ∀ (as : List Composition) (acc : List (Nat × Nat)) (b : StepBudget) {r : List (Nat × Nat)},
      (blockedSpans tokens as acc b).1 = .done r → ∀ s, s ∈ r ↔ s ∈ acc ∨
        ∃ a ∈ as, ∃ j g, j < tokens.size ∧ a.firstMatch tokens j = some g ∧ g.span = s
  | [], acc, b, r, h, s => by
    rw [blockedSpans] at h
    cases h
    simp
  | a :: rest, acc, b, r, h, s => by
    rw [blockedSpans] at h
    obtain ⟨x, b', hx⟩ : ∃ x b', antipatternSpans a tokens 0 acc b = (x, b') := ⟨_, _, rfl⟩
    rw [hx] at h
    cases x with
    | exceeded => cases h
    | done acc' =>
      have hfirst := antipatternSpans_mem a 0 acc b (by rw [hx])
      rw [blockedSpans_mem rest acc' b' h s, hfirst s]
      simp only [List.mem_cons, exists_eq_or_imp, Nat.zero_le, true_and, or_assoc]

/-! ## Which matches a scan keeps -/

/-- The matches `gs` are those a left-to-right scan from position `i` keeps, with the spans `B`
blocked: each is the first match at its start, which lies at `i` or later, and overlaps no
blocked span; each ends before the next one starts; and at every start position from `i` that
none of them covers, there is no match or the match there overlaps a blocked span. -/
structure Kept (e : Engine) (tokens : Array Token) (B : Nat × Nat → Prop) (i : Nat)
    (gs : List MatchGraph) : Prop where
  found : ∀ g ∈ gs, i ≤ g.span.1 ∧ g.span.1 < tokens.size ∧
    e.composition.firstMatch tokens g.span.1 = some g
  free : ∀ g ∈ gs, ∀ s, B s → spansOverlap s g.span = false
  sorted : gs.Pairwise fun g g' => g.span.2 ≤ g'.span.1
  gaps : ∀ j g, i ≤ j → j < tokens.size → (∀ g' ∈ gs, j < g'.span.1 ∨ g'.span.2 ≤ j) →
    e.composition.firstMatch tokens j = some g → ∃ s, B s ∧ spansOverlap s g.span = true

namespace Kept

variable {B B' : Nat × Nat → Prop} {i : Nat} {gs : List MatchGraph}

/-- Past the last token nothing is kept. -/
theorem of_end (h : tokens.size ≤ i) : Kept e tokens B i [] where
  found _ hg := by cases hg
  free _ hg := by cases hg
  sorted := List.Pairwise.nil
  gaps j _ hj hjs := by omega

/-- A position whose match, if any, is blocked adds nothing to what is kept after it. -/
theorem skip
    (hblocked : ∀ g, e.composition.firstMatch tokens i = some g →
      ∃ s, B s ∧ spansOverlap s g.span = true)
    (h : Kept e tokens B (i + 1) gs) : Kept e tokens B i gs := by
  refine ⟨fun g hg => ?_, h.free, h.sorted, fun j g hj hjs hout hm => ?_⟩
  · obtain ⟨h1, h2, h3⟩ := h.found g hg
    exact ⟨by omega, h2, h3⟩
  · rcases Nat.lt_or_eq_of_le hj with hj | rfl
    · exact h.gaps j g hj hjs hout hm
    · exact hblocked g hm

/-- A match at `i` that overlaps no blocked span is kept, before what is kept from its end. -/
theorem cons {g : MatchGraph} (hi : i < tokens.size)
    (hm : e.composition.firstMatch tokens i = some g)
    (hfree : ∀ s, B s → spansOverlap s g.span = false)
    (h : Kept e tokens B g.span.2 gs) : Kept e tokens B i (g :: gs) := by
  obtain ⟨hstart, hpos⟩ := Composition.firstMatch_span hm
  refine ⟨fun g' hg' => ?_, fun g' hg' => ?_, ?_, fun j g' hj hjs hout hm' => ?_⟩
  · rcases List.mem_cons.1 hg' with rfl | hg'
    · exact ⟨by omega, by omega, by rw [hstart]; exact hm⟩
    · obtain ⟨h1, h2, h3⟩ := h.found g' hg'
      exact ⟨by omega, h2, h3⟩
  · rcases List.mem_cons.1 hg' with rfl | hg'
    · exact hfree
    · exact h.free g' hg'
  · exact List.Pairwise.cons (fun g' hg' => (h.found g' hg').1) h.sorted
  · -- a start left uncovered lies after `g`, since `g` covers its own start
    have hafter : g.span.2 ≤ j := by
      rcases hout g List.mem_cons_self with hlt | hle
      · omega
      · exact hle
    exact h.gaps j g' hafter hjs (fun g'' hg'' => hout g'' (List.mem_cons_of_mem g hg'')) hm'

/-- Keeping depends only on which spans are blocked. -/
theorem of_iff (h : Kept e tokens B i gs) (hB : ∀ s, B s ↔ B' s) : Kept e tokens B' i gs :=
  ⟨h.found, fun g hg s hs => h.free g hg s ((hB s).2 hs), h.sorted,
    fun j g hj hjs hout hm => by
      obtain ⟨s, hs, hov⟩ := h.gaps j g hj hjs hout hm
      exact ⟨s, (hB s).1 hs, hov⟩⟩

/-- Every kept match takes a token. -/
theorem nonempty (h : Kept e tokens B i gs) {g : MatchGraph} (hg : g ∈ gs) :
    g.span.1 < g.span.2 := by
  obtain ⟨-, -, hm⟩ := h.found g hg
  obtain ⟨-, hpos⟩ := Composition.firstMatch_span hm
  exact hpos

end Kept

/-! ## The scan -/

variable {findAll : Bool} {blocked : List (Nat × Nat)}

/-- One position of a scan that succeeds: it looks at the first match there and goes on as that
match says, on some budget. -/
theorem scan_succ_done {f i : Nat} {acc gs : List MatchGraph} {b : StepBudget}
    (h : (e.scan tokens findAll blocked (f + 1) i acc b).1 = .done gs) (hi : i < tokens.size) :
    ∃ b', match e.composition.firstMatch tokens i with
      | none => (e.scan tokens findAll blocked f (i + 1) acc b').1 = .done gs
      | some g =>
        if blocked.any (spansOverlap · g.span) then
          (e.scan tokens findAll blocked f (i + 1) acc b').1 = .done gs
        else if findAll then (e.scan tokens findAll blocked f g.span.2 (g :: acc) b').1 = .done gs
        else gs = (g :: acc).reverse := by
  rw [scan.eq_2, if_pos hi] at h
  obtain ⟨x, b', happly⟩ : ∃ x b', e.composition.apply tokens i b = (x, b') := ⟨_, _, rfl⟩
  rw [happly] at h
  cases x with
  | exceeded => cases h
  | done r =>
    have hr : r = e.composition.firstMatch tokens i := Composition.apply_done (by rw [happly])
    subst hr
    refine ⟨b', ?_⟩
    cases hm : e.composition.firstMatch tokens i with
    | none =>
      rw [hm] at h
      exact h
    | some g =>
      rw [hm] at h
      dsimp only at h ⊢
      split
      · rwa [if_pos ‹_›] at h
      · rw [if_neg ‹_›] at h
        cases findAll with
        | false =>
          simp only [Bool.not_false, if_true] at h
          cases h
          rfl
        | true => simpa using h

/-- A scan that succeeds ends with a match or runs past the tokens; with a budget that runs out
it does not succeed. The matches it returns are those it started with and first matches at
positions of the tokens. -/
theorem scan_found :
    ∀ (fuel i : Nat) (acc : List MatchGraph) (b : StepBudget) {gs : List MatchGraph},
      (e.scan tokens findAll blocked fuel i acc b).1 = .done gs →
      ∀ g ∈ gs, g ∈ acc ∨ ∃ j, j < tokens.size ∧ e.composition.firstMatch tokens j = some g
  | 0, i, acc, b, gs, h => by
    rw [scan.eq_1] at h
    cases h
    exact fun g hg => .inl (List.mem_reverse.1 hg)
  | f + 1, i, acc, b, gs, h => by
    by_cases hi : i < tokens.size
    · obtain ⟨b', hb'⟩ := scan_succ_done h hi
      cases hm : e.composition.firstMatch tokens i with
      | none =>
        rw [hm] at hb'
        exact scan_found f (i + 1) acc b' hb'
      | some g =>
        rw [hm] at hb'
        dsimp only at hb'
        -- the match at `i` joins the accumulated ones when it is kept
        have hcons : ∀ g' ∈ g :: acc, g' ∈ acc ∨
            ∃ j, j < tokens.size ∧ e.composition.firstMatch tokens j = some g' := by
          intro g' hg'
          rcases List.mem_cons.1 hg' with rfl | hg'
          · exact .inr ⟨i, hi, hm⟩
          · exact .inl hg'
        split at hb'
        · exact scan_found f (i + 1) acc b' hb'
        · split at hb'
          · intro g' hg'
            rcases scan_found f g.span.2 (g :: acc) b' hb' g' hg' with hg' | hj
            · exact hcons g' hg'
            · exact .inr hj
          · subst hb'
            exact fun g' hg' => hcons g' (List.mem_reverse.1 hg')
    · rw [scan.eq_2, if_neg hi] at h
      cases h
      exact fun g hg => .inl (List.mem_reverse.1 hg)

/-- A scan for all matches from `i` that succeeds, with enough positions' worth of fuel, returns
the matches it started with followed by those kept from `i`. -/
theorem scan_kept :
    ∀ (fuel i : Nat) (acc : List MatchGraph) (b : StepBudget) {gs : List MatchGraph},
      (e.scan tokens true blocked fuel i acc b).1 = .done gs → tokens.size ≤ i + fuel →
      ∃ new, gs = acc.reverse ++ new ∧ Kept e tokens (· ∈ blocked) i new
  | 0, i, acc, b, gs, h, hfuel => by
    rw [scan.eq_1] at h
    cases h
    exact ⟨[], by simp, Kept.of_end (by omega)⟩
  | f + 1, i, acc, b, gs, h, hfuel => by
    by_cases hi : i < tokens.size
    · obtain ⟨b', hb'⟩ := scan_succ_done h hi
      cases hm : e.composition.firstMatch tokens i with
      | none =>
        rw [hm] at hb'
        obtain ⟨new, rfl, hk⟩ := scan_kept f (i + 1) acc b' hb' (by omega)
        exact ⟨new, rfl, hk.skip fun g hg => by rw [hm] at hg; cases hg⟩
      | some g =>
        rw [hm] at hb'
        dsimp only at hb'
        split at hb'
        · rename_i hbl
          obtain ⟨new, rfl, hk⟩ := scan_kept f (i + 1) acc b' hb' (by omega)
          refine ⟨new, rfl, hk.skip fun g' hg' => ?_⟩
          rw [hm] at hg'
          cases hg'
          exact List.any_eq_true.1 hbl
        · rename_i hbl
          rw [if_pos rfl] at hb'
          obtain ⟨-, hpos⟩ := Composition.firstMatch_span hm
          obtain ⟨new, rfl, hk⟩ := scan_kept f g.span.2 (g :: acc) b' hb' (by omega)
          refine ⟨g :: new, by simp, hk.cons hi hm fun s hs => ?_⟩
          -- the match is kept because no blocked span overlaps it
          by_contra hov
          exact hbl (List.any_eq_true.2 ⟨s, hs, Bool.not_eq_false _ ▸ hov⟩)
    · rw [scan.eq_2, if_neg hi] at h
      cases h
      exact ⟨[], by simp, Kept.of_end (by omega)⟩

/-- Scanning for the leftmost match finds the first of all the matches a scan for all of them
keeps, on any two budgets under which both succeed, as long as the two see the same blocked
spans. -/
theorem scan_first {blocked' : List (Nat × Nat)} (hsame : ∀ s, s ∈ blocked ↔ s ∈ blocked') :
    ∀ (fuel i : Nat) (b b' : StepBudget) {r gs : List MatchGraph},
      (e.scan tokens false blocked fuel i [] b).1 = .done r →
      (e.scan tokens true blocked' fuel i [] b').1 = .done gs → tokens.size ≤ i + fuel →
      r = gs.take 1
  | 0, i, b, b', r, gs, h, h', _ => by
    rw [scan.eq_1] at h h'
    cases h
    cases h'
    rfl
  | f + 1, i, b, b', r, gs, h, h', hfuel => by
    by_cases hi : i < tokens.size
    · obtain ⟨c, hc⟩ := scan_succ_done h hi
      obtain ⟨c', hc'⟩ := scan_succ_done h' hi
      cases hm : e.composition.firstMatch tokens i with
      | none =>
        rw [hm] at hc hc'
        exact scan_first hsame f (i + 1) c c' hc hc' (by omega)
      | some g =>
        rw [hm] at hc hc'
        dsimp only at hc hc'
        -- both scans judge the match against the same blocked spans
        have hany : blocked'.any (spansOverlap · g.span) = blocked.any (spansOverlap · g.span) :=
          Bool.eq_iff_iff.2 (by simp only [List.any_eq_true, hsame])
        rw [hany] at hc'
        split at hc
        · rw [if_pos ‹_›] at hc'
          exact scan_first hsame f (i + 1) c c' hc hc' (by omega)
        · rw [if_neg ‹_›, if_pos rfl] at hc'
          rw [if_neg Bool.false_ne_true] at hc
          obtain ⟨-, hpos⟩ := Composition.firstMatch_span hm
          obtain ⟨new, rfl, -⟩ := scan_kept f g.span.2 [g] c' hc' (by omega)
          subst hc
          rfl
    · rw [scan.eq_2, if_neg hi] at h h'
      cases h
      cases h'
      rfl

/-- An engine's search that succeeds scans from the first position past the spans its
antipatterns block, on the budget they leave. -/
theorem findMatches_done {findAll : Bool} {b : StepBudget} {gs : List MatchGraph}
    (h : (e.findMatches tokens findAll b).1 = .done gs) :
    ∃ blocked b', (∀ s, s ∈ blocked ↔ e.Blocked tokens s) ∧
      (e.scan tokens findAll blocked (tokens.size + 1) 0 [] b').1 = .done gs := by
  rw [findMatches] at h
  obtain ⟨x, b', hx⟩ : ∃ x b', blockedSpans tokens e.antipatterns [] b = (x, b') := ⟨_, _, rfl⟩
  rw [hx] at h
  cases x with
  | exceeded => cases h
  | done blocked =>
    refine ⟨blocked, b', fun s => ?_, h⟩
    rw [blockedSpans_mem e.antipatterns [] b (by rw [hx]) s]
    simp [Blocked]

/-- Every match an engine's search returns is the first match at a position of the tokens. -/
theorem findMatches_found {findAll : Bool} {b : StepBudget} {gs : List MatchGraph}
    (h : (e.findMatches tokens findAll b).1 = .done gs) :
    ∀ g ∈ gs, ∃ j, j < tokens.size ∧ e.composition.firstMatch tokens j = some g := by
  obtain ⟨blocked, b', -, hscan⟩ := findMatches_done h
  intro g hg
  rcases scan_found _ _ _ _ hscan g hg with hg | hj
  · cases hg
  · exact hj

/-! ## The matches of an engine -/

/-- The matches an engine returns when it looks for all of them, under any budget that lets it
finish, are the ones a left-to-right scan keeps against the spans its antipatterns match: each
is the first match at its start and takes a token, none overlaps a blocked span, each ends
before the next starts, and every position none of them covers has no match or a blocked one.
Looking for the leftmost match only, under any budget that lets it finish, returns the first of
them. -/
theorem findAll_keeps_unblocked (e : Engine) (tokens : Array Token) {b : StepBudget}
    {gs : List MatchGraph} (h : (e.findMatches tokens true b).1 = .done gs) :
    e.Kept tokens (e.Blocked tokens) 0 gs ∧ (∀ g ∈ gs, g.span.1 < g.span.2) ∧
      ∀ (b' : StepBudget) (r : List MatchGraph),
        (e.findMatches tokens false b').1 = .done r → r = gs.take 1 := by
  obtain ⟨blocked, c, hblocked, hscan⟩ := findMatches_done h
  obtain ⟨new, hgs, hk⟩ := scan_kept _ _ _ _ hscan (by omega)
  rw [List.reverse_nil, List.nil_append] at hgs
  subst hgs
  have hkept := hk.of_iff hblocked
  refine ⟨hkept, fun g hg => hkept.nonempty hg, fun b' r hr => ?_⟩
  obtain ⟨blocked', c', hblocked', hscan'⟩ := findMatches_done hr
  exact scan_first (fun s => (hblocked' s).trans (hblocked s).symm) _ _ c' c hscan' hscan
    (by omega)

/-- A pattern of one token of anything, over two tokens: both tokens are kept, one after the
other, and the leftmost match alone is the first. -/
theorem findAll_keeps_both_tokens :
    ((⟨⟨#[{ atom := .always, quantifier := ⟨1, 1⟩ }]⟩, []⟩ : Engine).findMatches
        #[default, default] true (.fresh 20)).1 =
      .done [⟨#[(0, 1), (0, 1)], #[default, default]⟩, ⟨#[(1, 2), (1, 2)], #[default, default]⟩] ∧
    (⟨⟨#[{ atom := .always, quantifier := ⟨1, 1⟩ }]⟩, []⟩ : Engine).Kept #[default, default]
        ((⟨⟨#[{ atom := .always, quantifier := ⟨1, 1⟩ }]⟩, []⟩ : Engine).Blocked #[default, default])
        0 [⟨#[(0, 1), (0, 1)], #[default, default]⟩, ⟨#[(1, 2), (1, 2)], #[default, default]⟩] ∧
    (∀ g ∈ [(⟨#[(0, 1), (0, 1)], #[default, default]⟩ : MatchGraph),
        ⟨#[(1, 2), (1, 2)], #[default, default]⟩], g.span.1 < g.span.2) ∧
    ∀ (b' : StepBudget) (r : List MatchGraph),
      ((⟨⟨#[{ atom := .always, quantifier := ⟨1, 1⟩ }]⟩, []⟩ : Engine).findMatches
        #[default, default] false b').1 = .done r →
      r = [(⟨#[(0, 1), (0, 1)], #[default, default]⟩ : MatchGraph),
        ⟨#[(1, 2), (1, 2)], #[default, default]⟩].take 1 := by
  have h : ((⟨⟨#[{ atom := .always, quantifier := ⟨1, 1⟩ }]⟩, []⟩ : Engine).findMatches
      #[default, default] true (.fresh 20)).1 =
        .done [⟨#[(0, 1), (0, 1)], #[default, default]⟩,
          ⟨#[(1, 2), (1, 2)], #[default, default]⟩] := by
    simp [findMatches, blockedSpans, scan, Composition.apply, Composition.search,
      Composition.greedyRun, StepBudget.step, StepBudget.fresh, Composition.part, Part.takes,
      Atom.holds, Composition.setGroup, MatchGraph.span, MatchGraph.group?]
    decide
  exact ⟨h, findAll_keeps_unblocked _ _ h⟩

end Engine

end Proofreader
