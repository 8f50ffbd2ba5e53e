import Mathlib
import Proofreader.Proofs.Backtracking

/-!
# The loop finds the greatest fit

A count vector assigns each part of a composition the number of tokens it takes. It *fits* at a
start position when every count lies within its part's quantifier and the tokens, and every
token of a part's slot is taken by that part, judged with the groups of the parts before it
(`Composition.Fits`). The backtracking loop of `apply` finds a match exactly when some count
vector fits, and it then reports the greatest one in the lexicographic order, the one a search
that tries the largest count first at every part finds first
(`Composition.apply_finds_greatest_fit`).

This needs the back-references of a part to read only the groups of earlier parts, as compiled
rules guarantee (`Composition.BackReferencesEarlier`): the loop leaves stale spans in the
groups of the parts it has popped, and only a part that cannot see them is judged as the fit
judges it. `MatchGraph.AgreeUpTo` says that two graphs give the same spans to the groups a part
may read, and the congruence lemmas show that a part that reads no further judges alike in both.

The proof goes through the recursive form of the loop from `Proofs/Backtracking`:
`Composition.explore_answers` shows by induction on the parts left that the recursion answers
the search for the fitting continuations of a stack (`Composition.Answers`).
-/

namespace Proofreader

/-! ## Which groups a pattern reads -/

namespace Matcher

/-- Whether the matcher reads no group of the match after group `k`. -/
def readsUpTo (k : Nat) (m : Matcher) : Bool :=
  match m.target with
  | .group id => id ≤ k
  | _ => true

end Matcher

namespace Atom

mutual
/-- Whether the atom reads no group of the match after group `k`. Tag matchers never read the
match, so only text and lemma matchers count. -/
def readsUpTo (k : Nat) : Atom → Bool
  | text m => m.readsUpTo k
  | wordData _ lemmaForm => lemmaForm.all (·.readsUpTo k)
  | all atoms => allReadUpTo k atoms
  | any atoms => allReadUpTo k atoms
  | not a => readsUpTo k a
  | _ => true
/-- Whether no atom of the list reads a group after group `k`. -/
def allReadUpTo (k : Nat) : List Atom → Bool
  | [] => true
  | a :: rest => readsUpTo k a && allReadUpTo k rest
end

end Atom

namespace Part

/-- Whether neither the atom nor an exception of the part reads a group after group `k`. -/
def readsUpTo (k : Nat) (p : Part) : Bool :=
  p.atom.readsUpTo k && p.exceptions.all (·.atom.readsUpTo k)

end Part

namespace Composition

/-- Every part reads only the groups of the parts before it (and group 0): the part at index
`k` reads no group after group `k`. -/
def BackReferencesEarlier (c : Composition) : Prop :=
  ∀ k, k < c.parts.size → (c.part k).readsUpTo k = true

end Composition

/-! ## Graphs that agree on the groups read -/

namespace MatchGraph

/-- Two graphs over the same tokens that give groups `0` to `k` the same spans. -/
def AgreeUpTo (k : Nat) (g g' : MatchGraph) : Prop :=
  g.tokens = g'.tokens ∧ ∀ i, i ≤ k → g.group? i = g'.group? i

namespace AgreeUpTo

variable {k : Nat} {g g' g'' : MatchGraph}

theorem refl (k : Nat) (g : MatchGraph) : AgreeUpTo k g g := ⟨rfl, fun _ _ => rfl⟩

theorem trans (h : AgreeUpTo k g g') (h' : AgreeUpTo k g' g'') : AgreeUpTo k g g'' :=
  ⟨h.1.trans h'.1, fun i hi => (h.2 i hi).trans (h'.2 i hi)⟩

theorem mono {j : Nat} (h : AgreeUpTo k g g') (hj : j ≤ k) : AgreeUpTo j g g' :=
  ⟨h.1, fun i hi => h.2 i (Nat.le_trans hi hj)⟩

/-- Graphs that agree on all of their groups are equal. -/
theorem eq (h : AgreeUpTo k g g') (hs : g.groups.size = k + 1) (hs' : g'.groups.size = k + 1) :
    g = g' := by
  obtain ⟨groups, tokens⟩ := g
  obtain ⟨groups', tokens'⟩ := g'
  obtain ⟨htok, hgroups⟩ := h
  simp only at htok hs hs'
  subst htok
  congr 1
  apply Array.ext_getElem?
  intro i
  by_cases hi : i ≤ k
  · exact hgroups i hi
  · rw [Array.getElem?_eq_none (by omega), Array.getElem?_eq_none (by omega)]

/-- Setting a group the agreement does not cover keeps it. -/
theorem setGroup_above {i : Nat} (hi : k < i) (s : Nat × Nat) :
    AgreeUpTo k (Composition.setGroup g i s) g := by
  refine ⟨rfl, fun j hj => ?_⟩
  rw [Composition.group?_setGroup, if_neg (by omega)]

end AgreeUpTo

end MatchGraph

/-! ## A pattern judges alike in graphs that agree on what it reads -/

section Congruence

variable {k : Nat} {g g' : MatchGraph}

theorem Matcher.accepts_congr {m : Matcher} (hm : m.readsUpTo k = true)
    (h : MatchGraph.AgreeUpTo k g g') (s : String) : m.accepts s g = m.accepts s g' := by
  unfold Matcher.accepts
  cases ht : m.target with
  | group id =>
    have hid : id ≤ k := by simpa [Matcher.readsUpTo, ht] using hm
    have hgt : g.groupTokens? id = g'.groupTokens? id := by
      simp only [MatchGraph.groupTokens?]
      rw [h.2 id hid, h.1]
    simp only [hgt]
  | text t => rfl
  | regex r => rfl

theorem Atom.readingsMatch_congr {pos lemmaForm : Option Matcher}
    (hm : lemmaForm.all (·.readsUpTo k) = true) (h : MatchGraph.AgreeUpTo k g g') (t : Token) :
    Atom.readingsMatch pos lemmaForm t g = Atom.readingsMatch pos lemmaForm t g' := by
  unfold Atom.readingsMatch
  cases lemmaForm with
  | none => rfl
  | some m =>
    have hm' : m.readsUpTo k = true := by simpa using hm
    simp only [Matcher.accepts_congr hm' h]

mutual
theorem Atom.holds_congr (h : MatchGraph.AgreeUpTo k g g') (tokens : Array Token) (i : Nat) :
    ∀ a : Atom, a.readsUpTo k = true → a.holds tokens g i = a.holds tokens g' i
  | .always, _ => rfl
  | .never, _ => rfl
  | .text m, hm => by
    have hm' : m.readsUpTo k = true := by simpa [Atom.readsUpTo] using hm
    simp only [Atom.holds, Matcher.accepts_congr hm' h]
  | .spaceBefore _, _ => rfl
  | .wordData pos lemmaForm, hm => by
    have hm' : lemmaForm.all (·.readsUpTo k) = true := by simpa [Atom.readsUpTo] using hm
    simp only [Atom.holds, Atom.readingsMatch_congr hm' h]
  | .all atoms, hm => by
    have hm' : Atom.allReadUpTo k atoms = true := by simpa [Atom.readsUpTo] using hm
    simp only [Atom.holds]
    exact Atom.holdsAll_congr h tokens i atoms hm'
  | .any atoms, hm => by
    have hm' : Atom.allReadUpTo k atoms = true := by simpa [Atom.readsUpTo] using hm
    simp only [Atom.holds]
    exact Atom.holdsAny_congr h tokens i atoms hm'
  | .not a, hm => by
    have hm' : a.readsUpTo k = true := by simpa [Atom.readsUpTo] using hm
    simp only [Atom.holds, Atom.holds_congr h tokens i a hm']
theorem Atom.holdsAll_congr (h : MatchGraph.AgreeUpTo k g g') (tokens : Array Token) (i : Nat) :
    ∀ atoms : List Atom, Atom.allReadUpTo k atoms = true →
      Atom.holdsAll tokens g i atoms = Atom.holdsAll tokens g' i atoms
  | [], _ => rfl
  | a :: rest, hm => by
    simp only [Atom.allReadUpTo, Bool.and_eq_true] at hm
    simp only [Atom.holdsAll, Atom.holds_congr h tokens i a hm.1,
      Atom.holdsAll_congr h tokens i rest hm.2]
theorem Atom.holdsAny_congr (h : MatchGraph.AgreeUpTo k g g') (tokens : Array Token) (i : Nat) :
    ∀ atoms : List Atom, Atom.allReadUpTo k atoms = true →
      Atom.holdsAny tokens g i atoms = Atom.holdsAny tokens g' i atoms
  | [], _ => rfl
  | a :: rest, hm => by
    simp only [Atom.allReadUpTo, Bool.and_eq_true] at hm
    simp only [Atom.holdsAny, Atom.holds_congr h tokens i a hm.1,
      Atom.holdsAny_congr h tokens i rest hm.2]
end

theorem Exception.fires_congr {e : Exception} (he : e.atom.readsUpTo k = true)
    (h : MatchGraph.AgreeUpTo k g g') (tokens : Array Token) (i : Nat) :
    e.fires tokens g i = e.fires tokens g' i := by
  simp only [Exception.fires, Atom.holds_congr h tokens _ e.atom he]

theorem Part.takes_congr {p : Part} (hp : p.readsUpTo k = true)
    (h : MatchGraph.AgreeUpTo k g g') (tokens : Array Token) (i : Nat) :
    p.takes tokens g i = p.takes tokens g' i := by
  simp only [Part.readsUpTo, Bool.and_eq_true, List.all_eq_true] at hp
  have hex : (p.exceptions.any fun e => e.fires tokens g i) =
      (p.exceptions.any fun e => e.fires tokens g' i) := by
    rw [Bool.eq_iff_iff, List.any_eq_true, List.any_eq_true]
    exact exists_congr fun e => and_congr_right fun he => by
      rw [Exception.fires_congr (hp.2 e he) h tokens i]
  simp only [Part.takes, Atom.holds_congr h tokens i p.atom hp.1, hex]

end Congruence

/-! ## The greedy run is the longest run -/

namespace Part

/-- The greedy run never gives back the tokens it starts with. -/
theorem le_greedy_fst (p : Part) (tokens : Array Token) (g : MatchGraph) (position count : Nat) :
    count ≤ (p.greedy tokens g position count).1 := by
  fun_induction Part.greedy p tokens g position count with
  | case1 count hguard htakes ih =>
    simp only [Prod.map_fst, id_eq]
    omega
  | case2 => exact Nat.le_refl _
  | case3 => exact Nat.le_refl _

/-- From a valid prefix of `count` tokens, the counts the greedy run covers are exactly those
within the part's maximum and the tokens whose tokens after the prefix the part all takes. -/
theorem le_greedy_fst_iff (p : Part) (tokens : Array Token) (g : MatchGraph) (position : Nat) :
    ∀ count, count ≤ p.quantifier.max → position + count ≤ tokens.size →
    ∀ x, count ≤ x →
      (x ≤ (p.greedy tokens g position count).1 ↔
        x ≤ p.quantifier.max ∧ position + x ≤ tokens.size ∧
          ∀ i, position + count ≤ i → i < position + x → p.takes tokens g i = true) := by
  intro count
  fun_induction Part.greedy p tokens g position count with
  | case1 count hguard htakes ih =>
    intro _ _ x hx
    simp only [Prod.map_fst, id_eq]
    by_cases hxc : x = count
    · -- the prefix itself: the run covers it and nothing is left to check
      subst hxc
      have hle := le_greedy_fst p tokens g position (x + 1)
      refine ⟨fun _ => ⟨by omega, by omega, fun i hi hi' => by omega⟩, fun _ => by omega⟩
    · -- a longer count: the token at the end of the prefix is taken, the rest is the next run
      rw [ih (by omega) (by omega) x (by omega)]
      constructor
      · rintro ⟨hmax, hsize, hall⟩
        refine ⟨hmax, hsize, fun i hi hi' => ?_⟩
        by_cases hic : i = position + count
        · exact hic ▸ htakes
        · exact hall i (by omega) hi'
      · rintro ⟨hmax, hsize, hall⟩
        exact ⟨hmax, hsize, fun i hi hi' => hall i (by omega) hi'⟩
  | case2 count hguard htakes =>
    intro _ _ x hx
    constructor
    · intro hle
      exact ⟨by omega, by omega, fun i hi hi' => by omega⟩
    · -- a longer count would need the token the part refuses
      rintro ⟨-, -, hall⟩
      exact Nat.le_of_not_lt fun hlt =>
        htakes (hall (position + count) (Nat.le_refl _) (Nat.add_lt_add_left hlt position))
  | case3 count hguard =>
    intro hmax hsize x hx
    constructor
    · intro hle
      exact ⟨by omega, by omega, fun i hi hi' => by omega⟩
    · rintro ⟨hmax', hsize', -⟩
      omega

end Part

/-! ## Count vectors that fit -/

/-- The slots of parts placed one after another from `p`, with counts `cs`. -/
def slots : Nat → List Nat → List (Nat × Nat)
  | _, [] => []
  | p, x :: cs => (p, p + x) :: slots (p + x) cs

namespace Composition

/-- The graph seen by the part after those placed in `placed`: group 0 empty at the start, then
the slots of the parts before it. -/
def prefixGraph (tokens : Array Token) (start : Nat) (placed : List (Nat × Nat)) : MatchGraph :=
  ⟨((start, start) :: placed).toArray, tokens⟩

/-- Counts `cs` fit the parts from index `placed.length` on, placed one after another from `p`
after the parts in `placed`: each count lies within its part's quantifier and the tokens, every
token of its slot is taken by the part given the groups of the parts before it, and the counts
end with the parts. -/
def FitsFrom (c : Composition) (tokens : Array Token) (start : Nat) :
    List (Nat × Nat) → Nat → List Nat → Prop
  | placed, _, [] => placed.length = c.parts.size
  | placed, p, x :: cs =>
    placed.length < c.parts.size ∧
    (c.part placed.length).quantifier.min ≤ x ∧ x ≤ (c.part placed.length).quantifier.max ∧
    p + x ≤ tokens.size ∧
    (∀ i, p ≤ i → i < p + x →
      (c.part placed.length).takes tokens (prefixGraph tokens start placed) i = true) ∧
    c.FitsFrom tokens start (placed ++ [(p, p + x)]) (p + x) cs

/-- A count vector fits the composition at `start`: one count per part, in order, each within
its quantifier, the slots inside the tokens, and every token of a slot taken by its part given
the groups of the parts before it. -/
def Fits (c : Composition) (tokens : Array Token) (start : Nat) (cs : List Nat) : Prop :=
  c.FitsFrom tokens start [] start cs

variable {c : Composition} {tokens : Array Token} {start : Nat}

/-- A part that still has to be placed has a count that fits exactly when the count reaches the
part's minimum, stays within its greedy run, and lets the parts after it fit. -/
theorem fitsFrom_cons_iff (hrefs : c.BackReferencesEarlier) {placed : List (Nat × Nat)}
    {g : MatchGraph} (hg : MatchGraph.AgreeUpTo placed.length g (prefixGraph tokens start placed))
    (hk : placed.length < c.parts.size) {p : Nat} (hp : p ≤ tokens.size) (x : Nat)
    (cs : List Nat) :
    c.FitsFrom tokens start placed p (x :: cs) ↔
      (c.part placed.length).quantifier.min ≤ x ∧
      x ≤ ((c.part placed.length).greedy tokens g p 0).1 ∧
      c.FitsFrom tokens start (placed ++ [(p, p + x)]) (p + x) cs := by
  have hread := hrefs placed.length hk
  rw [(c.part placed.length).le_greedy_fst_iff tokens g p 0 (Nat.zero_le _) (by omega) x
    (Nat.zero_le _)]
  simp only [FitsFrom, Nat.add_zero, Part.takes_congr hread hg]
  constructor
  · rintro ⟨-, hmin, hmax, hsize, hall, hrest⟩
    exact ⟨hmin, ⟨hmax, hsize, hall⟩, hrest⟩
  · rintro ⟨hmin, ⟨hmax, hsize, hall⟩, hrest⟩
    exact ⟨hk, hmin, hmax, hsize, hall, hrest⟩

/-- Setting the group of the next part to its slot extends an agreement with the graph of the
parts placed so far to the graph with that slot placed too. -/
theorem AgreeUpTo.setGroup_next {placed : List (Nat × Nat)} {g : MatchGraph}
    (h : MatchGraph.AgreeUpTo placed.length g (prefixGraph tokens start placed))
    (hs : placed.length + 1 < g.groups.size) (slot : Nat × Nat) :
    MatchGraph.AgreeUpTo (placed.length + 1) (setGroup g (placed.length + 1) slot)
      (prefixGraph tokens start (placed ++ [slot])) := by
  refine ⟨h.1, fun j hj => ?_⟩
  rw [group?_setGroup]
  by_cases hjk : j = placed.length + 1
  · subst hjk
    simp [hs, prefixGraph, MatchGraph.group?]
  · have hj' : j ≤ placed.length := by omega
    rw [if_neg (by omega), h.2 j hj']
    simp only [prefixGraph, MatchGraph.group?, List.getElem?_toArray]
    rw [← List.cons_append, List.getElem?_append_left (by simp; omega)]

/-- The graph of the parts placed so far agrees, on their groups, with any graph that places
more parts after them. -/
theorem prefixGraph_agree_append (placed more : List (Nat × Nat)) :
    MatchGraph.AgreeUpTo placed.length (prefixGraph tokens start (placed ++ more))
      (prefixGraph tokens start placed) := by
  refine ⟨rfl, fun j hj => ?_⟩
  simp only [prefixGraph, MatchGraph.group?, List.getElem?_toArray]
  rw [← List.cons_append, List.getElem?_append_left (by simp; omega)]

/-! ## The recursion answers the search -/

/-- The probe `P` answers the search for the count lists in `S`, from a stack whose parts sit in
the slots `placed`, with the next part at `p`: when `S` has a list, `P` completes the match with
the greatest one, whose slots then follow `placed` in the graph; when `S` is empty, `P` completes
nothing and leaves the groups of the stack as they were in `g`. -/
def Answers (tokens : Array Token) (start : Nat) (placed : List (Nat × Nat)) (p : Nat)
    (S : List Nat → Prop) (g : MatchGraph) (P : Probe) : Prop :=
  (∀ stop, P.stop = some stop → ∃ cs, S cs ∧ (∀ cs', S cs' → cs' ≤ cs) ∧
      stop = p + cs.sum ∧ P.graph = ⟨((start, start) :: (placed ++ slots p cs)).toArray, tokens⟩) ∧
  (P.stop = none → (∀ cs, ¬S cs) ∧ MatchGraph.AgreeUpTo placed.length P.graph g ∧
      P.graph.groups.size = g.groups.size)

/-- The count lists whose first count, for the part after `placed` starting at `p`, lies between
`least` and `cnt`, followed by counts that fit the parts after it. -/
def CountsDown (c : Composition) (tokens : Array Token) (start : Nat) (placed : List (Nat × Nat))
    (p least cnt : Nat) (cs : List Nat) : Prop :=
  ∃ x rest, cs = x :: rest ∧ least ≤ x ∧ x ≤ cnt ∧
    c.FitsFrom tokens start (placed ++ [(p, p + x)]) (p + x) rest

namespace Answers

variable {placed : List (Nat × Nat)} {p : Nat} {S S' : List Nat → Prop} {g g' : MatchGraph}
  {P : Probe}

/-- Answering depends only on which lists the search holds. -/
theorem of_iff (h : Answers tokens start placed p S g P) (hS : ∀ cs, S cs ↔ S' cs) :
    Answers tokens start placed p S' g P := by
  refine ⟨fun stop hstop => ?_, fun hnone => ?_⟩
  · obtain ⟨cs, hcs, hmax, hstop', hgraph⟩ := h.1 stop hstop
    exact ⟨cs, (hS cs).1 hcs, fun cs' hcs' => hmax cs' ((hS cs').2 hcs'), hstop', hgraph⟩
  · obtain ⟨hempty, hagree, hsize⟩ := h.2 hnone
    exact ⟨fun cs hcs => hempty cs ((hS cs).2 hcs), hagree, hsize⟩

/-- A graph that agrees with the one the stack started from serves as well. -/
theorem of_agree (h : Answers tokens start placed p S g P)
    (hg : MatchGraph.AgreeUpTo placed.length g g') (hs : g.groups.size = g'.groups.size) :
    Answers tokens start placed p S g' P := by
  refine ⟨h.1, fun hnone => ?_⟩
  obtain ⟨hempty, hagree, hsize⟩ := h.2 hnone
  exact ⟨hempty, hagree.trans hg, hsize.trans hs⟩

@[simp] theorem after_iff (n : Nat) :
    Answers tokens start placed p S g (P.after n) ↔ Answers tokens start placed p S g P :=
  Iff.rfl

end Answers

/-- Listing a count in front of the counts of the later parts: a smaller first count, or the
same one with smaller counts after it, gives a smaller list. -/
theorem cons_le_cons_of {x x' : Nat} {rest rest' : List Nat} (hx : x' ≤ x)
    (hrest : x' = x → rest' ≤ rest) : x' :: rest' ≤ x :: rest := by
  rcases Nat.lt_or_eq_of_le hx with hlt | rfl
  · exact le_of_lt (List.Lex.rel hlt)
  · rcases lt_or_eq_of_le (hrest rfl) with hlt | rfl
    · exact le_of_lt (List.Lex.cons hlt)
    · exact le_refl _

section TryCounts

variable {placed : List (Nat × Nat)} {p least cnt : Nat} {G : MatchGraph} {R : Probe}

/-- When the parts after a count complete the match, that count and their counts are the
greatest list of the counts tried from `cnt` down. -/
theorem answers_of_found (hleast : least ≤ cnt)
    (hchild : Answers tokens start (placed ++ [(p, p + cnt)]) (p + cnt)
      (c.FitsFrom tokens start (placed ++ [(p, p + cnt)]) (p + cnt)) G R)
    {stop : Nat} (hR : R.stop = some stop) :
    Answers tokens start placed p (c.CountsDown tokens start placed p least cnt) G R := by
  refine ⟨fun stop' hstop' => ?_, fun hnone => by rw [hR] at hnone; cases hnone⟩
  obtain ⟨cs, hcs, hmax, hstop, hgraph⟩ := hchild.1 stop' hstop'
  refine ⟨cnt :: cs, ⟨cnt, cs, rfl, hleast, Nat.le_refl _, hcs⟩, ?_, ?_, ?_⟩
  · rintro _ ⟨x, rest, rfl, -, hx, hrest⟩
    exact cons_le_cons_of hx fun hxc => hmax rest (hxc ▸ hrest)
  · rw [hstop, List.sum_cons, Nat.add_assoc]
  · rw [hgraph, List.append_assoc]
    rfl

/-- When the parts after the last count to try do not complete the match, the part gives up:
no list of the counts tried fits, and the loop pops the part's frame. -/
theorem answers_of_popped (hcnt : cnt ≤ least)
    (hchild : Answers tokens start (placed ++ [(p, p + cnt)]) (p + cnt)
      (c.FitsFrom tokens start (placed ++ [(p, p + cnt)]) (p + cnt)) G R)
    (hR : R.stop = none) :
    Answers tokens start placed p (c.CountsDown tokens start placed p least cnt) G
      { R with graph := setGroup R.graph (placed.length + 1) (p, p) } := by
  obtain ⟨hempty, hagree, hsize⟩ := hchild.2 hR
  refine ⟨fun stop hstop => ?_, fun _ => ⟨?_, ?_, ?_⟩⟩
  · simp only [hR] at hstop
    cases hstop
  · rintro _ ⟨x, rest, rfl, hx, hx', hrest⟩
    have hxc : x = cnt := by omega
    exact hempty rest (hxc ▸ hrest)
  · have hup : MatchGraph.AgreeUpTo placed.length R.graph G :=
      hagree.mono (by simp)
    exact (MatchGraph.AgreeUpTo.setGroup_above (by omega) _).trans hup
  · simp only [setGroup_size]
    exact hsize

/-- Trying the counts of the part after `placed` from `cnt` down answers the search for the
lists that start with one of those counts, provided the recursion answers for the parts after
it. -/
theorem tryCounts_answers {d : Nat}
    (ih : ∀ (placed : List (Nat × Nat)) (g : MatchGraph) (p : Nat),
      placed.length + d = c.parts.size →
      MatchGraph.AgreeUpTo placed.length g (prefixGraph tokens start placed) →
      g.groups.size = c.parts.size + 1 → p ≤ tokens.size →
      Answers tokens start placed p (c.FitsFrom tokens start placed p) g (c.explore tokens d g p))
    (hd : placed.length + (d + 1) = c.parts.size) :
    ∀ (cnt : Nat) (G : MatchGraph), least ≤ cnt → p + cnt ≤ tokens.size →
      MatchGraph.AgreeUpTo (placed.length + 1) G
        (prefixGraph tokens start (placed ++ [(p, p + cnt)])) →
      G.groups.size = c.parts.size + 1 →
      Answers tokens start placed p (c.CountsDown tokens start placed p least cnt) G
        (tryCounts (c.explore tokens d) placed.length p least cnt G) := by
  intro cnt
  induction cnt with
  | zero =>
    intro G hleast hp hG hGs
    have hchild := ih (placed ++ [(p, p + 0)]) G (p + 0) (by simp; omega)
      (by rw [List.length_append, List.length_singleton]; exact hG) hGs hp
    cases hR : (c.explore tokens d G (p + 0)).stop with
    | some stop =>
      rw [tryCounts.eq_1 _ _ _ _ _ _ _ hR]
      exact answers_of_found hleast hchild hR
    | none =>
      rw [tryCounts.eq_3 _ _ _ _ _ hR]
      exact answers_of_popped (Nat.zero_le _) hchild hR
  | succ cnt ihc =>
    intro G hleast hp hG hGs
    have hchild := ih (placed ++ [(p, p + (cnt + 1))]) G (p + (cnt + 1)) (by simp; omega)
      (by rw [List.length_append, List.length_singleton]; exact hG) hGs hp
    cases hR : (c.explore tokens d G (p + (cnt + 1))).stop with
    | some stop =>
      rw [tryCounts.eq_1 _ _ _ _ _ _ _ hR]
      exact answers_of_found hleast hchild hR
    | none =>
      rw [tryCounts.eq_2 _ _ _ _ _ _ hR]
      by_cases hl : least ≤ cnt
      · -- the frame spares a token: the next smaller count is tried in a graph that agrees
        rw [if_pos hl, Answers.after_iff]
        obtain ⟨hempty, hagree, hsize⟩ := hchild.2 hR
        rw [List.length_append, List.length_singleton] at hagree
        have hRk : MatchGraph.AgreeUpTo placed.length (c.explore tokens d G (p + (cnt + 1))).graph
            (prefixGraph tokens start placed) :=
          ((hagree.trans hG).mono (by simp)).trans (prefixGraph_agree_append placed _)
        have hG' := AgreeUpTo.setGroup_next hRk (by omega) (p, p + cnt)
        have hnext := ihc _ hl (by omega) hG' (by simp only [setGroup_size]; omega)
        refine (hnext.of_iff fun cs => ?_).of_agree ?_ (by simp only [setGroup_size]; exact hsize)
        · -- no list starts with the count that failed, so dropping it changes nothing
          constructor
          · rintro ⟨x, rest, rfl, h1, h2, h3⟩
            exact ⟨x, rest, rfl, h1, by omega, h3⟩
          · rintro ⟨x, rest, rfl, h1, h2, h3⟩
            refine ⟨x, rest, rfl, h1, ?_, h3⟩
            rcases Nat.lt_or_eq_of_le h2 with h | rfl
            · omega
            · exact absurd h3 (hempty rest)
        · exact (MatchGraph.AgreeUpTo.setGroup_above (by omega) _).trans
            (hagree.mono (by simp))
      · rw [if_neg hl]
        exact answers_of_popped (by omega) hchild hR

end TryCounts

/-- The recursion from a stack with `d` parts left answers the search for the counts that fit
those parts, provided the graph agrees with the graph of the parts placed. -/
theorem explore_answers (hrefs : c.BackReferencesEarlier) (d : Nat) :
    ∀ (placed : List (Nat × Nat)) (g : MatchGraph) (p : Nat),
      placed.length + d = c.parts.size →
      MatchGraph.AgreeUpTo placed.length g (prefixGraph tokens start placed) →
      g.groups.size = c.parts.size + 1 → p ≤ tokens.size →
      Answers tokens start placed p (c.FitsFrom tokens start placed p) g
        (c.explore tokens d g p) := by
  induction d with
  | zero =>
    intro placed g p hd hg hgs hp
    -- every part is placed: the one fit is the empty list, and the graph is that of the parts
    have hgraph : g = ⟨((start, start) :: (placed ++ slots p [])).toArray, tokens⟩ := by
      rw [slots, List.append_nil]
      exact hg.eq (by omega) (by simp [prefixGraph])
    refine ⟨fun stop hstop => ?_, fun hnone => by simp [explore] at hnone⟩
    simp only [explore, Option.some.injEq] at hstop
    refine ⟨[], by simp only [FitsFrom]; omega, fun cs' hcs' => ?_, by simp [hstop],
      by simpa only [explore] using hgraph⟩
    cases cs' with
    | nil => exact le_refl _
    | cons x rest =>
      simp only [FitsFrom] at hcs'
      omega
  | succ d ih =>
    intro placed g p hd hg hgs hp
    have hk : c.parts.size - (d + 1) = placed.length := by omega
    have hlt : placed.length < c.parts.size := by omega
    obtain ⟨r, steps, hrs⟩ : ∃ r steps, (c.part placed.length).greedy tokens g p 0 = (r, steps) :=
      ⟨_, _, rfl⟩
    -- the lists that fit are those whose first count lies between the minimum and the greedy run
    have hfits : ∀ cs, c.FitsFrom tokens start placed p cs ↔
        c.CountsDown tokens start placed p (c.part placed.length).quantifier.min r cs := by
      intro cs
      cases cs with
      | nil =>
        simp only [FitsFrom, CountsDown]
        constructor
        · omega
        · rintro ⟨x, rest, h, -⟩
          cases h
      | cons x rest =>
        rw [fitsFrom_cons_iff hrefs hg hlt hp, hrs]
        simp only [CountsDown, List.cons.injEq]
        constructor
        · rintro ⟨h1, h2, h3⟩
          exact ⟨x, rest, ⟨rfl, rfl⟩, h1, h2, h3⟩
        · rintro ⟨x', rest', ⟨rfl, rfl⟩, h1, h2, h3⟩
          exact ⟨h1, h2, h3⟩
    simp only [explore, hk, hrs]
    split
    · -- the part reaches its minimum: its counts are tried from the greedy one down
      rename_i hmin
      rw [Answers.after_iff]
      have hpr : p + r ≤ tokens.size := by
        have hle := ((c.part placed.length).le_greedy_fst_iff tokens g p 0 (Nat.zero_le _)
          (by omega) r (Nat.zero_le _)).1 (by rw [hrs])
        exact hle.2.1
      have hG := AgreeUpTo.setGroup_next hg (by omega) (p, p + r)
      have hT := tryCounts_answers ih hd r _ hmin hpr hG (by simp only [setGroup_size]; exact hgs)
      exact (hT.of_iff fun cs => (hfits cs).symm).of_agree
        (MatchGraph.AgreeUpTo.setGroup_above (by omega) _) (by simp only [setGroup_size])
    · -- the part cannot reach its minimum: nothing fits and the loop gives back at once
      rename_i hmin
      refine ⟨fun stop hstop => ?_, fun _ => ⟨fun cs hcs => ?_,
        MatchGraph.AgreeUpTo.refl _ _, rfl⟩⟩
      · cases hstop
      · obtain ⟨x, rest, rfl, h1, h2, -⟩ := (hfits cs).1 hcs
        omega

/-! ## The first match -/

/-- A count list that fits the parts from `placed` on gives each of them at least its minimum,
so its sum reaches the minimum of every one of them. -/
theorem FitsFrom.min_le_sum {cs : List Nat} :
    ∀ {placed : List (Nat × Nat)} {p : Nat}, c.FitsFrom tokens start placed p cs →
      ∀ k, placed.length ≤ k → k < c.parts.size → (c.part k).quantifier.min ≤ cs.sum := by
  induction cs with
  | nil =>
    intro placed p h k hk hk'
    simp only [FitsFrom] at h
    omega
  | cons x rest ih =>
    intro placed p h k hk hk'
    obtain ⟨-, hmin, -, -, -, hrest⟩ := h
    rw [List.sum_cons]
    by_cases hkp : k = placed.length
    · subst hkp
      omega
    · have hle := ih hrest k (by rw [List.length_append, List.length_singleton]; omega) hk'
      omega

/-- Under `make`, every count list that fits takes at least one token. -/
theorem Fits.sum_pos {parts : List Part} (hc : make parts = .ok c) {cs : List Nat}
    (h : c.Fits tokens start cs) : 0 < cs.sum := by
  obtain ⟨k, hk, hmin⟩ := make_min_pos hc
  have hle := FitsFrom.min_le_sum h k (Nat.zero_le _) hk
  omega

/-- The graph the loop starts from is that of no part placed. -/
theorem initialGraph_agree :
    MatchGraph.AgreeUpTo 0 (c.initialGraph tokens start) (prefixGraph tokens start []) := by
  refine ⟨rfl, fun i hi => ?_⟩
  obtain rfl : i = 0 := by omega
  simp [initialGraph, prefixGraph, MatchGraph.group?]

theorem setGroup_zero_cons (s s' : Nat × Nat) (l : List (Nat × Nat)) :
    setGroup ⟨(s :: l).toArray, tokens⟩ 0 s' = ⟨(s' :: l).toArray, tokens⟩ := by
  simp [setGroup]

/-- The first match of the recursion, when there is one, is the graph of the greatest count list
that fits, with group 0 spanning the tokens it takes; when there is none, nothing fits. -/
theorem firstMatch_spec {parts : List Part} (hc : make parts = .ok c)
    (hrefs : c.BackReferencesEarlier) (hstart : start ≤ tokens.size) :
    (∀ g, c.firstMatch tokens start = some g → ∃ cs, c.Fits tokens start cs ∧
      (∀ cs', c.Fits tokens start cs' → cs' ≤ cs) ∧ 0 < cs.sum ∧
      g = ⟨((start, start + cs.sum) :: slots start cs).toArray, tokens⟩) ∧
    (c.firstMatch tokens start = none → ∀ cs, ¬c.Fits tokens start cs) := by
  have hA := explore_answers hrefs c.parts.size [] (c.initialGraph tokens start) start
    (by simp) initialGraph_agree (by simp [initialGraph]) hstart
  simp only [firstMatch]
  cases hP : (c.explore tokens c.parts.size (c.initialGraph tokens start) start).stop with
  | some stop =>
    obtain ⟨cs, hfits, hmax, hstop, hgraph⟩ := hA.1 stop hP
    have hpos := Fits.sum_pos hc hfits
    -- the match takes a token, so it is completed with group 0 set to its span
    have hdone : completed start
        (c.explore tokens c.parts.size (c.initialGraph tokens start) start).graph stop =
        some ⟨((start, start + cs.sum) :: slots start cs).toArray, tokens⟩ := by
      rw [completed, if_neg (by omega), hgraph, List.nil_append, setGroup_zero_cons, hstop]
    dsimp only
    rw [hdone]
    refine ⟨fun g hg => ⟨cs, hfits, hmax, hpos, (Option.some.inj hg).symm⟩, fun h => ?_⟩
    cases h
  | none =>
    refine ⟨fun g hg => ?_, fun _ => (hA.2 hP).1⟩
    cases hg

/-- A budget already spent past its limit stops the loop at its first step. -/
theorem apply_overspent {b : StepBudget} (hb : b.limit < b.used) :
    (c.apply tokens start b).1 = .exceeded := by
  have hstep : b.step = (b.spend 1, false) := by
    rw [StepBudget.step_eq]
    simp only [Prod.mk.injEq, true_and, decide_eq_false_iff_not]
    omega
  simp only [apply]
  rw [search.eq_def]
  simp [hstep]

/-- Whatever the budget, a result `apply` returns is the first match of the recursion. -/
theorem apply_done {b : StepBudget} {r : Option MatchGraph}
    (hr : (c.apply tokens start b).1 = .done r) : r = c.firstMatch tokens start := by
  by_cases hb : b.used ≤ b.limit
  · rw [apply_eq hb] at hr
    by_cases hn : b.used + c.matchSteps tokens start ≤ b.limit
    · rw [if_pos hn] at hr
      cases hr
      rfl
    · rw [if_neg hn] at hr
      cases hr
  · rw [apply_overspent (Nat.lt_of_not_le hb)] at hr
    cases hr

/-- The backtracking loop of `apply` finds a match exactly when some count vector fits, and then
reports the slots of the greatest one in the lexicographic order, the first a search that tries
the largest count first at every part reaches, with group 0 spanning the tokens it takes. -/
theorem apply_finds_greatest_fit {parts : List Part} (hc : make parts = .ok c)
    (hrefs : c.BackReferencesEarlier) (hstart : start ≤ tokens.size) {b : StepBudget}
    {r : Option MatchGraph} (hr : (c.apply tokens start b).1 = .done r) :
    (r.isSome ↔ ∃ cs, c.Fits tokens start cs) ∧
    ∀ g, r = some g → ∃ cs, c.Fits tokens start cs ∧
      (∀ cs', c.Fits tokens start cs' → cs' ≤ cs) ∧ 0 < cs.sum ∧
      g = ⟨((start, start + cs.sum) :: slots start cs).toArray, tokens⟩ := by
  obtain rfl := apply_done hr
  obtain ⟨hsome, hnone⟩ := firstMatch_spec hc hrefs hstart
  refine ⟨⟨fun h => ?_, fun ⟨cs, hcs⟩ => ?_⟩, hsome⟩
  · obtain ⟨g, hg⟩ := Option.isSome_iff_exists.1 h
    obtain ⟨cs, hcs, -⟩ := hsome g hg
    exact ⟨cs, hcs⟩
  · cases hm : c.firstMatch tokens start with
    | some g => rfl
    | none => exact absurd hcs (hnone hm cs)

/-- A part of one or two tokens of anything, then one token whose text is that of the first
token of the first group. -/
def anyThenSame : Composition :=
  ⟨#[{ atom := .always, quantifier := ⟨1, 2⟩ }, { atom := .text ⟨.group 1, false, true, false⟩ }]⟩

/-- Two tokens that both read `a`. -/
def twoEqualTokens : Array Token :=
  #[{ (default : Token) with text := "a" }, { (default : Token) with text := "a" }]

/-- On two equal tokens the first part takes both, the second then finds no token, and the first
gives one back: the second part reads the first group and takes the last token. The match takes
one token for each part, the greatest count vector that fits. -/
theorem apply_gives_back_to_back_reference :
    (anyThenSame.apply twoEqualTokens 0 (.fresh 10)).1 =
      .done (some ⟨#[(0, 2), (0, 1), (1, 2)], twoEqualTokens⟩) ∧
    anyThenSame.Fits twoEqualTokens 0 [1, 1] ∧
    ∀ cs, anyThenSame.Fits twoEqualTokens 0 cs → cs ≤ [1, 1] := by
  have hc : make [{ atom := .always, quantifier := ⟨1, 2⟩ },
      { atom := .text ⟨.group 1, false, true, false⟩ }] = .ok anyThenSame := rfl
  have hrefs : anyThenSame.BackReferencesEarlier := by
    intro k hk
    -- the second part reads group 1, the first no group at all
    match k, hk with
    | 0, _ => rfl
    | 1, _ => rfl
  have hr : (anyThenSame.apply twoEqualTokens 0 (.fresh 10)).1 =
      .done (some ⟨#[(0, 2), (0, 1), (1, 2)], twoEqualTokens⟩) := by decide +kernel
  obtain ⟨-, hgreatest⟩ := apply_finds_greatest_fit hc hrefs (Nat.zero_le _) hr
  obtain ⟨cs, hfits, hle, -, hg⟩ := hgreatest _ rfl
  -- the groups of the match after the whole span are the slots of `cs`
  have hslots : slots 0 cs = [(0, 1), (1, 2)] := by
    have h := congrArg (fun g : MatchGraph => g.groups.toList.tail) hg
    simpa using h.symm
  obtain rfl : cs = [1, 1] := by
    rcases cs with _ | ⟨a, _ | ⟨b, _ | ⟨d, rest⟩⟩⟩ <;> simp [slots] at hslots
    obtain ⟨rfl, hb⟩ := hslots
    rw [show b = 1 by omega]
  exact ⟨hr, hfits, hle⟩

end Composition

end Proofreader
