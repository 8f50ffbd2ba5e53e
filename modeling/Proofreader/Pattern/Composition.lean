import Proofreader.Pattern.Part

/-!
# Matching a pattern

A composition is the ordered list of parts of a pattern. It is matched at a fixed start token
by backtracking: each part first takes as many tokens as it can (up to its maximum), and when a
later part cannot reach its minimum, the innermost part that still can gives back one token and
matching resumes after it. The first complete match found this way is the answer; a match that
takes no token at all is none.

Every attempt to extend the match and every token a part tests costs one step of the budget,
so the step counts reported by the engine are those of this exact procedure.
-/

namespace Proofreader

/-- The outcome of work that spends budget: a value, or the budget ran out. -/
inductive Budgeted (α : Type) where
  | done (a : α)
  | exceeded
deriving Inhabited, DecidableEq

/-- An ordered list of parts, matched against a sequence of tokens. -/
structure Composition where
  parts : Array Part
deriving Inhabited

/-- Where the part at one depth of the search starts, and how many tokens it takes. -/
structure Frame where
  start : Nat
  count : Nat

namespace Composition

/-- A composition, refusing an empty one and one whose parts are all optional. -/
def make (parts : List Part) : Except Error Composition :=
  if parts.isEmpty then .error (.malformed "pattern must have at least one element")
  else if parts.all (·.quantifier.min = 0) then
    .error (.malformed "pattern can match the empty sequence: every element is optional")
  else .ok ⟨parts.toArray⟩

/-- The part at `i` (the default part when out of range). -/
def part (c : Composition) (i : Nat) : Part := c.parts[i]?.getD default

/-- A composition that `make` accepts has a part that must take a token. -/
theorem make_min_pos {parts : List Part} {c : Composition} (hc : make parts = .ok c) :
    ∃ k, k < c.parts.size ∧ 0 < (c.part k).quantifier.min := by
  unfold make at hc
  by_cases he : parts.isEmpty = true
  · rw [if_pos he] at hc
    cases hc
  by_cases ha : (parts.all fun p => decide (p.quantifier.min = 0)) = true
  · rw [if_neg he, if_pos ha] at hc
    cases hc
  rw [if_neg he, if_neg ha] at hc
  cases hc
  -- a part that is not optional, found by its index
  simp only [List.all_eq_true, decide_eq_true_eq, Classical.not_forall] at ha
  obtain ⟨q, hq, hmin⟩ := ha
  obtain ⟨k, hk, rfl⟩ := List.mem_iff_getElem.1 hq
  refine ⟨k, by simpa using hk, ?_⟩
  simp only [part, List.getElem?_toArray, List.getElem?_eq_getElem hk, Option.getD_some]
  omega

/-- How many tokens in a row from `position` part `index` takes, at most its maximum; each
token tested costs a step. `none` when the budget runs out. -/
def greedyRun (c : Composition) (index : Nat) (tokens : Array Token) (graph : MatchGraph)
    (position : Nat) (count : Nat) (b : StepBudget) : Option Nat × StepBudget :=
  let p := c.part index
  if _h : count < p.quantifier.max ∧ position + count < tokens.size then
    let (b, ok) := b.step
    if !ok then (none, b)
    else if !p.takes tokens graph (position + count) then (some count, b)
    else greedyRun c index tokens graph position (count + 1) b
  else (some count, b)
termination_by tokens.size - (position + count)
decreasing_by omega

/-- Sets group `i` of a graph. -/
def setGroup (g : MatchGraph) (i : Nat) (span : Nat × Nat) : MatchGraph :=
  { g with groups := g.groups.set! i span }

@[simp] theorem setGroup_tokens (g : MatchGraph) (i : Nat) (s : Nat × Nat) :
    (setGroup g i s).tokens = g.tokens := rfl

@[simp] theorem setGroup_size (g : MatchGraph) (i : Nat) (s : Nat × Nat) :
    (setGroup g i s).groups.size = g.groups.size := by
  simp [setGroup]

theorem group?_setGroup (g : MatchGraph) (i : Nat) (s : Nat × Nat) (j : Nat) :
    (setGroup g i s).group? j = if i = j ∧ i < g.groups.size then some s else g.group? j := by
  simp only [setGroup, MatchGraph.group?, Array.set!_eq_setIfInBounds,
    Array.getElem?_setIfInBounds]
  by_cases hij : i = j
  · subst hij
    by_cases hi : i < g.groups.size <;> simp [hi]
  · simp [hij]

/-- Gives back one token of the innermost part that can spare one, dropping the parts that
cannot; `none` when no part can. Returns the frames, the graph and the new position. -/
def giveBack (c : Composition) : List Frame → MatchGraph → Option (List Frame × MatchGraph × Nat)
  | [], _ => none
  | fr :: rest, g =>
    let depth := rest.length + 1
    if fr.count > (c.part (depth - 1)).quantifier.min then
      let stop := fr.start + (fr.count - 1)
      some (⟨fr.start, fr.count - 1⟩ :: rest, setGroup g depth (fr.start, stop), stop)
    else giveBack c rest (setGroup g depth (fr.start, fr.start))

/-- The search loop: frames on the stack (innermost first), the graph so far, the position
where the next part starts. -/
def search (c : Composition) (tokens : Array Token) (start : Nat) (fuel : Nat)
    (frames : List Frame) (g : MatchGraph) (position : Nat) (b : StepBudget) :
    Budgeted (Option MatchGraph) × StepBudget :=
  match fuel with
  | 0 => (.exceeded, b)
  | f + 1 =>
    let (b, ok) := b.step
    if !ok then (.exceeded, b)
    else
      let index := frames.length
      if index = c.parts.size then
        let stop := match frames with
          | fr :: _ => fr.start + fr.count
          | [] => start
        if stop = start then (.done none, b)
        else (.done (some (setGroup g 0 (start, stop))), b)
      else
        match c.greedyRun index tokens g position 0 b with
        | (none, b) => (.exceeded, b)
        | (some run, b) =>
          if run ≥ (c.part index).quantifier.min then
            search c tokens start f (⟨position, run⟩ :: frames)
              (setGroup g (index + 1) (position, position + run)) (position + run) b
          else
            match c.giveBack frames g with
            | none => (.done none, b)
            | some (frames, g, position) => search c tokens start f frames g position b

/-- The first match of the composition starting exactly at token `start`. -/
def apply (c : Composition) (tokens : Array Token) (start : Nat) (b : StepBudget) :
    Budgeted (Option MatchGraph) × StepBudget :=
  let g : MatchGraph := ⟨Array.replicate (c.parts.size + 1) (start, start), tokens⟩
  search c tokens start (b.limit - b.used + 2) [] g start b

end Composition

/-- Whether two spans share a token. -/
def spansOverlap (a b : Nat × Nat) : Bool := a.1 < b.2 && b.1 < a.2

/-- A composition with the antipatterns that block its matches. -/
structure Engine where
  composition : Composition
  antipatterns : List Composition := []
deriving Inhabited

namespace Engine

/-- The spans of all matches of one antipattern, at every start position from `i`. -/
def antipatternSpans (a : Composition) (tokens : Array Token) (i : Nat)
    (acc : List (Nat × Nat)) (b : StepBudget) : Budgeted (List (Nat × Nat)) × StepBudget :=
  if i < tokens.size then
    match a.apply tokens i b with
    | (.exceeded, b) => (.exceeded, b)
    | (.done none, b) => antipatternSpans a tokens (i + 1) acc b
    | (.done (some g), b) => antipatternSpans a tokens (i + 1) (g.span :: acc) b
  else (.done acc, b)
termination_by tokens.size - i

/-- The spans blocked by the antipatterns, antipattern by antipattern. -/
def blockedSpans (tokens : Array Token) : List Composition → List (Nat × Nat) → StepBudget →
    Budgeted (List (Nat × Nat)) × StepBudget
  | [], acc, b => (.done acc, b)
  | a :: rest, acc, b =>
    match antipatternSpans a tokens 0 acc b with
    | (.exceeded, b) => (.exceeded, b)
    | (.done acc, b) => blockedSpans tokens rest acc b

/-- Scans start positions from `i`: a match overlapping a blocked span is dropped; without
`findAll` the first kept match ends the scan, otherwise scanning resumes after it. -/
def scan (e : Engine) (tokens : Array Token) (findAll : Bool) (blocked : List (Nat × Nat))
    (fuel i : Nat) (acc : List MatchGraph) (b : StepBudget) :
    Budgeted (List MatchGraph) × StepBudget :=
  match fuel with
  | 0 => (.done acc.reverse, b)
  | f + 1 =>
    if i < tokens.size then
      match e.composition.apply tokens i b with
      | (.exceeded, b) => (.exceeded, b)
      | (.done none, b) => scan e tokens findAll blocked f (i + 1) acc b
      | (.done (some g), b) =>
        if blocked.any (spansOverlap · g.span) then
          scan e tokens findAll blocked f (i + 1) acc b
        else if !findAll then (.done (g :: acc).reverse, b)
        else scan e tokens findAll blocked f g.span.2 (g :: acc) b
    else (.done acc.reverse, b)

/-- The matches of the engine in a sequence of tokens: the leftmost one, or with `findAll` all
non-overlapping ones from left to right. -/
def findMatches (e : Engine) (tokens : Array Token) (findAll : Bool) (b : StepBudget) :
    Budgeted (List MatchGraph) × StepBudget :=
  match blockedSpans tokens e.antipatterns [] b with
  | (.exceeded, b) => (.exceeded, b)
  | (.done blocked, b) => scan e tokens findAll blocked (tokens.size + 1) 0 [] b

/-- With no antipattern match possible, blocking spans adds nothing and spends nothing. -/
theorem blockedSpans_empty :
    ∀ (antipatterns : List Composition) (acc : List (Nat × Nat)) (b : StepBudget),
      blockedSpans #[] antipatterns acc b = (.done acc, b)
  | [], _, _ => rfl
  | a :: rest, acc, b => by
    rw [blockedSpans, antipatternSpans,
      if_neg (show ¬0 < (#[] : Array Token).size from Nat.lt_irrefl 0)]
    exact blockedSpans_empty rest acc b

/-- An engine finds nothing in no tokens, whatever its budget. -/
theorem findMatches_empty (e : Engine) (findAll : Bool) (b : StepBudget) :
    e.findMatches #[] findAll b = (.done [], b) := by
  rw [findMatches, blockedSpans_empty]
  rfl

end Engine

end Proofreader
