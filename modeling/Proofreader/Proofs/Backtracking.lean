import Mathlib
import Proofreader.Pattern.Composition

/-!
# The backtracking loop as a recursive search

`Composition.search` keeps an explicit stack of frames: it pushes a frame whose part takes as
many tokens as it can, and when a part cannot reach its minimum it gives back one token of the
innermost frame that can spare one, popping the frames that cannot. This file gives the same
procedure as a recursion over the parts, `Composition.explore`: a part tries its counts from the
greedy one downwards, each with the parts after it explored recursively, until one completes
the match. The recursion also counts the budget steps the loop spends, and it threads the match
graph exactly as the loop does, stale groups included.

The main result, `Composition.loop_eq_explore`, says that from any frame stack the loop first
spends exactly the steps of the exploration below it and then goes on as the exploration says:
it completes the match, or it gives back from the frames below. A budget that runs out on the
way only cuts the run short. `Composition.apply_eq` specialises this to the empty stack:
`apply` returns the budget-free first match (`Composition.firstMatch`) when the budget has room
for `Composition.matchSteps` steps, and runs out otherwise.

The fuel of `search` is never what stops it: `search_fuel` shows that every fuel larger than
the remaining budget gives the same run, so the proofs work with `Composition.loop`, the search
with exactly that much fuel.
-/

namespace Proofreader

/-! ## The greedy run of one part -/

namespace Part

/-- How many tokens in a row from `position + count` the part takes on top of `count`, stopping
at its maximum and at the end of the tokens, paired with the number of tokens it tests. -/
def greedy (p : Part) (tokens : Array Token) (g : MatchGraph) (position count : Nat) :
    Nat × Nat :=
  if count < p.quantifier.max ∧ position + count < tokens.size then
    if p.takes tokens g (position + count) then
      (p.greedy tokens g position (count + 1)).map id (· + 1)
    else (count, 1)
  else (count, 0)
termination_by tokens.size - (position + count)

end Part

namespace Composition

variable {c : Composition} {tokens : Array Token} {start : Nat}

/-- The greedy run of the loop spends the steps of `Part.greedy` and returns its count; a budget
without room for them runs out. -/
theorem greedyRun_eq (index : Nat) (g : MatchGraph) (position count : Nat) {b : StepBudget}
    (hb : b.used ≤ b.limit) :
    c.greedyRun index tokens g position count b =
      if b.used + ((c.part index).greedy tokens g position count).2 ≤ b.limit then
        (some ((c.part index).greedy tokens g position count).1,
          b.spend ((c.part index).greedy tokens g position count).2)
      else (none, b.exhausted) := by
  fun_induction Part.greedy (c.part index) tokens g position count generalizing b with
  | case1 count hguard htakes ih =>
    rw [greedyRun, dif_pos hguard, StepBudget.step_eq]
    by_cases hstep : b.used + 1 ≤ b.limit
    · have hrest := ih (b := b.spend 1) (by simpa using hstep)
      simp only [hstep, decide_true, Bool.not_true, htakes, Bool.false_eq_true, if_false]
      rw [hrest]
      simp only [StepBudget.spend_used, StepBudget.spend_limit, StepBudget.spend_spend,
        StepBudget.exhausted_spend, Prod.map_fst, Prod.map_snd, id_eq]
      simp only [Nat.add_assoc, Nat.add_comm 1]
    · have hover : ¬b.used + ((c.part index).greedy tokens g position (count + 1)).2 + 1 ≤
          b.limit := by omega
      simp only [hstep, decide_false, Bool.not_false, if_true, Prod.map_snd, ← Nat.add_assoc,
        hover, if_false]
      rw [StepBudget.spend_one_eq_exhausted hb (by omega)]
  | case2 count hguard htakes =>
    rw [greedyRun, dif_pos hguard, StepBudget.step_eq]
    by_cases hstep : b.used + 1 ≤ b.limit
    · simp [hstep, htakes]
    · simp only [hstep, decide_false, Bool.not_false, if_true, if_false]
      rw [StepBudget.spend_one_eq_exhausted hb (by omega)]
  | case3 count hguard =>
    rw [greedyRun, dif_neg hguard]
    simp [hb, StepBudget.spend]

/-! ## One turn of the loop -/

/-- Where the match ends with these frames: at the end of the innermost one, or at the start. -/
def frameEnd (start : Nat) : List Frame → Nat
  | fr :: _ => fr.start + fr.count
  | [] => start

/-- The answer once every part has its frame: the graph with group 0 spanning the match, or
none for a match that took no token. -/
def completed (start : Nat) (g : MatchGraph) (stop : Nat) : Option MatchGraph :=
  if stop = start then none else some (setGroup g 0 (start, stop))

/-- One turn of the search loop, with the greedy run's cost made explicit: a step to look at
the stack, then either the answer or a greedy run followed by a push or a give-back. -/
theorem search_succ_eq (f : Nat) (frames : List Frame) (g : MatchGraph) (pos : Nat)
    {b : StepBudget} (hb : b.used ≤ b.limit) :
    c.search tokens start (f + 1) frames g pos b =
      if b.used + 1 ≤ b.limit then
        if frames.length = c.parts.size then
          (.done (completed start g (frameEnd start frames)), b.spend 1)
        else
          let r := (c.part frames.length).greedy tokens g pos 0
          if b.used + 1 + r.2 ≤ b.limit then
            if (c.part frames.length).quantifier.min ≤ r.1 then
              c.search tokens start f (⟨pos, r.1⟩ :: frames)
                (setGroup g (frames.length + 1) (pos, pos + r.1)) (pos + r.1) (b.spend (1 + r.2))
            else
              match c.giveBack frames g with
              | none => (.done none, b.spend (1 + r.2))
              | some (frames', g', pos') => c.search tokens start f frames' g' pos' (b.spend (1 + r.2))
          else (.exceeded, b.exhausted)
      else (.exceeded, b.exhausted) := by
  rw [search.eq_def, StepBudget.step_eq]
  by_cases hstep : b.used + 1 ≤ b.limit
  · simp only [hstep, decide_true, Bool.not_true, Bool.false_eq_true, if_false, if_true]
    by_cases hdone : frames.length = c.parts.size
    · simp only [hdone, if_true, completed]
      cases frames with
      | nil => simp [frameEnd]
      | cons fr rest => by_cases hs : fr.start + fr.count = start <;> simp [frameEnd, hs]
    · simp only [hdone, if_false]
      rw [greedyRun_eq _ _ _ _ (by simpa using hstep)]
      simp only [StepBudget.spend_used, StepBudget.spend_limit, StepBudget.spend_spend,
        StepBudget.exhausted_spend]
      by_cases hg : b.used + 1 + ((c.part frames.length).greedy tokens g pos 0).2 ≤ b.limit
      · -- the give-back is matched on in both sides: reduce each of its results alike
        cases c.giveBack frames g with
        | none => simp only [hg, if_true, ge_iff_le]
        | some t =>
          obtain ⟨frames', g', pos'⟩ := t
          simp only [hg, if_true, ge_iff_le]
      · simp only [hg, if_false]
  · simp only [hstep, decide_false, Bool.not_false, if_true, if_false]
    rw [StepBudget.spend_one_eq_exhausted hb (by omega)]

/-- Every fuel above what is left of the budget gives the same run: the budget runs out before the
fuel does. -/
theorem search_fuel {F F' : Nat} (frames : List Frame) (g : MatchGraph) (pos : Nat)
    {b : StepBudget} (hb : b.used ≤ b.limit) (hF : b.limit - b.used < F)
    (hF' : b.limit - b.used < F') :
    c.search tokens start F frames g pos b = c.search tokens start F' frames g pos b := by
  induction F generalizing F' frames g pos b with
  | zero => omega
  | succ f ih =>
    obtain ⟨f', rfl⟩ : ∃ f', F' = f' + 1 := ⟨F' - 1, by omega⟩
    rw [search_succ_eq f frames g pos hb, search_succ_eq f' frames g pos hb]
    -- each turn spends at least one step, so both fuels still exceed what is left
    have hrest : ∀ (n : Nat) (fr : List Frame) (g' : MatchGraph) (p : Nat),
        b.used + 1 + n ≤ b.limit →
          c.search tokens start f fr g' p (b.spend (1 + n)) =
            c.search tokens start f' fr g' p (b.spend (1 + n)) := by
      intro n fr g' p h
      have hu : (b.spend (1 + n)).used = b.used + (1 + n) := rfl
      exact ih fr g' p (by simp only [hu, StepBudget.spend_limit]; omega)
        (by simp only [hu, StepBudget.spend_limit]; omega)
        (by simp only [hu, StepBudget.spend_limit]; omega)
    by_cases h1 : b.used + 1 ≤ b.limit
    · simp only [h1, if_true]
      by_cases h2 : frames.length = c.parts.size
      · simp only [h2, if_true]
      · by_cases h3 : b.used + 1 + ((c.part frames.length).greedy tokens g pos 0).2 ≤ b.limit
        · simp only [h2, h3, if_true, if_false, hrest _ _ _ _ h3]
        · simp only [h2, h3, if_false]
    · simp only [h1, if_false]

/-- The search loop with as much fuel as the budget pays for. -/
def loop (c : Composition) (tokens : Array Token) (start : Nat) (frames : List Frame)
    (g : MatchGraph) (pos : Nat) (b : StepBudget) : Budgeted (Option MatchGraph) × StepBudget :=
  c.search tokens start (b.limit - b.used + 1) frames g pos b

/-- The graph `apply` starts from: every group empty at the start. -/
def initialGraph (c : Composition) (tokens : Array Token) (start : Nat) : MatchGraph :=
  ⟨Array.replicate (c.parts.size + 1) (start, start), tokens⟩

/-- `apply` is the loop from the empty stack. -/
theorem apply_eq_loop {b : StepBudget} (hb : b.used ≤ b.limit) :
    c.apply tokens start b = c.loop tokens start [] (c.initialGraph tokens start) start b :=
  search_fuel [] _ start hb (by omega) (by omega)

/-- One turn of the loop. -/
theorem loop_eq (frames : List Frame) (g : MatchGraph) (pos : Nat) {b : StepBudget}
    (hb : b.used ≤ b.limit) :
    c.loop tokens start frames g pos b =
      if b.used + 1 ≤ b.limit then
        if frames.length = c.parts.size then
          (.done (completed start g (frameEnd start frames)), b.spend 1)
        else
          let r := (c.part frames.length).greedy tokens g pos 0
          if b.used + 1 + r.2 ≤ b.limit then
            if (c.part frames.length).quantifier.min ≤ r.1 then
              c.loop tokens start (⟨pos, r.1⟩ :: frames)
                (setGroup g (frames.length + 1) (pos, pos + r.1)) (pos + r.1) (b.spend (1 + r.2))
            else
              match c.giveBack frames g with
              | none => (.done none, b.spend (1 + r.2))
              | some (frames', g', pos') => c.loop tokens start frames' g' pos' (b.spend (1 + r.2))
          else (.exceeded, b.exhausted)
      else (.exceeded, b.exhausted) := by
  have hfuel : b.limit - b.used + 1 = (b.limit - b.used) + 1 := rfl
  rw [loop, hfuel, search_succ_eq _ frames g pos hb]
  -- the recursive calls keep the fuel they had, which is still above what is left
  have hrest : ∀ (n : Nat) (fr : List Frame) (g' : MatchGraph) (p : Nat),
      b.used + 1 + n ≤ b.limit →
        c.search tokens start (b.limit - b.used) fr g' p (b.spend (1 + n)) =
          c.loop tokens start fr g' p (b.spend (1 + n)) := by
    intro n fr g' p h
    have hu : (b.spend (1 + n)).used = b.used + (1 + n) := rfl
    exact search_fuel fr g' p (by simp only [hu, StepBudget.spend_limit]; omega)
      (by simp only [hu, StepBudget.spend_limit]; omega)
      (by simp only [hu, StepBudget.spend_limit]; omega)
  by_cases h1 : b.used + 1 ≤ b.limit
  · simp only [h1, if_true]
    by_cases h2 : frames.length = c.parts.size
    · simp only [h2, if_true]
    · by_cases h3 : b.used + 1 + ((c.part frames.length).greedy tokens g pos 0).2 ≤ b.limit
      · simp only [h2, h3, if_true, if_false, hrest _ _ _ _ h3]
      · simp only [h2, h3, if_false]
  · simp only [h1, if_false]

/-- Giving back from a stack: the top frame spares a token if it has more than its part's
minimum, and is popped otherwise. -/
theorem giveBack_cons (fr : Frame) (rest : List Frame) (g : MatchGraph) :
    c.giveBack (fr :: rest) g =
      if (c.part rest.length).quantifier.min < fr.count then
        some (⟨fr.start, fr.count - 1⟩ :: rest,
          setGroup g (rest.length + 1) (fr.start, fr.start + (fr.count - 1)),
          fr.start + (fr.count - 1))
      else c.giveBack rest (setGroup g (rest.length + 1) (fr.start, fr.start)) := by
  simp only [giveBack, Nat.add_sub_cancel, gt_iff_lt]

/-! ## The recursive search -/

end Composition

/-- What the loop does from one depth of its stack on: where the match stops if it completes,
the graph the loop holds when it is done with this depth, and the steps it spends. -/
structure Probe where
  stop : Option Nat
  graph : MatchGraph
  steps : Nat

namespace Probe

/-- The same outcome, with `n` steps spent first. -/
def after (P : Probe) (n : Nat) : Probe := { P with steps := n + P.steps }

@[simp] theorem after_stop (P : Probe) (n : Nat) : (P.after n).stop = P.stop := rfl

@[simp] theorem after_graph (P : Probe) (n : Nat) : (P.after n).graph = P.graph := rfl

@[simp] theorem after_steps (P : Probe) (n : Nat) : (P.after n).steps = n + P.steps := rfl

end Probe

namespace Composition

variable {c : Composition} {tokens : Array Token} {start : Nat}

/-- The counts `cnt`, `cnt - 1`, … of the part at depth `k`, which starts at `p`, tried one
after another with `child` exploring the parts after it, until one completes the match or the
count would go below `least`. A part that gives up leaves its group empty at `p`, as the loop
does when it pops the frame. -/
def tryCounts (child : MatchGraph → Nat → Probe) (k p least : Nat) : Nat → MatchGraph → Probe
  | cnt, g =>
    let res := child g (p + cnt)
    match res.stop, cnt with
    | some _, _ => res
    | none, cnt' + 1 =>
      if least ≤ cnt' then
        (tryCounts child k p least cnt' (setGroup res.graph (k + 1) (p, p + cnt'))).after res.steps
      else { res with graph := setGroup res.graph (k + 1) (p, p) }
    | none, 0 => { res with graph := setGroup res.graph (k + 1) (p, p) }

/-- The search from the part with `d` parts left, at position `p` with graph `g`: the part takes
as many tokens as it can and, if that reaches its minimum, tries its counts downwards. Looking at
the stack costs a step, and so does every token a greedy run tests. -/
def explore (c : Composition) (tokens : Array Token) : Nat → MatchGraph → Nat → Probe
  | 0, g, p => ⟨some p, g, 1⟩
  | d + 1, g, p =>
    let k := c.parts.size - (d + 1)
    let r := (c.part k).greedy tokens g p 0
    if (c.part k).quantifier.min ≤ r.1 then
      (tryCounts (c.explore tokens d) k p (c.part k).quantifier.min r.1
        (setGroup g (k + 1) (p, p + r.1))).after (1 + r.2)
    else ⟨none, g, 1 + r.2⟩

/-- How the loop goes on once it is done with the current depth: with the answer, or by giving
back from the frames below. -/
def resume (c : Composition) (tokens : Array Token) (start : Nat) (frames : List Frame)
    (P : Probe) (b : StepBudget) : Budgeted (Option MatchGraph) × StepBudget :=
  match P.stop with
  | some stop => (.done (completed start P.graph stop), b)
  | none =>
    match c.giveBack frames P.graph with
    | none => (.done none, b)
    | some (frames', g', pos') => c.loop tokens start frames' g' pos' b

@[simp] theorem resume_after (frames : List Frame) (P : Probe) (n : Nat) (b : StepBudget) :
    c.resume tokens start frames (P.after n) b = c.resume tokens start frames P b := rfl

/-- A completed match does not look at the frames. -/
theorem resume_of_stop {frames : List Frame} {P : Probe} {stop : Nat}
    (h : P.stop = some stop) (frames' : List Frame) (b : StepBudget) :
    c.resume tokens start frames P b = c.resume tokens start frames' P b := by
  simp only [resume, h]

/-- A match not completed at this depth is given back from the frames below. -/
theorem resume_of_none {frames : List Frame} {P : Probe} (h : P.stop = none) (b : StepBudget) :
    c.resume tokens start frames P b =
      match c.giveBack frames P.graph with
      | none => (.done none, b)
      | some (frames', g', pos') => c.loop tokens start frames' g' pos' b := by
  simp only [resume, h]

/-- Once the parts after a frame are explored, the loop tries the frame's next smaller count, or
pops it and gives back further down. -/
theorem loop_eq_tryCounts {d : Nat}
    (ih : ∀ (frames : List Frame) (g : MatchGraph) (pos : Nat) {b : StepBudget},
      frames.length + d = c.parts.size → pos = frameEnd start frames → b.used ≤ b.limit →
      c.loop tokens start frames g pos b =
        if b.used + (c.explore tokens d g pos).steps ≤ b.limit then
          c.resume tokens start frames (c.explore tokens d g pos)
            (b.spend (c.explore tokens d g pos).steps)
        else (.exceeded, b.exhausted))
    (frames : List Frame) (pos : Nat) (hd : frames.length + (d + 1) = c.parts.size) :
    ∀ (cnt : Nat) (g : MatchGraph) {b : StepBudget}, b.used ≤ b.limit →
      c.loop tokens start (⟨pos, cnt⟩ :: frames) g (pos + cnt) b =
        if b.used + (tryCounts (c.explore tokens d) frames.length pos
            (c.part frames.length).quantifier.min cnt g).steps ≤ b.limit then
          c.resume tokens start frames (tryCounts (c.explore tokens d) frames.length pos
            (c.part frames.length).quantifier.min cnt g)
            (b.spend (tryCounts (c.explore tokens d) frames.length pos
              (c.part frames.length).quantifier.min cnt g).steps)
        else (.exceeded, b.exhausted) := by
  intro cnt
  induction cnt with
  | zero =>
    intro g b hb
    rw [ih (⟨pos, 0⟩ :: frames) g (pos + 0) (by simp only [List.length_cons]; omega) rfl hb]
    cases hR : (c.explore tokens d g (pos + 0)).stop with
    | some stop =>
      rw [tryCounts.eq_1 _ _ _ _ _ _ _ hR, resume_of_stop hR frames]
    | none =>
      rw [tryCounts.eq_3 _ _ _ _ _ hR]
      simp only [resume, hR, giveBack_cons, Nat.not_lt_zero, if_false]
  | succ cnt ihc =>
    intro g b hb
    rw [ih (⟨pos, cnt + 1⟩ :: frames) g (pos + (cnt + 1)) (by simp only [List.length_cons]; omega)
      rfl hb]
    generalize hR : c.explore tokens d g (pos + (cnt + 1)) = R
    cases hstop : R.stop with
    | some stop =>
      rw [tryCounts.eq_1 _ _ _ _ _ _ _ (hR ▸ hstop), hR, resume_of_stop hstop frames]
    | none =>
      rw [tryCounts.eq_2 _ _ _ _ _ _ (hR ▸ hstop), hR]
      by_cases hmin : (c.part frames.length).quantifier.min ≤ cnt
      · -- the frame spares a token: the loop goes on with the next smaller count
        have hgive : c.giveBack (⟨pos, cnt + 1⟩ :: frames) R.graph =
            some (⟨pos, cnt⟩ :: frames, setGroup R.graph (frames.length + 1) (pos, pos + cnt),
              pos + cnt) := by
          rw [giveBack_cons, if_pos (by dsimp only; omega)]
          rfl
        simp only [hmin, if_true, Probe.after_steps, resume_after]
        by_cases hfit : b.used + R.steps ≤ b.limit
        · rw [if_pos hfit, resume_of_none hstop, hgive]
          dsimp only
          rw [ihc _ (by simp only [StepBudget.spend_used, StepBudget.spend_limit]; omega)]
          simp only [StepBudget.spend_used, StepBudget.spend_limit, StepBudget.spend_spend,
            StepBudget.exhausted_spend, Nat.add_assoc]
        · rw [if_neg hfit, if_neg (by omega)]
      · -- the frame is at its minimum: it is popped and the loop gives back further down
        have hgive : c.giveBack (⟨pos, cnt + 1⟩ :: frames) R.graph =
            c.giveBack frames (setGroup R.graph (frames.length + 1) (pos, pos)) := by
          rw [giveBack_cons, if_neg (by dsimp only; omega)]
        simp only [hmin, if_false]
        have hstop' : ({ R with graph := setGroup R.graph (frames.length + 1) (pos, pos) } :
            Probe).stop = none := hstop
        rw [resume_of_none hstop, hgive, resume_of_none hstop']

/-- From a stack of frames with `d` parts left, the loop spends exactly the steps of the recursive
search below the stack, and then resumes as that search ends: with the answer, or by giving back
from the frames below. A budget without room for the steps runs out. -/
theorem loop_eq_explore (d : Nat) :
    ∀ (frames : List Frame) (g : MatchGraph) (pos : Nat) {b : StepBudget},
      frames.length + d = c.parts.size → pos = frameEnd start frames → b.used ≤ b.limit →
      c.loop tokens start frames g pos b =
        if b.used + (c.explore tokens d g pos).steps ≤ b.limit then
          c.resume tokens start frames (c.explore tokens d g pos)
            (b.spend (c.explore tokens d g pos).steps)
        else (.exceeded, b.exhausted) := by
  induction d with
  | zero =>
    intro frames g pos b hd hpos hb
    rw [loop_eq frames g pos hb]
    simp only [explore, resume, ← hpos, show frames.length = c.parts.size by omega, if_true]
    rfl
  | succ d ih =>
    intro frames g pos b hd hpos hb
    have hk : c.parts.size - (d + 1) = frames.length := by omega
    rw [loop_eq frames g pos hb]
    simp only [explore, hk, show frames.length ≠ c.parts.size by omega, if_false]
    -- the greedy run of the part at this depth decides between a push and a give-back
    by_cases hg : b.used + 1 + ((c.part frames.length).greedy tokens g pos 0).2 ≤ b.limit
    · simp only [show b.used + 1 ≤ b.limit by omega, hg, if_true]
      by_cases hmin : (c.part frames.length).quantifier.min ≤
          ((c.part frames.length).greedy tokens g pos 0).1
      · -- a push: the loop tries the counts of this part from the greedy one downwards
        simp only [hmin, if_true, Probe.after_steps, resume_after]
        have hb' : (b.spend (1 + ((c.part frames.length).greedy tokens g pos 0).2)).used ≤
            (b.spend (1 + ((c.part frames.length).greedy tokens g pos 0).2)).limit := by
          simp only [StepBudget.spend_used, StepBudget.spend_limit]
          omega
        rw [loop_eq_tryCounts ih frames pos hd _ _ hb']
        simp only [StepBudget.spend_used, StepBudget.spend_limit, StepBudget.spend_spend,
          StepBudget.exhausted_spend, Nat.add_assoc]
      · -- a give-back from the frames below, at the cost of the failed greedy run
        simp only [hmin, if_false, resume_of_none (P := ⟨none, g, _⟩) rfl]
        rw [if_pos (by omega)]
    · -- the budget runs out during the greedy run or before it, and the search costs as much
      simp only [hg, if_false, ite_self]
      split
      · rw [if_neg (by simp only [Probe.after_steps]; omega)]
      · rw [if_neg (by dsimp only; omega)]

/-! ## The budget-free run of `apply` -/

/-- What the search from `start` finds when the budget does not stop it: the first match, or none.
-/
def firstMatch (c : Composition) (tokens : Array Token) (start : Nat) : Option MatchGraph :=
  let P := c.explore tokens c.parts.size (c.initialGraph tokens start) start
  match P.stop with
  | some stop => completed start P.graph stop
  | none => none

/-- The steps the search from `start` spends when the budget does not stop it. -/
def matchSteps (c : Composition) (tokens : Array Token) (start : Nat) : Nat :=
  (c.explore tokens c.parts.size (c.initialGraph tokens start) start).steps

/-- `apply` spends the steps of the whole search and returns its first match; a budget without
room for them runs out, and that is all the budget changes. -/
theorem apply_eq {b : StepBudget} (hb : b.used ≤ b.limit) :
    c.apply tokens start b =
      if b.used + c.matchSteps tokens start ≤ b.limit then
        (.done (c.firstMatch tokens start), b.spend (c.matchSteps tokens start))
      else (.exceeded, b.exhausted) := by
  rw [apply_eq_loop hb, loop_eq_explore c.parts.size [] _ start (by simp) rfl hb]
  simp only [resume, firstMatch, matchSteps]
  cases (c.explore tokens c.parts.size (c.initialGraph tokens start) start).stop <;> rfl

end Composition

end Proofreader
