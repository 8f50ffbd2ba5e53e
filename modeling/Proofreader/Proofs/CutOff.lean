import Proofreader.Proofs.Backtracking
import Proofreader.Rule.Disambiguation

/-!
# The step budget only cuts a run short

Matching a pattern, an engine's search for matches and the rules built on them all spend one
budget. This file shows that the budget never changes what they find: each of them, run to the
end, gives a fixed result after a fixed number of steps, and a budget returns exactly that
result when it has room for those steps and runs out otherwise.

`CutsOff m r n` states this of a budgeted computation `m`. `Composition.apply_eq` gives it for
matching a pattern at one position; `CutsOff.andThen` carries it through running one computation
after another on the same budget, which is how the antipattern scans and the main scan of an
engine share their budget. For grammar and disambiguation rules the budget is the rule's own
`stepBudget`: a rule gives its budget-free result or the error that its pattern is too complex,
and which one depends only on whether the budget reaches the steps its search needs.
-/

namespace Proofreader

/-- A budgeted computation that the budget only cuts short: run to the end it gives `r` after
`n` steps, and from any budget that is not yet exceeded it does exactly that when there is room
for the steps and runs out otherwise. -/
def CutsOff {α : Type} (m : StepBudget → Budgeted α × StepBudget) (r : α) (n : Nat) : Prop :=
  ∀ b : StepBudget, b.used ≤ b.limit →
    m b = if b.used + n ≤ b.limit then (.done r, b.spend n) else (.exceeded, b.exhausted)

/-- Runs `m`, then `k` on its result with the budget `m` leaves; a budget that runs out stops
both. -/
def thenRun {α β : Type} (m : StepBudget → Budgeted α × StepBudget)
    (k : α → StepBudget → Budgeted β × StepBudget) (b : StepBudget) : Budgeted β × StepBudget :=
  match m b with
  | (.exceeded, b) => (.exceeded, b)
  | (.done x, b) => k x b

namespace CutsOff

variable {α β : Type}

/-- A result at hand costs nothing. -/
theorem done (r : α) : CutsOff (fun b => (.done r, b)) r 0 := by
  intro b hb
  rw [if_pos (by omega), StepBudget.spend_zero]

/-- Running `m` and then `k` on its result, on the budget `m` leaves: the steps add up, and a
budget that runs out in either stops the whole. -/
theorem andThen {m : StepBudget → Budgeted α × StepBudget}
    {k : α → StepBudget → Budgeted β × StepBudget} {r : α} {r' : β} {n n' : Nat}
    (hm : CutsOff m r n) (hk : CutsOff (k r) r' n') : CutsOff (thenRun m k) r' (n + n') := by
  intro b hb
  rw [thenRun, hm b hb]
  by_cases h : b.used + n ≤ b.limit
  · have hb' : (b.spend n).used ≤ (b.spend n).limit := by
      simp only [StepBudget.spend_used, StepBudget.spend_limit]
      exact h
    rw [if_pos h]
    dsimp only
    rw [hk (b.spend n) hb']
    simp only [StepBudget.spend_used, StepBudget.spend_limit, StepBudget.spend_spend,
      StepBudget.exhausted_spend, Nat.add_assoc]
  · rw [if_neg h, if_neg (by omega)]

/-- With a fresh budget of `L` steps: the result when `L` reaches the steps, and running out
otherwise. -/
theorem fresh {m : StepBudget → Budgeted α × StepBudget} {r : α} {n : Nat} (h : CutsOff m r n)
    (L : Nat) : (m (.fresh L)).1 = if n ≤ L then .done r else .exceeded := by
  rw [h (.fresh L) (Nat.zero_le L)]
  by_cases hn : n ≤ L
  · rw [if_pos (by simp only [StepBudget.fresh]; omega), if_pos hn]
  · rw [if_neg (by simp only [StepBudget.fresh]; omega), if_neg hn]

end CutsOff

/-! ## Matching a pattern -/

namespace Composition

/-- Matching at one position: the first match after the steps of the whole search. -/
theorem apply_cutsOff (c : Composition) (tokens : Array Token) (start : Nat) :
    CutsOff (c.apply tokens start) (c.firstMatch tokens start) (c.matchSteps tokens start) :=
  fun _ hb => apply_eq hb

end Composition

/-! ## The scans of an engine -/

namespace Engine

/-- The scan of one antipattern from position `i` on. -/
theorem antipatternSpans_cutsOff (a : Composition) (tokens : Array Token) (i : Nat)
    (acc : List (Nat × Nat)) : ∃ r n, CutsOff (antipatternSpans a tokens i acc) r n := by
  by_cases hi : i < tokens.size
  · -- a match at `i`, then the scan from `i + 1` with its span added when there is one
    let k : Option MatchGraph → StepBudget → Budgeted (List (Nat × Nat)) × StepBudget :=
      fun x => antipatternSpans a tokens (i + 1) (x.elim acc (·.span :: acc))
    have heq : antipatternSpans a tokens i acc = thenRun (a.apply tokens i) k := by
      funext b
      rw [antipatternSpans, if_pos hi, thenRun]
      rcases a.apply tokens i b with ⟨⟨_ | _⟩ | _, _⟩ <;> rfl
    obtain ⟨r, n, hrest⟩ := antipatternSpans_cutsOff a tokens (i + 1)
      ((a.firstMatch tokens i).elim acc (·.span :: acc))
    rw [heq]
    exact ⟨r, _, CutsOff.andThen (k := k) (a.apply_cutsOff tokens i) hrest⟩
  · refine ⟨acc, 0, ?_⟩
    have heq : antipatternSpans a tokens i acc = fun b => (.done acc, b) := by
      funext b
      rw [antipatternSpans, if_neg hi]
    rw [heq]
    exact CutsOff.done acc
termination_by tokens.size - i

/-- The scans of a list of antipatterns, one after another on one budget. -/
theorem blockedSpans_cutsOff (tokens : Array Token) :
    ∀ (antipatterns : List Composition) (acc : List (Nat × Nat)),
      ∃ r n, CutsOff (blockedSpans tokens antipatterns acc) r n
  | [], acc => ⟨acc, 0, by
      have heq : blockedSpans tokens [] acc = fun b => (.done acc, b) := by
        funext b
        rw [blockedSpans]
      rw [heq]
      exact CutsOff.done acc⟩
  | a :: rest, acc => by
    have heq : blockedSpans tokens (a :: rest) acc =
        thenRun (antipatternSpans a tokens 0 acc) (blockedSpans tokens rest) := by
      funext b
      rw [blockedSpans, thenRun]
      rcases antipatternSpans a tokens 0 acc b with ⟨_ | _, _⟩ <;> rfl
    obtain ⟨r₀, n₀, h₀⟩ := antipatternSpans_cutsOff a tokens 0 acc
    obtain ⟨r, n, h⟩ := blockedSpans_cutsOff tokens rest r₀
    rw [heq]
    exact ⟨r, n₀ + n, h₀.andThen h⟩

/-- The main scan from position `i` on, past the blocked spans. -/
theorem scan_cutsOff (e : Engine) (tokens : Array Token) (findAll : Bool)
    (blocked : List (Nat × Nat)) :
    ∀ (fuel i : Nat) (acc : List MatchGraph),
      ∃ r n, CutsOff (scan e tokens findAll blocked fuel i acc) r n
  | 0, i, acc => ⟨acc.reverse, 0, by
      have heq : scan e tokens findAll blocked 0 i acc = fun b => (.done acc.reverse, b) := by
        funext b
        rw [scan]
      rw [heq]
      exact CutsOff.done acc.reverse⟩
  | f + 1, i, acc => by
    by_cases hi : i < tokens.size
    · -- a match at `i`; what follows depends on it, on the blocked spans and on `findAll`
      let k : Option MatchGraph → StepBudget → Budgeted (List MatchGraph) × StepBudget :=
        fun x => x.elim (scan e tokens findAll blocked f (i + 1) acc) fun g =>
          if blocked.any (spansOverlap · g.span) then scan e tokens findAll blocked f (i + 1) acc
          else if !findAll then fun b => (.done (g :: acc).reverse, b)
          else scan e tokens findAll blocked f g.span.2 (g :: acc)
      have heq : scan e tokens findAll blocked (f + 1) i acc =
          thenRun (e.composition.apply tokens i) k := by
        funext b
        rw [scan, if_pos hi, thenRun]
        rcases e.composition.apply tokens i b with ⟨⟨_ | g⟩ | _, b'⟩
        · rfl
        · simp only [k, Option.elim_some]
          split
          · rfl
          · split <;> rfl
        · rfl
      have hk : ∃ r n, CutsOff (k (e.composition.firstMatch tokens i)) r n := by
        cases e.composition.firstMatch tokens i with
        | none => exact scan_cutsOff e tokens findAll blocked f (i + 1) acc
        | some g =>
          simp only [k, Option.elim_some]
          split
          · exact scan_cutsOff e tokens findAll blocked f (i + 1) acc
          · split
            · exact ⟨_, 0, CutsOff.done _⟩
            · exact scan_cutsOff e tokens findAll blocked f g.span.2 (g :: acc)
      obtain ⟨r, n, h⟩ := hk
      rw [heq]
      exact ⟨r, _, CutsOff.andThen (k := k) (e.composition.apply_cutsOff tokens i) h⟩
    · refine ⟨acc.reverse, 0, ?_⟩
      have heq : scan e tokens findAll blocked (f + 1) i acc = fun b => (.done acc.reverse, b) := by
        funext b
        rw [scan, if_neg hi]
      rw [heq]
      exact CutsOff.done acc.reverse

/-- The matches of an engine: its antipattern scans and its main scan spend one budget, and
together the budget only cuts them short. -/
theorem findMatches_cutsOff (e : Engine) (tokens : Array Token) (findAll : Bool) :
    ∃ r n, CutsOff (e.findMatches tokens findAll) r n := by
  have heq : e.findMatches tokens findAll = thenRun (blockedSpans tokens e.antipatterns [])
      fun blocked => scan e tokens findAll blocked (tokens.size + 1) 0 [] := by
    funext b
    rw [findMatches, thenRun]
    rcases blockedSpans tokens e.antipatterns [] b with ⟨_ | _, _⟩ <;> rfl
  obtain ⟨blocked, n₀, h₀⟩ := blockedSpans_cutsOff tokens e.antipatterns []
  obtain ⟨r, n, h⟩ := scan_cutsOff e tokens findAll blocked (tokens.size + 1) 0 []
  rw [heq]
  exact ⟨r, n₀ + n, h₀.andThen h⟩

end Engine

/-! ## Rules -/

namespace Rule

/-- A grammar rule's budget only decides whether it answers: with a budget that reaches the
steps of its search it gives its budget-free suggestions (or their own error), and with less it
fails as too complex. -/
theorem apply_withBudget (r : Rule) (s : Sentence) (inflect : Inflector) :
    ∃ res n, ∀ L : Nat, ({ r with stepBudget := L }).apply s inflect =
      if n ≤ L then res else .error (.tooComplex r.id.text L) := by
  obtain ⟨gs, n, h⟩ := r.engine.findMatches_cutsOff s.view.tokens r.findAll
  refine ⟨gs.mapM (r.suggestionFor s.view inflect), n, fun L => ?_⟩
  have hrun := h (.fresh L) (Nat.zero_le L)
  simp only [StepBudget.fresh] at hrun
  simp only [apply, matchesIn, StepBudget.fresh, hrun, Nat.zero_add]
  by_cases hn : n ≤ L
  · simp only [hn, if_true]
    rfl
  · simp only [hn, if_false]
    rfl

end Rule

namespace DisambiguationRule

/-- Changing readings does not look at the step budget. -/
theorem changeAll_withBudget (r : DisambiguationRule) (L : Nat) (view : View) :
    ∀ (indices : List Nat) (tokens : Array Token),
      ({ r with stepBudget := L }).changeAll view indices tokens = r.changeAll view indices tokens
  | [], tokens => rfl
  | i :: rest, tokens => by
    simp only [changeAll]
    cases view.fullIndex i with
    | error e => rfl
    | ok j =>
      simp only [bind, Except.bind]
      cases tokens[j]? with
      | none => exact changeAll_withBudget r L view rest tokens
      | some t => exact changeAll_withBudget r L view rest _

/-- A disambiguation rule's budget only decides whether it answers, as for grammar rules. -/
theorem apply_withBudget (r : DisambiguationRule) (s : Sentence) :
    ∃ res n, ∀ L : Nat, ({ r with stepBudget := L }).apply s =
      if n ≤ L then res else .error (.tooComplex r.id.text L) := by
  obtain ⟨gs, n, h⟩ := r.engine.findMatches_cutsOff s.view.tokens true
  refine ⟨(do
    let tokens ← r.changeAll s.view (gs.flatMap r.markedIndices) s.tokens
    pure ⟨tokens⟩), n, fun L => ?_⟩
  have hrun := h (.fresh L) (Nat.zero_le L)
  simp only [StepBudget.fresh] at hrun
  simp only [apply, StepBudget.fresh, hrun, Nat.zero_add]
  by_cases hn : n ≤ L
  · simp only [hn, if_true, changeAll_withBudget]
    rfl
  · simp only [hn, if_false]
    rfl

end DisambiguationRule

/-! ## The cut-off law -/

/-- The step budget only ever cuts a run short. Matching a pattern at a position spends
`matchSteps` steps and finds `firstMatch`; the matches of an engine, whose antipattern scans and
main scan share one budget, likewise come after a fixed number of steps; and a grammar or
disambiguation rule returns its budget-free result when its budget reaches that number and the
error that its pattern is too complex otherwise. Success is therefore upward closed in the
budget, and a larger budget never changes the answer. -/
theorem step_budget_only_cuts_off :
    (∀ (c : Composition) (tokens : Array Token) (start L : Nat),
      (c.apply tokens start (.fresh L)).1 =
        if c.matchSteps tokens start ≤ L then .done (c.firstMatch tokens start) else .exceeded) ∧
    (∀ (e : Engine) (tokens : Array Token) (findAll : Bool), ∃ r n, ∀ L : Nat,
      (e.findMatches tokens findAll (.fresh L)).1 = if n ≤ L then .done r else .exceeded) ∧
    (∀ (rule : Rule) (s : Sentence) (inflect : Inflector), ∃ res n, ∀ L : Nat,
      ({ rule with stepBudget := L }).apply s inflect =
        if n ≤ L then res else .error (.tooComplex rule.id.text L)) ∧
    (∀ (rule : DisambiguationRule) (s : Sentence), ∃ res n, ∀ L : Nat,
      ({ rule with stepBudget := L }).apply s =
        if n ≤ L then res else .error (.tooComplex rule.id.text L)) := by
  refine ⟨fun c tokens start L => (c.apply_cutsOff tokens start).fresh L, ?_,
    Rule.apply_withBudget, DisambiguationRule.apply_withBudget⟩
  intro e tokens findAll
  obtain ⟨r, n, h⟩ := e.findMatches_cutsOff tokens findAll
  exact ⟨r, n, h.fresh⟩

end Proofreader
