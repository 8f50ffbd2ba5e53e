import Mathlib
import Proofreader.Proofs.SuggestionSpans

/-!
# Rule sets along a history of calls

A rule set caches the enabled flag of each of its rules (`enabledMask`) when a query first reads
it, and a change of its selectors clears the cache. A call does nothing else: with the cache set
aside, it only appends its selector (`forget_call`), so a history appends its selectors in order
(`replay_keeps`).

The cache is never stale. Whenever one is held, it is the mask the selectors give (`Coherent`):
a change clears it, and a query stores only the mask it reads, which for a coherent set is the
one the selectors give (`call_coherent`). So the cache is coherent along every history that
starts without one (`replay_coherent`), and then the set answers every query as it would with no
cache at all (`apply_forget`, `suggest_forget`, `checkDocument_forget`).
-/

namespace Proofreader

namespace RuleSet

/-- The set with its cache of enabled flags set aside. -/
def forget (rs : RuleSet) : RuleSet := { rs with enabledMask := none }

@[simp] theorem forget_rules (rs : RuleSet) : rs.forget.rules = rs.rules := rfl

@[simp] theorem forget_documentRules (rs : RuleSet) :
    rs.forget.documentRules = rs.documentRules := rfl

@[simp] theorem forget_selectors (rs : RuleSet) : rs.forget.selectors = rs.selectors := rfl

@[simp] theorem forget_defaultSelectors (rs : RuleSet) :
    rs.forget.defaultSelectors = rs.defaultSelectors := rfl

@[simp] theorem forget_enabledByDefault (rs : RuleSet) :
    rs.forget.enabledByDefault = rs.enabledByDefault := rfl

@[simp] theorem forget_enabledMask (rs : RuleSet) : rs.forget.enabledMask = none := rfl

/-- The flags the selectors give do not look at the cache. -/
@[simp] theorem computeMask_forget (rs : RuleSet) : rs.forget.computeMask = rs.computeMask := rfl

/-- A set without a cache reads the mask its selectors give. -/
theorem mask_of_enabledMask_none {rs : RuleSet} (h : rs.enabledMask = none) :
    rs.mask = rs.computeMask := by
  rw [mask, h, Option.getD_none]

/-! ## What a call changes -/

/-- Set aside the cache, and a call only appends its selector. -/
theorem forget_call (rs : RuleSet) (c : Call) :
    (rs.call c).forget = { rs.forget with selectors := rs.selectors ++ c.selector?.toList } := by
  rcases rs.call_eq c with ⟨p, hp, heq⟩ | ⟨hnone, heq | heq⟩
  · rw [heq, hp]
    rfl
  · rw [heq, hnone, Option.toList_none, List.append_nil]
    rfl
  · rw [heq, hnone, Option.toList_none, List.append_nil]
    rfl

@[simp] theorem call_rules (rs : RuleSet) (c : Call) : (rs.call c).rules = rs.rules := by
  have h := congrArg RuleSet.rules (forget_call rs c)
  exact h

@[simp] theorem call_documentRules (rs : RuleSet) (c : Call) :
    (rs.call c).documentRules = rs.documentRules := by
  have h := congrArg RuleSet.documentRules (forget_call rs c)
  exact h

@[simp] theorem call_defaultSelectors (rs : RuleSet) (c : Call) :
    (rs.call c).defaultSelectors = rs.defaultSelectors := by
  have h := congrArg RuleSet.defaultSelectors (forget_call rs c)
  exact h

@[simp] theorem call_enabledByDefault (rs : RuleSet) (c : Call) :
    (rs.call c).enabledByDefault = rs.enabledByDefault := by
  have h := congrArg RuleSet.enabledByDefault (forget_call rs c)
  exact h

@[simp] theorem call_selectors (rs : RuleSet) (c : Call) :
    (rs.call c).selectors = rs.selectors ++ c.selector?.toList := by
  have h := congrArg RuleSet.selectors (forget_call rs c)
  exact h

/-- A history keeps the rules and the options it started from, and appends the selectors of its
changes in order. -/
theorem replay_keeps (rs : RuleSet) (calls : List Call) :
    (rs.replay calls).rules = rs.rules ∧ (rs.replay calls).documentRules = rs.documentRules ∧
      (rs.replay calls).defaultSelectors = rs.defaultSelectors ∧
      (rs.replay calls).enabledByDefault = rs.enabledByDefault ∧
      (rs.replay calls).selectors = rs.selectors ++ calls.filterMap Call.selector? := by
  induction calls generalizing rs with
  | nil => simp
  | cons c rest ih =>
    obtain ⟨h1, h2, h3, h4, h5⟩ := ih (rs.call c)
    rw [replay_cons, h1, h2, h3, h4, h5]
    cases hc : c.selector? <;> simp [hc]

/-! ## The cache is never stale -/

/-- The cached mask, whenever there is one, is the mask the selectors give. -/
def Coherent (rs : RuleSet) : Prop := ∀ m, rs.enabledMask = some m → m = rs.computeMask

theorem coherent_of_enabledMask_none {rs : RuleSet} (h : rs.enabledMask = none) :
    rs.Coherent := fun m hm => by
  rw [h] at hm
  cases hm

/-- A coherent set reads the mask its selectors give. -/
theorem mask_eq_computeMask {rs : RuleSet} (h : rs.Coherent) : rs.mask = rs.computeMask := by
  cases hm : rs.enabledMask with
  | none => exact mask_of_enabledMask_none hm
  | some m => rw [mask, hm, Option.getD_some, h m hm]

/-- A query that caches the mask of a coherent set caches the one the selectors give. -/
theorem withMask_coherent {rs : RuleSet} (h : rs.Coherent) : rs.withMask.Coherent := by
  intro m hm
  simp only [withMask, Option.some.injEq] at hm
  rw [← hm, mask_eq_computeMask h]
  rfl

/-- One call keeps the cache coherent. -/
theorem call_coherent {rs : RuleSet} (h : rs.Coherent) (c : Call) : (rs.call c).Coherent := by
  rcases rs.call_eq c with ⟨p, -, heq⟩ | ⟨-, heq | heq⟩
  · -- a change clears the cache
    rw [heq]
    exact coherent_of_enabledMask_none rfl
  · rw [heq]
    exact h
  · rw [heq]
    exact withMask_coherent h

/-- Along a history of calls the cache stays coherent. -/
theorem replay_coherent {rs : RuleSet} (h : rs.Coherent) (calls : List Call) :
    (rs.replay calls).Coherent := by
  induction calls generalizing rs with
  | nil => exact h
  | cons c rest ih => exact ih (call_coherent h c)

/-- The rule at a position of a coherent set is checked as the last selector that picks its
identifier says. -/
theorem isEnabled_eq {rs : RuleSet} (h : rs.Coherent) {i : Nat} (hi : i < rs.rules.length) :
    rs.isEnabled i = rs.enabledFor rs.rules[i].id := by
  rw [isEnabled, mask_eq_computeMask h, computeMask, List.getElem?_map,
    List.getElem?_eq_getElem hi, Option.map_some, Option.getD_some]

/-- No position past the rules of a coherent set is checked. -/
theorem isEnabled_of_le {rs : RuleSet} (h : rs.Coherent) {i : Nat} (hi : rs.rules.length ≤ i) :
    rs.isEnabled i = false := by
  rw [isEnabled, mask_eq_computeMask h, computeMask, List.getElem?_map,
    List.getElem?_eq_none hi, Option.map_none, Option.getD_none]

/-! ## A coherent set answers as it would without its cache -/

theorem mask_forget {rs : RuleSet} (h : rs.Coherent) : rs.forget.mask = rs.mask := by
  rw [mask_of_enabledMask_none rfl, computeMask_forget, mask_eq_computeMask h]

theorem isEnabled_forget {rs : RuleSet} (h : rs.Coherent) : rs.forget.isEnabled = rs.isEnabled := by
  funext i
  rw [isEnabled, isEnabled, mask_forget h]

theorem apply_forget {rs : RuleSet} (h : rs.Coherent) : rs.forget.apply = rs.apply := by
  funext s inflect
  unfold apply
  rw [mask_forget h]
  rfl

theorem suggest_forget {rs : RuleSet} (h : rs.Coherent) : rs.forget.suggest = rs.suggest := by
  funext tokenizer text
  unfold suggest suggestWith
  rw [apply_forget h]

theorem correct_forget {rs : RuleSet} (h : rs.Coherent) : rs.forget.correct = rs.correct := by
  funext tokenizer text
  unfold correct
  rw [suggest_forget h]

theorem checkDocument_forget {rs : RuleSet} (h : rs.Coherent) :
    rs.forget.checkDocument = rs.checkDocument := by
  funext tokenizer text
  unfold checkDocument
  rw [apply_forget h]
  rfl

/-- Bitext rules do not look at the mask. -/
@[simp] theorem applyBitext_forget (rs : RuleSet) : rs.forget.applyBitext = rs.applyBitext := rfl

/-! ## Compiled sets -/

/-- Compiling a rule file keeps its document rules, starts from the selectors of the options and
no later ones, and caches no mask yet. -/
theorem ofSpec_fields {E : RegexEngine} {spec : RuleSetSpec} {options : RulesOptions}
    {rs : RuleSet} (h : ofSpec E spec options = .ok rs) :
    rs.documentRules = spec.documentRules ∧ rs.defaultSelectors = options.defaultSelectors ∧
      rs.selectors = [] ∧ rs.enabledByDefault = options.ids.isEmpty ∧ rs.enabledMask = none := by
  obtain ⟨rules, -, h⟩ := exists_of_bind_eq_ok h
  obtain ⟨bitextRules, -, h⟩ := exists_of_bind_eq_ok h
  -- the step budget option rewrites the grammar and bitext rules only
  cases options.stepBudget <;> cases h <;> exact ⟨rfl, rfl, rfl, rfl, rfl⟩

/-- A compiled set, after a history of calls, judges by the selectors of its options followed by
those of the history's changes. -/
theorem ofSpec_replay_selectors {E : RegexEngine} {spec : RuleSetSpec} {options : RulesOptions}
    {rs : RuleSet} (h : ofSpec E spec options = .ok rs) (calls : List Call) :
    (rs.replay calls).defaultSelectors ++ (rs.replay calls).selectors =
      options.ids.map (·, true) ++ options.ignoreIds.map (·, false) ++
        calls.filterMap Call.selector? := by
  obtain ⟨-, hdefault, hnone, -, -⟩ := ofSpec_fields h
  obtain ⟨-, -, hdefault', -, hsels⟩ := replay_keeps rs calls
  rw [hdefault', hsels, hdefault, hnone, List.nil_append]
  rfl

/-- A compiled set, after any history of calls, holds a coherent cache. -/
theorem ofSpec_replay_coherent {E : RegexEngine} {spec : RuleSetSpec} {options : RulesOptions}
    {rs : RuleSet} (h : ofSpec E spec options = .ok rs) (calls : List Call) :
    (rs.replay calls).Coherent :=
  replay_coherent (coherent_of_enabledMask_none (ofSpec_fields h).2.2.2.2) calls

end RuleSet

end Proofreader
