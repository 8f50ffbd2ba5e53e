import Mathlib
import Proofreader.Proofs.History
import Proofreader.Proofs.Priority
import Proofreader.Proofs.InRange

/-!
# Which rules a rule set checks

A set compiled with options `O` starts with the selectors of `O.ids`, which enable, followed by
those of `O.ignore_ids`, which disable; each later call to `enable` or `disable` appends one more.
Whether the rule at a position is checked is decided by the last of these selectors that picks
its identifier (`isEnabled_of_lastPick`), and by whether `O.ids` is empty when none does
(`isEnabled_of_no_pick`).

Queries read the enabled flags through a cached mask. A query leaves every answer as it was
(`isEnabled_withMask`), and a change clears the cache, so the cache never holds a stale mask
(`Proofs/History`). One more selector changes exactly the rules it picks (`isEnabled_enable`,
`isEnabled_disable`), and checking a sentence runs exactly the rules that are enabled
(`apply_eq_enabled`). `enabled_follows_last_selector` gathers these facts for every history of
calls on a compiled set.
-/

namespace Proofreader

namespace RuleSet

/-! ## The last selector that picks a rule -/

/-- `(s, b)` is the last selector of `sels` that picks the identifier. -/
def LastPick (sels : List (Selector × Bool)) (id : RuleId) (s : Selector) (b : Bool) : Prop :=
  ∃ pre post, sels = pre ++ (s, b) :: post ∧ s.selects id = true ∧
    ∀ y ∈ post, y.1.selects id = false

/-- The last selector that picks an identifier decides whether it is checked. -/
theorem enabledFor_of_lastPick {rs : RuleSet} {id : RuleId} {s : Selector} {b : Bool}
    (h : LastPick (rs.defaultSelectors ++ rs.selectors) id s b) : rs.enabledFor id = b := by
  obtain ⟨pre, post, hsels, hs, hpost⟩ := h
  -- read backwards, the selectors after the last pick come first and none of them picks
  have hfind : ((rs.defaultSelectors ++ rs.selectors).reverse.find? fun y => y.1.selects id) =
      some (s, b) := by
    rw [List.find?_eq_some_iff_append]
    refine ⟨hs, post.reverse, pre.reverse, by simp [hsels], fun y hy => ?_⟩
    rw [hpost y (List.mem_reverse.1 hy), Bool.not_false]
  rw [enabledFor, hfind]
  rfl

/-- An identifier that no selector picks is checked as the set says by default. -/
theorem enabledFor_of_no_pick {rs : RuleSet} {id : RuleId}
    (h : ∀ y ∈ rs.defaultSelectors ++ rs.selectors, y.1.selects id = false) :
    rs.enabledFor id = rs.enabledByDefault := by
  have hfind : ((rs.defaultSelectors ++ rs.selectors).reverse.find? fun y => y.1.selects id) =
      none :=
    List.find?_eq_none.2 fun y hy => by rw [h y (List.mem_reverse.1 hy)]; decide
  rw [enabledFor, hfind]
  rfl

theorem isEnabled_of_lastPick {rs : RuleSet} (hc : rs.Coherent) {i : Nat}
    (hi : i < rs.rules.length) {s : Selector} {b : Bool}
    (h : LastPick (rs.defaultSelectors ++ rs.selectors) rs.rules[i].id s b) :
    rs.isEnabled i = b := by
  rw [isEnabled_eq hc hi, enabledFor_of_lastPick h]

theorem isEnabled_of_no_pick {rs : RuleSet} (hc : rs.Coherent) {i : Nat}
    (hi : i < rs.rules.length)
    (h : ∀ y ∈ rs.defaultSelectors ++ rs.selectors, y.1.selects rs.rules[i].id = false) :
    rs.isEnabled i = rs.enabledByDefault := by
  rw [isEnabled_eq hc hi, enabledFor_of_no_pick h]

/-! ## Queries and changes -/

/-- A query caches the mask it reads, so it changes no answer. -/
@[simp] theorem isEnabled_withMask (rs : RuleSet) : rs.withMask.isEnabled = rs.isEnabled := rfl

/-- A query leaves every answer about enabled rules as it was. -/
theorem isEnabled_call_of_query (rs : RuleSet) {c : Call} (hc : c.selector? = none) :
    (rs.call c).isEnabled = rs.isEnabled := by
  rcases rs.call_eq c with ⟨p, hp, -⟩ | ⟨-, heq | heq⟩
  · rw [hc] at hp
    cases hp
  · rw [heq]
  · rw [heq, isEnabled_withMask]

/-- A selector appended last decides for the identifiers it picks and leaves the others as they
were. -/
theorem enabledFor_append_selector (rs : RuleSet) (p : Selector × Bool) (id : RuleId) :
    ({ rs with selectors := rs.selectors ++ [p], enabledMask := none } : RuleSet).enabledFor id =
      if p.1.selects id then p.2 else rs.enabledFor id := by
  unfold enabledFor
  rw [← List.append_assoc, List.reverse_append, List.reverse_singleton, List.singleton_append,
    List.find?_cons]
  by_cases hp : p.1.selects id = true
  · simp [hp]
  · simp [hp]

/-- One more selector, on a coherent set, turns the rules it picks on or off and changes no
other. -/
theorem isEnabled_append_selector {rs : RuleSet} (hc : rs.Coherent) (p : Selector × Bool)
    {i : Nat} (hi : i < rs.rules.length) :
    ({ rs with selectors := rs.selectors ++ [p], enabledMask := none } : RuleSet).isEnabled i =
      if p.1.selects rs.rules[i].id then p.2 else rs.isEnabled i := by
  have hc' : ({ rs with selectors := rs.selectors ++ [p], enabledMask := none } : RuleSet).Coherent :=
    coherent_of_enabledMask_none rfl
  rw [isEnabled_eq hc' hi, enabledFor_append_selector, isEnabled_eq hc hi]

/-- Enabling turns on the rules the selector picks and changes no other. -/
theorem isEnabled_enable {rs : RuleSet} (hc : rs.Coherent) (s : Selector) {i : Nat}
    (hi : i < rs.rules.length) :
    (rs.enable s).isEnabled i = (s.selects rs.rules[i].id || rs.isEnabled i) := by
  rw [enable, isEnabled_append_selector hc (s, true) hi]
  cases s.selects rs.rules[i].id <;> rfl

/-- Disabling turns off the rules the selector picks and changes no other. -/
theorem isEnabled_disable {rs : RuleSet} (hc : rs.Coherent) (s : Selector) {i : Nat}
    (hi : i < rs.rules.length) :
    (rs.disable s).isEnabled i = (!s.selects rs.rules[i].id && rs.isEnabled i) := by
  rw [disable, isEnabled_append_selector hc (s, false) hi]
  cases s.selects rs.rules[i].id <;> rfl

/-! ## Checking runs the enabled rules -/

/-- Checking a sentence resolves the suggestions of exactly the rules at enabled positions; a rule
that fails adds nothing. -/
theorem apply_eq_enabled (rs : RuleSet) (sent : Sentence) (inflect : Inflector) :
    rs.apply sent inflect = if sent.tokens.isEmpty then [] else
      resolveOverlaps ((rs.rules.zipIdx.filter fun (_, i) => rs.isEnabled i).flatMap fun (r, i) =>
        ((r.apply sent inflect).toOption.getD []).map (i, ·)) := by
  unfold RuleSet.apply
  split
  · rfl
  · -- the filter reads the mask at the position, as `isEnabled` does
    dsimp only
    congr 1
    refine List.flatMap_congr fun ⟨r, i⟩ _ => ?_
    cases r.apply sent inflect <;> rfl

/-! ## Along a history -/

/-- For a set compiled with options `O`, after any history of calls: the cached mask, whenever
there is one, is the mask the selectors give; whether a rule is checked is decided by the last
selector that picks it, among those of `O.ids` (enabling), of `O.ignore_ids` (disabling) and of
the `enable` and `disable` calls in order, and is whether `O.ids` is empty when none picks it; a
query changes no answer; one more `enable` or `disable` changes exactly the rules its selector
picks; and checking a sentence runs exactly the enabled rules. -/
theorem enabled_follows_last_selector {E : RegexEngine} {spec : RuleSetSpec}
    {options : RulesOptions} {rs : RuleSet} (h : ofSpec E spec options = .ok rs)
    (calls : List Call) :
    let now := rs.replay calls
    let sels := options.ids.map (·, true) ++ options.ignoreIds.map (·, false) ++
      calls.filterMap Call.selector?
    (∀ m, now.enabledMask = some m → m = now.rules.map fun r => now.enabledFor r.id) ∧
    (∀ i (hi : i < now.rules.length),
      (∀ s b, LastPick sels now.rules[i].id s b → now.isEnabled i = b) ∧
      ((∀ y ∈ sels, y.1.selects now.rules[i].id = false) →
        now.isEnabled i = options.ids.isEmpty)) ∧
    (∀ c, c.selector? = none → (now.call c).isEnabled = now.isEnabled) ∧
    (∀ s i (hi : i < now.rules.length),
      (now.call (.enable s)).isEnabled i = (s.selects now.rules[i].id || now.isEnabled i) ∧
      (now.call (.disable s)).isEnabled i = (!s.selects now.rules[i].id && now.isEnabled i)) ∧
    (∀ sent inflect, now.apply sent inflect = if sent.tokens.isEmpty then [] else
      resolveOverlaps ((now.rules.zipIdx.filter fun (_, i) => now.isEnabled i).flatMap
        fun (r, i) => ((r.apply sent inflect).toOption.getD []).map (i, ·))) := by
  obtain ⟨-, -, -, hby, -⟩ := ofSpec_fields h
  obtain ⟨-, -, -, hby', -⟩ := replay_keeps rs calls
  have hc := ofSpec_replay_coherent h calls
  -- the selectors the replayed set judges by are exactly those of the statement
  have hall := ofSpec_replay_selectors h calls
  refine ⟨hc, fun i hi => ⟨fun s b hpick => ?_, fun hno => ?_⟩,
    fun c hq => isEnabled_call_of_query _ hq,
    fun s i hi => ⟨isEnabled_enable hc s hi, isEnabled_disable hc s hi⟩,
    fun sent inflect => apply_eq_enabled _ sent inflect⟩
  · exact isEnabled_of_lastPick hc hi (hall ▸ hpick)
  · rw [isEnabled_of_no_pick hc hi (hall ▸ hno), hby', hby]

/-- A selector for one rule picks that rule, case folding being the same on both sides. -/
theorem Selector.selects_rule_self (id : RuleId) : (Selector.rule id).selects id = true := by
  simp [Selector.selects, RuleId.same, Category.same, Unicode.eqIgnoreCase]

/-- A rule whose category the options ignore is off when first asked, which caches the mask; once
its identifier is enabled it is checked again, the cache notwithstanding. -/
theorem ignored_rule_checked_after_enable :
    ∃ rs, ofSpec Regex.backtracking { rules := [singleTokenRule] }
        { ignoreIds := [.category ⟨"A"⟩] } = .ok rs ∧
      (rs.replay [.isEnabled 0]).isEnabled 0 = false ∧
      (rs.replay [.isEnabled 0, .enable (.rule ⟨⟨"A"⟩, "B"⟩)]).isEnabled 0 = true := by
  have hids : ((ofSpec Regex.backtracking { rules := [singleTokenRule] }
      { ignoreIds := [.category ⟨"A"⟩] }).toOption.map
      fun rs => rs.rules.map fun r => (r.id.category.name, r.id.name)) = some [("A", "B")] := by
    cbv
  obtain ⟨rs, h, hids⟩ := exists_eq_ok_of_toOption_map hids
  simp only [List.map_eq_singleton_iff, Prod.mk.injEq] at hids
  obtain ⟨r, hr, hc, hn⟩ := hids
  have hid : r.id = ⟨⟨"A"⟩, "B"⟩ := by rw [← hc, ← hn]
  refine ⟨rs, h, ?_, ?_⟩
  · -- the category selector of the options is the last that picks the rule
    have hlen : 0 < (rs.replay [.isEnabled 0]).rules.length := by
      rw [(replay_keeps rs _).1, hr]
      exact Nat.one_pos
    have hfirst : (rs.replay [.isEnabled 0]).rules[0].id = ⟨⟨"A"⟩, "B"⟩ := by
      simp only [(replay_keeps rs _).1, hr, List.getElem_cons_zero, hid]
    refine ((enabled_follows_last_selector h _).2.1 0 hlen).1 (.category ⟨"A"⟩) false
      ⟨[], [], rfl, ?_, fun y hy => by cases hy⟩
    rw [hfirst]
    simp [Selector.selects, Category.same, Unicode.eqIgnoreCase]
  · -- the enabling call comes after it
    have hlen : 0 < (rs.replay [.isEnabled 0, .enable (.rule ⟨⟨"A"⟩, "B"⟩)]).rules.length := by
      rw [(replay_keeps rs _).1, hr]
      exact Nat.one_pos
    have hfirst : (rs.replay [.isEnabled 0, .enable (.rule ⟨⟨"A"⟩, "B"⟩)]).rules[0].id =
        ⟨⟨"A"⟩, "B"⟩ := by
      simp only [(replay_keeps rs _).1, hr, List.getElem_cons_zero, hid]
    refine ((enabled_follows_last_selector h _).2.1 0 hlen).1 (.rule ⟨⟨"A"⟩, "B"⟩) true
      ⟨[(.category ⟨"A"⟩, false)], [], rfl, ?_, fun y hy => by cases hy⟩
    rw [hfirst]
    exact Selector.selects_rule_self _

end RuleSet

end Proofreader
