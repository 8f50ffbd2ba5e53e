import Proofreader.RuleFile.Decode
import Proofreader.RuleFile.Compile
import Proofreader.Tokenizer

/-!
# Rule sets

A rule set holds grammar rules in priority order, bitext and same-translation rules, and
document rules. Which grammar rules are checked is decided by selectors: the options give a
list of selectors that enable (`ids`) and disable (`ignore_ids`) rules, later calls add more,
and the last selector that matches a rule decides; a rule that no selector matches is enabled
exactly when the options name no rules to enable.

Checking a sentence runs every enabled rule; a rule that exceeds its budget is skipped. Where
two suggestions overlap, the one of the rule listed first wins (then the one that starts first),
and the result is ordered by start and end.

A stored rule set keeps its rules and selectors; one with document rules cannot be read back.
-/

namespace Proofreader

/-- Options for building a rule set. -/
structure RulesOptions where
  /-- Skip rules that do not compile; otherwise the first such rule fails the set. -/
  allowErrors : Bool := true
  /-- Rules enabled by default; when empty, all rules are. -/
  ids : List Selector := []
  /-- Rules disabled by default; they win over `ids`. -/
  ignoreIds : List Selector := []
  /-- Overrides the step budget of every rule. -/
  stepBudget : Option Nat := none
deriving Inhabited

namespace RulesOptions

/-- Options; each missing member keeps its default, and selectors must parse. -/
def decode? (j : Json) : Option RulesOptions := do
  guard j.isObject
  pure {
    allowErrors := ← j.withDefault "allow_errors" true Json.bool?
    ids := ← j.withDefault "ids" [] (Json.listOf Selector.decode?)
    ignoreIds := ← j.withDefault "ignore_ids" [] (Json.listOf Selector.decode?)
    stepBudget := ← j.optional "step_budget" Json.count? }

/-- The selectors the options start with, each with whether it enables. -/
def defaultSelectors (o : RulesOptions) : List (Selector × Bool) :=
  o.ids.map (·, true) ++ o.ignoreIds.map (·, false)

end RulesOptions

/-- A compiled set of rules with its selectors. -/
structure RuleSet where
  rules : List Rule := []
  bitextRules : List BitextRule := []
  sameTranslationRules : List SameTranslationRule := []
  documentRules : List DocumentRule := []
  defaultSelectors : List (Selector × Bool) := []
  /-- Whether a rule that no selector matches is checked. -/
  enabledByDefault : Bool := true
  selectors : List (Selector × Bool) := []
  /-- The enabled flag of each rule, once a query has computed it; a change of the selectors
  clears it. -/
  enabledMask : Option (List Bool) := none
deriving Inhabited

/-- Compiles records, skipping those that fail when `allowErrors` is set and stopping at the
first failure otherwise. -/
def compileAll {σ τ : Type} (allowErrors : Bool) (compile : σ → Except Error τ) :
    List σ → Except Error (List τ)
  | [] => .ok []
  | s :: rest =>
    match compile s, compileAll allowErrors compile rest with
    | .ok r, .ok rs => .ok (r :: rs)
    | .ok _, .error e => .error e
    | .error e, rs => if allowErrors then rs else .error e

/-- Every record `compileAll` returns is the compilation of one it was given. -/
theorem exists_of_compileAll_eq_ok {σ τ : Type} {allowErrors : Bool}
    {compile : σ → Except Error τ} :
    ∀ {specs : List σ} {out : List τ}, compileAll allowErrors compile specs = .ok out →
      ∀ y ∈ out, ∃ s ∈ specs, compile s = .ok y
  | [], out, h, y, hy => by
    cases h
    cases hy
  | s :: rest, out, h, y, hy => by
    unfold compileAll at h
    cases hs : compile s with
    | ok r =>
      cases hrest : compileAll allowErrors compile rest with
      | ok rs =>
        rw [hs, hrest] at h
        cases h
        rcases List.mem_cons.1 hy with rfl | hy
        · exact ⟨s, List.mem_cons_self, hs⟩
        · obtain ⟨t, ht, hc⟩ := exists_of_compileAll_eq_ok hrest y hy
          exact ⟨t, List.mem_cons_of_mem s ht, hc⟩
      | error e =>
        rw [hs, hrest] at h
        cases h
    | error e =>
      rw [hs] at h
      -- a record that fails is skipped only when errors are allowed
      cases allowErrors with
      | false => cases h
      | true =>
        obtain ⟨t, ht, hc⟩ := exists_of_compileAll_eq_ok h y hy
        exact ⟨t, List.mem_cons_of_mem s ht, hc⟩

/-- Keeps the suggestions that overlap none of higher priority (lower index, then earlier
start), ordered by start and end. -/
def resolveOverlaps (found : List (Nat × Suggestion)) : List Suggestion :=
  let byPriority := found.mergeSort fun a b =>
    a.1 < b.1 || (a.1 = b.1 && a.2.start ≤ b.2.start)
  let kept := byPriority.foldl (fun kept (_, s) =>
    if kept.all (!·.overlaps s) then kept ++ [s] else kept) []
  kept.mergeSort fun a b => a.start < b.start || (a.start = b.start && a.stop ≤ b.stop)

namespace RuleSet

/-- Compiles a rule file with the given options. -/
def ofSpec (E : RegexEngine) (spec : RuleSetSpec) (options : RulesOptions) :
    Except Error RuleSet := do
  let rules ← compileAll options.allowErrors (RuleSpec.compile E) spec.rules
  let bitextRules ← compileAll options.allowErrors (BitextRuleSpec.compile E) spec.bitextRules
  let (rules, bitextRules) := match options.stepBudget with
    | some n => (rules.map fun r => { r with stepBudget := n },
                 bitextRules.map (·.withStepBudget n))
    | none => (rules, bitextRules)
  pure { rules, bitextRules,
         sameTranslationRules := spec.sameTranslationRules,
         documentRules := spec.documentRules,
         defaultSelectors := options.defaultSelectors,
         enabledByDefault := options.ids.isEmpty }

/-- Reads and compiles a rule file given as JSON. -/
def ofJson (E : RegexEngine) (j : Json) (options : RulesOptions) : Except Error RuleSet :=
  match RuleSetSpec.decode? j with
  | some spec => ofSpec E spec options
  | none => .error .json

/-- A set read from a rule file is compiled from the records the file decodes to. -/
theorem exists_of_ofJson_eq_ok {E : RegexEngine} {j : Json} {options : RulesOptions}
    {rs : RuleSet} (h : ofJson E j options = .ok rs) :
    ∃ spec, RuleSetSpec.decode? j = some spec ∧ ofSpec E spec options = .ok rs := by
  unfold ofJson at h
  cases hspec : RuleSetSpec.decode? j with
  | none =>
    rw [hspec] at h
    cases h
  | some spec =>
    rw [hspec] at h
    exact ⟨spec, rfl, h⟩

/-- Whether a rule identifier is checked: the last matching selector decides. -/
def enabledFor (rs : RuleSet) (id : RuleId) : Bool :=
  (((rs.defaultSelectors ++ rs.selectors).reverse.find? fun (s, _) => s.selects id).map
    (·.2)).getD rs.enabledByDefault

/-- The enabled flag of each rule, computed from the selectors. -/
def computeMask (rs : RuleSet) : List Bool := rs.rules.map fun r => rs.enabledFor r.id

/-- The mask a query reads: the cached one, or else a fresh computation. -/
def mask (rs : RuleSet) : List Bool := rs.enabledMask.getD rs.computeMask

/-- The set after a query has read its mask: a mask computed afresh is cached. -/
def withMask (rs : RuleSet) : RuleSet := { rs with enabledMask := some rs.mask }

/-- Whether the rule at this position is checked, read off the mask; no position past its end
is. -/
def isEnabled (rs : RuleSet) (i : Nat) : Bool := rs.mask[i]?.getD false

/-- Enables the rules a selector picks, clearing the cached mask. -/
def enable (rs : RuleSet) (s : Selector) : RuleSet :=
  { rs with selectors := rs.selectors ++ [(s, true)], enabledMask := none }

/-- Disables the rules a selector picks, clearing the cached mask. -/
def disable (rs : RuleSet) (s : Selector) : RuleSet :=
  { rs with selectors := rs.selectors ++ [(s, false)], enabledMask := none }

/-- The rules a selector picks, in order. -/
def select (rs : RuleSet) (s : Selector) : List Rule :=
  rs.rules.filter fun r => s.selects r.id

/-- The suggestions of all enabled rules on a sentence. -/
def apply (rs : RuleSet) (s : Sentence) (inflect : Inflector) : List Suggestion :=
  if s.tokens.isEmpty then []
  else
    let mask := rs.mask
    let found := (rs.rules.zipIdx.filter fun (_, i) => mask[i]?.getD false).flatMap fun (r, i) =>
      match r.apply s inflect with
      | .ok ss => ss.map (i, ·)
      | .error _ => []
    resolveOverlaps found

/-- The suggestions of the bitext and same-translation rules on a sentence and its
translation. -/
def applyBitext (rs : RuleSet) (source target : Sentence) (inflect : Inflector) :
    List Suggestion :=
  let fromBitext := rs.bitextRules.zipIdx.flatMap fun (r, i) =>
    match r.apply source target inflect with
    | .ok ss => ss.map (i, ·)
    | .error _ => []
  let offset := rs.bitextRules.length
  let fromSame := rs.sameTranslationRules.zipIdx.filterMap fun (r, i) =>
    (r.apply source target).map (offset + i, ·)
  resolveOverlaps (fromBitext ++ fromSame)

/-- The suggestions for a text, sentence by sentence, with the given inflector. -/
def suggestWith (rs : RuleSet) (tokenizer : Tokenizer) (inflect : Inflector) (text : String) :
    List Suggestion :=
  if text.isEmpty then []
  else (tokenizer.analyze text).flatMap fun s => rs.apply s inflect

/-- The suggestions for a text, inflecting with the tokenizer's word list. -/
def suggest (rs : RuleSet) (tokenizer : Tokenizer) (text : String) : List Suggestion :=
  rs.suggestWith tokenizer tokenizer.inflect text

/-- The text with the first replacement of every suggestion applied. -/
def correct (rs : RuleSet) (tokenizer : Tokenizer) (text : String) : String :=
  (applySuggestions text (rs.suggest tokenizer text)).getD text

/-- The suggestions of the sentence rules and the document rules over a whole text, starting
from a fresh document state; per sentence, sentence rules win overlaps. -/
def checkDocument (rs : RuleSet) (tokenizer : Tokenizer) (text : String) : List Suggestion :=
  let step (acc : List Suggestion × DocumentCheck) (s : Sentence) :=
    let fromRules := (rs.apply s tokenizer.inflect).map (0, ·)
    let (fromDocument, check) := acc.2.check rs.documentRules s
    (acc.1 ++ resolveOverlaps (fromRules ++ fromDocument.map (1, ·)), check)
  ((tokenizer.analyze text).foldl step ([], {})).1

/-- Runs the examples of every rule. -/
def test (rs : RuleSet) (tokenizer : Tokenizer) : Except Error Unit :=
  if rs.rules.all fun r => r.test tokenizer.analyze tokenizer.inflect then .ok ()
  else .error .testFailed

end RuleSet

/-! ## Calls on a rule set -/

/-- A call on a rule set: a change of its selectors, or a query that may read its mask. -/
inductive Call where
  | enable (s : Selector)
  | disable (s : Selector)
  | isEnabled (i : Nat)
  | apply (s : Sentence)
  | suggest (tokenizer : Tokenizer) (text : String)
  | checkDocument (tokenizer : Tokenizer) (text : String)

namespace Call

/-- The selector a call appends, with whether it enables; a query appends none. -/
def selector? : Call → Option (Selector × Bool)
  | enable s => some (s, true)
  | disable s => some (s, false)
  | _ => none

end Call

namespace RuleSet

/-- The set after a call. A change clears the cached mask; a query that reads the mask caches
it: checking a sentence reads it unless the sentence has no tokens, and a text is checked
sentence by sentence (`suggest` stops at once on an empty text). -/
def call (rs : RuleSet) : Call → RuleSet
  | .enable s => rs.enable s
  | .disable s => rs.disable s
  | .isEnabled _ => rs.withMask
  | .apply s => if s.tokens.isEmpty then rs else rs.withMask
  | .suggest tokenizer text =>
    if !text.isEmpty && (tokenizer.analyze text).any (!·.tokens.isEmpty) then rs.withMask else rs
  | .checkDocument tokenizer text =>
    if (tokenizer.analyze text).any (!·.tokens.isEmpty) then rs.withMask else rs

/-- The set after the calls of a history, in order. -/
def replay (rs : RuleSet) (calls : List Call) : RuleSet := calls.foldl call rs

/-- A call either appends its selector and clears the mask, or is a query that leaves the set as
it is or caches the mask it reads. -/
theorem call_eq (rs : RuleSet) (c : Call) :
    (∃ p, c.selector? = some p ∧
      rs.call c = { rs with selectors := rs.selectors ++ [p], enabledMask := none }) ∨
    (c.selector? = none ∧ (rs.call c = rs ∨ rs.call c = rs.withMask)) := by
  cases c with
  | enable s => exact .inl ⟨_, rfl, rfl⟩
  | disable s => exact .inl ⟨_, rfl, rfl⟩
  | isEnabled i => exact .inr ⟨rfl, .inr rfl⟩
  | apply s =>
    refine .inr ⟨rfl, ?_⟩
    by_cases h : s.tokens.isEmpty = true
    · exact .inl (if_pos h)
    · exact .inr (if_neg h)
  | suggest tokenizer text =>
    refine .inr ⟨rfl, ?_⟩
    by_cases h : (!text.isEmpty && (tokenizer.analyze text).any (!·.tokens.isEmpty)) = true
    · exact .inr (if_pos h)
    · exact .inl (if_neg h)
  | checkDocument tokenizer text =>
    refine .inr ⟨rfl, ?_⟩
    by_cases h : (tokenizer.analyze text).any (!·.tokens.isEmpty) = true
    · exact .inr (if_pos h)
    · exact .inl (if_neg h)

@[simp] theorem withMask_rules (rs : RuleSet) : rs.withMask.rules = rs.rules := rfl

@[simp] theorem withMask_selectors (rs : RuleSet) : rs.withMask.selectors = rs.selectors := rfl

@[simp] theorem replay_nil (rs : RuleSet) : rs.replay [] = rs := rfl

theorem replay_cons (rs : RuleSet) (c : Call) (calls : List Call) :
    rs.replay (c :: calls) = (rs.call c).replay calls := rfl

end RuleSet

end Proofreader
