import Mathlib
import Proofreader.Proofs.History
import Proofreader.Proofs.InRange
import Proofreader.RuleSet.Stored

/-!
# A stored rule set reads back

A set is written through a binary format `F` (`RuleSet.store`) and read back through the same
format (`RuleSet.load`). The format's promises give back every field but the cache of enabled
flags (`RuleSet.load_store`), provided each identifier and selector parses back from the text
it is written as. A set read from a rule file has identifiers that were parsed from texts
(`parse_storedIds_of_ofJson`), and no call changes them (`storedIds_replay`). Selectors that were
themselves parsed from texts parse back too (`Selector.parse_text_of_parse`).

So after any history of calls whose selectors were read from texts, like those of the options,
the set reads back as it was, with an empty cache. The cache is coherent along every history
(`Proofs/History`), so the set read back answers every query as the stored one did. The one
exception is a set with a document rule: its reader asks the format to describe the value it
finds, a binary format refuses, and reading the set back fails.
-/

namespace Proofreader

namespace RuleSet

variable {σ : Type}

/-- No call changes the rules, so none changes the identifiers a set stores. -/
theorem storedIds_call (rs : RuleSet) (c : Call) : (rs.call c).storedIds = rs.storedIds := by
  have h := congrArg RuleSet.storedIds (forget_call rs c)
  exact h

theorem storedIds_replay (rs : RuleSet) (calls : List Call) :
    (rs.replay calls).storedIds = rs.storedIds := by
  induction calls generalizing rs with
  | nil => rfl
  | cons c rest ih => rw [replay_cons, ih, storedIds_call]

/-- A set read from a rule file, after any history of calls whose selectors, like those of its
options, were read from texts, is written and read back as it was, with an empty cache, and
answers every query as before. The exception is a set that has document rules: reading it back
then fails. -/
theorem stored_set_reads_back_iff (F : StoredForm σ) {E : RegexEngine} {j : Json}
    {options : RulesOptions} {rs : RuleSet} (h : ofJson E j options = .ok rs) (calls : List Call)
    (hread : ∀ s ∈ options.ids ++ options.ignoreIds ++
      (calls.filterMap Call.selector?).map Prod.fst, ∃ t, Selector.parse t = .ok s) :
    let now := rs.replay calls
    (rs.documentRules = [] →
      load F (now.store F) = .ok now.forget ∧
      now.forget.isEnabled = now.isEnabled ∧ now.forget.apply = now.apply ∧
      now.forget.applyBitext = now.applyBitext ∧ now.forget.suggest = now.suggest ∧
      now.forget.correct = now.correct ∧ now.forget.checkDocument = now.checkDocument) ∧
    (rs.documentRules ≠ [] → load F (now.store F) = .error .serialization) := by
  intro now
  obtain ⟨spec, -, hspec⟩ := exists_of_ofJson_eq_ok h
  have hc : now.Coherent := ofSpec_replay_coherent hspec calls
  have hdoc : now.documentRules = rs.documentRules := (replay_keeps rs calls).2.1
  -- the identifiers are those of the rule file, whatever the history
  have hids : ∀ id ∈ now.storedIds, RuleId.parse id.text = .ok id := by
    have hfile := parse_storedIds_of_ofJson h
    rw [← storedIds_replay rs calls] at hfile
    exact hfile
  -- the selectors are those of the options and of the history's changes
  have hsel : ∀ p ∈ now.defaultSelectors ++ now.selectors,
      Selector.parse p.1.text = .ok p.1 := by
    intro p hp
    have hall : now.defaultSelectors ++ now.selectors = _ := ofSpec_replay_selectors hspec calls
    have hfst : p.1 ∈ (now.defaultSelectors ++ now.selectors).map Prod.fst :=
      List.mem_map_of_mem hp
    rw [hall] at hfst
    obtain ⟨t, ht⟩ := hread p.1 (by simpa [Function.comp_def] using hfst)
    exact Selector.parse_text_of_parse ht
  have hload := load_store F now hids hsel []
  rw [List.append_nil] at hload
  refine ⟨fun hnil => ?_, fun hne => ?_⟩
  · rw [hload, if_pos (hdoc.trans hnil)]
    exact ⟨rfl, isEnabled_forget hc, apply_forget hc, applyBitext_forget now, suggest_forget hc,
      correct_forget hc, checkDocument_forget hc⟩
  · rw [hload, if_neg fun hnil => hne (hdoc.symm.trans hnil)]

/-- A rule file with one rule, `A/B`, whose pattern is any one token. -/
def oneRuleFile : Json :=
  .obj [("rules", .arr [.obj [("id", .str "A/B"), ("message", .str ""),
    ("pattern", .arr [.obj [("token", .obj [])]])]])]

/-- Rule `A/B`, ignored by its category and then enabled by name, is written and read back
enabled. -/
theorem enabled_rule_reads_back :
    ∃ rs, ofJson Regex.backtracking oneRuleFile { ignoreIds := [.category ⟨"A"⟩] } =
        .ok rs ∧
      load .symbolic
          ((rs.replay [.isEnabled 0, .enable (.rule ⟨⟨"A"⟩, "B"⟩)]).store .symbolic) =
        .ok (rs.replay [.isEnabled 0, .enable (.rule ⟨⟨"A"⟩, "B"⟩)]).forget ∧
      (rs.replay [.isEnabled 0, .enable (.rule ⟨⟨"A"⟩, "B"⟩)]).forget.isEnabled 0 =
        true := by
  have hrun : ((ofJson Regex.backtracking oneRuleFile
      { ignoreIds := [.category ⟨"A"⟩] }).toOption.map fun rs =>
      (rs.documentRules.isEmpty,
        (rs.replay [.isEnabled 0, .enable (.rule ⟨⟨"A"⟩, "B"⟩)]).isEnabled 0)) =
      some (true, true) := by cbv
  obtain ⟨rs, h, hrun⟩ := exists_eq_ok_of_toOption_map hrun
  simp only [Prod.mk.injEq, List.isEmpty_iff] at hrun
  obtain ⟨hnil, hen⟩ := hrun
  have hread : ∀ s ∈ ([] : List Selector) ++ [Selector.category ⟨"A"⟩] ++
      (([.isEnabled 0, .enable (.rule ⟨⟨"A"⟩, "B"⟩)] : List Call).filterMap
        Call.selector?).map Prod.fst, ∃ t, Selector.parse t = .ok s := by
    intro s hs
    simp only [List.nil_append, List.filterMap_cons, Call.selector?, List.filterMap_nil,
      List.map_cons, List.map_nil, List.cons_append, List.mem_cons, List.not_mem_nil,
      or_false] at hs
    rcases hs with rfl | rfl
    · exact ⟨"A", by cbv⟩
    · exact ⟨"A/B", by cbv⟩
  obtain ⟨hload, hforget, -⟩ := (stored_set_reads_back_iff .symbolic h
    [.isEnabled 0, .enable (.rule ⟨⟨"A"⟩, "B"⟩)] hread).1 hnil
  exact ⟨rs, h, hload, by rw [hforget, hen]⟩

/-- A rule file with one document rule, which asks that `ab` and `cd` not both be used. -/
def coherencyFile : Json :=
  .obj [("document_rules", .arr [.obj [("id", .str "S/C"), ("pairs", .arr [.arr [.str "ab",
    .str "cd"]]), ("type", .str "word_coherency")]])]

/-- A set with a document rule is written and fails to be read back. -/
theorem coherency_rule_set_does_not_read_back :
    ∃ rs, ofJson Regex.backtracking coherencyFile {} = .ok rs ∧
      load .symbolic (rs.store .symbolic) = .error .serialization := by
  have hshape : ((ofJson Regex.backtracking coherencyFile {}).toOption.map fun rs =>
      (rs.documentRules.isEmpty, rs.storedIds.isEmpty,
        (rs.defaultSelectors ++ rs.selectors).isEmpty)) = some (false, true, true) := by cbv
  obtain ⟨rs, h, hshape⟩ := exists_eq_ok_of_toOption_map hshape
  simp only [Prod.mk.injEq, List.isEmpty_iff, List.isEmpty_eq_false_iff] at hshape
  obtain ⟨hdoc, hids, hsel⟩ := hshape
  have hload := load_store .symbolic rs (by simp [hids]) (by simp [hsel]) []
  rw [List.append_nil, if_neg hdoc] at hload
  exact ⟨rs, h, hload⟩

end RuleSet

end Proofreader
