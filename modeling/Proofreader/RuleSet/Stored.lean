import Proofreader.RuleSet

/-!
# The stored form of a rule set

A rule set is stored through derived serialization code in a binary format: its fields in
order, each list as its length followed by its items, a structure as its fields in order, a case
of an enum as its number, and the cached mask left out. A rule identifier and a selector are
written as their texts and read back by parsing them, so a text that parses to nothing fails the
read. The mask starts empty.

The format is a parameter (`StoredForm`): how it writes counts, flags, texts, case numbers and
the fields of a grammar rule after its identifier (its expressions, messages and examples), a
reader for each, and what it promises of them: a reader takes back from the front of the bytes
exactly what its writer put there. From these the readers of identifiers, selectors and the three
kinds of rules are built, each with its promise (`readRule_rule`, `readSelector_selector`), and
the promise of the whole set (`RuleSet.load_store`) follows.

A document rule is an internally tagged enum, whose derived reader asks the format to describe the
value it finds (`StoredForm.readDescribed`). A binary format cannot, and rejects the request, so a
document rule is written but never read back (`readList_rejected`).
-/

namespace Proofreader

/-- A binary format for the values of a stored rule set, over symbols `σ` (bytes, for a binary format):
a writer and a reader for each kind of value, and what the format promises of them. -/
structure StoredForm (σ : Type) where
  count : Nat → List σ
  readCount : List σ → Except Error (Nat × List σ)
  flag : Bool → List σ
  readFlag : List σ → Except Error (Bool × List σ)
  text : String → List σ
  readText : List σ → Except Error (String × List σ)
  /-- The number of a case of an enum that has no fields. -/
  variant : Nat → List σ
  readVariant : List σ → Except Error (Nat × List σ)
  /-- The fields of a grammar rule after its identifier. -/
  ruleBody : Rule → List σ
  /-- Reads the fields of a grammar rule after its identifier, which it is given. -/
  readRuleBody : RuleId → List σ → Except Error (Rule × List σ)
  documentRule : DocumentRule → List σ
  /-- The reader of a document rule, which asks the format to describe the value it finds. -/
  readDescribed : List σ → Except Error (DocumentRule × List σ)
  /-- Each reader takes back what its writer wrote and leaves what follows. -/
  readCount_count : ∀ n rest, readCount (count n ++ rest) = .ok (n, rest)
  readFlag_flag : ∀ b rest, readFlag (flag b ++ rest) = .ok (b, rest)
  readText_text : ∀ s rest, readText (text s ++ rest) = .ok (s, rest)
  readVariant_variant : ∀ n rest, readVariant (variant n ++ rest) = .ok (n, rest)
  readRuleBody_ruleBody : ∀ r rest, readRuleBody r.id (ruleBody r ++ rest) = .ok (r, rest)
  /-- The format does not describe the values it holds: it rejects the request. -/
  readDescribed_rejected : ∀ bytes, readDescribed bytes = .error .serialization

/-- A step that succeeds hands its value to the rest of the computation. -/
@[simp] theorem ok_bind {ε α β : Type} (x : α) (f : α → Except ε β) :
    (Except.ok x >>= f) = f x := rfl

namespace StoredForm

variable {σ : Type} (F : StoredForm σ)

/-! ## Composite values -/

/-- A list: its length, then its items. -/
def list {α : Type} (item : α → List σ) (xs : List α) : List σ :=
  F.count xs.length ++ xs.flatMap item

/-- Reads `n` items one after another. -/
def readItems {α : Type} (read : List σ → Except Error (α × List σ)) :
    Nat → List σ → Except Error (List α × List σ)
  | 0, bytes => .ok ([], bytes)
  | n + 1, bytes => do
    let (a, bytes) ← read bytes
    let (as, bytes) ← readItems read n bytes
    pure (a :: as, bytes)

/-- Reads a list: its length, then that many items. -/
def readList {α : Type} (read : List σ → Except Error (α × List σ)) (bytes : List σ) :
    Except Error (List α × List σ) := do
  let (n, bytes) ← F.readCount bytes
  readItems read n bytes

/-- A rule identifier: its text. -/
def ruleId (id : RuleId) : List σ := F.text id.text

/-- Reads a rule identifier; a text that is no identifier fails as the format fails. -/
def readRuleId (bytes : List σ) : Except Error (RuleId × List σ) := do
  let (t, bytes) ← F.readText bytes
  match RuleId.parse t with
  | .ok id => pure (id, bytes)
  | .error _ => throw .serialization

/-- A grammar rule: its identifier, then its other fields. -/
def rule (r : Rule) : List σ := F.ruleId r.id ++ F.ruleBody r

def readRule (bytes : List σ) : Except Error (Rule × List σ) := do
  let (id, bytes) ← F.readRuleId bytes
  F.readRuleBody id bytes

/-- The number of a policy's case, in the order the cases are declared. -/
def policyIndex : BitextPolicy → Nat
  | .bothMatch => 0
  | .sourceOnly => 1

/-- Reads a policy by the number of its case. -/
def readPolicy (bytes : List σ) : Except Error (BitextPolicy × List σ) := do
  let (n, bytes) ← F.readVariant bytes
  match n with
  | 0 => pure (.bothMatch, bytes)
  | 1 => pure (.sourceOnly, bytes)
  | _ => throw .serialization

/-- A bitext rule: its identifier, its two rules and its policy. -/
def bitextRule (r : BitextRule) : List σ :=
  F.ruleId r.id ++ F.rule r.source ++ F.rule r.target ++ F.variant (policyIndex r.policy)

def readBitextRule (bytes : List σ) : Except Error (BitextRule × List σ) := do
  let (id, bytes) ← F.readRuleId bytes
  let (source, bytes) ← F.readRule bytes
  let (target, bytes) ← F.readRule bytes
  let (policy, bytes) ← F.readPolicy bytes
  pure ({ id, source, target, policy }, bytes)

/-- A same-translation rule: its identifier, then its least number of words. -/
def sameTranslationRule (r : SameTranslationRule) : List σ := F.ruleId r.id ++ F.count r.minWords

def readSameTranslationRule (bytes : List σ) : Except Error (SameTranslationRule × List σ) := do
  let (id, bytes) ← F.readRuleId bytes
  let (minWords, bytes) ← F.readCount bytes
  pure ({ id, minWords }, bytes)

/-- A selector with its flag: the text of the selector, then the flag. -/
def selector (p : Selector × Bool) : List σ := F.text p.1.text ++ F.flag p.2

/-- Reads a selector with its flag; a text that is no selector fails as the format fails. -/
def readSelector (bytes : List σ) : Except Error ((Selector × Bool) × List σ) := do
  let (t, bytes) ← F.readText bytes
  let s ← match Selector.parse t with
    | .ok s => pure s
    | .error _ => throw .serialization
  let (b, bytes) ← F.readFlag bytes
  pure ((s, b), bytes)

/-! ## What the composite readers take back -/

/-- Items that each read back, read back as a whole, whatever follows them. -/
theorem readItems_flatMap {α : Type} {item : α → List σ}
    {read : List σ → Except Error (α × List σ)} :
    ∀ (xs : List α), (∀ a ∈ xs, ∀ rest, read (item a ++ rest) = .ok (a, rest)) →
      ∀ rest, readItems read xs.length (xs.flatMap item ++ rest) = .ok (xs, rest)
  | [], _, rest => rfl
  | a :: xs, h, rest => by
    rw [List.length_cons, List.flatMap_cons, List.append_assoc, readItems,
      h a List.mem_cons_self]
    simp only [ok_bind, readItems_flatMap xs (fun b hb => h b (List.mem_cons_of_mem a hb)) rest]
    rfl

/-- Reading at least one item with a reader that always fails fails the same way. -/
theorem readItems_rejected {α : Type} {read : List σ → Except Error (α × List σ)} {e : Error}
    (h : ∀ bytes, read bytes = .error e) (n : Nat) (bytes : List σ) :
    readItems read (n + 1) bytes = .error e := by
  rw [readItems, h]
  rfl

theorem readList_list {α : Type} {item : α → List σ} {read : List σ → Except Error (α × List σ)}
    {xs : List α} (h : ∀ a ∈ xs, ∀ rest, read (item a ++ rest) = .ok (a, rest)) (rest : List σ) :
    F.readList read (F.list item xs ++ rest) = .ok (xs, rest) := by
  rw [readList, list, List.append_assoc, F.readCount_count, ok_bind]
  exact readItems_flatMap xs h rest

/-- A list with an item in it fails to read back with a reader that always fails. -/
theorem readList_rejected {α : Type} {item : α → List σ}
    {read : List σ → Except Error (α × List σ)} {e : Error} (h : ∀ bytes, read bytes = .error e)
    {xs : List α} (hxs : xs ≠ []) (rest : List σ) :
    F.readList read (F.list item xs ++ rest) = .error e := by
  obtain ⟨a, xs, rfl⟩ := List.exists_cons_of_ne_nil hxs
  rw [readList, list, List.append_assoc, F.readCount_count, ok_bind, List.length_cons]
  exact readItems_rejected h _ _

/-- An identifier reads back when its text parses to it. -/
theorem readRuleId_ruleId {id : RuleId} (h : RuleId.parse id.text = .ok id) (rest : List σ) :
    F.readRuleId (F.ruleId id ++ rest) = .ok (id, rest) := by
  rw [readRuleId, ruleId, F.readText_text, ok_bind]
  simp only [h]
  rfl

theorem readRule_rule {r : Rule} (h : RuleId.parse r.id.text = .ok r.id) (rest : List σ) :
    F.readRule (F.rule r ++ rest) = .ok (r, rest) := by
  rw [readRule, rule, List.append_assoc, F.readRuleId_ruleId h, ok_bind]
  exact F.readRuleBody_ruleBody r rest

theorem readPolicy_variant (p : BitextPolicy) (rest : List σ) :
    F.readPolicy (F.variant (policyIndex p) ++ rest) = .ok (p, rest) := by
  rw [readPolicy, F.readVariant_variant, ok_bind]
  cases p <;> rfl

theorem readBitextRule_bitextRule {r : BitextRule} (h : RuleId.parse r.id.text = .ok r.id)
    (hsource : RuleId.parse r.source.id.text = .ok r.source.id)
    (htarget : RuleId.parse r.target.id.text = .ok r.target.id) (rest : List σ) :
    F.readBitextRule (F.bitextRule r ++ rest) = .ok (r, rest) := by
  simp only [readBitextRule, bitextRule, List.append_assoc, F.readRuleId_ruleId h, ok_bind,
    F.readRule_rule hsource, F.readRule_rule htarget, F.readPolicy_variant]
  rfl

theorem readSameTranslationRule_sameTranslationRule {r : SameTranslationRule}
    (h : RuleId.parse r.id.text = .ok r.id) (rest : List σ) :
    F.readSameTranslationRule (F.sameTranslationRule r ++ rest) = .ok (r, rest) := by
  simp only [readSameTranslationRule, sameTranslationRule, List.append_assoc,
    F.readRuleId_ruleId h, ok_bind, F.readCount_count]
  rfl

/-- A selector reads back when its text parses to it. -/
theorem readSelector_selector {p : Selector × Bool} (h : Selector.parse p.1.text = .ok p.1)
    (rest : List σ) : F.readSelector (F.selector p ++ rest) = .ok (p, rest) := by
  rw [readSelector, selector, List.append_assoc, F.readText_text, ok_bind]
  simp only [h, F.readFlag_flag]
  rfl

end StoredForm

namespace RuleSet

variable {σ : Type}

/-- The stored form of a set: its fields in order, without the cached mask. -/
def store (F : StoredForm σ) (rs : RuleSet) : List σ :=
  F.list F.rule rs.rules ++ F.list F.bitextRule rs.bitextRules ++
    F.list F.sameTranslationRule rs.sameTranslationRules ++
    F.list F.documentRule rs.documentRules ++ F.list F.selector rs.defaultSelectors ++
    F.flag rs.enabledByDefault ++ F.list F.selector rs.selectors

/-- Reads a stored set field after field; what follows it is left unread, and the mask starts
empty. -/
def load (F : StoredForm σ) (bytes : List σ) : Except Error RuleSet := do
  let (rules, bytes) ← F.readList F.readRule bytes
  let (bitextRules, bytes) ← F.readList F.readBitextRule bytes
  let (sameTranslationRules, bytes) ← F.readList F.readSameTranslationRule bytes
  let (documentRules, bytes) ← F.readList F.readDescribed bytes
  let (defaultSelectors, bytes) ← F.readList F.readSelector bytes
  let (enabledByDefault, bytes) ← F.readFlag bytes
  let (selectors, _) ← F.readList F.readSelector bytes
  pure { rules, bitextRules, sameTranslationRules, documentRules, defaultSelectors,
         enabledByDefault, selectors, enabledMask := none }

/-- The identifiers a set stores as texts: those of its grammar rules, of its bitext rules and
their two rules, and of its same-translation rules. -/
def storedIds (rs : RuleSet) : List RuleId :=
  rs.rules.map (·.id) ++ rs.bitextRules.flatMap (fun b => [b.id, b.source.id, b.target.id]) ++
    rs.sameTranslationRules.map (·.id)

/-- A compiled set stores the identifiers of the rules it compiled and of its same-translation
rules: the step budget option changes none of them. -/
theorem storedIds_ofSpec {E : RegexEngine} {spec : RuleSetSpec} {options : RulesOptions}
    {rs : RuleSet} (h : ofSpec E spec options = .ok rs) :
    ∃ rules bitextRules,
      compileAll options.allowErrors (RuleSpec.compile E) spec.rules = .ok rules ∧
      compileAll options.allowErrors (BitextRuleSpec.compile E) spec.bitextRules =
        .ok bitextRules ∧
      rs.storedIds = rules.map (·.id) ++
        bitextRules.flatMap (fun b => [b.id, b.source.id, b.target.id]) ++
        spec.sameTranslationRules.map (·.id) := by
  obtain ⟨rules, hrules, h⟩ := exists_of_bind_eq_ok h
  obtain ⟨bitextRules, hbitext, h⟩ := exists_of_bind_eq_ok h
  refine ⟨rules, bitextRules, hrules, hbitext, ?_⟩
  -- the step budget option rewrites budgets only
  cases hbudget : options.stepBudget <;> simp only [hbudget] at h <;> cases h <;>
    simp [storedIds, Function.comp_def, List.flatMap_map]

/-- Every identifier a set read from a rule file stores was parsed from a text, and so parses
back from its own. -/
theorem parse_storedIds_of_ofJson {E : RegexEngine} {j : Json} {options : RulesOptions}
    {rs : RuleSet} (h : ofJson E j options = .ok rs) :
    ∀ id ∈ rs.storedIds, RuleId.parse id.text = .ok id := by
  obtain ⟨spec, hspec, h⟩ := exists_of_ofJson_eq_ok h
  obtain ⟨rules, bitextRules, hrules, hbitext, hids⟩ := storedIds_ofSpec h
  suffices hparsed : ∀ id ∈ rs.storedIds, ∃ t, RuleId.parse t = .ok id from
    fun id hid => (hparsed id hid).elim fun _ ht => RuleId.parse_text_of_parse ht
  rw [hids]
  intro id hid
  rcases List.mem_append.1 hid with hid | hid
  · rcases List.mem_append.1 hid with hid | hid
    · -- a grammar rule
      obtain ⟨r, hr, rfl⟩ := List.mem_map.1 hid
      obtain ⟨s, -, hs⟩ := exists_of_compileAll_eq_ok hrules r hr
      exact ⟨s.id, RuleSpec.parse_id_of_compile hs⟩
    · -- a bitext rule or one of its two rules
      obtain ⟨b, hb, hid⟩ := List.mem_flatMap.1 hid
      obtain ⟨s, -, hs⟩ := exists_of_compileAll_eq_ok hbitext b hb
      obtain ⟨h1, h2, h3⟩ := BitextRuleSpec.parse_ids_of_compile hs
      simp only [List.mem_cons, List.not_mem_nil, or_false] at hid
      rcases hid with rfl | rfl | rfl
      · exact ⟨_, h1⟩
      · exact ⟨_, h2⟩
      · exact ⟨_, h3⟩
  · -- a same-translation rule, kept as the file gave it
    obtain ⟨r, hr, rfl⟩ := List.mem_map.1 hid
    exact RuleSetSpec.decode?_sameTranslationRules hspec r hr

/-- A set whose identifiers and selectors parse back from their texts reads back as it was, the
cache set aside, unless it has document rules: then reading fails. -/
theorem load_store (F : StoredForm σ) (rs : RuleSet)
    (hids : ∀ id ∈ rs.storedIds, RuleId.parse id.text = .ok id)
    (hsel : ∀ p ∈ rs.defaultSelectors ++ rs.selectors, Selector.parse p.1.text = .ok p.1)
    (rest : List σ) :
    load F (rs.store F ++ rest) =
      if rs.documentRules = [] then .ok { rs with enabledMask := none }
      else .error .serialization := by
  have hrule : ∀ r ∈ rs.rules, ∀ rest, F.readRule (F.rule r ++ rest) = .ok (r, rest) :=
    fun r hr => F.readRule_rule
      (hids _ (List.mem_append_left _ (List.mem_append_left _ (List.mem_map_of_mem hr))))
  have hbitext : ∀ b ∈ rs.bitextRules, ∀ rest,
      F.readBitextRule (F.bitextRule b ++ rest) = .ok (b, rest) := fun b hb => by
    have hmem : ∀ id ∈ [b.id, b.source.id, b.target.id], RuleId.parse id.text = .ok id :=
      fun id hid => hids id (List.mem_append_left _
        (List.mem_append_right _ (List.mem_flatMap.2 ⟨b, hb, hid⟩)))
    exact F.readBitextRule_bitextRule (hmem _ (by simp)) (hmem _ (by simp)) (hmem _ (by simp))
  have hsame : ∀ r ∈ rs.sameTranslationRules, ∀ rest,
      F.readSameTranslationRule (F.sameTranslationRule r ++ rest) = .ok (r, rest) :=
    fun r hr => F.readSameTranslationRule_sameTranslationRule
      (hids _ (List.mem_append_right _ (List.mem_map_of_mem hr)))
  have hselector : ∀ p ∈ rs.defaultSelectors ++ rs.selectors, ∀ rest,
      F.readSelector (F.selector p ++ rest) = .ok (p, rest) :=
    fun p hp => F.readSelector_selector (hsel p hp)
  unfold store load
  simp only [List.append_assoc]
  rw [F.readList_list hrule, ok_bind, F.readList_list hbitext, ok_bind, F.readList_list hsame,
    ok_bind]
  by_cases hdoc : rs.documentRules = []
  · rw [if_pos hdoc, hdoc, F.readList_list (fun _ h => absurd h List.not_mem_nil), ok_bind,
      F.readList_list fun p hp => hselector p (List.mem_append_left _ hp), ok_bind,
      F.readFlag_flag, ok_bind,
      F.readList_list fun p hp => hselector p (List.mem_append_right _ hp), ok_bind]
    rfl
  · -- the reader of document rules rejects the first one
    rw [if_neg hdoc, F.readList_rejected F.readDescribed_rejected hdoc]
    rfl

end RuleSet

/-! ## A format that writes each value as itself -/

/-- The symbols of a stored form that writes each value as one symbol. -/
inductive StoredSymbol where
  | count (n : Nat)
  | flag (b : Bool)
  | text (s : String)
  | variant (n : Nat)
  | ruleBody (r : Rule)
  | documentRule (r : DocumentRule)

/-- A stored form whose symbols are the values themselves. It keeps every promise a binary
format makes, and stands for one when a set is stored and read back in a run of this library. -/
def StoredForm.symbolic : StoredForm StoredSymbol where
  count n := [.count n]
  readCount
    | .count n :: rest => .ok (n, rest)
    | _ => .error .serialization
  flag b := [.flag b]
  readFlag
    | .flag b :: rest => .ok (b, rest)
    | _ => .error .serialization
  text s := [.text s]
  readText
    | .text s :: rest => .ok (s, rest)
    | _ => .error .serialization
  variant n := [.variant n]
  readVariant
    | .variant n :: rest => .ok (n, rest)
    | _ => .error .serialization
  ruleBody r := [.ruleBody r]
  readRuleBody id
    | .ruleBody r :: rest => .ok ({ r with id }, rest)
    | _ => .error .serialization
  documentRule r := [.documentRule r]
  readDescribed _ := .error .serialization
  readCount_count _ _ := rfl
  readFlag_flag _ _ := rfl
  readText_text _ _ := rfl
  readVariant_variant _ _ := rfl
  readRuleBody_ruleBody _ _ := rfl
  readDescribed_rejected _ := rfl

end Proofreader
