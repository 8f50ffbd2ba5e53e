import Mathlib
import Proofreader.Proofs.DocumentRuns

/-!
# Word coherency along a document

A word-coherency rule knows pairs of spellings of one word. It judges each content token by its
spelling, the lemma of its first reading that is not a sentinel (its text when there is none),
and compares spellings in lowercase. Once a document has used one variant of a pair, each later
use of the other variant is reported, with a replacement respelled after the variant used first.

The rule keeps only a memory from a lowercase spelling that must not be used any more to the
spelling used first, and a reported token leaves it as it is. When no spelling is a variant of
two pairs and the two variants of each pair differ (`ApartPairs`), that memory knows all it needs
of the document before: it maps a spelling to the spelling of the first use of its pair exactly
when that first use had the other variant (`Remembers`, `firstSpelling`). So a token is reported
exactly when the first use of its pair in the document had the other variant, and the variant
used first never is (`coherency_flags_other_variant`).
-/

namespace Proofreader

namespace Token

/-- The spelling a word-coherency rule judges a token by: the lemma of its first reading that is
not a sentinel, or its text when there is none. -/
def spelling (t : Token) : String :=
  match t.readings.find? (!·.isSentinel) with
  | some r => r.lemmaForm
  | none => t.text

/-- The spelling in lowercase, as pairs are compared. -/
def spellingKey (t : Token) : String := Unicode.toLower t.spelling

end Token

namespace DocumentRule

/-! ## Pairs of spellings -/

/-- The two variants of a pair, in lowercase. -/
def variants (p : String × String) : List String := [Unicode.toLower p.1, Unicode.toLower p.2]

/-- No lowercase spelling is a variant of two pairs, and the two variants of a pair differ. -/
def ApartPairs (pairs : List (String × String)) : Prop := (pairs.flatMap variants).Nodup

/-- The pair a lowercase spelling is a variant of: the first such pair. -/
def pairOf (pairs : List (String × String)) (k : String) : Option (String × String) :=
  pairs.find? fun p => k ∈ variants p

/-- The other spelling of a pair, for a lowercase spelling of one of them. -/
def partner (p : String × String) (k : String) : String :=
  if Unicode.toLower p.1 = k then p.2 else p.1

/-- The other spelling of the pair of `k`, looked up as the rule does. -/
def partnerIn (pairs : List (String × String)) (k : String) : Option String :=
  pairs.findSome? fun (a, b) =>
    if Unicode.toLower a = k then some b
    else if Unicode.toLower b = k then some a
    else none

theorem partnerIn_eq (pairs : List (String × String)) (k : String) :
    partnerIn pairs k = (pairOf pairs k).map (partner · k) := by
  induction pairs with
  | nil => rfl
  | cons p rest ih =>
    obtain ⟨a, b⟩ := p
    by_cases ha : Unicode.toLower a = k
    · simp [partnerIn, pairOf, variants, partner, ha]
    · by_cases hb : Unicode.toLower b = k
      · simp [partnerIn, pairOf, variants, partner, ha, hb]
      · simp only [partnerIn, pairOf] at ih ⊢
        simp [variants, ha, hb, Ne.symm ha, Ne.symm hb, ih]

theorem pairOf_eq_none_iff {pairs : List (String × String)} {k : String} :
    pairOf pairs k = none ↔ ∀ p ∈ pairs, k ∉ variants p := by
  simp [pairOf, List.find?_eq_none]

/-- The lowercase partner is the other variant of the pair. -/
theorem partner_mem_variants (p : String × String) (k : String) :
    Unicode.toLower (partner p k) ∈ variants p := by
  unfold partner
  split <;> simp [variants]

/-- Of two variants of a pair, the second is the first or its partner. -/
theorem eq_or_eq_partner {p : String × String} {k k' : String} (hk : k ∈ variants p)
    (hk' : k' ∈ variants p) : k' = k ∨ k' = Unicode.toLower (partner p k) := by
  simp only [variants, List.mem_cons, List.not_mem_nil, or_false] at hk hk'
  unfold partner
  by_cases h1 : Unicode.toLower p.1 = k
  · rw [if_pos h1]
    rcases hk' with rfl | rfl
    · exact .inl h1
    · exact .inr rfl
  · rw [if_neg h1]
    rcases hk with rfl | rfl
    · exact absurd rfl h1
    · rcases hk' with rfl | rfl
      · exact .inr rfl
      · exact .inl rfl

section Apart

variable {pairs : List (String × String)}

theorem variants_nodup (hp : ApartPairs pairs) {p : String × String} (hmem : p ∈ pairs) :
    (variants p).Nodup :=
  (List.nodup_flatMap.1 hp).1 p hmem

/-- A spelling and its partner differ. -/
theorem partner_ne (hp : ApartPairs pairs) {p : String × String} (hmem : p ∈ pairs) (k : String) :
    Unicode.toLower (partner p k) ≠ k := by
  have hnd := variants_nodup hp hmem
  simp only [variants, List.nodup_cons, List.mem_singleton, List.not_mem_nil, not_false_eq_true,
    List.nodup_nil, and_true] at hnd
  unfold partner
  split
  · rename_i h1
    rw [← h1]
    exact Ne.symm hnd
  · assumption

/-- A spelling is a variant of one pair at most. -/
theorem eq_of_mem_variants (hp : ApartPairs pairs) {p q : String × String} (hpm : p ∈ pairs)
    (hqm : q ∈ pairs) {k : String} (hkp : k ∈ variants p) (hkq : k ∈ variants q) : p = q := by
  by_contra hne
  have hsymm : Std.Symm (Function.onFun List.Disjoint variants) := ⟨fun _ _ h => h.symm⟩
  exact List.disjoint_left.1 ((List.nodup_flatMap.1 hp).2.forall hpm hqm hne) hkp hkq

theorem pairOf_eq_some_iff (hp : ApartPairs pairs) {k : String} {p : String × String} :
    pairOf pairs k = some p ↔ p ∈ pairs ∧ k ∈ variants p := by
  constructor
  · intro h
    exact ⟨List.mem_of_find?_eq_some h, by simpa using List.find?_some h⟩
  · rintro ⟨hmem, hk⟩
    -- the first pair with `k` as a variant is the only one
    cases hfind : pairOf pairs k with
    | none => exact absurd hk (pairOf_eq_none_iff.1 hfind p hmem)
    | some q =>
      have hq : q ∈ pairs ∧ k ∈ variants q :=
        ⟨List.mem_of_find?_eq_some hfind, by simpa using List.find?_some hfind⟩
      rw [eq_of_mem_variants hp hq.1 hmem hq.2 hk]

end Apart

/-! ## The first use of a pair -/

/-- The earliest of the tokens `ts` that uses a variant of the pair. -/
def firstUse (p : String × String) (ts : List Token) : Option Token :=
  ts.find? fun t => t.spellingKey ∈ variants p

/-- The spelling to report a use of `k` with, after the tokens `before`: the spelling of the first
use of its pair, when that use had the other variant. -/
def firstSpelling (pairs : List (String × String)) (before : List Token) (k : String) :
    Option String :=
  (pairOf pairs k).bind fun p => (firstUse p before).bind fun e =>
    if e.spellingKey = k then none else some e.spelling

/-- The report on a token whose pair was first used with the other variant, spelled `first`: the
replacement is the token respelled after `first`, with a capital when the token has one. -/
def coherencyNote (id : RuleId) (t : Token) (first : String) : Suggestion :=
  let respelled := respell t.text t.spelling first
  { source := id.text
    message := "'" ++ t.spelling ++ "' and '" ++ first ++ "' should not be used together."
    start := t.start
    stop := t.stop
    replacements := [if startsUppercase t.text then Unicode.mapFirst Unicode.charToUpper respelled
      else respelled] }

/-- What a word-coherency rule should report on the tokens `ts`, after the tokens `before`. -/
def coherencyExpected (id : RuleId) (pairs : List (String × String)) :
    List Token → List Token → List Suggestion
  | _, [] => []
  | before, t :: rest =>
    ((firstSpelling pairs before t.spellingKey).map (coherencyNote id t)).toList ++
      coherencyExpected id pairs (before ++ [t]) rest

theorem firstUse_append_singleton (p : String × String) (ts : List Token) (tok : Token) :
    firstUse p (ts ++ [tok]) =
      (firstUse p ts).or (if tok.spellingKey ∈ variants p then some tok else none) := by
  rw [firstUse, List.find?_append, ← firstUse]
  by_cases h : tok.spellingKey ∈ variants p <;> simp [h]

/-- A token of a pair already used, or of no pair, changes no first use. -/
theorem firstSpelling_append_of_used {pairs : List (String × String)} {before : List Token}
    {tok : Token} (h : ∀ p ∈ pairs, tok.spellingKey ∈ variants p → (firstUse p before).isSome)
    (k : String) : firstSpelling pairs (before ++ [tok]) k = firstSpelling pairs before k := by
  unfold firstSpelling
  cases hpair : pairOf pairs k with
  | none => rfl
  | some p =>
    have hmem : p ∈ pairs := List.mem_of_find?_eq_some hpair
    rw [Option.bind_some, Option.bind_some, firstUse_append_singleton]
    by_cases hk : tok.spellingKey ∈ variants p
    · obtain ⟨e, he⟩ := Option.isSome_iff_exists.1 (h p hmem hk)
      rw [he, Option.some_or]
    · rw [if_neg hk, Option.or_none]

/-- The first use of a pair makes the other variant reported, with the spelling of that use. -/
theorem firstSpelling_append_of_new {pairs : List (String × String)} (hp : ApartPairs pairs)
    {before : List Token} {tok : Token} {p : String × String} (hmem : p ∈ pairs)
    (hk : tok.spellingKey ∈ variants p) (hnew : firstUse p before = none) (k : String) :
    firstSpelling pairs (before ++ [tok]) k =
      if k = Unicode.toLower (partner p tok.spellingKey) then some tok.spelling
      else firstSpelling pairs before k := by
  unfold firstSpelling
  cases hpair : pairOf pairs k with
  | none =>
    -- a spelling of no pair is not the partner, which is a variant of `p`
    have hne : k ≠ Unicode.toLower (partner p tok.spellingKey) := by
      rintro rfl
      exact pairOf_eq_none_iff.1 hpair p hmem (partner_mem_variants p _)
    rw [if_neg hne]
    rfl
  | some q =>
    obtain ⟨hqm, hkq⟩ := (pairOf_eq_some_iff hp).1 hpair
    rw [Option.bind_some, Option.bind_some, firstUse_append_singleton]
    by_cases hqp : q = p
    · -- the pair of the token: its first use is now the token
      subst hqp
      rw [hnew, if_pos hk, Option.none_or, Option.bind_some, Option.bind_none]
      rcases eq_or_eq_partner hk hkq with rfl | rfl
      · rw [if_pos rfl, if_neg (partner_ne hp hqm _).symm]
      · rw [if_neg (partner_ne hp hqm _).symm, if_pos rfl]
    · -- another pair: the token is not its variant, and `k` is not the token's partner
      have hkt : tok.spellingKey ∉ variants q := fun h => hqp (eq_of_mem_variants hp hqm hmem h hk)
      have hne : k ≠ Unicode.toLower (partner p tok.spellingKey) := by
        rintro rfl
        exact hqp (eq_of_mem_variants hp hqm hmem hkq (partner_mem_variants p _))
      rw [if_neg hkt, Option.or_none, if_neg hne]

/-- A spelling that is to be reported belongs to a pair already used, and so does every spelling
of that pair. -/
theorem used_of_firstSpelling {pairs : List (String × String)} (hp : ApartPairs pairs)
    {before : List Token} {k first : String} (h : firstSpelling pairs before k = some first) :
    ∀ p ∈ pairs, k ∈ variants p → (firstUse p before).isSome := by
  intro p hmem hk
  rw [firstSpelling, (pairOf_eq_some_iff hp).2 ⟨hmem, hk⟩, Option.bind_some] at h
  cases huse : firstUse p before with
  | none => rw [huse] at h; cases h
  | some e => rfl

/-- Once a pair is in use and a variant of it is allowed, that variant is the one first used,
and its partner is to be reported with the spelling of that use. -/
theorem firstSpelling_partner_of_used {pairs : List (String × String)} (hp : ApartPairs pairs)
    {before : List Token} {p : String × String} (hmem : p ∈ pairs) {k : String}
    (hk : k ∈ variants p) {e : Token} (huse : firstUse p before = some e)
    (hfs : firstSpelling pairs before k = none) :
    firstSpelling pairs before (Unicode.toLower (partner p k)) = some e.spelling := by
  have he : e.spellingKey = k := by
    by_contra hdiff
    rw [firstSpelling, (pairOf_eq_some_iff hp).2 ⟨hmem, hk⟩, Option.bind_some, huse,
      Option.bind_some, if_neg hdiff] at hfs
    cases hfs
  rw [firstSpelling, (pairOf_eq_some_iff hp).2 ⟨hmem, partner_mem_variants p _⟩, Option.bind_some,
    huse, Option.bind_some, he, if_neg (Ne.symm (partner_ne hp hmem k))]

/-! ## The memory of the rule -/

/-- The memory of a word-coherency rule holds, for each spelling, what `firstSpelling` gives after
the tokens `before`. -/
def Remembers (pairs : List (String × String)) (before : List Token)
    (seen : List (String × String)) : Prop :=
  ∀ k, seen.lookup k = firstSpelling pairs before k

theorem remembers_nil (pairs : List (String × String)) : Remembers pairs [] [] := by
  intro k
  unfold firstSpelling
  cases pairOf pairs k <;> rfl

/-- One token's turn in word coherency, as the rule takes it: a token whose spelling the memory
forbids is reported with the spelling remembered for it; otherwise, when its spelling is a
variant of a pair, the memory learns, unless it knows already, that the other variant must not
be used and that this token's spelling came first. -/
def coherencyTurn (id : RuleId) (pairs : List (String × String))
    (acc : List Suggestion × List (String × String)) (tok : Token) :
    List Suggestion × List (String × String) :=
  match acc.2.lookup tok.spellingKey with
  | some first => (acc.1 ++ [coherencyNote id tok first], acc.2)
  | none =>
    match partnerIn pairs tok.spellingKey with
    | some o =>
      if (acc.2.lookup (Unicode.toLower o)).isSome then acc
      else (acc.1, acc.2 ++ [(Unicode.toLower o, tok.spelling)])
    | none => acc

theorem coherency_eq_foldl (id : RuleId) (pairs : List (String × String)) (s : Sentence)
    (seen : List (String × String)) :
    coherency id pairs s seen = (contentTokens s).foldl (coherencyTurn id pairs) ([], seen) :=
  rfl

/-- One turn reports the token exactly when `firstSpelling` gives a spelling for it, and keeps
the memory true of one more token. -/
theorem coherencyTurn_remembers {id : RuleId} {pairs : List (String × String)}
    (hp : ApartPairs pairs) {before : List Token} {acc : List Suggestion × List (String × String)}
    (hrem : Remembers pairs before acc.2) (tok : Token) :
    ∃ seen, coherencyTurn id pairs acc tok =
        (acc.1 ++ ((firstSpelling pairs before tok.spellingKey).map (coherencyNote id tok)).toList,
          seen) ∧
      Remembers pairs (before ++ [tok]) seen := by
  unfold coherencyTurn
  rw [hrem tok.spellingKey]
  cases hfs : firstSpelling pairs before tok.spellingKey with
  | some first =>
    -- a forbidden spelling: reported, and the memory stays as it is
    refine ⟨acc.2, rfl, fun k => ?_⟩
    rw [firstSpelling_append_of_used (used_of_firstSpelling hp hfs), hrem k]
  | none =>
    rw [partnerIn_eq]
    cases hpair : pairOf pairs tok.spellingKey with
    | none =>
      -- a spelling of no pair: nothing to learn
      refine ⟨acc.2, by simp, fun k => ?_⟩
      rw [firstSpelling_append_of_used (fun p hmem hk => absurd hk
        (pairOf_eq_none_iff.1 hpair p hmem)), hrem k]
    | some p =>
      obtain ⟨hmem, hk⟩ := (pairOf_eq_some_iff hp).1 hpair
      have hother : pairOf pairs (Unicode.toLower (partner p tok.spellingKey)) = some p :=
        (pairOf_eq_some_iff hp).2 ⟨hmem, partner_mem_variants p _⟩
      cases huse : firstUse p before with
      | some e =>
        -- the pair was used before with this same variant, which the memory knows already
        have hknown : acc.2.lookup (Unicode.toLower (partner p tok.spellingKey)) =
            some e.spelling := by
          rw [hrem]
          exact firstSpelling_partner_of_used hp hmem hk huse hfs
        refine ⟨acc.2, by simp [hknown], fun k => ?_⟩
        rw [firstSpelling_append_of_used (fun q hqm hkq => by
          rw [eq_of_mem_variants hp hqm hmem hkq hk, huse]; rfl), hrem k]
      | none =>
        -- the first use of the pair: the memory learns to forbid the other variant
        have hunknown : acc.2.lookup (Unicode.toLower (partner p tok.spellingKey)) = none := by
          rw [hrem, firstSpelling, hother, Option.bind_some, huse, Option.bind_none]
        refine ⟨acc.2 ++ [(Unicode.toLower (partner p tok.spellingKey), tok.spelling)],
          by simp [hunknown], fun k => ?_⟩
        rw [List.lookup_append, hrem k, firstSpelling_append_of_new hp hmem hk huse k]
        by_cases hkp : k = Unicode.toLower (partner p tok.spellingKey)
        · rw [if_pos hkp, ← hrem k, hkp, hunknown, Option.none_or]
          simp
        · rw [if_neg hkp]
          simp [hkp]

/-- The turns over the tokens of a sentence report what `coherencyExpected` says, and leave a
memory true of the tokens so far. -/
theorem foldl_coherencyTurn {id : RuleId} {pairs : List (String × String)}
    (hp : ApartPairs pairs) :
    ∀ (ts before : List Token) (acc : List Suggestion × List (String × String)),
      Remembers pairs before acc.2 →
      ∃ seen, ts.foldl (coherencyTurn id pairs) acc =
          (acc.1 ++ coherencyExpected id pairs before ts, seen) ∧
        Remembers pairs (before ++ ts) seen
  | [], before, acc, h => ⟨acc.2, by simp [coherencyExpected], by simpa using h⟩
  | t :: rest, before, acc, h => by
    obtain ⟨seen, hturn, hrem⟩ := @coherencyTurn_remembers id pairs hp before acc h t
    obtain ⟨seen', hfold, hrem'⟩ :=
      foldl_coherencyTurn hp rest (before ++ [t]) (coherencyTurn id pairs acc t)
        (by rw [hturn]; exact hrem)
    refine ⟨seen', ?_, by simpa using hrem'⟩
    rw [List.foldl_cons, hfold, hturn, coherencyExpected, List.append_assoc]

/-- Along a document, a word-coherency rule's memory is true of the content tokens so far. -/
theorem stateAfter_wordCoherency {pairs : List (String × String)} (hp : ApartPairs pairs)
    (id : RuleId) (doc : List Sentence) :
    ∃ seen, ((wordCoherency id pairs).stateAfter doc).getD (.coherency []) = .coherency seen ∧
      Remembers pairs (doc.flatMap contentTokens) seen := by
  induction doc using List.reverseRecOn with
  | nil => exact ⟨[], rfl, remembers_nil pairs⟩
  | append_singleton doc s ih =>
    obtain ⟨seen, hstate, hrem⟩ := ih
    obtain ⟨seen', hfold, hrem'⟩ :=
      @foldl_coherencyTurn id pairs hp (contentTokens s) _ ([], seen) hrem
    refine ⟨seen', ?_, by simpa using hrem'⟩
    rw [stateAfter_append_singleton, Option.getD_some, step, hstate]
    simp only [coherency_eq_foldl, hfold]

theorem reportsAfter_wordCoherency {pairs : List (String × String)} (hp : ApartPairs pairs)
    (id : RuleId) (doc : List Sentence) (s : Sentence) :
    (wordCoherency id pairs).reportsAfter doc s =
      coherencyExpected id pairs (doc.flatMap contentTokens) (contentTokens s) := by
  obtain ⟨seen, hstate, hrem⟩ := stateAfter_wordCoherency hp id doc
  obtain ⟨seen', hfold, -⟩ :=
    @foldl_coherencyTurn id pairs hp (contentTokens s) _ ([], seen) hrem
  rw [reportsAfter, step, hstate]
  simp only [coherency_eq_foldl, hfold, List.nil_append]

end DocumentRule

/-- Whatever the other rules of the list, a word-coherency rule whose pairs are apart reports,
on each sentence of a document, exactly the content tokens whose pair was first used in the
document with the other variant, each with that first spelling respelled into it. -/
theorem coherency_flags_other_variant {pairs : List (String × String)}
    (hp : DocumentRule.ApartPairs pairs) (id : RuleId) (rules : List DocumentRule)
    (doc : List Sentence) (s : Sentence) :
    ((DocumentCheck.run rules doc).check rules s).1 = rules.flatMap (·.reportsAfter doc s) ∧
    (DocumentRule.wordCoherency id pairs).reportsAfter doc s =
      DocumentRule.coherencyExpected id pairs (doc.flatMap contentTokens) (contentTokens s) :=
  ⟨DocumentCheck.run_check_reports rules doc s,
    DocumentRule.reportsAfter_wordCoherency hp id doc s⟩

/-- A document whose first sentence writes `colour`: that sentence is not flagged, and a later
`Color` is, with the first spelling offered in its place, capital kept. -/
theorem later_color_respelled :
    DocumentRule.ApartPairs [("colour", "color")] ∧
      ((DocumentCheck.run [.wordCoherency ⟨⟨"STYLE"⟩, "COHERENCY"⟩ [("colour", "color")]] []).check
          [.wordCoherency ⟨⟨"STYLE"⟩, "COHERENCY"⟩ [("colour", "color")]]
          (oneWordSentence "colour" 0 6)).1 = [] ∧
      ((DocumentCheck.run [.wordCoherency ⟨⟨"STYLE"⟩, "COHERENCY"⟩ [("colour", "color")]]
          [oneWordSentence "colour" 0 6]).check
          [.wordCoherency ⟨⟨"STYLE"⟩, "COHERENCY"⟩ [("colour", "color")]]
          (oneWordSentence "Color" 11 16)).1 =
        [{ source := "STYLE/COHERENCY",
           message := "'Color' and 'colour' should not be used together.",
           start := 11, stop := 16, replacements := ["Colour"] }] := by
  have hp : DocumentRule.ApartPairs [("colour", "color")] := by
    unfold DocumentRule.ApartPairs
    decide +kernel
  obtain ⟨hfirst, hfirst'⟩ := coherency_flags_other_variant hp ⟨⟨"STYLE"⟩, "COHERENCY"⟩
    [.wordCoherency ⟨⟨"STYLE"⟩, "COHERENCY"⟩ [("colour", "color")]] [] (oneWordSentence "colour" 0 6)
  obtain ⟨hlater, hlater'⟩ := coherency_flags_other_variant hp ⟨⟨"STYLE"⟩, "COHERENCY"⟩
    [.wordCoherency ⟨⟨"STYLE"⟩, "COHERENCY"⟩ [("colour", "color")]] [oneWordSentence "colour" 0 6]
    (oneWordSentence "Color" 11 16)
  refine ⟨hp, ?_, ?_⟩
  · rw [hfirst, List.flatMap_singleton, hfirst']
    decide +kernel
  · rw [hlater, List.flatMap_singleton, hlater']
    decide +kernel

end Proofreader
