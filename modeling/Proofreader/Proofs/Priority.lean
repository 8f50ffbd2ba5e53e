import Mathlib
import Proofreader.Proofs.SuggestionSpans

/-!
# Earlier rules win overlaps

Checking a sentence runs every enabled rule and pools what each suggests, tagged with the rule's
position. `resolveOverlaps` goes through the pool by priority (rule position, then start), keeps
each suggestion that overlaps none kept before it, and sorts what it kept by start and end.

This file says what comes out in terms of what each rule suggests on its own
(`RuleSet.suggestionsOf`): the suggestions are sorted by start and end, no two overlap, together
they are some of those the enabled rules made (counted with multiplicity), and a suggestion of
rule `i` is left out only when it overlaps a kept suggestion of a rule at or before `i`
(`RuleSet.apply_resolves_by_priority`). Such a list is its own resolution under any single
priority (`resolveOverlaps_of_resolved`), so without document rules, checking a document gives
exactly the suggestions for its text.

Resolution is a greedy fold (`keepApart`): what it keeps is a sublist of what it is given, kept
suggestions stay apart, and each suggestion it passes over overlaps one kept before it
(`foldl_keepApart_passes_over`). The priority sort makes "before" mean "of a rule at or before".
-/

namespace Proofreader

/-! ## The greedy fold -/

/-- The order resolving overlaps goes by: rule position, then start. -/
def byPriority (a b : Nat × Suggestion) : Bool :=
  a.1 < b.1 || (a.1 = b.1 && a.2.start ≤ b.2.start)

/-- The order of the resolved suggestions: start, then end. -/
def byPosition (a b : Suggestion) : Bool :=
  a.start < b.start || (a.start = b.start && a.stop ≤ b.stop)

@[simp] theorem byPriority_eq_true {a b : Nat × Suggestion} :
    byPriority a b = true ↔ a.1 < b.1 ∨ (a.1 = b.1 ∧ a.2.start ≤ b.2.start) := by
  simp [byPriority]

@[simp] theorem byPosition_eq_true {a b : Suggestion} :
    byPosition a b = true ↔ a.start < b.start ∨ (a.start = b.start ∧ a.stop ≤ b.stop) := by
  simp [byPosition]

/-- One step of resolving overlaps: keep the suggestion when it overlaps none kept so far. -/
def keepApart (kept : List Suggestion) (p : Nat × Suggestion) : List Suggestion :=
  if kept.all (!·.overlaps p.2) then kept ++ [p.2] else kept

theorem resolveOverlaps_eq (found : List (Nat × Suggestion)) :
    resolveOverlaps found =
      ((found.mergeSort byPriority).foldl keepApart []).mergeSort byPosition := rfl

/-- The fold keeps what it had, followed by some of the suggestions it is given, in order. -/
theorem foldl_keepApart_sublist :
    ∀ (l : List (Nat × Suggestion)) (kept : List Suggestion),
      ∃ t, t.Sublist (l.map Prod.snd) ∧ l.foldl keepApart kept = kept ++ t
  | [], kept => ⟨[], List.Sublist.slnil, (List.append_nil kept).symm⟩
  | p :: rest, kept => by
    rw [List.foldl_cons, List.map_cons]
    by_cases hall : (kept.all fun x => !x.overlaps p.2) = true
    · obtain ⟨t, ht, heq⟩ := foldl_keepApart_sublist rest (kept ++ [p.2])
      refine ⟨p.2 :: t, ht.cons_cons p.2, ?_⟩
      rw [keepApart, if_pos hall, heq, List.append_assoc, List.singleton_append]
    · obtain ⟨t, ht, heq⟩ := foldl_keepApart_sublist rest kept
      refine ⟨t, ht.cons p.2, ?_⟩
      rw [keepApart, if_neg hall, heq]

/-- Every suggestion the fold is given is kept, or overlaps one that is kept and was kept
before it: one it started with, or one given earlier. -/
theorem foldl_keepApart_passes_over :
    ∀ (l : List (Nat × Suggestion)) (kept : List Suggestion), ∀ p ∈ l,
      p.2 ∈ l.foldl keepApart kept ∨ ∃ y ∈ l.foldl keepApart kept, p.2.overlaps y = true ∧
        (y ∈ kept ∨ ∃ q, q ∈ l ∧ q.2 = y ∧ ∃ l₁ l₂, l = l₁ ++ q :: l₂ ∧ p ∈ l₂)
  | [], _, p, hp => absurd hp List.not_mem_nil
  | q :: rest, kept, p, hp => by
    obtain ⟨t, -, hkept⟩ := foldl_keepApart_sublist rest (keepApart kept q)
    rw [List.foldl_cons, hkept]
    rcases List.mem_cons.1 hp with rfl | hp
    · -- the head is kept, or passed over for one kept before it
      unfold keepApart
      split
      · exact Or.inl
          (List.mem_append_left t (List.mem_append_right kept (List.mem_singleton_self _)))
      · rename_i hall
        obtain ⟨y, hy, hov⟩ : ∃ y ∈ kept, y.overlaps p.2 = true := by simpa using hall
        refine Or.inr ⟨y, List.mem_append_left t hy, ?_, Or.inl hy⟩
        rw [Suggestion.overlaps_comm]
        exact hov
    · -- a later suggestion: what the rest of the fold says, with the head as one kept before
      rcases foldl_keepApart_passes_over rest (keepApart kept q) p hp with
        hin | ⟨y, hy, hov, hwhere⟩
      · exact Or.inl (by rw [← hkept]; exact hin)
      · refine Or.inr ⟨y, by rw [← hkept]; exact hy, hov, ?_⟩
        rcases hwhere with hy' | ⟨q', hq', rfl, l₁, l₂, hsplit, hp'⟩
        · -- kept before the rest: it was held already, or it is the head
          unfold keepApart at hy'
          split at hy'
          · rcases List.mem_append.1 hy' with hy' | hy'
            · exact Or.inl hy'
            · rw [List.mem_singleton] at hy'
              exact Or.inr ⟨q, List.mem_cons_self, hy'.symm, [], rest, rfl, hp⟩
          · exact Or.inl hy'
        · exact Or.inr
            ⟨q', List.mem_cons_of_mem q hq', rfl, q :: l₁, l₂, by rw [hsplit]; rfl, hp'⟩

/-- Given suggestions that overlap nothing it holds nor each other, the fold keeps them all. -/
theorem foldl_keepApart_of_apart :
    ∀ (l : List (Nat × Suggestion)) (kept : List Suggestion),
      (kept ++ l.map Prod.snd).Pairwise (fun a b => a.overlaps b = false) →
      l.foldl keepApart kept = kept ++ l.map Prod.snd
  | [], kept, _ => by rw [List.foldl_nil, List.map_nil, List.append_nil]
  | p :: rest, kept, h => by
    have hall : (kept.all fun x => !x.overlaps p.2) = true := by
      refine List.all_eq_true.2 fun x hx => ?_
      have := List.pairwise_append.1 h |>.2.2 x hx p.2 (by simp)
      simp [this]
    rw [List.foldl_cons, keepApart, if_pos hall, foldl_keepApart_of_apart rest (kept ++ [p.2])
      (by simpa using h), List.map_cons, List.append_assoc, List.singleton_append]

/-! ## Resolving overlaps -/

/-- Priority is a total preorder. -/
theorem byPriority_trans_total :
    (∀ a b c, byPriority a b = true → byPriority b c = true → byPriority a c = true) ∧
      ∀ a b, (byPriority a b || byPriority b a) = true := by
  refine ⟨fun a b c hab hbc => ?_, fun a b => ?_⟩
  · rw [byPriority_eq_true] at hab hbc ⊢
    omega
  · rw [Bool.or_eq_true, byPriority_eq_true, byPriority_eq_true]
    omega

/-- Position is a total preorder. -/
theorem byPosition_trans_total :
    (∀ a b c, byPosition a b = true → byPosition b c = true → byPosition a c = true) ∧
      ∀ a b, (byPosition a b || byPosition b a) = true := by
  refine ⟨fun a b c hab hbc => ?_, fun a b => ?_⟩
  · rw [byPosition_eq_true] at hab hbc ⊢
    omega
  · rw [Bool.or_eq_true, byPosition_eq_true, byPosition_eq_true]
    omega

/-- The resolved suggestions are sorted by start and end. -/
theorem resolveOverlaps_sorted (found : List (Nat × Suggestion)) :
    (resolveOverlaps found).Pairwise fun a b => byPosition a b = true := by
  rw [resolveOverlaps_eq]
  exact List.pairwise_mergeSort byPosition_trans_total.1 byPosition_trans_total.2 _

/-- No two resolved suggestions overlap. -/
theorem resolveOverlaps_apart (found : List (Nat × Suggestion)) :
    (resolveOverlaps found).Pairwise fun a b => a.overlaps b = false := by
  rw [resolveOverlaps_eq]
  refine ((List.mergeSort_perm _ _).pairwise_iff
    (fun {a b} (hab : a.overlaps b = false) => (Suggestion.overlaps_comm b a).trans hab)).2 ?_
  exact (keep_foldl _ [] List.Pairwise.nil).1

/-- The resolved suggestions are some of those given, counted with multiplicity. -/
theorem resolveOverlaps_subperm (found : List (Nat × Suggestion)) :
    (resolveOverlaps found).Subperm (found.map Prod.snd) := by
  rw [resolveOverlaps_eq]
  obtain ⟨t, ht, hkept⟩ := foldl_keepApart_sublist (found.mergeSort byPriority) []
  rw [hkept, List.nil_append]
  exact (List.mergeSort_perm t byPosition).subperm.trans
    (ht.subperm.trans ((List.mergeSort_perm found byPriority).map Prod.snd).subperm)

/-- A suggestion left out overlaps a resolved one of the same or a higher priority. -/
theorem resolveOverlaps_passes_over {found : List (Nat × Suggestion)} {p : Nat × Suggestion}
    (hp : p ∈ found) (hout : p.2 ∉ resolveOverlaps found) :
    ∃ q ∈ found, q.1 ≤ p.1 ∧ q.2 ∈ resolveOverlaps found ∧ p.2.overlaps q.2 = true := by
  have hperm := List.mergeSort_perm found byPriority
  have hsorted := List.pairwise_mergeSort byPriority_trans_total.1 byPriority_trans_total.2 found
  rw [resolveOverlaps_eq, List.mem_mergeSort] at hout
  rcases foldl_keepApart_passes_over _ [] p (hperm.mem_iff.2 hp) with hin | ⟨y, hy, hov, hwhere⟩
  · exact absurd hin hout
  rcases hwhere with hy' | ⟨q, hq, rfl, l₁, l₂, hsplit, hp'⟩
  · cases hy'
  -- `q` comes before `p` in the priority order, so its rule is at or before that of `p`
  have hqp : byPriority q p = true := by
    rw [hsplit, List.pairwise_append, List.pairwise_cons] at hsorted
    exact hsorted.2.1.1 p hp'
  refine ⟨q, hperm.mem_iff.1 hq, ?_, ?_, hov⟩
  · rw [byPriority_eq_true] at hqp
    omega
  · rw [resolveOverlaps_eq, List.mem_mergeSort]
    exact hy

/-- Suggestions sorted by start and end, no two of which overlap, are their own resolution under
any single priority. -/
theorem resolveOverlaps_of_resolved {L : List Suggestion}
    (hsorted : L.Pairwise fun a b => byPosition a b = true)
    (hapart : L.Pairwise fun a b => a.overlaps b = false) (k : Nat) :
    resolveOverlaps (L.map (k, ·)) = L := by
  -- under one priority, sorted by position is sorted by priority: the first sort keeps them
  have hprio : (L.map (k, ·)).Pairwise fun a b => byPriority a b = true := by
    refine List.pairwise_map.2 (hsorted.imp fun {a b} hab => ?_)
    rw [byPosition_eq_true] at hab
    simp only [byPriority_eq_true, lt_self_iff_false, true_and, false_or]
    omega
  have hsnd : (L.map (k, ·)).map Prod.snd = L := by simp
  rw [resolveOverlaps_eq, List.mergeSort_of_pairwise hprio,
    foldl_keepApart_of_apart _ [] (by rw [List.nil_append, hsnd]; exact hapart),
    List.nil_append, hsnd, List.mergeSort_of_pairwise hsorted]

/-! ## What each rule suggests -/

/-- Filtering a list with positions and gathering what each kept item gives is gathering, for
each position, what its item gives when the filter keeps it. -/
theorem flatMap_filter_zipIdx {α β : Type} (l : List α) (P : α × Nat → Bool)
    (G : α × Nat → List β) :
    (l.zipIdx.filter P).flatMap G =
      (List.range l.length).flatMap fun i =>
        match l[i]? with
        | some a => if P (a, i) then G (a, i) else []
        | none => [] := by
  induction l using List.reverseRecOn with
  | nil => rfl
  | append_singleton l a ih =>
    rw [List.zipIdx_append, List.filter_append, List.flatMap_append, ih, List.length_append,
      List.length_singleton, List.range_succ, List.flatMap_append]
    congr 1
    · -- the positions before the new item see the same items
      refine List.flatMap_congr fun i hi => ?_
      rw [List.getElem?_append_left (List.mem_range.1 hi)]
    · by_cases hP : P (a, l.length) = true <;> simp [hP]

namespace RuleSet

/-- What the rule at position `i` suggests on a sentence when the set checks it: nothing when it
is disabled or there is no rule there, and nothing when it fails, as when it runs out of budget.
-/
def suggestionsOf (rs : RuleSet) (s : Sentence) (inflect : Inflector) (i : Nat) :
    List Suggestion :=
  match rs.rules[i]? with
  | some r => if rs.isEnabled i then (r.apply s inflect).toOption.getD [] else []
  | none => []

/-- A sentence without tokens gets no suggestion from any rule. -/
theorem suggestionsOf_of_isEmpty (rs : RuleSet) {s : Sentence} (h : s.tokens.isEmpty = true)
    (inflect : Inflector) (i : Nat) : rs.suggestionsOf s inflect i = [] := by
  unfold suggestionsOf
  split
  · rw [Rule.apply_of_isEmpty _ h]
    split <;> rfl
  · rfl

/-- Checking a sentence resolves the overlaps among what each rule suggests, tagged with the
rule's position. -/
theorem apply_eq (rs : RuleSet) (s : Sentence) (inflect : Inflector) :
    rs.apply s inflect = if s.tokens.isEmpty then [] else
      resolveOverlaps ((List.range rs.rules.length).flatMap fun i =>
        (rs.suggestionsOf s inflect i).map (i, ·)) := by
  unfold RuleSet.apply
  split
  · rfl
  · dsimp only
    congr 1
    refine (flatMap_filter_zipIdx rs.rules _ _).trans (List.flatMap_congr fun i _ => ?_)
    simp only [suggestionsOf, isEnabled]
    rcases Option.eq_none_or_eq_some rs.rules[i]? with hr | ⟨r, hr⟩
    · simp only [hr, List.map_nil]
    · simp only [hr]
      by_cases hen : rs.mask[i]?.getD false = true
      · cases r.apply s inflect <;> simp [hen, Except.toOption]
      · simp [hen]

/-- A suggestion tagged with a rule's position is in the pool exactly when that rule made it. -/
theorem mem_pool {rs : RuleSet} {s : Sentence} {inflect : Inflector} {i : Nat}
    {x : Suggestion} :
    (i, x) ∈ (List.range rs.rules.length).flatMap (fun j =>
      (rs.suggestionsOf s inflect j).map (j, ·)) ↔ x ∈ rs.suggestionsOf s inflect i := by
  simp only [List.mem_flatMap, List.mem_range, List.mem_map, Prod.mk.injEq]
  constructor
  · rintro ⟨j, -, y, hy, rfl, rfl⟩
    exact hy
  · intro hx
    -- only a rule in range suggests anything
    have hi : i < rs.rules.length := by
      by_contra hge
      have : rs.suggestionsOf s inflect i = [] := by
        simp [suggestionsOf, List.getElem?_eq_none (Nat.le_of_not_lt hge)]
      rw [this] at hx
      cases hx
    exact ⟨i, hi, x, hx, rfl, rfl⟩

/-- What holds of no suggestions and of the resolution of the pool holds of the suggestions for
a sentence. -/
theorem apply_of_resolved {rs : RuleSet} {s : Sentence} {inflect : Inflector}
    {P : List Suggestion → Prop} (hnil : P [])
    (hpool : P (resolveOverlaps ((List.range rs.rules.length).flatMap fun i =>
      (rs.suggestionsOf s inflect i).map (i, ·)))) :
    P (rs.apply s inflect) := by
  rw [apply_eq]
  split
  · exact hnil
  · exact hpool

/-- The suggestions for a sentence are sorted by start and end. -/
theorem apply_sorted (rs : RuleSet) (s : Sentence) (inflect : Inflector) :
    (rs.apply s inflect).Pairwise fun a b => byPosition a b = true :=
  apply_of_resolved List.Pairwise.nil (resolveOverlaps_sorted _)

/-- No two suggestions for a sentence overlap. -/
theorem apply_apart (rs : RuleSet) (s : Sentence) (inflect : Inflector) :
    (rs.apply s inflect).Pairwise fun a b => a.overlaps b = false :=
  apply_of_resolved List.Pairwise.nil (resolveOverlaps_apart _)

/-- The suggestions for a sentence are some of those its rules make, counted with multiplicity. -/
theorem apply_subperm (rs : RuleSet) (s : Sentence) (inflect : Inflector) :
    (rs.apply s inflect).Subperm
      ((List.range rs.rules.length).flatMap (rs.suggestionsOf s inflect)) := by
  -- the pool is each rule's suggestions tagged with its position
  have hsnd : ((List.range rs.rules.length).flatMap fun i =>
      (rs.suggestionsOf s inflect i).map (i, ·)).map Prod.snd =
        (List.range rs.rules.length).flatMap (rs.suggestionsOf s inflect) := by
    simp [List.map_flatMap]
  exact apply_of_resolved (P := (·.Subperm _)) List.nil_subperm (hsnd ▸ resolveOverlaps_subperm _)

/-- A suggestion of rule `i` is left out only for one of a rule at or before `i` that it
overlaps, and that is kept. -/
theorem apply_passes_over (rs : RuleSet) {s : Sentence} {inflect : Inflector} {i : Nat}
    {x : Suggestion} (hx : x ∈ rs.suggestionsOf s inflect i) (hout : x ∉ rs.apply s inflect) :
    ∃ j ≤ i, ∃ y ∈ rs.suggestionsOf s inflect j, y ∈ rs.apply s inflect ∧
      x.overlaps y = true := by
  rw [apply_eq] at hout ⊢
  split at hout
  · -- a sentence without tokens gets no suggestion to leave out
    rename_i hempty
    rw [suggestionsOf_of_isEmpty rs hempty] at hx
    cases hx
  · rw [if_neg ‹_›]
    obtain ⟨⟨j, y⟩, hq, hj, hy, hov⟩ := resolveOverlaps_passes_over (mem_pool.2 hx) hout
    exact ⟨j, hj, y, mem_pool.1 hq, hy, hov⟩

/-- A fold whose step appends what `f` gives for each item gathers all of it. -/
theorem foldl_fst_eq_append_flatMap {α β σ : Type} (f : α → List β)
    {step : List β × σ → α → List β × σ} (hstep : ∀ acc a, (step acc a).1 = acc.1 ++ f a) :
    ∀ (l : List α) (acc : List β × σ), (l.foldl step acc).1 = acc.1 ++ l.flatMap f
  | [], acc => by rw [List.foldl_nil, List.flatMap_nil, List.append_nil]
  | a :: rest, acc => by
    rw [List.foldl_cons, foldl_fst_eq_append_flatMap f hstep rest, hstep, List.flatMap_cons,
      List.append_assoc]

/-- A rule set without document rules checks a document exactly as it suggests corrections for
its text: each sentence's suggestions are already resolved, so resolving them again with the
sentence rules' priority changes nothing. -/
theorem checkDocument_eq_suggest (rs : RuleSet) (tokenizer : Tokenizer) (text : String) :
    ({ rs with documentRules := [] } : RuleSet).checkDocument tokenizer text =
      ({ rs with documentRules := [] } : RuleSet).suggest tokenizer text := by
  unfold checkDocument suggest suggestWith
  dsimp only
  by_cases he : text.isEmpty = true
  · -- an empty text has no sentence
    have hnone : tokenizer.analyze text = [] := by
      rw [String.isEmpty_iff.1 he]
      rfl
    rw [if_pos he, hnone]
    rfl
  · rw [if_neg he, foldl_fst_eq_append_flatMap (fun sent => rs.apply sent tokenizer.inflect)
      (fun acc sent => ?_), List.nil_append]
    · rfl
    rw [DocumentCheck.check_nil]
    dsimp only
    rw [List.map_nil, List.append_nil,
      resolveOverlaps_of_resolved (apply_sorted _ _ _) (apply_apart _ _ _)]
    rfl

/-- What checking a sentence keeps, in terms of what each rule suggests on its own: the
suggestions are sorted by start and then end; no two overlap; together they are some of those
the enabled rules made without failing, counted with multiplicity; and a suggestion of rule `i`
is left out only when it overlaps a kept suggestion of a rule at or before `i`, so the earlier
rule wins and a rule that fails contributes nothing. Resolving the result again under any
single priority returns it unchanged, and so a rule set without its document rules checks a
document exactly as it suggests corrections for the document's text. -/
theorem apply_resolves_by_priority (rs : RuleSet) (s : Sentence) (inflect : Inflector) :
    (rs.apply s inflect).Pairwise
        (fun a b => a.start < b.start ∨ (a.start = b.start ∧ a.stop ≤ b.stop)) ∧
      (rs.apply s inflect).Pairwise (fun a b => a.overlaps b = false) ∧
      (rs.apply s inflect).Subperm
        ((List.range rs.rules.length).flatMap (rs.suggestionsOf s inflect)) ∧
      (∀ i x, x ∈ rs.suggestionsOf s inflect i → x ∉ rs.apply s inflect →
        ∃ j ≤ i, ∃ y ∈ rs.suggestionsOf s inflect j, y ∈ rs.apply s inflect ∧
          x.overlaps y = true) ∧
      (∀ k, resolveOverlaps ((rs.apply s inflect).map (k, ·)) = rs.apply s inflect) ∧
      ∀ (tokenizer : Tokenizer) (text : String),
        ({ rs with documentRules := [] } : RuleSet).checkDocument tokenizer text =
          ({ rs with documentRules := [] } : RuleSet).suggest tokenizer text := by
  refine ⟨(apply_sorted rs s inflect).imp fun {a b} h => ?_, apply_apart rs s inflect,
    apply_subperm rs s inflect, fun i x hx hout => apply_passes_over rs hx hout,
    resolveOverlaps_of_resolved (apply_sorted rs s inflect) (apply_apart rs s inflect),
    checkDocument_eq_suggest rs⟩
  exact byPosition_eq_true.1 h

end RuleSet

end Proofreader
