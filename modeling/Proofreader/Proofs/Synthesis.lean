import Mathlib
import Proofreader.Rule.Synthesizer

/-!
# What a synthesizer builds

A synthesizer puts together the candidates of its pieces: a literal text is its own only
candidate, and a reference gives the texts of its group, or, with a tag, every combination of the
group's tokens inflected to that tag. `Synthesizer.apply` walks the pieces in order and stops at
the first reference whose candidates fail or are none; otherwise it joins every combination of
candidates, earlier pieces varying slowest (`cartesian`), polishes each joined text and keeps the
distinct ones in the order they first come (`List.eraseDups`).

The early stop is invisible when every piece has its candidates: the list is then the distinct
polished joins, empty exactly when some piece has no candidate (`apply_of_candidates`), each
of them one candidate of every piece (`mem_apply_of_candidates`). It shows when a later piece
fails: a piece without candidates before it hides the failure (`apply_of_empty`,
`apply_of_error`). One token with no form in a tag empties its reference and so the whole
(`apply_of_missing_form`). Three levels of de-duplication (lemmas, forms and final texts) come
down to first occurrences over the plain enumeration (`inflections_eq`).
-/

namespace Proofreader

/-! ## First occurrences -/

section FirstOccurrences

variable {α : Type} [BEq α] [LawfulBEq α]

theorem eraseDups_append_singleton (l : List α) (x : α) :
    (l ++ [x]).eraseDups = if x ∈ l then l.eraseDups else l.eraseDups ++ [x] := by
  rw [List.eraseDups_append]
  by_cases h : x ∈ l
  · simp [h, List.removeAll]
  · simp [h, List.removeAll, List.eraseDups_cons]

theorem nodup_eraseDups (l : List α) : l.eraseDups.Nodup := by
  induction l using List.reverseRecOn with
  | nil => exact List.nodup_nil
  | append_singleton l x ih =>
    rw [eraseDups_append_singleton]
    split
    · exact ih
    · rename_i hx
      exact List.nodup_append.2 ⟨ih, List.nodup_singleton x,
        fun a ha b hb => by rw [List.mem_singleton.1 hb]; rintro rfl; exact hx (List.mem_eraseDups.1 ha)⟩

theorem eraseDups_eq_nil_iff {l : List α} : l.eraseDups = [] ↔ l = [] := by
  simp only [List.eq_nil_iff_forall_not_mem, List.mem_eraseDups]

/-- The model's de-duplication keeps first occurrences, as `List.eraseDups` does. -/
theorem dedupKeepFirst_eq_eraseDups (l : List α) : dedupKeepFirst l = l.eraseDups := by
  induction l using List.reverseRecOn with
  | nil => rfl
  | append_singleton l x ih =>
    have hmem : x ∈ dedupKeepFirst l ↔ x ∈ l := by rw [ih, List.mem_eraseDups]
    rw [eraseDups_append_singleton, ← ih]
    unfold dedupKeepFirst at hmem ⊢
    rw [List.foldl_append, List.foldl_cons, List.foldl_nil]
    -- the accumulator is the result so far, reversed
    by_cases hx : x ∈ l
    · rw [if_pos (by simpa using hmem.2 hx), if_pos hx]
    · rw [if_neg (by simpa using mt hmem.1 hx), if_neg hx, List.reverse_cons]

/-- Removing the members of a list depends on its members only. -/
theorem removeAll_congr {A B : List α} (h : ∀ y, y ∈ A ↔ y ∈ B) (l : List α) :
    l.removeAll A = l.removeAll B := by
  simp only [List.removeAll]
  exact List.filter_congr fun y _ => by simp [h y]

/-- Keeping first occurrences of the items before enumerating changes nothing once the
enumeration keeps first occurrences too. -/
theorem eraseDups_flatMap_eraseDups {β : Type} [BEq β] [LawfulBEq β] (g : α → List β)
    (l : List α) : (l.eraseDups.flatMap g).eraseDups = (l.flatMap g).eraseDups := by
  induction l using List.reverseRecOn with
  | nil => rfl
  | append_singleton l x ih =>
    have hmem : ∀ y, y ∈ l.eraseDups.flatMap g ↔ y ∈ l.flatMap g := by
      intro y
      simp [List.mem_flatMap, List.mem_eraseDups]
    rw [eraseDups_append_singleton, List.flatMap_append, List.flatMap_singleton,
      List.eraseDups_append]
    split
    · -- `x` came before: all it enumerates came before too
      rename_i hx
      have hnone : (g x).removeAll (l.flatMap g) = [] := by
        rw [List.removeAll, List.filter_eq_nil_iff]
        intro y hy
        simp [List.mem_flatMap.2 ⟨x, hx, hy⟩]
      rw [ih, hnone, List.eraseDups_nil, List.append_nil]
    · rw [List.flatMap_append, List.flatMap_singleton, List.eraseDups_append, ih,
        removeAll_congr hmem]

end FirstOccurrences

/-! ## Combinations -/

section Combinations

variable {α : Type}

/-- A combination picks one item of each list, in order. -/
theorem mem_cartesian {ls : List (List α)} {c : List α} :
    c ∈ cartesian ls ↔ List.Forall₂ (fun x xs => x ∈ xs) c ls := by
  induction ls generalizing c with
  | nil => simp [cartesian]
  | cons xs rest ih =>
    simp only [cartesian, List.mem_flatMap, List.mem_map, ih, List.forall₂_cons_right_iff]
    constructor
    · rintro ⟨x, hx, d, hd, rfl⟩
      exact ⟨x, d, hx, hd, rfl⟩
    · rintro ⟨x, d, hx, hd, rfl⟩
      exact ⟨x, hx, d, hd, rfl⟩

/-- There is no combination exactly when some list is empty. -/
theorem cartesian_eq_nil_iff {ls : List (List α)} : cartesian ls = [] ↔ [] ∈ ls := by
  induction ls with
  | nil => simp [cartesian]
  | cons xs rest ih =>
    simp only [cartesian, List.flatMap_eq_nil_iff, List.map_eq_nil_iff, ih, List.mem_cons]
    cases xs with
    | nil => simp
    | cons x xs =>
      rw [List.forall_mem_cons]
      constructor
      · exact fun h => .inr h.1
      · rintro (h | h)
        · cases h
        · exact ⟨h, fun _ _ => h⟩

/-- Joining the combinations of no lists gives the empty text once. -/
theorem map_join_cartesian (ls : List (List String)) :
    (if ls.isEmpty then [""] else (cartesian ls).map String.join) =
      (cartesian ls).map String.join := by
  cases ls with
  | nil => rfl
  | cons xs rest => rfl

end Combinations

/-! ## Inflected forms -/

/-- The forms of a token in a tag are its text if a reading has the tag, and otherwise the
distinct forms of the lemmas of its readings that are no sentinel, in reading order. -/
theorem inflections_eq (t : Token) (tag : String) (inflect : Inflector) :
    inflections t tag inflect = if t.hasTag tag then [t.text] else
      ((t.readings.filter (!·.isSentinel)).flatMap fun r => inflect r.lemmaForm tag).eraseDups := by
  unfold inflections
  split
  · rfl
  · rw [dedupKeepFirst_eq_eraseDups, dedupKeepFirst_eq_eraseDups, eraseDups_flatMap_eraseDups,
      List.flatMap_map]

namespace GroupRef

/-- With a tag, a reference over a non-empty group gives every combination of its tokens'
forms in the tag, joined by single spaces, and then rewritten and changed in case. -/
theorem candidates_of_inflect (r : GroupRef) {graph : MatchGraph} {view : View}
    {inflect : Inflector} {tag : String} {span : Nat × Nat} (htag : r.inflect = some tag)
    (hspan : graph.group? r.id = some span) (hne : MatchGraph.spanIsEmpty span = false) :
    r.candidates graph view inflect =
      .ok (((cartesian ((graph.tokens.extract span.1 span.2).toList.map fun t =>
        inflections t tag inflect)).map (" ".intercalate ·)).map r.finish) := by
  unfold candidates
  simp only [hspan, htag, hne, Bool.false_eq_true, if_false]
  rfl

/-- A token with no form in the tag leaves the reference with no candidate at all. -/
theorem candidates_of_inflect_eq_nil_iff (r : GroupRef) {graph : MatchGraph} {view : View}
    {inflect : Inflector} {tag : String} {span : Nat × Nat} (htag : r.inflect = some tag)
    (hspan : graph.group? r.id = some span) (hne : MatchGraph.spanIsEmpty span = false) :
    r.candidates graph view inflect = .ok [] ↔
      ∃ t ∈ (graph.tokens.extract span.1 span.2).toList, inflections t tag inflect = [] := by
  rw [candidates_of_inflect r htag hspan hne, Except.ok.injEq, List.map_eq_nil_iff,
    List.map_eq_nil_iff, cartesian_eq_nil_iff, List.mem_map]

end GroupRef

/-! ## The pieces in order -/

/-- The candidate texts of a piece: a literal text is its own only candidate. -/
def SynthPart.candidates (graph : MatchGraph) (view : View) (inflect : Inflector) :
    SynthPart → Except Error (List String)
  | .text t => .ok [t]
  | .ref r => r.candidates graph view inflect

namespace Synthesizer

variable {graph : MatchGraph} {view : View} {inflect : Inflector}

/-- One piece's turn in `apply`: its candidates are added to the lists, or the walk stops, with
no text, at a piece that has none. -/
def gatherStep (graph : MatchGraph) (view : View) (inflect : Inflector) (p : SynthPart)
    (st : Option (List String) × List (List String)) :
    Except Error (ForInStep (Option (List String) × List (List String))) :=
  match p.candidates graph view inflect with
  | .ok texts =>
    if texts.isEmpty then .ok (.done (some [], st.2)) else .ok (.yield (none, st.2 ++ [texts]))
  | .error e => .error e

theorem apply_eq_forIn (s : Synthesizer) (graph : MatchGraph) (view : View) (inflect : Inflector)
    (firstGroup : Nat) :
    s.apply graph view inflect firstGroup =
      forIn s.parts (none, []) (gatherStep graph view inflect) >>= fun st =>
        match st.1 with
        | some r => pure r
        | none => pure (dedupKeepFirst
            ((if st.2.isEmpty then [""] else (cartesian st.2).map String.join).map
              (polish (s.capitalizes graph firstGroup)))) := by
  unfold apply
  dsimp only
  congr 1
  · congr 1
    funext p st
    cases p with
    | text t => rfl
    | ref r =>
      dsimp only [gatherStep, SynthPart.candidates]
      cases r.candidates graph view inflect <;> rfl
  · funext st
    obtain ⟨_ | r, lists⟩ := st <;> rfl

/-- When every piece has its candidates, the walk collects them all, or stops with no text at
the first piece that has none. -/
theorem forIn_gatherStep_of_ok :
    ∀ {parts : List SynthPart} {lists : List (List String)},
      List.Forall₂ (fun p l => p.candidates graph view inflect = .ok l) parts lists →
      ∀ acc, ∃ st, forIn parts (none, acc) (gatherStep graph view inflect) = .ok st ∧
        if [] ∈ lists then st.1 = some [] else st = (none, acc ++ lists)
  | _, _, .nil, acc => ⟨(none, acc), rfl, by simp⟩
  | p :: parts, l :: lists, .cons hl hrest, acc => by
    rw [List.forIn_cons]
    by_cases hempty : l = []
    · subst hempty
      refine ⟨(some [], acc), ?_, by simp⟩
      simp only [gatherStep, hl, List.isEmpty_nil, if_true]
      rfl
    · obtain ⟨st, hst, hspec⟩ := forIn_gatherStep_of_ok hrest (acc ++ [l])
      refine ⟨st, ?_, ?_⟩
      · have hne : l.isEmpty = false := List.isEmpty_eq_false_iff.2 hempty
        simp only [gatherStep, hl, hne]
        exact hst
      · -- a non-empty list of candidates is not the empty one
        have hmem : ([] ∈ l :: lists) ↔ [] ∈ lists := by simp [Ne.symm hempty]
        simpa only [hmem, List.append_assoc, List.singleton_append] using hspec

/-- After pieces that all have candidates, a piece without any stops the walk with no text. -/
theorem forIn_gatherStep_of_empty {p : SynthPart} (hp : p.candidates graph view inflect = .ok [])
    (post : List SynthPart) :
    ∀ {pre : List SynthPart} {lists : List (List String)},
      List.Forall₂ (fun q l => q.candidates graph view inflect = .ok l ∧ l ≠ []) pre lists →
      ∀ acc, forIn (pre ++ p :: post) (none, acc) (gatherStep graph view inflect) =
        .ok (some [], acc ++ lists)
  | _, _, .nil, acc => by
    rw [List.nil_append, List.forIn_cons]
    simp only [gatherStep, hp, List.isEmpty_nil, if_true, List.append_nil]
    rfl
  | q :: pre, l :: lists, .cons ⟨hl, hne⟩ hrest, acc => by
    rw [List.cons_append, List.forIn_cons]
    have hne' : l.isEmpty = false := List.isEmpty_eq_false_iff.2 hne
    simp only [gatherStep, hl, hne']
    have hrest' := forIn_gatherStep_of_empty hp post hrest (acc ++ [l])
    rw [List.append_assoc, List.singleton_append] at hrest'
    exact hrest'

/-- After pieces that all have candidates, a piece whose candidates fail fails the walk. -/
theorem forIn_gatherStep_of_error {p : SynthPart} {e : Error}
    (hp : p.candidates graph view inflect = .error e) (post : List SynthPart) :
    ∀ {pre : List SynthPart} {lists : List (List String)},
      List.Forall₂ (fun q l => q.candidates graph view inflect = .ok l ∧ l ≠ []) pre lists →
      ∀ acc, forIn (pre ++ p :: post) (none, acc) (gatherStep graph view inflect) = .error e
  | _, _, .nil, acc => by
    rw [List.nil_append, List.forIn_cons]
    simp only [gatherStep, hp]
    rfl
  | q :: pre, l :: lists, .cons ⟨hl, hne⟩ hrest, acc => by
    rw [List.cons_append, List.forIn_cons]
    have hne' : l.isEmpty = false := List.isEmpty_eq_false_iff.2 hne
    simp only [gatherStep, hl, hne']
    exact forIn_gatherStep_of_error hp post hrest (acc ++ [l])

/-- When every piece has its candidates, the texts are the distinct polished joins of all
combinations, earlier pieces varying slowest, in the order they first come. -/
theorem apply_of_candidates (s : Synthesizer) {lists : List (List String)}
    (h : List.Forall₂ (fun p l => p.candidates graph view inflect = .ok l) s.parts lists)
    (firstGroup : Nat) :
    s.apply graph view inflect firstGroup =
      .ok ((cartesian lists).map fun c => polish (s.capitalizes graph firstGroup)
        (String.join c)).eraseDups := by
  obtain ⟨st, hst, hspec⟩ := forIn_gatherStep_of_ok h []
  rw [apply_eq_forIn, hst]
  split at hspec
  · -- a piece without candidates: no text, and no combination either
    rename_i hnil
    rw [cartesian_eq_nil_iff.2 hnil, List.map_nil, List.eraseDups_nil]
    obtain ⟨_, lists'⟩ := st
    cases hspec
    rfl
  · subst hspec
    show Except.ok (dedupKeepFirst _) = _
    rw [dedupKeepFirst_eq_eraseDups, List.nil_append, map_join_cartesian, List.map_map]
    rfl

/-- Each text picks one candidate of every piece: it is the polished join of such a pick. -/
theorem mem_apply_of_candidates (s : Synthesizer) {lists : List (List String)}
    (h : List.Forall₂ (fun p l => p.candidates graph view inflect = .ok l) s.parts lists)
    (firstGroup : Nat) {x : String} :
    (∃ texts, s.apply graph view inflect firstGroup = .ok texts ∧ x ∈ texts) ↔
      ∃ c, List.Forall₂ (fun y ys => y ∈ ys) c lists ∧
        polish (s.capitalizes graph firstGroup) (String.join c) = x := by
  simp only [apply_of_candidates s h, Except.ok.injEq, exists_eq_left', List.mem_eraseDups,
    List.mem_map, mem_cartesian]

/-- After pieces that all have candidates, a piece without any gives no text. -/
theorem apply_of_empty (s : Synthesizer) {pre post : List SynthPart} {p : SynthPart}
    (hparts : s.parts = pre ++ p :: post) {lists : List (List String)}
    (hpre : List.Forall₂ (fun q l => q.candidates graph view inflect = .ok l ∧ l ≠ []) pre lists)
    (hp : p.candidates graph view inflect = .ok []) (firstGroup : Nat) :
    s.apply graph view inflect firstGroup = .ok [] := by
  rw [apply_eq_forIn, hparts, forIn_gatherStep_of_empty hp post hpre []]
  rfl

/-- A reference with a tag whose group holds a token with no form in the tag leaves no text,
once the pieces before it all have candidates. -/
theorem apply_of_missing_form (s : Synthesizer) {pre post : List SynthPart} {r : GroupRef}
    (hparts : s.parts = pre ++ .ref r :: post) {lists : List (List String)}
    (hpre : List.Forall₂ (fun q l => q.candidates graph view inflect = .ok l ∧ l ≠ []) pre lists)
    {tag : String} {span : Nat × Nat} (htag : r.inflect = some tag)
    (hspan : graph.group? r.id = some span) (hne : MatchGraph.spanIsEmpty span = false)
    {t : Token} (ht : t ∈ (graph.tokens.extract span.1 span.2).toList)
    (hforms : inflections t tag inflect = []) (firstGroup : Nat) :
    s.apply graph view inflect firstGroup = .ok [] :=
  apply_of_empty s hparts hpre
    ((GroupRef.candidates_of_inflect_eq_nil_iff r htag hspan hne).2 ⟨t, ht, hforms⟩) firstGroup

/-- After pieces that all have candidates, a piece whose candidates fail fails the whole. -/
theorem apply_of_error (s : Synthesizer) {pre post : List SynthPart} {p : SynthPart}
    (hparts : s.parts = pre ++ p :: post) {lists : List (List String)}
    (hpre : List.Forall₂ (fun q l => q.candidates graph view inflect = .ok l ∧ l ≠ []) pre lists)
    {e : Error} (hp : p.candidates graph view inflect = .error e) (firstGroup : Nat) :
    s.apply graph view inflect firstGroup = .error e := by
  rw [apply_eq_forIn, hparts, forIn_gatherStep_of_error hp post hpre []]
  rfl

/-- What a synthesizer builds. When every piece has its candidates, the texts are the distinct
polished joins of all combinations, earlier pieces varying slowest, and there are none exactly
when some piece has no candidate. Otherwise the first piece without candidates, or whose
candidates fail, decides: no text, or the failure. A reference with a tag over a non-empty group
offers every combination of its tokens' forms, joined by spaces, then rewritten and changed in
case; a token's forms are its text when it has the tag, else the distinct forms of its lemmas. -/
theorem apply_enumerates_candidates (s : Synthesizer) (graph : MatchGraph) (view : View)
    (inflect : Inflector) (firstGroup : Nat) :
    (∀ lists, List.Forall₂ (fun p l => p.candidates graph view inflect = .ok l) s.parts lists →
      ∃ texts, s.apply graph view inflect firstGroup = .ok texts ∧ texts.Nodup ∧
        (texts = [] ↔ [] ∈ lists) ∧
        texts = ((cartesian lists).map fun c =>
          polish (s.capitalizes graph firstGroup) (String.join c)).eraseDups) ∧
    (∀ pre p post lists, s.parts = pre ++ p :: post →
      List.Forall₂ (fun q l => q.candidates graph view inflect = .ok l ∧ l ≠ []) pre lists →
      (p.candidates graph view inflect = .ok [] → s.apply graph view inflect firstGroup = .ok []) ∧
      ∀ e, p.candidates graph view inflect = .error e →
        s.apply graph view inflect firstGroup = .error e) ∧
    (∀ (r : GroupRef) tag span, r.inflect = some tag → graph.group? r.id = some span →
      MatchGraph.spanIsEmpty span = false →
      r.candidates graph view inflect =
        .ok (((cartesian ((graph.tokens.extract span.1 span.2).toList.map fun t =>
          inflections t tag inflect)).map (" ".intercalate ·)).map r.finish)) ∧
    ∀ t tag, inflections t tag inflect = if t.hasTag tag then [t.text] else
      ((t.readings.filter (!·.isSentinel)).flatMap fun r => inflect r.lemmaForm tag).eraseDups := by
  refine ⟨fun lists h => ?_, fun pre p post lists hparts hpre =>
    ⟨fun hp => apply_of_empty s hparts hpre hp firstGroup,
      fun e hp => apply_of_error s hparts hpre hp firstGroup⟩,
    fun r tag span => GroupRef.candidates_of_inflect r, fun t tag => inflections_eq t tag inflect⟩
  refine ⟨_, apply_of_candidates s h firstGroup, nodup_eraseDups _, ?_, rfl⟩
  rw [eraseDups_eq_nil_iff, List.map_eq_nil_iff, cartesian_eq_nil_iff]

/-- A past-tense reference after a literal: the repeated form is offered once. -/
theorem apply_enumerates_inflected_forms :
    Synthesizer.apply ⟨false, [.text "I ", .ref { id := 1, inflect := some "VBD" }]⟩
        ⟨#[(0, 1), (0, 1)], #[{ text := "walk", start := 0, stop := 4,
                                readings := [⟨"walk", some "VB"⟩], isBlank := false,
                                spaceBefore := false, sentStart := false, sentEnd := false,
                                paraEnd := false }]⟩
        (Sentence.view ⟨#[]⟩)
        (fun l t => if l = "walk" ∧ t = "VBD" then ["walked", "went", "walked"] else []) 0 =
      .ok ["I walked", "I went"] := by
  -- the synthesizer and its inputs are read off the goal
  refine ((apply_enumerates_candidates _ _ _ _ 0).1 [["I "], ["walked", "went"]] ?_).elim
    fun texts h => h.1.trans ?_
  · exact .cons rfl (.cons (by decide +kernel) .nil)
  · rw [h.2.2.2]
    decide +kernel

/-- A reference can fail, and a case change applies to the inflected forms themselves: a group
number past the match fails the whole synthesizer, and an all-lowercase reference turns the
form `Σ` into `σ`, which the bare combination of forms does not. -/
theorem candidates_fail_or_change_case :
    Synthesizer.apply ⟨false, [.ref { id := 5 }]⟩ ⟨#[(0, 1), (0, 1)], #[]⟩ (Sentence.view ⟨#[]⟩)
        noInflection 0 = .error (.index 5 2) ∧
      GroupRef.candidates { id := 1, conversion := .allLower, inflect := some "VBD" }
          ⟨#[(0, 1), (0, 1)], #[{ text := "walk", start := 0, stop := 4,
                                  readings := [⟨"walk", some "VB"⟩], isBlank := false,
                                  spaceBefore := false, sentStart := false, sentEnd := false,
                                  paraEnd := false }]⟩
          (Sentence.view ⟨#[]⟩) (fun l t => if l = "walk" ∧ t = "VBD" then ["Σ"] else []) =
        .ok ["σ"] ∧
      (cartesian [inflections { text := "walk", start := 0, stop := 4,
                                readings := [⟨"walk", some "VB"⟩], isBlank := false,
                                spaceBefore := false, sentStart := false, sentEnd := false,
                                paraEnd := false } "VBD"
          (fun l t => if l = "walk" ∧ t = "VBD" then ["Σ"] else [])]).map (" ".intercalate ·) =
        ["Σ"] :=
  ⟨by decide +kernel, by decide +kernel, by decide +kernel⟩

end Synthesizer

end Proofreader
