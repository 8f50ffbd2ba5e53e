import Mathlib
import Proofreader.Rule.Document

/-!
# Document checks along a document

A `DocumentCheck` keeps one state per position in the rule list. Checking a sentence gives each
rule, in order, the state stored at its position and stores back what the rule's step returns
(`check_reports`, `check_lookup`). So along a document the rules never see each other's state:
after the sentences `doc`, the state at a position is the state its rule reaches alone
(`DocumentRule.stateAfter`), and what the check reports on the next sentence is what each rule
reports alone, rule after rule (`run_check_reports`).

A repeated-beginning rule remembers only the first word of the previous sentence and a counter.
That is enough to know the whole run of sentences before: the counter is the number of sentences
in a row, ending with the last one, that begin with that word (`beginningMemory`, `streak`), and a
sentence is reported exactly when its first word repeats too often (`repeated_beginnings_flagged`).
-/

namespace Proofreader

/-! ## One state per rule -/

/-- Dropping the entries of an index drops what the index looks up and nothing else. -/
theorem lookup_filter_ne {β : Type} (states : List (Nat × β)) (i j : Nat) :
    (states.filter (·.1 ≠ i)).lookup j = if j = i then none else states.lookup j := by
  induction states with
  | nil => split <;> rfl
  | cons e rest ih =>
    obtain ⟨k, v⟩ := e
    by_cases hki : k = i
    · -- the entry of `i` is dropped
      subst hki
      rw [List.filter_cons_of_neg (by simp), ih]
      by_cases hjk : j = k
      · rw [if_pos hjk, if_pos hjk]
      · rw [if_neg hjk, if_neg hjk, List.lookup_cons, beq_false_of_ne hjk]
    · rw [List.filter_cons_of_pos (by simpa using hki), List.lookup_cons, List.lookup_cons]
      by_cases hjk : j = k
      · subst hjk
        simp [hki]
      · rw [beq_false_of_ne hjk]
        exact ih

/-- Replacing the entry of an index changes what that index looks up and nothing else. -/
theorem lookup_replace {β : Type} (states : List (Nat × β)) (i j : Nat) (st : β) :
    ((states.filter (·.1 ≠ i)) ++ [(i, st)]).lookup j =
      if j = i then some st else states.lookup j := by
  rw [List.lookup_append, lookup_filter_ne]
  by_cases hji : j = i
  · simp [hji]
  · simp [hji, List.lookup_cons, beq_false_of_ne hji]

namespace DocumentCheck

/-- One rule's turn in the check of a sentence: its reports are appended and the state at its
position is replaced by the one its step returns. -/
def turn (s : Sentence) (acc : List Suggestion × List (Nat × DocumentState))
    (ri : DocumentRule × Nat) : List Suggestion × List (Nat × DocumentState) :=
  (acc.1 ++ (ri.1.step s (acc.2.lookup ri.2)).1,
    (acc.2.filter (·.1 ≠ ri.2)) ++ [(ri.2, (ri.1.step s (acc.2.lookup ri.2)).2)])

theorem check_eq_foldl (c : DocumentCheck) (rules : List DocumentRule) (s : Sentence) :
    c.check rules s = ((rules.zipIdx.foldl (turn s) ([], c.states)).1,
      ⟨(rules.zipIdx.foldl (turn s) ([], c.states)).2⟩) := rfl

/-- The turns from position `k` on append each rule's reports, read with the state stored at its
position before the turns began. -/
theorem foldl_turn_reports (s : Sentence) :
    ∀ (rules : List DocumentRule) (k : Nat) (acc : List Suggestion × List (Nat × DocumentState)),
      ((rules.zipIdx k).foldl (turn s) acc).1 =
        acc.1 ++ (rules.zipIdx k).flatMap fun ri => (ri.1.step s (acc.2.lookup ri.2)).1
  | [], _, acc => by simp
  | r :: rest, k, acc => by
    rw [List.zipIdx_cons, List.foldl_cons, foldl_turn_reports s rest (k + 1), List.flatMap_cons]
    -- the later rules sit at positions above `k`, which the turn of `k` does not touch
    have hlater : ∀ ri ∈ rest.zipIdx (k + 1),
        (turn s acc (r, k)).2.lookup ri.2 = acc.2.lookup ri.2 := by
      intro ri hri
      have hk : k + 1 ≤ ri.2 := (List.mem_zipIdx hri).1
      rw [turn, lookup_replace, if_neg (by omega)]
    rw [List.flatMap_congr fun ri hri => by rw [hlater ri hri], turn, List.append_assoc]

/-- The turns from position `k` on store, at each position they reach, what its rule's step
returns, and keep the other positions. -/
theorem foldl_turn_lookup (s : Sentence) :
    ∀ (rules : List DocumentRule) (k : Nat) (acc : List Suggestion × List (Nat × DocumentState))
      (j : Nat),
      ((rules.zipIdx k).foldl (turn s) acc).2.lookup j =
        if k ≤ j then ((rules[j - k]?).map fun r => (r.step s (acc.2.lookup j)).2).or
          (acc.2.lookup j)
        else acc.2.lookup j
  | [], _, acc, j => by split <;> simp
  | r :: rest, k, acc, j => by
    rw [List.zipIdx_cons, List.foldl_cons, foldl_turn_lookup s rest (k + 1)]
    have hturn : (turn s acc (r, k)).2.lookup j =
        if j = k then some (r.step s (acc.2.lookup k)).2 else acc.2.lookup j := by
      rw [turn, lookup_replace]
    rw [hturn]
    rcases Nat.lt_trichotomy j k with hlt | rfl | hgt
    · simp [show ¬k + 1 ≤ j by omega, show ¬k ≤ j by omega, show j ≠ k by omega]
    · simp
    · -- past `k`, position `j` of the rest is position `j - k` of the whole list
      have hidx : j - k = (j - (k + 1)) + 1 := by omega
      simp [show k + 1 ≤ j by omega, show k ≤ j by omega, show j ≠ k by omega, hidx]

/-- A check reports what each rule reports, in order, from the state stored at its position. -/
theorem check_reports (c : DocumentCheck) (rules : List DocumentRule) (s : Sentence) :
    (c.check rules s).1 =
      rules.zipIdx.flatMap fun ri => (ri.1.step s (c.states.lookup ri.2)).1 := by
  rw [check_eq_foldl, foldl_turn_reports, List.nil_append]

/-- A check stores at each position of the rule list what that rule's step returns, and keeps
the positions past the list. -/
theorem check_lookup (c : DocumentCheck) (rules : List DocumentRule) (s : Sentence) (j : Nat) :
    (c.check rules s).2.states.lookup j =
      ((rules[j]?).map fun r => (r.step s (c.states.lookup j)).2).or (c.states.lookup j) := by
  rw [check_eq_foldl]
  exact (foldl_turn_lookup s rules 0 ([], c.states) j).trans (if_pos (Nat.zero_le j))

/-- The check after each sentence of a document in turn, from a fresh one. -/
def run (rules : List DocumentRule) (doc : List Sentence) : DocumentCheck :=
  doc.foldl (fun c s => (c.check rules s).2) {}

theorem run_append_singleton (rules : List DocumentRule) (doc : List Sentence) (s : Sentence) :
    run rules (doc ++ [s]) = ((run rules doc).check rules s).2 := by
  rw [run, List.foldl_append]
  rfl

end DocumentCheck

namespace DocumentRule

/-- The state a rule reaches alone over a document, none before the first sentence. -/
def stateAfter (r : DocumentRule) (doc : List Sentence) : Option DocumentState :=
  doc.foldl (fun st s => some (r.step s st).2) none

/-- What a rule reports on a sentence after the sentences of `doc`. -/
def reportsAfter (r : DocumentRule) (doc : List Sentence) (s : Sentence) : List Suggestion :=
  (r.step s (r.stateAfter doc)).1

theorem stateAfter_append_singleton (r : DocumentRule) (doc : List Sentence) (s : Sentence) :
    r.stateAfter (doc ++ [s]) = some (r.step s (r.stateAfter doc)).2 := by
  rw [stateAfter, List.foldl_append]
  rfl

end DocumentRule

namespace DocumentCheck

/-- Along a document, the state at each position of the rule list is the state its rule reaches
alone; past the list there is none. -/
theorem run_lookup (rules : List DocumentRule) (doc : List Sentence) (j : Nat) :
    (run rules doc).states.lookup j = (rules[j]?).bind fun r => r.stateAfter doc := by
  induction doc using List.reverseRecOn with
  | nil => cases rules[j]? <;> rfl
  | append_singleton doc s ih =>
    rw [run_append_singleton, check_lookup, ih]
    cases rules[j]? with
    | none => rfl
    | some r => simp [DocumentRule.stateAfter_append_singleton]

/-- Rules never see each other's state: after a document, a check reports on the next sentence
what each rule of the list reports alone, rule after rule. -/
theorem run_check_reports (rules : List DocumentRule) (doc : List Sentence) (s : Sentence) :
    ((run rules doc).check rules s).1 = rules.flatMap fun r => r.reportsAfter doc s := by
  rw [check_reports]
  have hstate : ∀ ri ∈ rules.zipIdx, (run rules doc).states.lookup ri.2 = ri.1.stateAfter doc := by
    intro ri hri
    rw [run_lookup, List.mem_zipIdx_iff_getElem?.1 hri]
    rfl
  rw [List.flatMap_congr fun ri hri => by rw [hstate ri hri]]
  conv_rhs => rw [← List.zipIdx_map_fst 0 rules, List.flatMap_map]
  rfl

end DocumentCheck

/-! ## Repeated beginnings -/

/-- The lowercase first word of a sentence: the text of its first content token, when that token
is a word. -/
def firstWord (s : Sentence) : Option String :=
  match (contentTokens s).head? with
  | some t => if t.isWord then some (Unicode.toLower t.text) else none
  | none => none

/-- How many sentences in a row, ending with the last of `doc`, begin with the word `w`. -/
def streak (w : String) (doc : List Sentence) : Nat :=
  (doc.reverse.takeWhile fun s => firstWord s = some w).length

/-- What a repeated-beginning rule should remember after `doc`: the first word of the last
sentence, when it has one, with its streak. -/
def beginningMemory (doc : List Sentence) : Option (String × Nat) :=
  (doc.getLast?.bind firstWord).map fun w => (w, streak w doc)

/-- A sentence that begins with `w`, the `m`-th in a row to do so, repeats too often: it is the
third in a row, or the second for an adverb, and `w` is not an allowed word. -/
def RepeatsTooOften (allowed adverbs : List String) (w : String) (m : Nat) : Prop :=
  (3 ≤ m ∨ (2 ≤ m ∧ w ∈ adverbs.map Unicode.toLower)) ∧ w ∉ allowed.map Unicode.toLower

instance (allowed adverbs : List String) (w : String) (m : Nat) :
    Decidable (RepeatsTooOften allowed adverbs w m) :=
  inferInstanceAs (Decidable (_ ∧ _))

/-- The report on a sentence that repeats its beginning: on its first token, naming it, with no
replacement. -/
def beginningNote (id : RuleId) (t : Token) : Suggestion :=
  { source := id.text, message := "The previous sentences also begin with '" ++ t.text ++ "'.",
    start := t.start, stop := t.stop, replacements := [] }

/-- What a repeated-beginning rule should report on `s` after the sentences `doc`. -/
def beginningExpected (id : RuleId) (allowed adverbs : List String) (doc : List Sentence)
    (s : Sentence) : List Suggestion :=
  match (contentTokens s).head?, firstWord s with
  | some t, some w =>
    if RepeatsTooOften allowed adverbs w (streak w (doc ++ [s])) then [beginningNote id t] else []
  | _, _ => []

/-- A sentence that begins with `w` lengthens the streak of `w` by one. -/
theorem streak_append_of_firstWord {s : Sentence} {w : String} (h : firstWord s = some w)
    (doc : List Sentence) : streak w (doc ++ [s]) = streak w doc + 1 := by
  rw [streak, List.reverse_append, List.reverse_singleton, List.singleton_append,
    List.takeWhile_cons_of_pos (by simp [h]), List.length_cons, streak]

/-- A document whose last sentence does not begin with `w` has no streak of `w`. -/
theorem streak_eq_zero {doc : List Sentence} {w : String}
    (h : doc.getLast?.bind firstWord ≠ some w) : streak w doc = 0 := by
  rw [streak, List.length_eq_zero_iff]
  rw [← List.head?_reverse] at h
  cases hrev : doc.reverse with
  | nil => rfl
  | cons last earlier =>
    rw [hrev, List.head?_cons, Option.bind_some] at h
    exact List.takeWhile_cons_of_neg (by simpa using h)

theorem beginningMemory_append_singleton (doc : List Sentence) (s : Sentence) :
    beginningMemory (doc ++ [s]) = (firstWord s).map fun w => (w, streak w (doc ++ [s])) := by
  simp [beginningMemory, List.getLast?_append]

/-- After a remembered word and count, a sentence that begins with the same word makes a streak
of one more. -/
theorem streak_of_memory_eq {doc : List Sentence} {s : Sentence} {w : String} {c : Nat}
    (hm : beginningMemory doc = some (w, c)) (h : firstWord s = some w) :
    streak w (doc ++ [s]) = c + 1 := by
  rw [beginningMemory, Option.map_eq_some_iff] at hm
  obtain ⟨v, -, hv⟩ := hm
  obtain ⟨rfl, rfl⟩ := Prod.mk.inj hv
  exact streak_append_of_firstWord h doc

/-- A sentence that begins with another word than the remembered one, or after none, makes a
streak of one. -/
theorem streak_of_memory_ne {doc : List Sentence} {s : Sentence} {w : String}
    (hm : ∀ c, beginningMemory doc ≠ some (w, c)) (h : firstWord s = some w) :
    streak w (doc ++ [s]) = 1 := by
  have hlast : doc.getLast?.bind firstWord ≠ some w := by
    intro hlast
    exact hm (streak w doc) (by rw [beginningMemory, hlast]; rfl)
  rw [streak_append_of_firstWord h, streak_eq_zero hlast]

/-- One step of a repeated-beginning rule, from what it should remember after `doc`, reports what
it should on `s` and then remembers what it should after `s`. -/
theorem beginning_beginningMemory (id : RuleId) (allowed adverbs : List String)
    (doc : List Sentence) (s : Sentence) :
    DocumentRule.beginning id allowed adverbs s (beginningMemory doc) =
      (beginningExpected id allowed adverbs doc s, beginningMemory (doc ++ [s])) := by
  rw [beginningMemory_append_singleton]
  unfold DocumentRule.beginning beginningExpected
  cases ht : (contentTokens s).head? with
  | none =>
    have hw : firstWord s = none := by simp [firstWord, ht]
    simp [hw]
  | some t =>
    by_cases hword : t.isWord = true
    · have hw : firstWord s = some (Unicode.toLower t.text) := by simp [firstWord, ht, hword]
      -- the count the rule keeps is the streak of the sentence's first word
      rcases hm : beginningMemory doc with _ | ⟨v, c⟩
      · have hs := streak_of_memory_ne (fun c h => by rw [hm] at h; cases h) hw
        simp [hw, hword, hs, RepeatsTooOften]
      · by_cases hv : v = Unicode.toLower t.text
        · subst hv
          have hs := streak_of_memory_eq hm hw
          simp [hw, hword, hs, RepeatsTooOften, beginningNote]
        · have hs := streak_of_memory_ne (fun c' h => hv (by rw [hm] at h; cases h; rfl)) hw
          simp [hw, hword, hs, hv, RepeatsTooOften]
    · have hw : firstWord s = none := by simp [firstWord, ht, hword]
      simp [hw, hword]

/-- Along a document, a repeated-beginning rule remembers what it should. -/
theorem stateAfter_repeatedBeginning (id : RuleId) (allowed adverbs : List String)
    (doc : List Sentence) :
    ((DocumentRule.repeatedBeginning id allowed adverbs).stateAfter doc).getD (.beginning none) =
      .beginning (beginningMemory doc) := by
  induction doc using List.reverseRecOn with
  | nil => rfl
  | append_singleton doc s ih =>
    rw [DocumentRule.stateAfter_append_singleton, Option.getD_some, DocumentRule.step, ih]
    simp only [beginning_beginningMemory]

theorem reportsAfter_repeatedBeginning (id : RuleId) (allowed adverbs : List String)
    (doc : List Sentence) (s : Sentence) :
    (DocumentRule.repeatedBeginning id allowed adverbs).reportsAfter doc s =
      beginningExpected id allowed adverbs doc s := by
  rw [DocumentRule.reportsAfter, DocumentRule.step, stateAfter_repeatedBeginning]
  simp only [beginning_beginningMemory]

/-- Whatever the other rules of the list, a repeated-beginning rule at position `i` reports on
each sentence of a document exactly when its first word repeats too often, on its first token;
and the check then stores at `i` that word with the number of sentences in a row that begin with
it, or nothing when the sentence does not begin with a word. -/
theorem repeated_beginnings_flagged {rules : List DocumentRule} {i : Nat} {id : RuleId}
    {allowed adverbs : List String} (hi : rules[i]? = some (.repeatedBeginning id allowed adverbs))
    (doc : List Sentence) (s : Sentence) :
    ((DocumentCheck.run rules doc).check rules s).1 = rules.flatMap (·.reportsAfter doc s) ∧
    (DocumentRule.repeatedBeginning id allowed adverbs).reportsAfter doc s =
      beginningExpected id allowed adverbs doc s ∧
    (DocumentCheck.run rules (doc ++ [s])).states.lookup i =
      some (.beginning ((firstWord s).map fun w => (w, streak w (doc ++ [s])))) := by
  refine ⟨DocumentCheck.run_check_reports rules doc s,
    reportsAfter_repeatedBeginning id allowed adverbs doc s, ?_⟩
  rw [DocumentCheck.run_lookup, hi, Option.bind_some, DocumentRule.stateAfter_append_singleton,
    DocumentRule.step, stateAfter_repeatedBeginning]
  simp only [beginning_beginningMemory, beginningMemory_append_singleton]

/-- A sentence of one word over `[start, stop)`, after the empty token that opens it. -/
def oneWordSentence (text : String) (start stop : Nat) : Sentence :=
  ⟨#[{ text := "", start, stop := start, readings := [], isBlank := false, spaceBefore := false,
        sentStart := true, sentEnd := false, paraEnd := false },
      { text, start, stop, readings := [], isBlank := false, spaceBefore := false,
        sentStart := false, sentEnd := false, paraEnd := false }]⟩

/-- The third sentence in a row to begin with `Then`, whatever its case, is flagged on that word,
and the rule then remembers the word with a streak of three. -/
theorem third_then_flagged :
    ((DocumentCheck.run [.repeatedBeginning ⟨⟨"STYLE"⟩, "BEGINNING"⟩ [] []]
        [oneWordSentence "Then" 0 4, oneWordSentence "then" 10 14]).check
        [.repeatedBeginning ⟨⟨"STYLE"⟩, "BEGINNING"⟩ [] []] (oneWordSentence "Then" 20 24)).1 =
      [{ source := "STYLE/BEGINNING", message := "The previous sentences also begin with 'Then'.",
         start := 20, stop := 24, replacements := [] }] ∧
    (DocumentCheck.run [.repeatedBeginning ⟨⟨"STYLE"⟩, "BEGINNING"⟩ [] []]
        [oneWordSentence "Then" 0 4, oneWordSentence "then" 10 14,
          oneWordSentence "Then" 20 24]).states.lookup 0 =
      some (.beginning (some ("then", 3))) := by
  have hi : ([.repeatedBeginning ⟨⟨"STYLE"⟩, "BEGINNING"⟩ [] []] : List DocumentRule)[0]? =
      some (.repeatedBeginning ⟨⟨"STYLE"⟩, "BEGINNING"⟩ [] []) := rfl
  obtain ⟨hcheck, hreports, hstate⟩ := repeated_beginnings_flagged hi
    [oneWordSentence "Then" 0 4, oneWordSentence "then" 10 14] (oneWordSentence "Then" 20 24)
  refine ⟨?_, hstate.trans ?_⟩
  · rw [hcheck, List.flatMap_singleton, hreports]
    cbv
  · cbv

end Proofreader
