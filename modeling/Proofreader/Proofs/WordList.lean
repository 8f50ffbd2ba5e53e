import Mathlib
import Proofreader.Proofs.Synthesis

/-!
# A word list keeps its entries in the order they were first added

A word list is two association lists updated together: the readings of each word form, and the
(tag, word) pairs of each lemma. `Tagger.add` appends to the list of a key only what that list
lacks, and starts a new key at the end. Read through `Tagger.lookup` and `Tagger.inflect`, each
such list is what the additions brought under its key, in the order they first brought it
(`lookup_ofEntries`, `inflect_ofEntries`). So the two directions agree with each other and with
the additions that built the list, neither repeats an entry, and the number of word forms is the
number of distinct words added (`ofEntries_follows_insertions`). Reading a word list from its
lines is one such sequence of additions (`ofLines_eq_ofEntries`).

All three views are lists of one kind: one that grows, at each addition, by the item the
addition brings if it lacks it (`eq_eraseDups_of_step`).
-/

namespace Proofreader

/-! ## Lists that grow by new items only -/

section Growth

variable {ε β : Type} [BEq β] [LawfulBEq β]

/-- A list computed from a sequence of events, empty for no event, that grows at each event by
the item the event brings, if it lacks that item, holds the items brought, first occurrences
kept in order. -/
theorem eq_eraseDups_of_step (view : List ε → List β) (item : ε → Option β)
    (hnil : view [] = [])
    (hstep : ∀ es e, view (es ++ [e]) =
      match item e with
      | some y => if y ∈ view es then view es else view es ++ [y]
      | none => view es) :
    ∀ es, view es = (es.filterMap item).eraseDups := by
  intro es
  induction es using List.reverseRecOn with
  | nil => rw [hnil, List.filterMap_nil, List.eraseDups_nil]
  | append_singleton es e ih =>
    rw [hstep, List.filterMap_append, ih]
    cases h : item e with
    | none => simp [h]
    | some y =>
      -- the item is new to the view exactly when no earlier event brought it
      simp only [List.filterMap_cons_some h, List.filterMap_nil, eraseDups_append_singleton,
        List.mem_eraseDups]

end Growth

namespace Tagger

/-! ## A sequence of additions -/

/-- The word list built by adding the entries in order, each a word, its lemma and its tag. -/
def ofEntries (entries : List (String × String × String)) : Tagger :=
  entries.foldl (fun t e => t.add e.1 e.2.1 e.2.2) {}

theorem ofEntries_append_singleton (entries : List (String × String × String))
    (e : String × String × String) :
    ofEntries (entries ++ [e]) = (ofEntries entries).add e.1 e.2.1 e.2.2 := by
  rw [ofEntries, List.foldl_append, List.foldl_cons, List.foldl_nil, ofEntries]

/-- The reading an entry gives the word `w`, if it is an entry of `w`. -/
def readingFor (w : String) (e : String × String × String) : Option Reading :=
  if e.1 = w then some ⟨e.2.1, some e.2.2⟩ else none

/-- The word an entry gives the lemma `l` in the tag `tg`, if it is one. -/
def formFor (l tg : String) (e : String × String × String) : Option String :=
  if e.2.1 = l ∧ e.2.2 = tg then some e.1 else none

/-- The readings of a word are those its entries gave it, in the order of their first addition. -/
theorem lookup_ofEntries (entries : List (String × String × String)) (w : String) :
    (ofEntries entries).lookup w = (entries.filterMap (readingFor w)).eraseDups := by
  refine eq_eraseDups_of_step (fun es => (ofEntries es).lookup w) (readingFor w) rfl
    (fun es e => ?_) entries
  rw [ofEntries_append_singleton, lookup_add]
  by_cases hw : e.1 = w
  · rw [readingFor, if_pos hw]
    by_cases hr : (⟨e.2.1, some e.2.2⟩ : Reading) ∈ (ofEntries es).lookup w
    · simp [hr]
    · simp [hr, hw]
  · simp [readingFor, hw, Ne.symm hw]

/-- The forms of a lemma in a tag are the words its entries in that tag gave it, in the order of
their first addition. -/
theorem inflect_ofEntries (entries : List (String × String × String)) (l tg : String) :
    (ofEntries entries).inflect l tg = (entries.filterMap (formFor l tg)).eraseDups := by
  refine eq_eraseDups_of_step (fun es => (ofEntries es).inflect l tg) (formFor l tg) rfl
    (fun es e => ?_) entries
  rw [ofEntries_append_singleton, inflect_add]
  by_cases he : e.2.1 = l ∧ e.2.2 = tg
  · rw [formFor, if_pos he]
    by_cases hw : e.1 ∈ (ofEntries es).inflect l tg
    · simp [hw]
    · simp [hw, he.1, he.2]
  · simp only [formFor, if_neg he]
    rw [if_neg fun h => he ⟨h.1.symm, h.2.1.symm⟩]

/-- The word forms of the list are the words added, each once, in the order of their first
addition. -/
theorem keys_ofEntries (entries : List (String × String × String)) :
    (ofEntries entries).words.map (·.1) = (entries.map (·.1)).eraseDups := by
  have hkeys := eq_eraseDups_of_step (fun es => (ofEntries es).words.map (·.1))
    (some ∘ (·.1)) rfl (fun es e => by rw [ofEntries_append_singleton, keys_add]; rfl) entries
  rwa [List.filterMap_eq_map] at hkeys

/-! ## Reading a word list from its lines -/

/-- The entry a line of a word list holds: `word<TAB>lemma<TAB>tag` once its line end is
trimmed, and none for a blank line, a comment or a line with another number of fields. -/
def lineEntry (line : String) : Option (String × String × String) :=
  let line := trimLineEnd line
  if line.isEmpty || line.startsWith "#" then none
  else
    match line.splitOn "\t" with
    | [word, lemmaForm, tag] => some (word, lemmaForm, tag)
    | _ => none

/-- A line adds the entry it holds, if any. -/
theorem addLine_eq (t : Tagger) (line : String) :
    t.addLine line = ((lineEntry line).map fun e => t.add e.1 e.2.1 e.2.2).getD t := by
  unfold addLine lineEntry
  dsimp only
  split
  · rfl
  · generalize (trimLineEnd line).splitOn "\t" = fields
    rcases fields with _ | ⟨a, _ | ⟨b, _ | ⟨c, _ | ⟨d, rest⟩⟩⟩⟩ <;> rfl

/-- Reading lines from any word list adds, in order, the entries the lines hold. -/
theorem foldl_addLine (lines : List String) (t : Tagger) :
    lines.foldl addLine t =
      (lines.filterMap lineEntry).foldl (fun t e => t.add e.1 e.2.1 e.2.2) t := by
  induction lines generalizing t with
  | nil => rfl
  | cons line lines ih =>
    rw [List.foldl_cons, addLine_eq, List.filterMap_cons]
    cases lineEntry line with
    | none => exact ih t
    | some e => exact ih _

theorem ofLines_eq_ofEntries (lines : List String) :
    ofLines lines = ofEntries (lines.filterMap lineEntry) :=
  foldl_addLine lines {}

/-! ## The two directions agree -/

/-- After any sequence of additions, and so for a word list read from lines: a word has a
reading with a lemma and a tag exactly when it is a form of that lemma in that tag, exactly when
that entry was added. The readings of a word and the forms of a lemma in a tag are those the
additions gave, each once, in the order of their first addition; and the list has one word form
per distinct word added. -/
theorem ofEntries_follows_insertions (entries : List (String × String × String)) :
    (∀ w l tg, ((⟨l, some tg⟩ : Reading) ∈ (ofEntries entries).lookup w ↔
        w ∈ (ofEntries entries).inflect l tg) ∧
      (w ∈ (ofEntries entries).inflect l tg ↔ (w, l, tg) ∈ entries)) ∧
    (∀ w, (ofEntries entries).lookup w = (entries.filterMap (readingFor w)).eraseDups ∧
      ((ofEntries entries).lookup w).Nodup) ∧
    (∀ l tg, (ofEntries entries).inflect l tg = (entries.filterMap (formFor l tg)).eraseDups ∧
      ((ofEntries entries).inflect l tg).Nodup) ∧
    (ofEntries entries).size = (entries.map (·.1)).eraseDups.length ∧
    ∀ lines, ofLines lines = ofEntries (lines.filterMap lineEntry) := by
  -- both directions hold an item exactly when an addition brought it
  have hreading : ∀ w l tg, (⟨l, some tg⟩ : Reading) ∈ (ofEntries entries).lookup w ↔
      (w, l, tg) ∈ entries := by
    intro w l tg
    simp [lookup_ofEntries, List.mem_eraseDups, readingFor]
  have hform : ∀ w l tg, w ∈ (ofEntries entries).inflect l tg ↔ (w, l, tg) ∈ entries := by
    intro w l tg
    simp [inflect_ofEntries, List.mem_eraseDups, formFor]
  refine ⟨fun w l tg => ⟨(hreading w l tg).trans (hform w l tg).symm, hform w l tg⟩,
    fun w => ⟨lookup_ofEntries entries w, ?_⟩,
    fun l tg => ⟨inflect_ofEntries entries l tg, ?_⟩,
    ?_, ofLines_eq_ofEntries⟩
  · rw [lookup_ofEntries]
    exact nodup_eraseDups _
  · rw [inflect_ofEntries]
    exact nodup_eraseDups _
  · rw [size, ← List.length_map (f := (·.1)), keys_ofEntries]

/-- A repeated entry changes nothing, and a lemma's forms in one tag leave out the others. -/
example : (ofEntries [("run", "run", "VB"), ("run", "run", "NN"), ("ran", "run", "VBD"),
    ("run", "run", "VB")]).lookup "run" = [⟨"run", some "VB"⟩, ⟨"run", some "NN"⟩] ∧
    (ofEntries [("run", "run", "VB"), ("ran", "run", "VBD")]).inflect "run" "VBD" = ["ran"] := by
  decide

end Tagger

end Proofreader
