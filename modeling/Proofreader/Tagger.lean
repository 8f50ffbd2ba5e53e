import Proofreader.Token

/-!
# Dictionary tagger

The tagger is a word list: each entry says that a word form has a lemma and a tag. Looking a
word up gives its readings; inflecting goes the other way, from a lemma and a tag to the word
forms, in the order they were added. Adding an entry that is already present changes nothing.

The text form of a word list has one entry per line, `word<TAB>lemma<TAB>tag`. Blank lines and
lines starting with `#` are comments, and a line without exactly three fields is skipped.
-/

namespace Proofreader

/-- Finds the word forms of a lemma with a given tag. -/
abbrev Inflector := String → String → List String

/-- The inflector that knows no forms. -/
def noInflection : Inflector := fun _ _ => []

/-- A word list: readings by word form, and forms by lemma (tag and word, in insertion order). -/
structure Tagger where
  words : List (String × List Reading) := []
  forms : List (String × List (String × String)) := []
deriving Inhabited

/-- Adds `v` to the list of `key` when `p` says it is new, keeping first-insertion order of keys
and of values. -/
def addToEntry {α : Type} (entries : List (String × List α)) (key : String) (v : α)
    (isNew : List α → Bool) : List (String × List α) :=
  match entries.find? (·.1 = key) with
  | some (_, vs) =>
    if isNew vs then entries.map fun e => if e.1 = key then (key, vs ++ [v]) else e
    else entries
  | none => entries ++ [(key, [v])]

section Entries

variable {α : Type}

/-- The values stored under a key: those of its first entry, none when it has no entry. -/
def entryOf (entries : List (String × List α)) (key : String) : List α :=
  ((entries.find? (·.1 = key)).map (·.2)).getD []

/-- Adding a value under a key appends it to the key's values when they pass the test, and
changes no other key. -/
theorem entryOf_addToEntry (entries : List (String × List α)) (key : String) (v : α)
    (isNew : List α → Bool) (hnew : isNew [] = true) (k : String) :
    entryOf (addToEntry entries key v isNew) k =
      if k = key ∧ isNew (entryOf entries k) = true then entryOf entries k ++ [v]
      else entryOf entries k := by
  unfold addToEntry
  cases hf : entries.find? (·.1 = key) with
  | none =>
    -- a new key: its entry goes at the end, behind every other key's
    by_cases hk : k = key
    · subst hk
      simp [entryOf, List.find?_append, hf, hnew]
    · simp [entryOf, List.find?_append, Ne.symm hk, hk]
  | some e =>
    obtain ⟨key', vs⟩ := e
    have hkey : key' = key := by simpa using List.find?_some hf
    subst hkey
    have hold : entryOf entries key' = vs := by simp [entryOf, hf]
    dsimp only
    by_cases hn : isNew vs = true
    · rw [if_pos hn]
      -- the values of the key grow; every entry keeps its key
      have hfind : ∀ k, (entries.map fun e => if e.1 = key' then (key', vs ++ [v]) else e).find?
          (·.1 = k) = (entries.find? (·.1 = k)).map
            (fun e => if e.1 = key' then (key', vs ++ [v]) else e) := by
        intro k
        rw [List.find?_map]
        congr 2
        funext e
        by_cases he : e.1 = key' <;> simp [he]
      by_cases hk : k = key'
      · subst hk
        simp [entryOf, hfind, hf, hn]
      · rw [if_neg (fun h => hk h.1)]
        unfold entryOf
        rw [hfind]
        cases hk' : entries.find? (·.1 = k) with
        | none => rfl
        | some e' =>
          have he' : e'.1 = k := by simpa using List.find?_some hk'
          simp [he', hk]
    · rw [if_neg hn]
      by_cases hk : k = key'
      · subst hk
        rw [hold, if_neg fun h => hn h.2]
      · rw [if_neg fun h => hk h.1]

/-- Adding a value under a key adds the key at the end if it is new, and changes no key
otherwise. -/
theorem keys_addToEntry (entries : List (String × List α)) (key : String) (v : α)
    (isNew : List α → Bool) :
    (addToEntry entries key v isNew).map (·.1) =
      if key ∈ entries.map (·.1) then entries.map (·.1) else entries.map (·.1) ++ [key] := by
  unfold addToEntry
  cases hf : entries.find? (·.1 = key) with
  | none =>
    have hkey : key ∉ entries.map (·.1) := by
      intro hmem
      obtain ⟨e, he, rfl⟩ := List.mem_map.1 hmem
      exact absurd (List.find?_eq_none.1 hf e he) (by simp)
    simp [hkey]
  | some e =>
    have hkey : key ∈ entries.map (·.1) := by
      have he := List.find?_some hf
      exact List.mem_map.2 ⟨e, List.mem_of_find?_eq_some hf, by simpa using he⟩
    rw [if_pos hkey]
    dsimp only
    split
    · rw [List.map_map]
      congr 1
      funext e
      by_cases he : e.1 = key <;> simp [he]
    · rfl

end Entries

namespace Tagger

/-- Adds the entry: `word` has lemma `lemma` with tag `tag`. -/
def add (t : Tagger) (word lemmaForm tag : String) : Tagger :=
  { forms := addToEntry t.forms lemmaForm (tag, word) fun fs => !fs.contains (tag, word),
    words := addToEntry t.words word ⟨lemmaForm, some tag⟩ fun rs => !rs.contains ⟨lemmaForm, some tag⟩ }

/-- The readings of a word form. -/
def lookup (t : Tagger) (word : String) : List Reading :=
  ((t.words.find? (·.1 = word)).map (·.2)).getD []

/-- The forms of a lemma that carry the tag, in insertion order. -/
def inflect (t : Tagger) : Inflector := fun lemmaForm tag =>
  match t.forms.find? (·.1 = lemmaForm) with
  | some (_, fs) => fs.filterMap fun (t', w) => if t' = tag then some w else none
  | none => []

theorem lookup_eq (t : Tagger) (w : String) : t.lookup w = entryOf t.words w := rfl

/-- The words of a lemma in a tag are those of its (tag, word) pairs that carry the tag. -/
theorem inflect_eq (t : Tagger) (l tg : String) :
    t.inflect l tg = (entryOf t.forms l).filterMap fun (t', w) => if t' = tg then some w else none
    := by
  unfold inflect entryOf
  cases t.forms.find? (·.1 = l) with
  | none => rfl
  | some e => rfl

/-- A word is a form in a tag exactly when the pair of the tag and the word is stored. -/
theorem mem_filterMap_tag {fs : List (String × String)} {tg w : String} :
    (w ∈ fs.filterMap fun (t', w) => if t' = tg then some w else none) ↔ (tg, w) ∈ fs := by
  simp only [List.mem_filterMap, Option.ite_none_right_eq_some, Option.some.injEq, Prod.exists]
  constructor
  · rintro ⟨t', w', hmem, rfl, rfl⟩
    exact hmem
  · intro hmem
    exact ⟨tg, w, hmem, rfl, rfl⟩

/-- Adding an entry gives its word the reading after its other readings, if the word lacks it,
and changes no other word. -/
theorem lookup_add (t : Tagger) (word lemmaForm tag w : String) :
    (t.add word lemmaForm tag).lookup w =
      if w = word ∧ (⟨lemmaForm, some tag⟩ : Reading) ∉ t.lookup w then
        t.lookup w ++ [⟨lemmaForm, some tag⟩]
      else t.lookup w := by
  rw [lookup_eq, add, entryOf_addToEntry _ _ _ _ rfl, lookup_eq]
  simp

/-- Adding an entry gives its lemma the word in its tag after the other words, if the lemma
lacks it there, and changes no other lemma or tag. -/
theorem inflect_add (t : Tagger) (word lemmaForm tag l tg : String) :
    (t.add word lemmaForm tag).inflect l tg =
      if l = lemmaForm ∧ tg = tag ∧ word ∉ t.inflect l tg then t.inflect l tg ++ [word]
      else t.inflect l tg := by
  rw [inflect_eq, add, entryOf_addToEntry _ _ _ _ rfl, inflect_eq]
  dsimp only
  by_cases hl : l = lemmaForm
  · by_cases ht : tg = tag
    · subst hl ht
      simp only [mem_filterMap_tag, true_and, Bool.not_eq_true']
      split <;> simp_all
    · -- a pair of another tag shows in no form of this tag
      split <;> simp [ht, Ne.symm ht]
  · simp [hl]

/-- Adding an entry adds its word at the end of the word forms if it is new. -/
theorem keys_add (t : Tagger) (word lemmaForm tag : String) :
    (t.add word lemmaForm tag).words.map (·.1) =
      if word ∈ t.words.map (·.1) then t.words.map (·.1) else t.words.map (·.1) ++ [word] :=
  keys_addToEntry _ _ _ _

/-- Number of distinct word forms. -/
def size (t : Tagger) : Nat := t.words.length

/-- Whether the word list is empty. -/
def isEmpty (t : Tagger) : Bool := t.words.isEmpty

/-- Drops line breaks and carriage returns from the end of a line. -/
def trimLineEnd (line : String) : String :=
  String.ofList ((line.toList.reverse.dropWhile fun c => c = '\r' || c = '\n').reverse)

/-- Adds the entry of one line of a word list, if it is one. -/
def addLine (t : Tagger) (line : String) : Tagger :=
  let line := trimLineEnd line
  if line.isEmpty || line.startsWith "#" then t
  else
    match line.splitOn "\t" with
    | [word, lemmaForm, tag] => t.add word lemmaForm tag
    | _ => t

/-- Reads a word list from its lines. -/
def ofLines (lines : List String) : Tagger :=
  lines.foldl addLine {}

/-- The lines of a text: split at line feeds, a final empty line dropped. -/
def textLines (text : String) : List String :=
  let parts := text.splitOn "\n"
  if parts.getLast? = some "" then parts.dropLast else parts

/-- Reads a word list from its text. -/
def ofText (text : String) : Tagger := ofLines (textLines text)

end Tagger

end Proofreader
