import Mathlib
import Proofreader.Rule.Synthesizer

/-!
# Reading templates

A template is read from left to right. At each character it either starts a reference or is
literal text (`RefersAt`): `\N` with a maximal run of ASCII digits, `{N}`, or `{N:TAG}` with a
tag of one or more characters other than `}`, where the number `N` fits in 64 bits. `Scans`
describes a whole reading: after a reference the reading goes on behind it, and a character that
starts no reference is literal. Every template has exactly one reading (`scans_iff`).

The parser follows the reading (`readTemplate_of_scans`): it stops at the first reference to a
group the pattern does not have, and otherwise returns the references and the maximal runs of
literal characters in order (`readParts`), which together give back the template
(`parse_reads_references`).
-/

namespace Proofreader

/-- Whether a part is literal text. -/
def SynthPart.isText : SynthPart → Bool
  | .text _ => true
  | .ref _ => false

namespace Synthesizer

/-! ## What a reference is -/

/-- The value of a run of decimal digits, the most significant first. -/
def digitsValue (ds : List Char) : Nat :=
  Nat.ofDigits 10 (ds.reverse.map fun d => d.toNat - '0'.toNat)

/-- `w` is a reference to `r` written at the head of `cs`. -/
inductive RefersAt : List Char → GroupRef → List Char → Prop
  /-- A backslash and a maximal run of digits. -/
  | backslash {ds rest : List Char} : ds ≠ [] → (∀ d ∈ ds, d.isDigit = true) →
      (∀ c ∈ rest.head?, c.isDigit = false) → digitsValue ds ≤ unboundedCount →
      RefersAt ('\\' :: (ds ++ rest)) { id := digitsValue ds } ('\\' :: ds)
  /-- A run of digits in braces. -/
  | braced {ds rest : List Char} : ds ≠ [] → (∀ d ∈ ds, d.isDigit = true) →
      digitsValue ds ≤ unboundedCount →
      RefersAt ('{' :: (ds ++ '}' :: rest)) { id := digitsValue ds } ('{' :: (ds ++ ['}']))
  /-- A run of digits and, after a colon, the tag to inflect to, in braces. -/
  | tagged {ds tag rest : List Char} : ds ≠ [] → (∀ d ∈ ds, d.isDigit = true) →
      digitsValue ds ≤ unboundedCount → tag ≠ [] → '}' ∉ tag →
      RefersAt ('{' :: (ds ++ ':' :: (tag ++ '}' :: rest)))
        { id := digitsValue ds, inflect := some (String.ofList tag) }
        ('{' :: (ds ++ ':' :: (tag ++ ['}'])))

/-- One step of reading a template: a literal character, or a reference with its written form. -/
inductive Segment where
  | lit (c : Char)
  | ref (r : GroupRef) (written : List Char)

namespace Segment

/-- The characters a segment was read from. -/
def chars : Segment → List Char
  | lit c => [c]
  | ref _ w => w

/-- The reference of a segment, when it refers to a group above `groups`. -/
def overRef (groups : Nat) : Segment → Option GroupRef
  | lit _ => none
  | ref r _ => if groups < r.id then some r else none

end Segment

/-- A reading of a template from left to right: a reference where one is written, and a literal
character where none is. -/
inductive Scans : List Char → List Segment → Prop
  | nil : Scans [] []
  | ref {cs w rest : List Char} {r : GroupRef} {segs : List Segment} : RefersAt cs r w →
      cs = w ++ rest → Scans rest segs → Scans cs (.ref r w :: segs)
  | lit {c : Char} {rest : List Char} {segs : List Segment} :
      (∀ r w, ¬RefersAt (c :: rest) r w) → Scans rest segs →
        Scans (c :: rest) (.lit c :: segs)

/-- Puts a literal character in front of parts read with their characters: it joins the text in
front, or starts one. -/
def consLit (c : Char) : List (SynthPart × List Char) → List (SynthPart × List Char)
  | [] => [(.text (String.ofList [c]), [c])]
  | (.text _, src) :: ps => (.text (String.ofList (c :: src)), c :: src) :: ps
  | (.ref r, w) :: ps => (.text (String.ofList [c]), [c]) :: (.ref r, w) :: ps

/-- The parts of a reading with the characters each was read from: each reference, and each
maximal run of literal characters as one text. -/
def readParts : List Segment → List (SynthPart × List Char)
  | [] => []
  | .ref r w :: segs => (.ref r, w) :: readParts segs
  | .lit c :: segs => consLit c (readParts segs)

/-- The message of a template that refers to group `id` of a pattern of `groups` elements. -/
def overMessage (template : String) (groups id : Nat) : String :=
  "template \"" ++ template ++ "\" references group " ++ toString id ++ ", but the pattern has " ++
    toString groups ++ " elements"

/-! ## Reading numbers -/

/-- The test the parser reads digits with is `Char.isDigit`. -/
theorem isDigit_eq : (fun c : Char => decide ('0' ≤ c) && decide (c ≤ '9')) = Char.isDigit := by
  funext c
  simp [Char.isDigit, Char.le_def]

/-- Reading digits one after another from `a` shifts `a` past them and adds their value. -/
theorem foldl_digits (ds : List Char) (a : Nat) :
    ds.foldl (fun n d => n * 10 + (d.toNat - '0'.toNat)) a =
      a * 10 ^ ds.length + digitsValue ds := by
  induction ds generalizing a with
  | nil => simp [digitsValue]
  | cons d ds ih =>
    rw [List.foldl_cons, ih, digitsValue, digitsValue, List.reverse_cons, List.map_append,
      Nat.ofDigits_append, List.length_map, List.length_reverse, List.map_singleton,
      Nat.ofDigits_singleton, List.length_cons, pow_succ]
    ring

/-- A maximal run of digits is read as its value and length, when the value fits. -/
theorem readNumber_of_digits {ds rest : List Char} (hds : ds ≠ [])
    (hdig : ∀ d ∈ ds, d.isDigit = true) (hnext : ∀ c ∈ rest.head?, c.isDigit = false) :
    readNumber (ds ++ rest) =
      if digitsValue ds ≤ unboundedCount then some (digitsValue ds, ds.length) else none := by
  have hrun : (ds ++ rest).takeWhile Char.isDigit = ds := by
    rw [List.takeWhile_append_of_pos hdig]
    cases rest with
    | nil => simp
    | cons c more => rw [List.takeWhile_cons_of_neg (by simp [hnext c rfl]), List.append_nil]
  unfold readNumber
  simp only [isDigit_eq, hrun, foldl_digits, Nat.zero_mul, Nat.zero_add]
  rw [if_neg (by simpa using hds)]
  by_cases hfit : digitsValue ds ≤ unboundedCount
  · rw [if_neg (by omega), if_pos hfit]
  · rw [if_pos (by omega), if_neg hfit]

/-- What the parser reads as a number is a maximal run of digits whose value fits. -/
theorem readNumber_eq_some {cs : List Char} {v len : Nat} (h : readNumber cs = some (v, len)) :
    ∃ ds rest, cs = ds ++ rest ∧ ds ≠ [] ∧ (∀ d ∈ ds, d.isDigit = true) ∧
      (∀ c ∈ rest.head?, c.isDigit = false) ∧ digitsValue ds ≤ unboundedCount ∧
      v = digitsValue ds ∧ len = ds.length := by
  have hsplit := (List.takeWhile_append_dropWhile (p := Char.isDigit) (l := cs)).symm
  have hdig : ∀ d ∈ cs.takeWhile Char.isDigit, d.isDigit = true := fun _ hd =>
    List.mem_takeWhile_imp hd
  have hnext : ∀ c ∈ (cs.dropWhile Char.isDigit).head?, c.isDigit = false := by
    intro c hc
    have := List.head?_dropWhile_not Char.isDigit cs
    rw [Option.mem_def.1 hc] at this
    exact this
  -- with no digit in front nothing is read
  have hds : cs.takeWhile Char.isDigit ≠ [] := by
    intro hnil
    unfold readNumber at h
    simp [isDigit_eq, hnil] at h
  rw [hsplit, readNumber_of_digits hds hdig hnext] at h
  split at h
  · cases h
    exact ⟨_, _, hsplit, hds, hdig, hnext, by assumption, rfl, rfl⟩
  · cases h

/-! ## Reading one reference -/

/-- The reference the parser reads at `c` followed by `rest`, with the number of characters of
`rest` it takes. -/
def referenceAt (c : Char) (rest : List Char) : Option (GroupRef × Nat) :=
  if c = '\\' then (readNumber rest).map fun (id, len) => ({ id : GroupRef }, len)
  else if c = '{' then readBraced rest
  else none

namespace RefersAt

variable {cs w : List Char} {r : GroupRef}

/-- A written reference stands at the head of the text. -/
theorem eq_append (h : RefersAt cs r w) : ∃ rest, cs = w ++ rest := by
  cases h with
  | @backslash ds rest => exact ⟨rest, rfl⟩
  | @braced ds rest => exact ⟨rest, by simp⟩
  | @tagged ds tag rest => exact ⟨rest, by simp⟩

theorem ne_nil (h : RefersAt cs r w) : w ≠ [] := by
  cases h <;> simp

/-- The parser reads every written reference, taking the characters after its first. -/
theorem referenceAt_eq {c : Char} {rest : List Char} (h : RefersAt (c :: rest) r w) :
    referenceAt c rest = some (r, w.length - 1) := by
  cases h with
  | backslash hds hdig hnext hfit =>
    simp [referenceAt, readNumber_of_digits hds hdig hnext, hfit]
  | @braced ds more hds hdig hfit =>
    have hnum := @readNumber_of_digits ds ('}' :: more) hds hdig (by simp)
    simp [referenceAt, readBraced, hnum, hfit]
  | @tagged ds tag more hds hdig hfit htag hclose =>
    have hnum := @readNumber_of_digits ds (':' :: (tag ++ '}' :: more)) hds hdig (by simp)
    -- the tag runs up to the closing brace, where the reference ends
    have hrun : (tag ++ '}' :: more).takeWhile (· ≠ '}') = tag := by
      refine (List.takeWhile_append_of_pos fun a ha => ?_).trans ?_
      · simp only [ne_eq, decide_eq_true_eq]
        rintro rfl
        exact hclose ha
      · rw [List.takeWhile_cons_of_neg (by simp), List.append_nil]
    have hdrop : (ds ++ ':' :: (tag ++ '}' :: more)).drop (ds.length + tag.length + 1) =
        '}' :: more := by
      rw [List.drop_append, List.drop_eq_nil_of_le (by omega), List.nil_append,
        show ds.length + tag.length + 1 - ds.length = tag.length + 1 by omega, List.drop_succ_cons,
        List.drop_left]
    unfold referenceAt readBraced
    rw [if_neg (by decide), if_pos rfl, hnum, if_pos hfit]
    simp only [Option.bind_eq_bind, Option.bind_some, List.drop_left, hrun, hdrop,
      List.isEmpty_eq_false_iff.2 htag, Bool.false_eq_true, ↓reduceIte, Option.some.injEq,
      Prod.mk.injEq, true_and, List.length_cons, List.length_append, List.length_nil]
    omega

end RefersAt

/-- What the parser reads after a brace is a reference written there. -/
theorem readBraced_eq_some {cs : List Char} {r : GroupRef} {len : Nat}
    (h : readBraced cs = some (r, len)) : RefersAt ('{' :: cs) r ('{' :: cs.take len) := by
  unfold readBraced at h
  simp only [Option.bind_eq_bind, Option.bind_eq_some_iff] at h
  obtain ⟨⟨id, n⟩, hnum, h⟩ := h
  obtain ⟨ds, more, rfl, hds, hdig, hnext, hfit, rfl, rfl⟩ := readNumber_eq_some hnum
  simp only [List.drop_left] at h
  split at h
  · -- after a colon, the tag runs up to the first closing brace
    rename_i m
    split at h
    · simp at h
    · rename_i htag
      have hclose : '}' ∉ m.takeWhile (· ≠ '}') := fun hc => by
        simpa using List.mem_takeWhile_imp hc
      have hm := (List.takeWhile_append_dropWhile (p := (· ≠ '}')) (l := m)).symm
      generalize m.takeWhile (· ≠ '}') = tag at h htag hclose hm
      generalize m.dropWhile (· ≠ '}') = after at hm
      subst hm
      simp only [Option.bind_some] at h
      have hdrop : (ds ++ ':' :: (tag ++ after)).drop (ds.length + tag.length + 1) = after := by
        rw [List.drop_append, List.drop_eq_nil_of_le (by omega), List.nil_append,
          show ds.length + tag.length + 1 - ds.length = tag.length + 1 by omega,
          List.drop_succ_cons, List.drop_left]
      rw [hdrop] at h
      split at h
      · rename_i tail
        cases h
        have htake : (ds ++ ':' :: (tag ++ '}' :: tail)).take (ds.length + tag.length + 1 + 1) =
            ds ++ ':' :: (tag ++ ['}']) := by
          rw [show ds.length + tag.length + 1 + 1 = ds.length + (tag.length + 1 + 1) by omega,
            List.take_length_add_append, List.take_succ_cons, List.take_length_add_append,
            List.take_succ_cons, List.take_zero]
        rw [htake]
        exact .tagged hds hdig hfit (by simpa using htag) hclose
      · cases h
  · -- otherwise the number is closed at once
    rename_i hnot
    simp only [Option.bind_some, List.drop_left] at h
    split at h
    · rename_i tail
      cases h
      rw [List.take_length_add_append, List.take_succ_cons, List.take_zero]
      exact .braced hds hdig hfit
    · cases h

/-- What the parser reads as a reference is one written there. -/
theorem referenceAt_eq_some {c : Char} {rest : List Char} {r : GroupRef} {len : Nat}
    (h : referenceAt c rest = some (r, len)) : RefersAt (c :: rest) r (c :: rest.take len) := by
  unfold referenceAt at h
  split at h
  · rename_i hc
    subst hc
    obtain ⟨⟨id, n⟩, hnum, hr⟩ := Option.map_eq_some_iff.1 h
    cases hr
    obtain ⟨ds, more, rfl, hds, hdig, hnext, hfit, rfl, rfl⟩ := readNumber_eq_some hnum
    rw [List.take_left]
    exact .backslash hds hdig hnext hfit
  · split at h
    · rename_i hc
      subst hc
      exact readBraced_eq_some h
    · cases h

/-- The parser finds no reference exactly where none is written. -/
theorem referenceAt_eq_none_iff {c : Char} {rest : List Char} :
    referenceAt c rest = none ↔ ∀ r w, ¬RefersAt (c :: rest) r w := by
  constructor
  · intro h r w hr
    rw [hr.referenceAt_eq] at h
    cases h
  · intro h
    cases hc : referenceAt c rest with
    | none => rfl
    | some p => exact absurd (referenceAt_eq_some hc) (h _ _)

/-- At most one reference is written at the head of a text. -/
theorem RefersAt.unique {cs w w' : List Char} {r r' : GroupRef} (h : RefersAt cs r w)
    (h' : RefersAt cs r' w') : r = r' ∧ w = w' := by
  obtain ⟨x, hx⟩ := h.eq_append
  obtain ⟨x', hx'⟩ := h'.eq_append
  cases cs with
  | nil => exact absurd (List.append_eq_nil_iff.1 hx.symm).1 h.ne_nil
  | cons c rest =>
    -- the parser reads both, so they have one reference and one length
    have hsame := h.referenceAt_eq.symm.trans h'.referenceAt_eq
    simp only [Option.some.injEq, Prod.mk.injEq] at hsame
    have hlen : w.length = w'.length := by
      have := List.length_pos_of_ne_nil h.ne_nil
      have := List.length_pos_of_ne_nil h'.ne_nil
      omega
    exact ⟨hsame.1, (List.append_inj (hx.symm.trans hx') hlen).1⟩

/-! ## Reading a whole template -/

/-- Every text has a reading. -/
theorem exists_scans : ∀ cs : List Char, ∃ segs, Scans cs segs
  | [] => ⟨[], .nil⟩
  | c :: rest => by
    cases h : referenceAt c rest with
    | none =>
      obtain ⟨segs, hs⟩ := exists_scans rest
      exact ⟨_, .lit (referenceAt_eq_none_iff.1 h) hs⟩
    | some p =>
      obtain ⟨segs, hs⟩ := exists_scans (rest.drop p.2)
      exact ⟨_, .ref (referenceAt_eq_some h)
        (by rw [List.cons_append, List.take_append_drop]) hs⟩
termination_by cs => cs.length

/-- A text has at most one reading: a reference is written at a place or it is not, and the
reference written there is the only one. -/
theorem Scans.unique {cs : List Char} {segs segs' : List Segment} (h : Scans cs segs)
    (h' : Scans cs segs') : segs = segs' := by
  induction h generalizing segs' with
  | nil =>
    cases h' with
    | nil => rfl
    | ref href => cases href
  | ref href hcs _ ih =>
    cases h' with
    | nil => cases href
    | ref href' hcs' hrest' =>
      obtain ⟨rfl, rfl⟩ := href.unique href'
      rw [hcs] at hcs'
      rw [ih (List.append_cancel_left hcs' ▸ hrest')]
    | lit hnone => exact absurd href (hnone _ _)
  | lit hnone _ ih =>
    cases h' with
    | ref href' => exact absurd href' (hnone _ _)
    | lit _ hrest' => rw [ih hrest']

/-- The readings of a text: exactly one. -/
theorem scans_iff (cs : List Char) : ∃ segs, ∀ segs', Scans cs segs' ↔ segs' = segs := by
  obtain ⟨segs, hs⟩ := exists_scans cs
  exact ⟨segs, fun segs' => ⟨fun h' => (hs.unique h').symm, fun h' => h' ▸ hs⟩⟩

/-! ## The parts of a reading -/

/-- Literal characters in front of a reading join, one by one, the parts of the rest. -/
theorem readParts_lits_append (pre : List Char) (segs : List Segment) :
    readParts (pre.map .lit ++ segs) = pre.foldr consLit (readParts segs) := by
  induction pre with
  | nil => rfl
  | cons c pre ih => rw [List.map_cons, List.cons_append, readParts, ih, List.foldr_cons]

/-- Literal characters in front of parts that start with no text make one text of their own. -/
theorem foldr_consLit_of_head {ps : List (SynthPart × List Char)}
    (hps : ∀ p ∈ ps.head?, p.1.isText = false) (pre : List Char) :
    pre.foldr consLit ps =
      (if pre = [] then [] else [(.text (String.ofList pre), pre)]) ++ ps := by
  induction pre with
  | nil => simp
  | cons c pre ih =>
    rw [List.foldr_cons, ih]
    cases pre with
    | nil =>
      -- the character starts a text in front of a reference or of nothing
      match ps, hps with
      | [], _ => rfl
      | (.ref r, w) :: ps, _ => rfl
      | (.text s, src) :: ps, hps => simp [SynthPart.isText] at hps
    | cons d pre => simp [consLit]

/-- The parts of a reading that ends with literal characters. -/
theorem readParts_lits (pre : List Char) :
    readParts (pre.map .lit) = if pre = [] then [] else [(.text (String.ofList pre), pre)] := by
  have h := readParts_lits_append pre []
  rw [List.append_nil, readParts, foldr_consLit_of_head (by simp), List.append_nil] at h
  exact h

/-- The parts of a reading with literal characters before a reference. -/
theorem readParts_lits_ref (pre : List Char) (r : GroupRef) (w : List Char)
    (segs : List Segment) :
    readParts (pre.map .lit ++ .ref r w :: segs) =
      (if pre = [] then [] else [(.text (String.ofList pre), pre)]) ++
        (.ref r, w) :: readParts segs := by
  rw [readParts_lits_append, readParts, foldr_consLit_of_head (by simp [SynthPart.isText])]

/-- A reading gives back the text it reads. -/
theorem Scans.flatMap_chars {cs : List Char} {segs : List Segment} (h : Scans cs segs) :
    segs.flatMap Segment.chars = cs := by
  induction h with
  | nil => rfl
  | ref _ hcs _ ih => rw [List.flatMap_cons, Segment.chars, ih, hcs]
  | lit _ _ ih => rw [List.flatMap_cons, Segment.chars, ih, List.singleton_append]

/-- A literal character in front of parts is in front of the characters they were read from. -/
theorem flatten_consLit (c : Char) (ps : List (SynthPart × List Char)) :
    ((consLit c ps).map Prod.snd).flatten = c :: (ps.map Prod.snd).flatten := by
  match ps with
  | [] => rfl
  | (.text _, _) :: _ => rfl
  | (.ref _, _) :: _ => rfl

/-- The parts of a reading were read from the characters of its segments, in order. -/
theorem flatten_readParts (segs : List Segment) :
    ((readParts segs).map Prod.snd).flatten = segs.flatMap Segment.chars := by
  induction segs with
  | nil => rfl
  | cons seg segs ih =>
    cases seg with
    | lit c => rw [readParts, flatten_consLit, ih, List.flatMap_cons, Segment.chars,
        List.singleton_append]
    | ref r w => rw [readParts, List.map_cons, List.flatten_cons, ih, List.flatMap_cons,
        Segment.chars]

/-- A literal character in front keeps every text the characters it was read from, and not
empty. -/
theorem text_mem_consLit {c : Char} {ps : List (SynthPart × List Char)}
    (hps : ∀ s src, (SynthPart.text s, src) ∈ ps → s = String.ofList src ∧ src ≠ [])
    {s : String} {src : List Char} (h : (SynthPart.text s, src) ∈ consLit c ps) :
    s = String.ofList src ∧ src ≠ [] := by
  match ps, hps, h with
  | [], _, h => simp_all [consLit]
  | (.text _, src') :: ps, hps, h =>
    rcases List.mem_cons.1 h with h | h
    · simp_all
    · exact hps s src (List.mem_cons_of_mem _ h)
  | (.ref _, _) :: ps, hps, h =>
    rcases List.mem_cons.1 h with h | h
    · simp_all
    · exact hps s src h

/-- Every text part of a reading is the characters it was read from, and not empty. -/
theorem text_mem_readParts {segs : List Segment} {s : String} {src : List Char}
    (h : (SynthPart.text s, src) ∈ readParts segs) : s = String.ofList src ∧ src ≠ [] := by
  induction segs generalizing s src with
  | nil => cases h
  | cons seg segs ih =>
    cases seg with
    | lit c => exact text_mem_consLit (fun _ _ h => ih h) h
    | ref r w =>
      rcases List.mem_cons.1 h with h | h
      · cases h
      · exact ih h

/-- A literal character in front keeps texts apart: it joins the text in front. -/
theorem isChain_consLit (c : Char) {ps : List (SynthPart × List Char)}
    (h : (ps.map Prod.fst).IsChain fun a b => a.isText = false ∨ b.isText = false) :
    ((consLit c ps).map Prod.fst).IsChain fun a b => a.isText = false ∨ b.isText = false := by
  match ps, h with
  | [], _ => exact List.isChain_singleton _
  | (.text _, _) :: [], _ => exact List.isChain_singleton _
  | (.text _, _) :: p :: ps, h =>
    rw [List.map_cons, List.map_cons, List.isChain_cons_cons] at h
    exact List.isChain_cons_cons.2 ⟨by simpa [SynthPart.isText] using h.1, h.2⟩
  | (.ref _, _) :: ps, h => exact List.isChain_cons_cons.2 ⟨by simp [SynthPart.isText], h⟩

/-- No two text parts of a reading are next to each other. -/
theorem isChain_readParts (segs : List Segment) :
    ((readParts segs).map Prod.fst).IsChain fun a b => a.isText = false ∨ b.isText = false := by
  induction segs with
  | nil => exact List.IsChain.nil
  | cons seg segs ih =>
    cases seg with
    | lit c => exact isChain_consLit c ih
    | ref r w =>
      rw [readParts, List.map_cons]
      match hps : readParts segs, ih with
      | [], _ => exact List.isChain_singleton _
      | p :: ps, ih =>
        exact List.isChain_cons_cons.2 ⟨by simp [SynthPart.isText], by simpa using ih⟩

/-! ## The parser follows the reading -/

section Run

variable {template : String} {groups : Nat}

/-- Where no reference is written, the parser takes the character as literal text. -/
theorem readTemplate_of_none {c : Char} {rest : List Char} (text : List Char)
    (acc : List SynthPart) (h : referenceAt c rest = none) :
    readTemplate template groups (c :: rest) text acc =
      readTemplate template groups rest (c :: text) acc := by
  rw [readTemplate]
  unfold referenceAt at h
  simp only [h]

/-- Where a reference is written, the parser checks its group, and then puts the text read so
far and the reference among the parts and reads on behind it. -/
theorem readTemplate_of_some {c : Char} {rest : List Char} {r : GroupRef} {len : Nat}
    (text : List Char) (acc : List SynthPart) (h : referenceAt c rest = some (r, len)) :
    readTemplate template groups (c :: rest) text acc =
      if groups < r.id then .error (.malformed (overMessage template groups r.id))
      else readTemplate template groups (rest.drop len) []
        (.ref r :: if text.isEmpty then acc else .text (String.ofList text.reverse) :: acc) := by
  rw [readTemplate]
  unfold referenceAt at h
  simp only [h]
  rfl

/-- The parser run over a reading, after literal text `text` (last character first) and parts
`acc` (last part first): it fails at the first reference to a group above `groups`, and
otherwise adds the parts of the reading, the text read before joining the first of them. -/
theorem readTemplate_of_scans {cs : List Char} {segs : List Segment} (h : Scans cs segs) :
    ∀ (text : List Char) (acc : List SynthPart),
      readTemplate template groups cs text acc =
        match segs.findSome? (Segment.overRef groups) with
        | some r => .error (.malformed (overMessage template groups r.id))
        | none =>
          .ok (acc.reverse ++ (readParts (text.reverse.map .lit ++ segs)).map Prod.fst) := by
  induction h with
  | nil =>
    intro text acc
    rw [readTemplate, List.findSome?_nil, List.append_nil, readParts_lits]
    cases text with
    | nil => simp
    | cons c text => simp
  | @ref cs w rest r segs href hcs _ ih =>
    intro text acc
    obtain ⟨c, w', rfl⟩ := List.exists_cons_of_ne_nil href.ne_nil
    subst hcs
    rw [List.cons_append] at href ⊢
    have hread := href.referenceAt_eq
    rw [List.length_cons, Nat.add_sub_cancel] at hread
    rw [readTemplate_of_some text acc hread, List.drop_left, List.findSome?_cons, Segment.overRef]
    by_cases hover : groups < r.id
    · rw [if_pos hover, if_pos hover]
    · -- the reference passes, and the parts go on behind it
      rw [if_neg hover, if_neg hover, ih, readParts_lits_ref]
      dsimp only
      cases segs.findSome? (Segment.overRef groups) with
      | some _ => rfl
      | none => cases text <;> simp
  | @lit c rest segs hnone _ ih =>
    intro text acc
    rw [readTemplate_of_none text acc (referenceAt_eq_none_iff.2 hnone), ih, List.findSome?_cons,
      Segment.overRef]
    simp

end Run

/-- A reading has a reference to a group above `groups` exactly when the search finds one. -/
theorem findSome_overRef_isSome {groups : Nat} {segs : List Segment} :
    (segs.findSome? (Segment.overRef groups)).isSome ↔
      ∃ r w, Segment.ref r w ∈ segs ∧ groups < r.id := by
  rw [List.findSome?_isSome_iff]
  constructor
  · rintro ⟨seg, hmem, hover⟩
    cases seg with
    | lit c => cases hover
    | ref r w =>
      refine ⟨r, w, hmem, ?_⟩
      by_contra hle
      simp [Segment.overRef, hle] at hover
  · rintro ⟨r, w, hmem, hover⟩
    exact ⟨_, hmem, by simp [Segment.overRef, hover]⟩

/-- Parsing a template reads it from left to right, in the one way it can be read, and follows
that reading. It fails exactly when the reading has a reference to a group the pattern does not
have, and then names the first such group. Otherwise it gives the references in order, with the
tag to inflect to of `{N:TAG}`, and each maximal run of literal characters as one text. Each text
is the characters it was read from, none is empty, no two are next to each other, and the texts
and the written references give back the template. -/
theorem parse_reads_references (template : String) (groups : Nat) (titlecase : Bool) :
    ∃ segs, (∀ segs', Scans template.toList segs' ↔ segs' = segs) ∧
      ((readParts segs).map Prod.snd).flatten = template.toList ∧
      (∀ s src, (SynthPart.text s, src) ∈ readParts segs →
        s = String.ofList src ∧ src ≠ []) ∧
      ((readParts segs).map Prod.fst).IsChain (fun a b => a.isText = false ∨ b.isText = false) ∧
      ((∃ e, parse template groups titlecase = .error e) ↔
        ∃ r w, Segment.ref r w ∈ segs ∧ groups < r.id) ∧
      parse template groups titlecase =
        match segs.findSome? (Segment.overRef groups) with
        | some r => .error (.malformed (overMessage template groups r.id))
        | none => .ok ⟨titlecase, (readParts segs).map Prod.fst⟩ := by
  obtain ⟨segs, hsegs⟩ := scans_iff template.toList
  have hs : Scans template.toList segs := (hsegs segs).2 rfl
  have hparse : parse template groups titlecase =
      match segs.findSome? (Segment.overRef groups) with
      | some r => .error (.malformed (overMessage template groups r.id))
      | none => .ok ⟨titlecase, (readParts segs).map Prod.fst⟩ := by
    unfold parse
    rw [readTemplate_of_scans hs [] []]
    cases segs.findSome? (Segment.overRef groups) <;> rfl
  refine ⟨segs, hsegs, (flatten_readParts segs).trans hs.flatMap_chars,
    fun _ _ h => text_mem_readParts h, isChain_readParts segs, ?_, hparse⟩
  -- the parse fails exactly when the search for a reference above finds one
  rw [hparse, ← findSome_overRef_isSome]
  cases segs.findSome? (Segment.overRef groups) with
  | none => simp
  | some r => simp

example : ((parse "a {1:VB}!\\12" 12 false).toOption.map fun s => s.parts.map SynthPart.isText) =
    some [true, false, true, false] := by
  decide +kernel

example : (parse "a \\13" 12 false).toBool = false := by
  decide +kernel

end Synthesizer

end Proofreader
