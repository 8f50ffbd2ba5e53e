import Mathlib
import Proofreader.Rule.Synthesizer

/-!
# Group references in a replacement

When a reference of a synthesizer rewrites its text with a regular expression, the replacement
names the expression's groups as `$1`, `$2`, …. `dollarReplace` puts the group texts in one
group number at a time: for `i = 1, 2, …` in turn it replaces every `$i` in the whole text so
far by the text of group `i`. That is not one pass over the replacement. A group text that holds
`$2` is read again when `$2` is replaced (`dollarReplace_rereads_group_text`), and with ten
groups or more `$10` is taken as `$1` followed by `0`.

One pass (`expandDollars`) reads the replacement once from the left, replaces each `$d` that
names a group by the group's text and never reads a group text again. The two agree when there
are at most nine groups, no group text holds a dollar sign and no dollar sign of the replacement
stands right before a reference (`dollarReplace_eq_expandDollars`). The proof goes one group
number at a time: replacing `$k` in the one-pass expansion of the groups below `k` gives the
one-pass expansion of the groups up to `k` (`replaceChars_expandDollars`).
-/

namespace Proofreader

section DollarPattern

variable {e : Char} {rep : List Char}

/-- An occurrence of `$e` is replaced. -/
theorem replaceChars_ref (rest : List Char) :
    replaceChars ['$', e] rep ('$' :: e :: rest) = rep ++ replaceChars ['$', e] rep rest := by
  rw [replaceChars_cons rep (List.cons_ne_nil _ _), if_pos (by simp [List.isPrefixOf])]
  rfl

/-- A character that is no dollar sign starts no occurrence of `$e`. -/
theorem replaceChars_of_ne {c : Char} (hc : c ≠ '$') (rest : List Char) :
    replaceChars ['$', e] rep (c :: rest) = c :: replaceChars ['$', e] rep rest := by
  rw [replaceChars_cons rep (List.cons_ne_nil _ _), if_neg (by simp [List.isPrefixOf, Ne.symm hc])]

/-- A dollar sign that `e` does not follow starts no occurrence of `$e`. -/
theorem replaceChars_dollar {rest : List Char} (h : ∀ x ∈ rest.head?, x ≠ e) :
    replaceChars ['$', e] rep ('$' :: rest) = '$' :: replaceChars ['$', e] rep rest := by
  rw [replaceChars_cons rep (List.cons_ne_nil _ _), if_neg]
  cases rest with
  | nil => simp [List.isPrefixOf]
  | cons x rest =>
    have hx : x ≠ e := h x rfl
    simp [List.isPrefixOf, Ne.symm hx]

/-- Replacing `$e` passes over a stretch with no dollar sign. -/
theorem replaceChars_append {A : List Char} (h : '$' ∉ A) (B : List Char) :
    replaceChars ['$', e] rep (A ++ B) = A ++ replaceChars ['$', e] rep B := by
  induction A with
  | nil => rfl
  | cons a A ih =>
    rw [List.mem_cons, not_or] at h
    rw [List.cons_append, replaceChars_of_ne (Ne.symm h.1), ih h.2, List.cons_append]

end DollarPattern

/-! ## One pass over a replacement -/

/-- The group a character names after a dollar sign: a digit from 1 to 9. -/
def digitGroup (c : Char) : Option Nat :=
  if '1' ≤ c ∧ c ≤ '9' then some (c.toNat - 48) else none

/-- The group `d ≤ n` that the characters `c c'` refer to, when they are `$d`. -/
def refersTo (n : Nat) (c c' : Char) : Option Nat :=
  if c = '$' then (digitGroup c').filter (· ≤ n) else none

/-- One pass over a replacement, from the left: each reference `$d` to a group `d ≤ n` is
replaced by the group's text, and the texts put in are not read again. -/
def expandDollars (n : Nat) (group : Nat → List Char) : List Char → List Char
  | [] => []
  | [c] => [c]
  | c :: c' :: rest =>
    match refersTo n c c' with
    | some d => group d ++ expandDollars n group rest
    | none => c :: expandDollars n group (c' :: rest)

/-- Whether a dollar sign of the replacement stands right before a reference to a group
`d ≤ n`. -/
def dollarBeforeRef (n : Nat) : List Char → Bool
  | c :: c' :: c'' :: rest =>
    (c = '$' && (refersTo n c' c'').isSome) || dollarBeforeRef n (c' :: c'' :: rest)
  | _ => false

/-- The one-digit numbers are written as one digit, which names them. -/
theorem toString_digit {k : Nat} (h1 : 1 ≤ k) (h9 : k ≤ 9) :
    ∃ e, (toString k).toList = [e] ∧ digitGroup e = some k := by
  interval_cases k <;> exact ⟨_, rfl, by decide⟩

theorem digitGroup_eq_some {c : Char} {d : Nat} (h : digitGroup c = some d) :
    c.toNat = d + 48 ∧ 1 ≤ d := by
  unfold digitGroup at h
  split at h
  · rename_i hc
    have h49 : 49 ≤ c.toNat := hc.1
    have hd := Option.some.inj h
    omega
  · cases h

/-- A group is named by one digit only. -/
theorem digitGroup_inj {c c' : Char} {d : Nat} (h : digitGroup c = some d)
    (h' : digitGroup c' = some d) : c = c' :=
  Char.toNat_inj.1 ((digitGroup_eq_some h).1.trans (digitGroup_eq_some h').1.symm)

theorem ne_dollar_of_digitGroup {c : Char} {d : Nat} (h : digitGroup c = some d) : c ≠ '$' := by
  rintro rfl
  have := (digitGroup_eq_some h).1
  simp at this

theorem refersTo_eq_some {n d : Nat} {c c' : Char} (h : refersTo n c c' = some d) :
    c = '$' ∧ digitGroup c' = some d ∧ d ≤ n := by
  unfold refersTo at h
  split at h
  · rename_i hc
    rw [Option.filter_eq_some_iff] at h
    exact ⟨hc, h.1, of_decide_eq_true h.2⟩
  · cases h

theorem refersTo_mono {k n d : Nat} {c c' : Char} (h : refersTo k c c' = some d) (hk : k ≤ n) :
    refersTo n c c' = some d := by
  obtain ⟨rfl, hd, hdk⟩ := refersTo_eq_some h
  simp [refersTo, hd, show d ≤ n by omega]

theorem refersTo_eq_none_of_le {k n : Nat} {c c' : Char} (h : refersTo n c c' = none)
    (hk : k ≤ n) : refersTo k c c' = none := by
  cases hr : refersTo k c c' with
  | none => rfl
  | some d => rw [refersTo_mono hr hk] at h; cases h

/-- With no groups there is nothing to refer to. -/
theorem refersTo_zero (c c' : Char) : refersTo 0 c c' = none := by
  cases h : refersTo 0 c c' with
  | none => rfl
  | some d =>
    obtain ⟨-, hd, hd0⟩ := refersTo_eq_some h
    have := (digitGroup_eq_some hd).2
    omega

/-- A character that does not start a reference is kept as it is. -/
theorem expandDollars_cons {n : Nat} {group : Nat → List Char} {c : Char} {l : List Char}
    (h : ∀ x ∈ l.head?, refersTo n c x = none) :
    expandDollars n group (c :: l) = c :: expandDollars n group l := by
  cases l with
  | nil => rfl
  | cons x l =>
    rw [expandDollars, h x rfl]

theorem expandDollars_zero (group : Nat → List Char) : ∀ t, expandDollars 0 group t = t
  | [] => rfl
  | [_] => rfl
  | c :: c' :: rest => by
    rw [expandDollars_cons fun x _ => refersTo_zero c x, expandDollars_zero group (c' :: rest)]

theorem dollarBeforeRef_tail {n : Nat} {c : Char} {l : List Char}
    (h : dollarBeforeRef n (c :: l) = false) : dollarBeforeRef n l = false := by
  match l, h with
  | [], _ => rfl
  | [_], _ => rfl
  | c' :: c'' :: rest, h =>
    rw [dollarBeforeRef, Bool.or_eq_false_iff] at h
    exact h.2

theorem dollarBeforeRef_mono {k n : Nat} (hk : k ≤ n) :
    ∀ t, dollarBeforeRef n t = false → dollarBeforeRef k t = false
  | [], _ => rfl
  | [_], _ => rfl
  | [_, _], _ => rfl
  | c :: c' :: c'' :: rest, h => by
    rw [dollarBeforeRef, Bool.or_eq_false_iff] at h ⊢
    refine ⟨?_, dollarBeforeRef_mono hk _ h.2⟩
    cases hr : refersTo k c' c'' with
    | none => simp
    | some d =>
      rw [refersTo_mono hr hk] at h
      simpa using h.1

/-! ## Replacing one group number more -/

/-- A reference to a group up to `k + 1` that refers to none below it is `$e`, `e` the digit of
`k + 1`. -/
theorem refersTo_succ_new {k d : Nat} {e c c' : Char} (he : digitGroup e = some (k + 1))
    (hk : refersTo k c c' = none) (hk1 : refersTo (k + 1) c c' = some d) :
    c = '$' ∧ c' = e ∧ d = k + 1 := by
  obtain ⟨rfl, hd, hdk⟩ := refersTo_eq_some hk1
  have hdk' : d = k + 1 := by
    by_contra hne
    have hbelow : refersTo k '$' c' = some d := by
      simp [refersTo, hd, show d ≤ k by omega]
    rw [hk] at hbelow
    cases hbelow
  subst hdk'
  exact ⟨rfl, digitGroup_inj hd he, rfl⟩

/-- With no dollar sign right before a reference, the character after a dollar sign starts no
reference. -/
theorem refersTo_after_dollar {n : Nat} {c' : Char} {rest : List Char}
    (ht : dollarBeforeRef n ('$' :: c' :: rest) = false) :
    ∀ x ∈ rest.head?, refersTo n c' x = none := by
  intro x hx
  cases rest with
  | nil => cases hx
  | cons y rest =>
    rw [List.head?_cons, Option.mem_def, Option.some.injEq] at hx
    subst hx
    by_cases hc' : c' = '$'
    · subst hc'
      rw [dollarBeforeRef, Bool.or_eq_false_iff] at ht
      simpa using ht.1
    · simp [refersTo, hc']

/-- Replacing `$k` (`e` the digit of `k`) in the one-pass expansion of the groups below `k`
gives the one-pass expansion of the groups up to `k`, when no group text holds a dollar sign and
no dollar sign stands right before a reference. The induction follows `expandDollars`: a
reference below `k` was expanded already and its text is passed over, a reference to `k` is
still `$k` and is replaced now, and every other character is kept by both. -/
theorem replaceChars_expandDollars {k : Nat} {e : Char} (he : digitGroup e = some (k + 1))
    {group : Nat → List Char} (hg : ∀ d, '$' ∉ group d) :
    ∀ t : List Char, dollarBeforeRef (k + 1) t = false →
      replaceChars ['$', e] (group (k + 1)) (expandDollars k group t) =
        expandDollars (k + 1) group t
  | [], _ => rfl
  | [c], _ => by
    rw [expandDollars, expandDollars]
    by_cases hc : c = '$'
    · subst hc
      rw [replaceChars_dollar (fun x hx => by cases hx)]
      rfl
    · rw [replaceChars_of_ne hc]
      rfl
  | c :: c' :: rest, ht => by
    have hrest := dollarBeforeRef_tail (dollarBeforeRef_tail ht)
    have hnext := dollarBeforeRef_tail ht
    have hedollar : e ≠ '$' := ne_dollar_of_digitGroup he
    cases hk : refersTo k c c' with
    | some d =>
      -- a reference below `k`: its text holds no dollar sign and is passed over
      rw [expandDollars, hk, expandDollars, refersTo_mono hk (Nat.le_succ k),
        replaceChars_append (hg d), replaceChars_expandDollars he hg rest hrest]
    | none =>
      rw [expandDollars, hk]
      cases hk1 : refersTo (k + 1) c c' with
      | some d =>
        -- the reference to `k` itself: still written `$e`, it is replaced now
        obtain ⟨rfl, rfl, rfl⟩ := refersTo_succ_new he hk hk1
        rw [expandDollars, hk1,
          expandDollars_cons fun x _ => by simp [refersTo, hedollar], replaceChars_ref,
          replaceChars_expandDollars he hg rest hrest]
      | none =>
        rw [expandDollars, hk1]
        by_cases hc : c = '$'
        · subst hc
          -- a dollar sign that starts no reference: the character after it is no `e` and
          -- starts no reference either, so it stays right after the dollar sign
          have hfirst : ∀ x ∈ rest.head?, refersTo k c' x = none := fun x hx =>
            refersTo_eq_none_of_le (refersTo_after_dollar ht x hx) (Nat.le_succ k)
          have hce : c' ≠ e := by
            rintro rfl
            simp [refersTo, he] at hk1
          rw [expandDollars_cons hfirst, replaceChars_dollar (fun x hx => by cases hx; exact hce),
            ← expandDollars_cons hfirst, replaceChars_expandDollars he hg (c' :: rest) hnext]
        · rw [replaceChars_of_ne hc, replaceChars_expandDollars he hg (c' :: rest) hnext]

/-! ## Replacing group by group -/

/-- Replacing the references to the groups below `k` one group at a time gives the one-pass
expansion of those groups. -/
theorem foldl_replaceChars_eq_expandDollars {t : List Char} {n : Nat}
    {group : Nat → List Char} (hn : n ≤ 9) (hg : ∀ d, '$' ∉ group d)
    (ht : dollarBeforeRef n t = false) :
    ∀ k ≤ n, (List.range k).foldl
        (fun acc i => replaceChars ('$' :: (toString (i + 1)).toList) (group (i + 1)) acc) t =
      expandDollars k group t
  | 0, _ => by rw [List.range_zero, List.foldl_nil, expandDollars_zero]
  | k + 1, hk => by
    obtain ⟨e, hstr, he⟩ := toString_digit (Nat.le_add_left 1 k) (by omega)
    rw [List.range_succ, List.foldl_append, List.foldl_cons, List.foldl_nil,
      foldl_replaceChars_eq_expandDollars hn hg ht k (by omega), hstr]
    exact replaceChars_expandDollars he hg t (dollarBeforeRef_mono hk t ht)

/-- With at most nine groups, group texts without a dollar sign and no dollar sign right before a
reference, putting the group texts in one group number at a time is one pass over the
replacement: each `$d` is replaced by the text of group `d` and nothing put in is read again. -/
theorem dollarReplace_eq_expandDollars {replacement : String} {n : Nat}
    {group : Nat → Option String} (hn : n ≤ 9) (hg : ∀ d, '$' ∉ ((group d).getD "").toList)
    (hr : dollarBeforeRef n replacement.toList = false) :
    dollarReplace replacement n group =
      String.ofList (expandDollars n (fun d => ((group d).getD "").toList) replacement.toList) := by
  rw [dollarReplace, foldl_replaceChars_eq_expandDollars hn hg hr n (Nat.le_refl n)]

/-- Two groups put into a replacement that names both, around literal text. -/
theorem dollarReplace_eq_expandDollars_of_two :
    let group : Nat → Option String := fun d =>
      if d = 1 then some "X" else if d = 2 then some "YY" else none
    (2 ≤ 9 ∧ (∀ d, '$' ∉ ((group d).getD "").toList) ∧
        dollarBeforeRef 2 "a$1b$2".toList = false) ∧
      dollarReplace "a$1b$2" 2 group =
        String.ofList (expandDollars 2 (fun d => ((group d).getD "").toList) "a$1b$2".toList) := by
  intro group
  have hg : ∀ d, '$' ∉ ((group d).getD "").toList := by
    intro d
    simp only [group]
    split_ifs <;> decide
  have hr : dollarBeforeRef 2 "a$1b$2".toList = false := by decide
  exact ⟨⟨by norm_num, hg, hr⟩, dollarReplace_eq_expandDollars (by norm_num) hg hr⟩

/-- A group text that holds `$2` is read again: the replacement `$1`, with `$2` as the first
group and `y` as the second, gives `y`, where one pass gives `$2`. -/
theorem dollarReplace_rereads_group_text :
    let group : Nat → Option String := fun d =>
      if d = 1 then some "$2" else if d = 2 then some "y" else none
    dollarReplace "$1" 2 group = "y" ∧
      expandDollars 2 (fun d => ((group d).getD "").toList) "$1".toList = "$2".toList := by
  intro group
  constructor <;> decide +kernel

/-- With ten groups, `$10` is taken as `$1` followed by `0`. -/
example : dollarReplace "$10" 10 (fun i => if i = 10 then some "j" else some "a") = "a0" := by
  decide +kernel

end Proofreader
