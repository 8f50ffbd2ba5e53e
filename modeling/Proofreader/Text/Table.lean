/-!
# Code-point tables

Unicode data enters the library as sorted tables: a `RangeSet` is a set of code points kept as
sorted, disjoint, inclusive ranges, a `CodeMap` sends some code points to a replacement text, and
a `CodeSteps` table gives each code point the value of the last entry at or below it. All three
are read from a compact text form, hexadecimal numbers separated by blanks, so that the large
tables stay short source text; look-up is a binary search.
-/

namespace Proofreader

/-! ## Binary search -/

/-- The last entry of a sorted array whose key is at most `n`. -/
def lastAtMost {α : Type} (key : α → Nat) (xs : Array α) (n : Nat) : Option α :=
  go 0 xs.size none
where
  /-- Searches `[lo, hi)`, remembering the best entry found left of `lo`. -/
  go (lo hi : Nat) (best : Option α) : Option α :=
    if _h : lo < hi then
      let mid := (lo + hi) / 2
      match xs[mid]? with
      | none => best
      | some x => if key x ≤ n then go (mid + 1) hi (some x) else go lo mid best
    else best
  termination_by hi - lo

/-! ## Reading hexadecimal -/

/-- The value of one hexadecimal digit. -/
def hexDigitValue? (c : Char) : Option Nat :=
  if '0' ≤ c ∧ c ≤ '9' then some (c.toNat - '0'.toNat)
  else if 'a' ≤ c ∧ c ≤ 'f' then some (c.toNat - 'a'.toNat + 10)
  else if 'A' ≤ c ∧ c ≤ 'F' then some (c.toNat - 'A'.toNat + 10)
  else none

/-- Reads a hexadecimal number; the empty text and any other character give `none`. -/
def readHex? (cs : List Char) : Option Nat :=
  match cs with
  | [] => none
  | _ => cs.foldl (fun acc c => acc.bind fun n => (hexDigitValue? c).map (n * 16 + ·)) (some 0)

/-- The blank-separated items of a table text. -/
def tableItems (t : String) : List String :=
  (t.splitOn " ").filter (· ≠ "")

/-! ## Range sets -/

/-- An inclusive range of code points. -/
structure CodeRange where
  lo : Nat
  hi : Nat
deriving Inhabited

/-- A set of code points as sorted, disjoint, inclusive ranges. -/
structure RangeSet where
  ranges : Array CodeRange
deriving Inhabited

namespace RangeSet

/-- Reads items `lo` and `lo-hi`; an unreadable item is left out. -/
def ofText (t : String) : RangeSet :=
  ⟨((tableItems t).filterMap fun item =>
    match item.splitOn "-" with
    | [a] => (readHex? a.toList).map fun n => ⟨n, n⟩
    | [a, b] => match readHex? a.toList, readHex? b.toList with
      | some lo, some hi => some ⟨lo, hi⟩
      | _, _ => none
    | _ => none).toArray⟩

/-- Whether the code point `n` lies in one of the ranges. -/
def containsCode (s : RangeSet) (n : Nat) : Bool :=
  match lastAtMost CodeRange.lo s.ranges n with
  | some r => n ≤ r.hi
  | none => false

/-- Whether the character lies in one of the ranges. -/
def contains (s : RangeSet) (c : Char) : Bool :=
  s.containsCode c.toNat

end RangeSet

/-! ## Code maps -/

/-- Sends some code points to a replacement text; the others map to themselves. -/
structure CodeMap where
  entries : Array (Nat × List Char)
deriving Inhabited

namespace CodeMap

/-- Reads items `key=c1.c2…`; an unreadable item is left out. -/
def ofText (t : String) : CodeMap :=
  ⟨((tableItems t).filterMap fun item =>
    match item.splitOn "=" with
    | [k, v] =>
      match readHex? k.toList, ((v.splitOn ".").mapM fun d => readHex? d.toList) with
      | some key, some cs => some (key, cs.map Char.ofNat)
      | _, _ => none
    | _ => none).toArray⟩

/-- The replacement of a code point, when the table has one. -/
def find? (m : CodeMap) (c : Char) : Option (List Char) :=
  match lastAtMost Prod.fst m.entries c.toNat with
  | some (k, v) => if k = c.toNat then some v else none
  | none => none

/-- The image of a character: its replacement, or the character itself. -/
def apply (m : CodeMap) (c : Char) : List Char :=
  (m.find? c).getD [c]

end CodeMap

/-! ## Step tables -/

/-- Gives each code point the value of the last entry at or below it. -/
structure CodeSteps (α : Type) where
  entries : Array (Nat × α)

namespace CodeSteps

/-- Reads items `start:value`, decoding each value with `read`. -/
def ofText {α : Type} (read : String → Option α) (t : String) : CodeSteps α :=
  ⟨((tableItems t).filterMap fun item =>
    match item.splitOn ":" with
    | [k, v] => match readHex? k.toList, read v with
      | some key, some a => some (key, a)
      | _, _ => none
    | _ => none).toArray⟩

/-- The value in force at a code point, when some entry lies at or below it. -/
def find? {α : Type} (s : CodeSteps α) (n : Nat) : Option α :=
  (lastAtMost Prod.fst s.entries n).map Prod.snd

end CodeSteps

end Proofreader
