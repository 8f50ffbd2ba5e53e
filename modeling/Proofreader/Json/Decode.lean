import Proofreader.Json.Value

/-!
# Reading records out of JSON values

The rule format reads each record as an object whose members are looked up by name; members
that the record does not know are ignored. A member is *required* (missing is an error),
*optional* (missing or `null` means absent) or *defaulted* (missing means the default, but
`null` is an error unless the member's own reader accepts it). Counts are natural numbers below
2^64. An enumeration is written as the name of its case, or as an object with that name as its
only member and `null` as its value.

A reader answers `none` on any mismatch: the rule format reports every shape error alike.
-/

namespace Proofreader

namespace Json

/-- A count: an integer from 0 to 2^64 - 1. -/
def count? : Json → Option Nat
  | int n => if 0 ≤ n ∧ n < 18446744073709551616 then some n.toNat else none
  | _ => none

/-- Whether the value is an object. -/
def isObject : Json → Bool
  | obj _ => true
  | _ => false

/-- A required member, read by `read`. -/
def required {α : Type} (j : Json) (key : String) (read : Json → Option α) : Option α := do
  read (← j.field? key)

/-- An optional member: missing or `null` means absent. -/
def optional {α : Type} (j : Json) (key : String) (read : Json → Option α) :
    Option (Option α) :=
  match j.field? key with
  | none => some none
  | some null => some none
  | some v => (read v).map some

/-- A member with a default for when it is missing. -/
def withDefault {α : Type} (j : Json) (key : String) (dflt : α) (read : Json → Option α) :
    Option α :=
  match j.field? key with
  | none => some dflt
  | some v => read v

/-- An array whose items are all read by `read`. -/
def listOf {α : Type} (read : Json → Option α) : Json → Option (List α)
  | arr xs => xs.mapM read
  | _ => none

/-- A string. -/
def text? (j : Json) : Option String := j.str?

/-- A pair written as an array of two items. -/
def pairOf {α β : Type} (readA : Json → Option α) (readB : Json → Option β) :
    Json → Option (α × β)
  | arr [a, b] => do pure (← readA a, ← readB b)
  | _ => none

/-- The case name of an enumeration value without data: the name itself, or an object with
the name as its only member and `null` as value. -/
def caseName? : Json → Option String
  | str s => some s
  | obj [(k, null)] => some k
  | _ => none

/-- The tag of a record whose kind is given by a member: a case name, or the number of the
case in `names`. -/
def tagOf? (j : Json) (key : String) (names : List String) : Option String :=
  match j.field? key with
  | some (str s) => some s
  | some (int n) => if n ≥ 0 then names[n.toNat]? else none
  | _ => none

/-! ## What a reader returns was read from some value -/

variable {α : Type} {read : Json → Option α}

theorem required_eq_some {j : Json} {key : String} {a : α} (h : j.required key read = some a) :
    ∃ v, read v = some a := by
  unfold required at h
  cases hv : j.field? key with
  | none =>
    rw [hv] at h
    cases h
  | some v =>
    rw [hv] at h
    exact ⟨v, h⟩

theorem withDefault_eq_some {j : Json} {key : String} {dflt a : α}
    (h : j.withDefault key dflt read = some a) : a = dflt ∨ ∃ v, read v = some a := by
  unfold withDefault at h
  split at h
  · exact .inl (Option.some.inj h).symm
  · exact .inr ⟨_, h⟩

theorem mem_of_mapM_eq_some :
    ∀ {vs : List Json} {xs : List α}, vs.mapM read = some xs → ∀ a ∈ xs, ∃ v, read v = some a
  | [], xs, h, a, ha => by
    rw [List.mapM_nil] at h
    cases h
    cases ha
  | v :: vs, xs, h, a, ha => by
    rw [List.mapM_cons] at h
    obtain ⟨b, hb, h⟩ := Option.bind_eq_some_iff.1 h
    obtain ⟨bs, hbs, h⟩ := Option.bind_eq_some_iff.1 h
    cases h
    rcases List.mem_cons.1 ha with rfl | ha
    · exact ⟨v, hb⟩
    · exact mem_of_mapM_eq_some hbs a ha

theorem listOf_eq_some {j : Json} {xs : List α} (h : listOf read j = some xs) :
    ∀ a ∈ xs, ∃ v, read v = some a := by
  cases j with
  | arr vs => exact mem_of_mapM_eq_some h
  | _ => cases h

end Json

end Proofreader
