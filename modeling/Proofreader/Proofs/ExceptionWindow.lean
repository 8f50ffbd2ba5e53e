import Mathlib
import Proofreader.Pattern.Atom

/-!
# The window of an exception that looks ahead

An exception with scope `next n` looks at the `n` tokens after the one an element took: it fires
when its atom holds at one of them (or, negated, at none). Its window is computed on 64-bit
words: it ends at `i + 1 + n`, cut to the length of the sequence. The scope `previous n` goes
the other way with a subtraction that stops at zero, so its window never leaves the sequence;
the end of a `next` window is a sum, and for a width near the largest word it wraps around.

Below the wrap the window is exactly the positions `i < j ≤ i + n` inside the sequence
(`Scope.mem_window_next`), so an exception fires by what its atom does there. Once `i + 1 + n`
reaches `2 ^ 64` the end falls below the start and the window is empty
(`Scope.window_next_eq_nil`): the exception then fires exactly when it is negated, whatever the
tokens. `Exception.fires_next` puts the two together for every width a rule file can give.
-/

namespace Proofreader

namespace Scope

/-- Below the largest word, the window of a `next n` scope at `i` holds the positions after `i`
up to `i + n` that lie in the sequence. -/
theorem mem_window_next {n len i j : Nat} (h : i + 1 + n < 2 ^ 64) :
    j ∈ (next n).window len i ↔ i < j ∧ j ≤ i + n ∧ j < len := by
  rw [window, Token.advance_eq, Nat.mod_eq_of_lt (show i + 1 + n < 18446744073709551616 by omega),
    List.mem_map]
  constructor
  · rintro ⟨k, hk, rfl⟩
    rw [List.mem_range] at hk
    omega
  · rintro ⟨h1, h2, h3⟩
    exact ⟨j - (i + 1), List.mem_range.2 (by omega), by omega⟩

/-- When `i + 1 + n` reaches `2 ^ 64`, the end of the window wraps around below its start and
the window is empty. -/
theorem window_next_eq_nil {n len i : Nat} (hn : n < 2 ^ 64) (hi : i < 2 ^ 64)
    (h : 2 ^ 64 ≤ i + 1 + n) : (next n).window len i = [] := by
  have hwrap : (i + 1 + n) % 2 ^ 64 < i + 1 := by omega
  rw [window, Token.advance_eq, Nat.sub_eq_zero_of_le (by omega), List.range_zero, List.map_nil]

end Scope

namespace Exception

/-- An exception that looks `n` tokens ahead of a position `p`, for any width `n` of a word:
while `p + 1 + n` stays below `2 ^ 64` it fires when its atom holds at some position
`p < i ≤ p + n` of the sequence (or, negated, at none); from there on its window is empty and it
fires exactly when it is negated. -/
theorem fires_next (e : Exception) {n : Nat} (hs : e.scope = .next n) (hn : n < 2 ^ 64)
    (tokens : Array Token) (graph : MatchGraph) {p : Nat} (hp : p < 2 ^ 64) :
    e.fires tokens graph p =
      ((decide (p + 1 + n < 2 ^ 64) &&
        decide (∃ i, i < tokens.size ∧ p < i ∧ i ≤ p + n ∧ e.atom.holds tokens graph i = true))
        != e.negate) := by
  rw [fires, hs]
  by_cases hw : p + 1 + n < 2 ^ 64
  · -- the window is the positions ahead, so the atom is looked for exactly there
    have hfound : ((Scope.next n).window tokens.size p).any (e.atom.holds tokens graph) =
        decide (∃ i, i < tokens.size ∧ p < i ∧ i ≤ p + n ∧ e.atom.holds tokens graph i = true) := by
      rw [Bool.eq_iff_iff, List.any_eq_true, decide_eq_true_iff]
      constructor
      · rintro ⟨i, hi, hholds⟩
        obtain ⟨h1, h2, h3⟩ := (Scope.mem_window_next hw).1 hi
        exact ⟨i, h3, h1, h2, hholds⟩
      · rintro ⟨i, h3, h1, h2, hholds⟩
        exact ⟨i, (Scope.mem_window_next hw).2 ⟨h1, h2, h3⟩, hholds⟩
    rw [hfound, decide_eq_true hw, Bool.true_and]
  · -- the end has wrapped around: nothing is looked at
    rw [Scope.window_next_eq_nil hn hp (by omega), decide_eq_false hw, Bool.false_and,
      List.any_nil]

/-- One token ahead of the first of two tokens, an exception that holds everywhere fires. -/
theorem fires_next_one_ahead :
    ((⟨.always, .next 1, false⟩ : Exception).scope = .next 1 ∧ 1 < 2 ^ 64 ∧ 0 < 2 ^ 64) ∧
      (⟨.always, .next 1, false⟩ : Exception).fires #[default, default] MatchGraph.empty 0 =
        ((decide (0 + 1 + 1 < 2 ^ 64) &&
          decide (∃ i, i < 2 ∧ 0 < i ∧ i ≤ 0 + 1 ∧
            Atom.always.holds #[default, default] MatchGraph.empty i = true)) != false) :=
  ⟨⟨rfl, by norm_num, by norm_num⟩, fires_next _ rfl (by norm_num) _ _ (by norm_num)⟩

/-- At the largest width the window wraps around: an exception whose atom holds at the token
after the first does not fire there. -/
theorem fires_next_wraps_at_largest_width :
    (⟨.always, .next (2 ^ 64 - 1), false⟩ : Exception).fires #[default, default]
        MatchGraph.empty 0 = false ∧
      ∃ i, i < 2 ∧ 0 < i ∧ i ≤ 0 + (2 ^ 64 - 1) ∧
        Atom.always.holds #[default, default] MatchGraph.empty i = true := by
  refine ⟨?_, 1, by norm_num, by norm_num, by norm_num, rfl⟩
  rw [fires, Scope.window_next_eq_nil (by norm_num) (by norm_num) (by norm_num), List.any_nil]
  rfl

end Exception

end Proofreader
