import FilterQuery.Binary64.Basic
import Mathlib.Algebra.Order.Field.Power
import Mathlib.Data.Rat.Cast.Order
import Mathlib.Tactic.Linarith
import Mathlib.Tactic.NormNum
import Mathlib.Tactic.Positivity
import Mathlib.Tactic.Ring

/-!
# The grids of the doubles

The finite doubles of one sign as rational numbers.  They stand on grids: the multiples of `2 ^ e`
up to `2 ^ (e + 53)`, each grid beginning in the middle of the one before.

**Results.**
* `exists_grid`: a double is a natural number in units of its grid.
* `toRat_lt_toRat`, `toRat_injective`: doubles are numbered by size.
* `toRat_cases`: a double is on a given grid, or it is below the greater half of that grid.
-/

namespace FilterQuery
namespace Magnitude

/-- The number that a double stands for. -/
def toRat (x : Magnitude) : ℚ :=
  x.significand * 2 ^ x.exponent

/-- A double stands on a grid of its own, the finest of all or one on which it is not below
`2 ^ 52`. -/
theorem exists_grid (x : Magnitude) :
    ∃ a n : Nat, x.rank.val = a * 2 ^ 52 + n ∧ n < 2 ^ 53 ∧ (a = 0 ∨ 2 ^ 52 ≤ n) ∧
      x.significand = n ∧ x.toRat = n * 2 ^ ((a : Int) - 1074) := by
  by_cases hsmall : x.rank.val < 2 ^ 52
  · have hs : x.significand = x.rank.val := if_pos hsmall
    have he : x.exponent = -1074 := if_pos hsmall
    refine ⟨0, x.rank.val, by omega, by omega, .inl rfl, hs, ?_⟩
    rw [toRat, hs, he]
    rfl
  · have hs : x.significand = 2 ^ 52 + x.rank.val % 2 ^ 52 := if_neg hsmall
    have he : x.exponent = (x.rank.val / 2 ^ 52 : Nat) - 1075 := if_neg hsmall
    refine ⟨x.rank.val / 2 ^ 52 - 1, 2 ^ 52 + x.rank.val % 2 ^ 52, by omega, by omega,
      .inr (by omega), hs, ?_⟩
    rw [toRat, hs, he]
    congr 2
    omega

/-- The unit of the next grid is twice as great. -/
theorem unit_succ (a : Nat) :
    (2 : ℚ) ^ (((a + 1 : Nat) : Int) - 1074) = 2 * 2 ^ ((a : Int) - 1074) := by
  have hexponent : ((a + 1 : Nat) : Int) - 1074 = 1 + ((a : Int) - 1074) := by
    omega
  rw [hexponent, zpow_add₀ two_ne_zero, zpow_one]

/-- The grid begins where the numbers of all finer grids end. -/
theorem lt_of_finer
    {a b n : Nat}
    (hab : a < b)
    (hn : n < 2 ^ 53) :
    (n : ℚ) * 2 ^ ((a : Int) - 1074) < 2 ^ 52 * 2 ^ ((b : Int) - 1074) := by
  have hn' : (n : ℚ) < 2 ^ 53 := by exact_mod_cast hn
  calc (n : ℚ) * 2 ^ ((a : Int) - 1074)
      < 2 ^ 53 * 2 ^ ((a : Int) - 1074) := by gcongr
    _ = 2 ^ 52 * 2 ^ (((a + 1 : Nat) : Int) - 1074) := by
        rw [unit_succ]
        ring
    _ ≤ 2 ^ 52 * 2 ^ ((b : Int) - 1074) := by
        gcongr
        · exact one_le_two
        · omega

/-- Doubles are numbered by size. -/
theorem toRat_lt_toRat
    {x y : Magnitude}
    (h : x.rank.val < y.rank.val) :
    x.toRat < y.toRat := by
  obtain ⟨a, n, hx, hn, hlow', -, hxr⟩ := exists_grid x
  obtain ⟨b, m, hy, hm, hlow, -, hyr⟩ := exists_grid y
  rw [hxr, hyr]
  rcases Nat.lt_or_ge a b with hab | hba
  · have hm' : (2 : ℚ) ^ 52 ≤ m := by
      exact_mod_cast hlow.resolve_left (by omega)
    refine (lt_of_finer hab hn).trans_le ?_
    gcongr
  · have hab : a = b := by omega
    have hnm : (n : ℚ) < m := by
      exact_mod_cast (by omega : n < m)
    rw [hab]
    gcongr

/-- Two doubles of one sign with the same value are one. -/
theorem toRat_injective
    {x y : Magnitude}
    (h : x.toRat = y.toRat) :
    x = y := by
  rcases Nat.lt_trichotomy x.rank.val y.rank.val with hlt | heq | hgt
  · exact absurd h (toRat_lt_toRat hlt).ne
  · exact congrArg Magnitude.mk (Fin.ext heq)
  · exact absurd h (toRat_lt_toRat hgt).ne'

/-- A number on the grid is a double by its rank, also when it is the power of two behind the
grid. -/
theorem toRat_of_rank
    {x : Magnitude} {a n : Nat}
    (hrank : x.rank.val = a * 2 ^ 52 + n)
    (hhigh : n ≤ 2 ^ 53)
    (hlow : a = 0 ∨ 2 ^ 52 ≤ n) :
    x.toRat = n * 2 ^ ((a : Int) - 1074) := by
  obtain ⟨b, m, hx, hm, hlow', -, hxr⟩ := exists_grid x
  rw [hxr]
  rcases hhigh.lt_or_eq with hlt | heq
  · have hab : a = b := by omega
    have hnm : n = m := by omega
    rw [hab, hnm]
  · have hb : b = a + 1 := by omega
    have hm : m = 2 ^ 52 := by omega
    rw [hb, hm, heq, unit_succ]
    push_cast
    ring

/-- A double is a natural number in units of a grid, or it is below all numbers that are rounded on
this grid. -/
theorem toRat_cases (y : Magnitude) (a : Nat) :
    (∃ k : Nat, y.toRat = k * 2 ^ ((a : Int) - 1074)) ∨
      a ≠ 0 ∧ y.toRat < 2 ^ 52 * 2 ^ ((a : Int) - 1074) := by
  obtain ⟨b, m, -, hm, -, -, hy⟩ := exists_grid y
  rw [hy]
  rcases Nat.lt_or_ge b a with hba | hab
  · exact .inr ⟨by omega, lt_of_finer hba hm⟩
  · left
    refine ⟨m * 2 ^ (b - a), ?_⟩
    have hexponent : (b : Int) - 1074 = (b - a : Nat) + ((a : Int) - 1074) := by
      omega
    rw [hexponent, zpow_add₀ two_ne_zero, zpow_natCast]
    push_cast
    ring

theorem even_significand_iff (x : Magnitude) :
    Even x.significand ↔ Even x.rank.val := by
  obtain ⟨a, n, hx, -, -, hs, -⟩ := exists_grid x
  rw [hs, hx, Nat.even_iff, Nat.even_iff]
  omega

end Magnitude
end FilterQuery
