import FilterQuery.Proofs.Binary64.Grid
import Mathlib.Tactic.FieldSimp

/-!
# The nearest double

What rounding gives, said of rational numbers: no double of the sign is nearer, and of two equally
near ones the even one counts.  Only a number below the middle between the greatest double and the
power of two behind it has a finite double.

**Method.** A quotient is rounded on the grid in whose greater half it stands, or on the finest one.
All doubles in that half are on the grid, and a double below it is farther away than the number with
which the half begins.

**Results.**
* `roundedQuotient_near`: rounding to a natural number misses by a half at most, and by a half only
  to reach an even one.
* `IsNearest.unique`: a number is not rounded to two doubles.
* `ofDecimal?_eq_some_iff`: which double a decimal number is rounded to, if there is one.
-/

namespace FilterQuery
namespace Magnitude

/-- Whether a double is the one that a number is rounded to, were there no largest. -/
def IsNearest (q : ℚ) (x : Magnitude) : Prop :=
  ∀ y : Magnitude, |q - x.toRat| < |q - y.toRat| ∨
    |q - x.toRat| = |q - y.toRat| ∧ (x = y ∨ Even x.significand)

/-- Whether a natural number is the one that a number is rounded to. -/
def Near (t : ℚ) (n : Nat) : Prop :=
  |t - n| < 1 / 2 ∨ |t - n| = 1 / 2 ∧ Even n

theorem div_lt_half
    {a den : Nat}
    (hden : 0 < den)
    (h : 2 * a < den) :
    (a : ℚ) / den < 1 / 2 := by
  have hcast : (2 : ℚ) * a < den := by
    exact_mod_cast h
  rw [div_lt_iff₀ (Nat.cast_pos.2 hden)]
  linarith

theorem half_lt_div
    {a den : Nat}
    (hden : 0 < den)
    (h : den < 2 * a) :
    1 / 2 < (a : ℚ) / den := by
  have hcast : (den : ℚ) < 2 * a := by
    exact_mod_cast h
  rw [lt_div_iff₀ (Nat.cast_pos.2 hden)]
  linarith

theorem div_eq_half
    {a den : Nat}
    (hden : 0 < den)
    (h : 2 * a = den) :
    (a : ℚ) / den = 1 / 2 := by
  have hcast : (2 : ℚ) * a = den := by
    exact_mod_cast h
  rw [div_eq_iff (Nat.cast_pos.2 hden).ne']
  linarith

/-- A quotient of natural numbers is rounded to the nearest one, a half to the even one. -/
theorem roundedQuotient_near
    {num den : Nat}
    (hden : 0 < den) :
    Near ((num : ℚ) / den) (roundedQuotient num den) := by
  have hpos : (0 : ℚ) < den := Nat.cast_pos.2 hden
  have hsplit : (num : ℚ) / den = (num / den : Nat) + (num % den : Nat) / (den : ℚ) := by
    have hnum : (den : ℚ) * (num / den : Nat) + (num % den : Nat) = num := by
      exact_mod_cast Nat.div_add_mod num den
    rw [← hnum]
    field_simp
  have hnonneg : 0 ≤ ((num % den : Nat) : ℚ) / den := by
    positivity
  have hlt : ((num % den : Nat) : ℚ) / den < 1 := by
    rw [div_lt_one hpos]
    exact_mod_cast Nat.mod_lt num hden
  rw [roundedQuotient, hsplit]
  split
  · rename_i h
    left
    rw [add_sub_cancel_left, abs_of_nonneg hnonneg]
    exact div_lt_half hden h
  · split
    · rename_i h
      left
      have hmore := half_lt_div hden h
      push_cast
      rw [abs_lt]
      constructor <;> linarith
    · rename_i hnot hnot'
      have hmiddle := div_eq_half hden (by omega : 2 * (num % den) = den)
      right
      rcases Nat.mod_two_eq_zero_or_one (num / den) with hparity | hparity
      · rw [hparity, Nat.add_zero, add_sub_cancel_left, hmiddle]
        exact ⟨abs_of_pos (by norm_num), Nat.even_iff.2 hparity⟩
      · rw [hparity, hmiddle]
        refine ⟨?_, by rw [Nat.even_iff]; omega⟩
        push_cast
        rw [abs_of_nonpos] <;> linarith

theorem Near.miss_le
    {t : ℚ} {n : Nat}
    (h : Near t n) :
    |t - n| ≤ 1 / 2 :=
  h.elim le_of_lt fun h => h.1.le

/-- Of all natural numbers the one that a number is rounded to is nearest. -/
theorem Near.le
    {t : ℚ} {n k : Nat}
    (h : Near t n)
    (hk : k ≠ n) :
    |t - n| < |t - k| ∨ |t - n| = |t - k| ∧ Even n := by
  have hapart : (1 : ℚ) ≤ |(n : ℚ) - k| := by
    have hone : (1 : ℤ) ≤ |(n : ℤ) - k| := Int.one_le_abs (by omega)
    exact_mod_cast hone
  have htriangle : |(n : ℚ) - k| ≤ |t - n| + |t - k| := by
    rw [abs_sub_comm t n]
    exact abs_sub_le _ _ _
  rcases h with h | ⟨h, heven⟩
  · left
    linarith
  · rcases (by linarith : |t - n| ≤ |t - k|).lt_or_eq with hlt | heq
    · exact .inl hlt
    · exact .inr ⟨heq, heven⟩

/-- A natural number below a number is no nearer than the one that the number is rounded to. -/
theorem Near.miss_le_sub
    {t : ℚ} {n k : Nat}
    (h : Near t n)
    (hk : k ≤ t) :
    |t - n| ≤ t - k := by
  by_cases hkn : k = n
  · rw [← hkn]
    exact (abs_of_nonneg (sub_nonneg.2 hk)).le
  · have hle := h.le hkn
    rw [abs_of_nonneg (sub_nonneg.2 hk)] at hle
    exact hle.elim le_of_lt fun h => h.1.le

/-- A power with an integer exponent as a quotient of powers. -/
theorem zpow_eq_div
    {a : ℚ}
    (ha : a ≠ 0)
    (e : Int) :
    a ^ e = a ^ e.toNat / a ^ (-e).toNat := by
  rw [← zpow_natCast, ← zpow_natCast, ← zpow_sub₀ ha]
  congr 1
  omega

/-- The quotient in units of `2 ^ e`. -/
theorem scaled_eq
    {num den : Nat}
    (e : Int) :
    ((num * Nat.pow 2 (-e).toNat : Nat) : ℚ) / (den * Nat.pow 2 e.toNat : Nat) =
      num / den / 2 ^ e := by
  rw [zpow_eq_div two_ne_zero]
  push_cast [Nat.pow_eq]
  field_simp

/-- The leading bits of a quotient's sides bound it from below. -/
theorem log2_sub_le_div
    {num den : Nat}
    (hnum : num ≠ 0)
    (hden : 0 < den) :
    (2 : ℚ) ^ ((num.log2 : Int) - den.log2 - 1) ≤ num / den := by
  have hlow : (2 : ℚ) ^ (num.log2 : Int) ≤ num := by
    exact_mod_cast Nat.log2_self_le hnum
  have hhigh : (den : ℚ) < 2 ^ ((den.log2 : Int) + 1) := by
    exact_mod_cast Nat.lt_log2_self (n := den)
  rw [le_div_iff₀ (Nat.cast_pos.2 hden)]
  calc (2 : ℚ) ^ ((num.log2 : Int) - den.log2 - 1) * den
      ≤ 2 ^ ((num.log2 : Int) - den.log2 - 1) * 2 ^ ((den.log2 : Int) + 1) := by gcongr
    _ = 2 ^ (num.log2 : Int) := by
      rw [← zpow_add₀ two_ne_zero]
      congr 1
      ring
    _ ≤ num := hlow

/-- The leading bits of a quotient's sides bound it from above. -/
theorem div_lt_log2_sub
    {num den : Nat}
    (hden : 0 < den) :
    (num : ℚ) / den < 2 ^ ((num.log2 : Int) - den.log2 + 1) := by
  have hlow : (2 : ℚ) ^ (den.log2 : Int) ≤ den := by
    exact_mod_cast Nat.log2_self_le hden.ne'
  have hhigh : (num : ℚ) < 2 ^ ((num.log2 : Int) + 1) := by
    exact_mod_cast Nat.lt_log2_self (n := num)
  rw [div_lt_iff₀ (Nat.cast_pos.2 hden)]
  calc (num : ℚ) < 2 ^ ((num.log2 : Int) + 1) := hhigh
    _ = 2 ^ ((num.log2 : Int) - den.log2 + 1) * 2 ^ (den.log2 : Int) := by
      rw [← zpow_add₀ two_ne_zero]
      congr 1
      ring
    _ ≤ 2 ^ ((num.log2 : Int) - den.log2 + 1) * den := by gcongr

/-- The order of a quotient puts it between two powers of two. -/
theorem binaryOrder_le
    {num den : Nat}
    (hnum : num ≠ 0)
    (hden : 0 < den) :
    (2 : ℚ) ^ binaryOrder num den ≤ num / den ∧
      (num : ℚ) / den < 2 ^ (binaryOrder num den + 1) := by
  have hpos : (0 : ℚ) < den := Nat.cast_pos.2 hden
  have htest : den * Nat.pow 2 ((num.log2 : Int) - den.log2).toNat ≤
        num * Nat.pow 2 (-((num.log2 : Int) - den.log2)).toNat ↔
      (2 : ℚ) ^ ((num.log2 : Int) - den.log2) ≤ num / den := by
    rw [zpow_eq_div two_ne_zero, div_le_div_iff₀ (by positivity) hpos, ← Nat.cast_le (α := ℚ)]
    push_cast [Nat.pow_eq]
    rw [mul_comm]
  rw [binaryOrder]
  simp only [htest]
  split
  · rename_i h
    exact ⟨h, div_lt_log2_sub hden⟩
  · rename_i h
    refine ⟨log2_sub_le_div hnum hden, ?_⟩
    rw [sub_add_cancel]
    exact not_le.1 h

/-- The exponent of the grid on which a quotient is rounded. -/
def gridExponent (num den : Nat) : Int :=
  max (-1074) (binaryOrder num den - 52)

variable {num den : Nat}

/-- In units of its grid a quotient is below `2 ^ 53`, and not below `2 ^ 52` but on the finest
grid. -/
theorem onGrid_bounds
    (hnum : num ≠ 0)
    (hden : 0 < den) :
    (num : ℚ) / den / 2 ^ gridExponent num den < 2 ^ 53 ∧
      (gridExponent num den = -1074 ∨ 2 ^ 52 ≤ (num : ℚ) / den / 2 ^ gridExponent num den) := by
  obtain ⟨hlow, hhigh⟩ := binaryOrder_le hnum hden
  have hunit : (0 : ℚ) < 2 ^ gridExponent num den := by
    positivity
  constructor
  · rw [div_lt_iff₀ hunit, ← zpow_natCast, ← zpow_add₀ two_ne_zero]
    refine hhigh.trans_le (zpow_le_zpow_right₀ one_le_two ?_)
    rw [gridExponent]
    omega
  · by_cases hfinest : gridExponent num den = -1074
    · exact .inl hfinest
    · right
      rw [le_div_iff₀ hunit, ← zpow_natCast, ← zpow_add₀ two_ne_zero]
      refine le_trans (zpow_le_zpow_right₀ one_le_two ?_) hlow
      rw [gridExponent] at hfinest ⊢
      omega

/-- The number of a rounded quotient: the doubles below its grid, and its place on the grid. -/
theorem rankOfRatio_eq
    (hnum : num ≠ 0) :
    rankOfRatio num den = (gridExponent num den + 1074).toNat * 2 ^ 52 +
      roundedQuotient (num * Nat.pow 2 (-gridExponent num den).toNat)
        (den * Nat.pow 2 (gridExponent num den).toNat) := by
  rw [rankOfRatio, if_neg hnum]
  rfl

/-- What a quotient is rounded to in units of its grid. -/
theorem exists_rank
    (hnum : num ≠ 0)
    (hden : 0 < den) :
    ∃ a n : Nat, rankOfRatio num den = a * 2 ^ 52 + n ∧ gridExponent num den = (a : Int) - 1074 ∧
      Near ((num : ℚ) / den / 2 ^ gridExponent num den) n ∧
      n ≤ 2 ^ 53 ∧ (a = 0 ∨ 2 ^ 52 ≤ n) := by
  obtain ⟨hhigh, hlow⟩ := onGrid_bounds hnum hden
  have hfinest : -1074 ≤ gridExponent num den := le_max_left _ _
  have hpos : 0 < den * Nat.pow 2 (gridExponent num den).toNat :=
    Nat.mul_pos hden (Nat.pow_pos two_pos)
  have hnear := @roundedQuotient_near (num * Nat.pow 2 (-gridExponent num den).toNat) _ hpos
  rw [scaled_eq] at hnear
  have hrank := @rankOfRatio_eq num den hnum
  generalize roundedQuotient _ _ = n at hnear hrank
  have hmiss := hnear.miss_le
  rw [abs_le] at hmiss
  refine ⟨_, n, hrank, by omega, hnear, ?_, ?_⟩
  · have hlt : (n : ℚ) < 2 ^ 53 + 1 := by
      linarith
    exact Nat.lt_succ_iff.1 (by exact_mod_cast hlt)
  · refine hlow.imp (by omega) ?_
    intro hlow
    have hlt : (2 : ℚ) ^ 52 < n + 1 := by
      linarith
    exact Nat.lt_succ_iff.1 (by exact_mod_cast hlt)

/-- The double that a quotient is rounded to is nearest to it. -/
theorem isNearest_of_rank
    (hnum : num ≠ 0)
    (hden : 0 < den)
    {x : Magnitude}
    (hx : x.rank.val = rankOfRatio num den) :
    x.IsNearest ((num : ℚ) / den) := by
  obtain ⟨a, n, hrank, hgrid, hnear, hhigh, hlow⟩ := exists_rank hnum hden
  have hbounds := (onGrid_bounds hnum hden).2
  rw [hgrid] at hnear hbounds
  rw [hrank] at hx
  have hunit : (0 : ℚ) < 2 ^ ((a : Int) - 1074) := by
    positivity
  obtain ⟨t, ht⟩ : ∃ t : ℚ, t = (num : ℚ) / den / 2 ^ ((a : Int) - 1074) := ⟨_, rfl⟩
  have hq : (num : ℚ) / den = t * 2 ^ ((a : Int) - 1074) := by
    rw [ht]
    field_simp
  rw [← ht] at hnear hbounds
  have hmiss : ∀ u : ℚ, |(num : ℚ) / den - u * 2 ^ ((a : Int) - 1074)| =
      |t - u| * 2 ^ ((a : Int) - 1074) := by
    intro u
    rw [hq, ← sub_mul, abs_mul, abs_of_pos hunit]
  have heven : Even n → Even x.significand := by
    rw [even_significand_iff, hx, Nat.even_iff, Nat.even_iff]
    omega
  intro y
  rw [toRat_of_rank hx hhigh hlow, hmiss]
  rcases toRat_cases y a with ⟨k, hk⟩ | ⟨ha, hy⟩
  · rw [hk, hmiss]
    by_cases hkn : k = n
    · have hxy : x = y := toRat_injective (by rw [toRat_of_rank hx hhigh hlow, hk, hkn])
      exact .inr ⟨by rw [hkn], .inl hxy⟩
    · rcases hnear.le hkn with hlt | ⟨heq, hn⟩
      · exact .inl (mul_lt_mul_of_pos_right hlt hunit)
      · exact .inr ⟨by rw [heq], .inr (heven hn)⟩
  · have hlow : (2 : ℚ) ^ 52 ≤ t := hbounds.resolve_left (by omega)
    have hle : |t - n| ≤ t - 2 ^ 52 := by
      exact_mod_cast hnear.miss_le_sub (by exact_mod_cast hlow : ((2 ^ 52 : Nat) : ℚ) ≤ t)
    left
    calc |t - n| * 2 ^ ((a : Int) - 1074)
        ≤ (t - 2 ^ 52) * 2 ^ ((a : Int) - 1074) := by gcongr
      _ < (num : ℚ) / den - y.toRat := by
        rw [hq, sub_mul]
        linarith
      _ ≤ |(num : ℚ) / den - y.toRat| := le_abs_self _

theorem IsNearest.miss_le
    {q : ℚ} {x : Magnitude}
    (hx : x.IsNearest q)
    (y : Magnitude) :
    |q - x.toRat| ≤ |q - y.toRat| :=
  (hx y).elim le_of_lt fun h => h.1.le

/-- A number between two equally near ones is nearer. -/
theorem abs_sub_lt_of_between
    {q a b c : ℚ}
    (hab : a < b)
    (hbc : b < c)
    (h : |q - a| = |q - c|) :
    |q - b| < |q - a| := by
  have hmiddle : q - a = c - q := by
    rcases abs_eq_abs.1 h with heq | heq <;> linarith
  rw [abs_of_nonneg (by linarith : 0 ≤ q - a), abs_lt]
  constructor <;> linarith

/-- A number is not rounded to two doubles: of two equally near ones that are even, an odd one in
the middle would be nearer. -/
theorem IsNearest.not_lt
    {q : ℚ} {x y : Magnitude}
    (hx : x.IsNearest q)
    (hy : y.IsNearest q) :
    ¬ x.rank.val < y.rank.val := by
  intro hlt
  have hxy : x ≠ y := by
    rintro rfl
    exact Nat.lt_irrefl _ hlt
  have heq : |q - x.toRat| = |q - y.toRat| :=
    le_antisymm (hx.miss_le y) (hy.miss_le x)
  have hevenx := (hx y).elim (fun h => absurd heq h.ne) fun h => h.2.resolve_left hxy
  have heveny := (hy x).elim (fun h => absurd heq h.ne') fun h => h.2.resolve_left hxy.symm
  rw [even_significand_iff, Nat.even_iff] at hevenx heveny
  have hbetween : x.rank.val + 1 < y.rank.val := by
    omega
  obtain ⟨z, hz⟩ : ∃ z : Magnitude, z.rank.val = x.rank.val + 1 :=
    ⟨⟨⟨x.rank.val + 1, hbetween.trans y.rank.isLt⟩⟩, rfl⟩
  have hnearer : |q - z.toRat| < |q - x.toRat| :=
    abs_sub_lt_of_between (toRat_lt_toRat (by omega)) (toRat_lt_toRat (by omega)) heq
  exact absurd hnearer (hx.miss_le z).not_gt

/-- A number is rounded to one double at most. -/
theorem IsNearest.unique
    {q : ℚ} {x y : Magnitude}
    (hx : x.IsNearest q)
    (hy : y.IsNearest q) :
    x = y := by
  have hrank : x.rank.val = y.rank.val := by
    have hxy := hx.not_lt hy
    have hyx := hy.not_lt hx
    omega
  exact congrArg Magnitude.mk (Fin.ext hrank)

/-- A number is rounded to less than an even one exactly when it is more than a half below it. -/
theorem Near.lt_iff
    {t : ℚ} {n m : Nat}
    (h : Near t n)
    (hm : Even m) :
    n < m ↔ t < m - 1 / 2 := by
  constructor
  · intro hlt
    rcases h with h | ⟨h, hn⟩
    · have hle : (n : ℚ) + 1 ≤ m := by
        exact_mod_cast hlt
      linarith [(abs_lt.1 h).2]
    · have hle : (n : ℚ) + 2 ≤ m := by
        rw [Nat.even_iff] at hn hm
        exact_mod_cast (by omega : n + 2 ≤ m)
      linarith [(abs_le.1 h.le).2]
  · intro hlt
    have hmiss := (abs_le.1 h.miss_le).1
    exact_mod_cast (by linarith : (n : ℚ) < m)

/-- The middle between the greatest double and the power of two behind it, in units of the grid
below the greatest one. -/
theorem threshold_eq :
    (2 : ℚ) ^ 1024 - 2 ^ 970 = (2 ^ 54 - 1) * 2 ^ (970 : Int) := by
  have hpow : (2 : ℚ) ^ 1024 = 2 ^ 54 * 2 ^ 970 := by
    rw [← pow_add]
  rw [hpow, sub_mul, one_mul]
  rfl

/-- A quotient has a finite double below the middle between the greatest double and the power of two
behind it. -/
theorem rank_lt_iff
    (hnum : num ≠ 0)
    (hden : 0 < den) :
    rankOfRatio num den < 2047 * 2 ^ 52 ↔ (num : ℚ) / den < 2 ^ 1024 - 2 ^ 970 := by
  obtain ⟨a, n, hrank, hgrid, hnear, hhigh, hlow⟩ := exists_rank hnum hden
  obtain ⟨hbelow, habove⟩ := onGrid_bounds hnum hden
  rw [hgrid] at hnear hbelow habove
  have hunit : (0 : ℚ) < 2 ^ ((a : Int) - 1074) := by
    positivity
  have hfiner : a < 2045 → (2 : ℚ) ^ ((a : Int) - 1074) ≤ 2 ^ (970 : Int) := by
    intro ha
    exact zpow_le_zpow_right₀ one_le_two (by omega)
  have hgreatest : (2 : ℚ) ^ (((2045 : Nat) : Int) - 1074) = 2 * 2 ^ (970 : Int) :=
    unit_succ 2044
  have hcoarser : 2045 < a → 2 * (2 * 2 ^ (970 : Int)) ≤ (2 : ℚ) ^ ((a : Int) - 1074) := by
    intro ha
    rw [← hgreatest, ← unit_succ]
    exact zpow_le_zpow_right₀ one_le_two (by omega)
  rw [hrank, threshold_eq]
  have hpos : (0 : ℚ) < 2 ^ (970 : Int) := by
    positivity
  generalize (2 : ℚ) ^ (970 : Int) = unit at hfiner hgreatest hcoarser hpos
  rcases Nat.lt_trichotomy a 2045 with ha | rfl | ha
  · rw [div_lt_iff₀ hunit] at hbelow
    refine iff_of_true (by omega) ?_
    linarith [hfiner ha]
  · have hiff : 2045 * 2 ^ 52 + n < 2047 * 2 ^ 52 ↔ n < 2 ^ 53 := by
      omega
    have hhalf : (((2 ^ 53 : Nat) : ℚ) - 1 / 2) * (2 * unit) = (2 ^ 54 - 1) * unit := by
      push_cast
      ring
    rw [hiff, hnear.lt_iff (by decide), hgreatest, div_lt_iff₀ (by positivity), hhalf]
  · have habove := habove.resolve_left (by omega)
    rw [le_div_iff₀ hunit] at habove
    refine iff_of_false (by omega) (not_lt.2 ?_)
    linarith [hcoarser ha]

theorem isNearest_zero : zero.IsNearest 0 := by
  have hzero : zero.toRat = 0 := by
    have hsignificand : zero.significand = 0 := rfl
    rw [toRat, hsignificand, Nat.cast_zero, zero_mul]
  intro y
  rw [hzero, sub_zero, abs_zero]
  rcases (abs_nonneg (0 - y.toRat)).lt_or_eq with hlt | heq
  · exact .inl hlt
  · exact .inr ⟨heq, .inr (by decide)⟩

theorem ofRatio?_eq_some
    {x : Magnitude}
    (h : ofRatio? num den = some x) :
    x.rank.val = rankOfRatio num den := by
  rw [ofRatio?] at h
  split at h
  · cases h
    rfl
  · cases h

/-- Which quotients have a finite double. -/
theorem exists_ofRatio?_iff
    (hden : 0 < den) :
    (∃ x, ofRatio? num den = some x) ↔ (num : ℚ) / den < 2 ^ 1024 - 2 ^ 970 := by
  have hrank : rankOfRatio num den < 2047 * 2 ^ 52 ↔ (num : ℚ) / den < 2 ^ 1024 - 2 ^ 970 := by
    by_cases hnum : num = 0
    · rw [hnum, rankOfRatio, if_pos rfl, Nat.cast_zero, zero_div, threshold_eq]
      exact iff_of_true (by omega) (by positivity)
    · exact rank_lt_iff hnum hden
  rw [← hrank]
  constructor
  · rintro ⟨x, hx⟩
    rw [← ofRatio?_eq_some hx]
    exact x.rank.isLt
  · intro hlt
    exact ⟨_, dif_pos hlt⟩

/-- The double that a quotient is rounded to is nearest to it, also when the quotient is zero. -/
theorem isNearest_of_ofRatio?
    (hden : 0 < den)
    {x : Magnitude}
    (h : ofRatio? num den = some x) :
    x.IsNearest ((num : ℚ) / den) := by
  by_cases hnum : num = 0
  · rw [hnum] at h ⊢
    have hzero : x = zero := congrArg Magnitude.mk (Fin.ext (ofRatio?_eq_some h))
    rw [hzero, Nat.cast_zero, zero_div]
    exact isNearest_zero
  · exact isNearest_of_rank hnum hden (ofRatio?_eq_some h)

/-- Which double a quotient is rounded to, if there is one. -/
theorem ofRatio?_eq_some_iff
    (hden : 0 < den)
    {x : Magnitude} :
    ofRatio? num den = some x ↔
      (num : ℚ) / den < 2 ^ 1024 - 2 ^ 970 ∧ x.IsNearest ((num : ℚ) / den) := by
  rw [← exists_ofRatio?_iff hden]
  constructor
  · intro h
    exact ⟨⟨x, h⟩, isNearest_of_ofRatio? hden h⟩
  · rintro ⟨⟨y, hy⟩, hx⟩
    rw [hy, (isNearest_of_ofRatio? hden hy).unique hx]

/-- The quotient that stands for a decimal number. -/
theorem decimal_eq (c : Nat) (e : Int) :
    ((c * Nat.pow 10 e.toNat : Nat) : ℚ) / (Nat.pow 10 (-e).toNat : Nat) = c * 10 ^ e := by
  rw [zpow_eq_div (by norm_num : (10 : ℚ) ≠ 0), ← mul_div_assoc]
  push_cast [Nat.pow_eq]
  rfl

/-- Which decimal numbers have a finite double. -/
theorem exists_ofDecimal?_iff
    {c : Nat} {e : Int} :
    (∃ x, ofDecimal? c e = some x) ↔ (c : ℚ) * 10 ^ e < 2 ^ 1024 - 2 ^ 970 := by
  have hden : 0 < Nat.pow 10 (-e).toNat := Nat.pow_pos (by omega)
  rw [← decimal_eq]
  exact exists_ofRatio?_iff hden

/-- Which double a decimal number is rounded to, if there is one. -/
theorem ofDecimal?_eq_some_iff
    {c : Nat} {e : Int} {x : Magnitude} :
    ofDecimal? c e = some x ↔
      (c : ℚ) * 10 ^ e < 2 ^ 1024 - 2 ^ 970 ∧ x.IsNearest ((c : ℚ) * 10 ^ e) := by
  have hden : 0 < Nat.pow 10 (-e).toNat := Nat.pow_pos (by omega)
  rw [← decimal_eq]
  exact ofRatio?_eq_some_iff hden

end Magnitude
end FilterQuery
