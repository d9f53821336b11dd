import FilterQuery.Decimal.Literal

/-!
# Double precision numbers

The values of the 64-bit binary format: not a number, two infinities, and the finite doubles.

**Model.** The finite doubles of one sign are numbered by size, zero being number 0.  A double is
its sign and this number, so that two doubles are equal exactly when they are the same value with
the same sign, and every number below `2047 · 2 ^ 52` is a double.

**Rounding.** `Magnitude.ofRatio?` is the finite double nearest to an exact quotient, a half going
to the even neighbour; it is `none` for a quotient beyond the range.  All arithmetic here is exact
followed by one such rounding.
-/

namespace FilterQuery

/-- A finite double of one sign, numbered by size. -/
structure Magnitude where
  rank : Fin (2047 * Nat.pow 2 52)
deriving DecidableEq

namespace Magnitude

/-- The integer factor of a double: the double is `significand · 2 ^ exponent`. -/
def significand (x : Magnitude) : Nat :=
  if x.rank.val < Nat.pow 2 52 then x.rank.val else Nat.pow 2 52 + x.rank.val % Nat.pow 2 52

/-- The power of two of a double: the double is `significand · 2 ^ exponent`. -/
def exponent (x : Magnitude) : Int :=
  if x.rank.val < Nat.pow 2 52 then -1074 else (x.rank.val / Nat.pow 2 52 : Nat) - 1075

/-- The quotient to the nearest natural number, a half to the even one. -/
def roundedQuotient (num den : Nat) : Nat :=
  let q := num / den
  let r := num % den
  if 2 * r < den then q
  else if den < 2 * r then q + 1
  else q + q % 2

/-- The largest `e` with `2 ^ e ≤ num / den`. -/
def binaryOrder (num den : Nat) : Int :=
  let e : Int := (num.log2 : Int) - (den.log2 : Int)
  if den * Nat.pow 2 e.toNat ≤ num * Nat.pow 2 (-e).toNat then e else e - 1

/-- The number, in order of size, of the double nearest to a quotient, were there no largest. -/
def rankOfRatio (num den : Nat) : Nat :=
  if num = 0 then 0
  else
    let e := max (-1074) (binaryOrder num den - 52)
    (e + 1074).toNat * Nat.pow 2 52 +
      roundedQuotient (num * Nat.pow 2 (-e).toNat) (den * Nat.pow 2 e.toNat)

/-- The finite double nearest to a quotient, if the quotient is not beyond them. -/
def ofRatio? (num den : Nat) : Option Magnitude :=
  let r := rankOfRatio num den
  if h : r < 2047 * Nat.pow 2 52 then some ⟨⟨r, h⟩⟩ else none

/-- The quotient `num · 2 ^ e / den`, rounded. -/
def ofScaled? (num : Nat) (e : Int) (den : Nat) : Option Magnitude :=
  ofRatio? (num * Nat.pow 2 e.toNat) (den * Nat.pow 2 (-e).toNat)

/-- The decimal number `significand · 10 ^ exponent`, rounded. -/
def ofDecimal? (significand : Nat) (exponent : Int) : Option Magnitude :=
  ofRatio? (significand * Nat.pow 10 exponent.toNat) (Nat.pow 10 (-exponent).toNat)

/-- The double zero. -/
def zero : Magnitude :=
  ⟨⟨0, by decide⟩⟩

/-- Whether a double is zero. -/
def isZero (x : Magnitude) : Bool :=
  x.rank.val == 0

/-- The rounded product, if it is in range. -/
def times? (x y : Magnitude) : Option Magnitude :=
  ofScaled? (x.significand * y.significand) (x.exponent + y.exponent) 1

/-- The rounded quotient by a nonzero double, if it is in range. -/
def over? (x y : Magnitude) : Option Magnitude :=
  ofScaled? x.significand (x.exponent - y.exponent) y.significand

end Magnitude

/-- A double precision number. -/
inductive Binary64 where
  | nan
  | infinite (negative : Bool)
  | finite (negative : Bool) (magnitude : Magnitude)
deriving DecidableEq

namespace Binary64

/-- Whether a number is neither infinite nor a non-number. -/
def isFinite : Binary64 → Bool
  | .finite _ _ => true
  | _ => false

/-- A sign and a magnitude that may be beyond the range. -/
def ofMagnitude? (negative : Bool) : Option Magnitude → Binary64
  | some m => .finite negative m
  | none => .infinite negative

/-- The double nearest to a written real number. -/
def ofReal : Decimal.Real → Binary64
  | .nan => .nan
  | .infinity negative => .infinite negative
  | .decimal negative significand exponent =>
      ofMagnitude? negative (Magnitude.ofDecimal? significand exponent)

/-- The double nearest to the real number that a text spells. -/
def ofString? (s : String) : Option Binary64 :=
  (Decimal.Real.ofChars? s.toList).map ofReal

end Binary64
end FilterQuery
