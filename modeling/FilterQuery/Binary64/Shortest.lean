import FilterQuery.Binary64.Basic

/-!
# The shortest decimal of a double

The decimal with the fewest digits that rounds to a given double and, among those, the nearest one.

**Algorithm.** A double `x = m · 2 ^ q` owns the interval of reals that round to it; its ends belong
to it exactly when `m` is even.  For 1, 2, … 17 digits the two neighbours of `x` on that decimal
grid are tested against the interval; the first grid with a hit wins, and of two hits the nearer
one.  An exact tie is decided by a parameter.  All comparisons are in exact natural numbers.
-/

namespace FilterQuery

/-- Which of two equally near decimals is chosen. -/
inductive Tie where
  | up
  | even
deriving DecidableEq

namespace Magnitude

/-- An exponent `k` with `x < 10 ^ k` and `10 ^ (k - 1) ≤ x`, for a double that is not zero. -/
def decimalOrder (x : Magnitude) : Int :=
  let b : Int := (x.significand.log2 : Int) + x.exponent
  let k := (b * 30103).fdiv 100000
  let below (k : Int) : Bool :=
    x.significand * Nat.pow 2 x.exponent.toNat * Nat.pow 10 (-k).toNat
      < Nat.pow 2 (-x.exponent).toNat * Nat.pow 10 k.toNat
  if below k then k else if below (k + 1) then k + 1 else k + 2

/-- How far below `4 · significand`, in quarters of a unit, the interval of a double reaches. -/
def lowerQuarters (x : Magnitude) : Nat :=
  if x.significand = Nat.pow 2 52 ∧ Nat.pow 2 53 ≤ x.rank.val then 1 else 2

/-- The neighbour of a double on the grid of multiples of `10 ^ u` that rounds to it. -/
def onGrid? (tie : Tie) (x : Magnitude) (u : Int) : Option Nat :=
  let q := x.exponent - 2
  let num := Nat.pow 2 q.toNat * Nat.pow 10 (-u).toNat
  let den := Nat.pow 2 (-q).toNat * Nat.pow 10 u.toNat
  let low := (4 * x.significand - x.lowerQuarters) * num
  let high := (4 * x.significand + 2) * num
  let holds (c : Nat) : Bool :=
    if x.significand % 2 = 0 then low ≤ c * den && c * den ≤ high
    else low < c * den && c * den < high
  let c := 4 * x.significand * num / den
  let r := 4 * x.significand * num % den
  match holds c, holds (c + 1) with
  | false, false => none
  | true, false => some c
  | false, true => some (c + 1)
  | true, true =>
      if 2 * r < den then some c
      else if den < 2 * r then some (c + 1)
      else match tie with
        | .up => some (c + 1)
        | .even => some (c + c % 2)

/-- Digits `c` and an exponent `u`, with `c · 10 ^ u` the shortest decimal of a nonzero double. -/
def shortest (tie : Tie) (x : Magnitude) : Nat × Int :=
  let k := x.decimalOrder
  let found :=
    (List.range 17).findSome? fun i =>
      let u := k - (i + 1 : Nat)
      (x.onGrid? tie u).map fun c => (c, u)
  found.getD (0, 0)

end Magnitude
end FilterQuery
