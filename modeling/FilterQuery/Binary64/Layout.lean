import FilterQuery.Binary64.Shortest

/-!
# Layout of a double in text

A layout says how the shortest decimal of a double is written out: between which orders of
magnitude it stands without an exponent, whether a positive exponent carries a plus sign, and which
way an exact tie between two shortest decimals goes.
-/

namespace FilterQuery

/-- The decisions of a textual form of doubles. -/
structure Layout where
  /-- The least order of magnitude that is written without an exponent. -/
  positionalFrom : Int
  /-- The order of magnitude from which an exponent is written. -/
  positionalBelow : Int
  /-- Whether a positive exponent carries a plus sign. -/
  signedExponent : Bool
  /-- How a tie between two shortest decimals is decided. -/
  tie : Tie

namespace Layout

/-- The digits of a natural number without the zeros at its end, and how many those were. -/
def significant (c : Nat) : List Char × Nat :=
  let ds := Decimal.digits c
  let zeros := (ds.reverse.takeWhile (· = '0')).length
  (ds.take (ds.length - zeros), zeros)

/-- Digits around a point: the first digit stands for `10 ^ order`. -/
def positional (ds : List Char) (order : Int) : List Char :=
  if order < 0 then
    '0' :: '.' :: (List.replicate ((-order).toNat - 1) '0' ++ ds)
  else
    let n := order.toNat + 1
    if ds.length ≤ n then ds ++ List.replicate (n - ds.length) '0' ++ ['.', '0']
    else ds.take n ++ '.' :: ds.drop n

/-- One digit, a point before further digits if there are any, and an exponent. -/
def scientific (layout : Layout) (ds : List Char) (order : Int) : List Char :=
  let mantissa :=
    match ds with
    | d :: e :: r => d :: '.' :: e :: r
    | short => short
  let sign := if order < 0 then ['-'] else if layout.signedExponent then ['+'] else []
  mantissa ++ 'e' :: (sign ++ Decimal.digits order.natAbs)

/-- A magnitude in text. -/
def magnitude (layout : Layout) (x : Magnitude) : List Char :=
  if x.isZero then ['0', '.', '0']
  else
    let (c, u) := x.shortest layout.tie
    let (ds, zeros) := significant c
    let order : Int := u + zeros + ds.length - 1
    if layout.positionalFrom ≤ order ∧ order < layout.positionalBelow then positional ds order
    else layout.scientific ds order

/-- A finite double in text. -/
def write (layout : Layout) (negative : Bool) (x : Magnitude) : String :=
  String.ofList (if negative then '-' :: layout.magnitude x else layout.magnitude x)

end Layout
end FilterQuery
