import FilterQuery.Decimal.Digits

/-!
# Written numbers

How a number is spelled in plain text, before any range or precision is imposed on it.

**Integers** are an optional single sign and one or more digits, with any number of leading zeros
and nothing else around them (`integer?`).

**Reals** are an optional single sign before `nan`, `inf` or `infinity` (in any case), or before
digits with at most one point among them and an optional exponent (`Real.ofChars?`).
-/

namespace FilterQuery
namespace Decimal

/-- The number spelled by one or more digits and nothing else. -/
def natural? (s : List Char) : Option Nat :=
  if s ≠ [] ∧ s.all Char.isDigit then some (value s) else none

/-- The number spelled by an optional sign and one or more digits. -/
def integer? : List Char → Option Int
  | '-' :: s => (natural? s).map fun n => -(n : Int)
  | '+' :: s => (natural? s).map fun n => (n : Int)
  | s => (natural? s).map fun n => (n : Int)

/-- A written real number: a special value, or `significand · 10 ^ exponent` with a sign. -/
inductive Real where
  | nan
  | infinity (negative : Bool)
  | decimal (negative : Bool) (significand : Nat) (exponent : Int)
deriving DecidableEq

namespace Real

/-- The exponent from which further digits of an exponent are not counted: no double is near. -/
def exponentBound : Nat := 65536

/-- The number of an exponent's digits, those past `exponentBound` left out. -/
def boundedValue (ds : List Char) : Nat :=
  ds.foldl (fun n d => if n < exponentBound then 10 * n + (d.toNat - '0'.toNat) else n) 0

/-- The exponent written after a significand: nothing, or `e`, an optional sign and digits. -/
def exponent? : List Char → Option Int
  | [] => some 0
  | e :: s =>
      if e = 'e' ∨ e = 'E' then
        match s with
        | '-' :: ds =>
            if ds ≠ [] ∧ ds.all Char.isDigit then some (-(boundedValue ds : Int)) else none
        | '+' :: ds =>
            if ds ≠ [] ∧ ds.all Char.isDigit then some (boundedValue ds) else none
        | ds =>
            if ds ≠ [] ∧ ds.all Char.isDigit then some (boundedValue ds) else none
      else none

/-- A significand with at least one digit on either side of an optional point, then an exponent. -/
def unsigned? (negative : Bool) (s : List Char) : Option Real :=
  let whole := s.takeWhile Char.isDigit
  let rest := s.dropWhile Char.isDigit
  let (fraction, tail) :=
    match rest with
    | '.' :: r => (r.takeWhile Char.isDigit, r.dropWhile Char.isDigit)
    | r => ([], r)
  if whole = [] ∧ fraction = [] then none
  else
    (exponent? tail).map fun e =>
      .decimal negative (value (whole ++ fraction)) (e - fraction.length)

/-- A special name in any case, or a decimal number. -/
def magnitude? (negative : Bool) (s : List Char) : Option Real :=
  let name := s.map Char.toLower
  if name = ['n', 'a', 'n'] then some .nan
  else if name = ['i', 'n', 'f'] ∨ name = ['i', 'n', 'f', 'i', 'n', 'i', 't', 'y'] then
    some (.infinity negative)
  else unsigned? negative s

/-- The real number that a text spells. -/
def ofChars? : List Char → Option Real
  | '-' :: s => magnitude? true s
  | '+' :: s => magnitude? false s
  | s => magnitude? false s

end Real
end Decimal
end FilterQuery
