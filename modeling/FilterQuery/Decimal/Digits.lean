/-!
# Decimal digits

The ten ASCII digits, the number that a list of them denotes, and the shortest list that denotes
a given number.

**Results.**
* `value_digits`: reading the digits of a number gives the number back.
-/

namespace FilterQuery
namespace Decimal

/-- The number that a list of digits denotes; the first digit weighs most. -/
def value (ds : List Char) : Nat :=
  Nat.ofDigitChars 10 ds 0

/-- The digits of a number, without leading zeros. -/
def digits (n : Nat) : List Char :=
  Nat.toDigits 10 n

/-- The digits of a number as a text. -/
def naturalText (n : Nat) : String :=
  String.ofList (digits n)

/-- A minus sign for a negative number, then the digits of its magnitude. -/
def integerText (n : Int) : String :=
  String.ofList (if n < 0 then '-' :: digits n.natAbs else digits n.natAbs)

theorem value_digits (n : Nat) :
    value (digits n) = n := by
  simp [value, digits, Nat.ofDigitChars_toDigits]

/-- The lower-case hexadecimal digits of a number, without leading zeros. -/
def hexDigits (n : Nat) : List Char :=
  Nat.toDigits 16 n

/-- The number a hexadecimal digit stands for, in either case of the letters. -/
def hexValue? (c : Char) : Option Nat :=
  if '0' ≤ c ∧ c ≤ '9' then some (c.toNat - '0'.toNat)
  else if 'a' ≤ c ∧ c ≤ 'f' then some (c.toNat - 'a'.toNat + 10)
  else if 'A' ≤ c ∧ c ≤ 'F' then some (c.toNat - 'A'.toNat + 10)
  else none

end Decimal
end FilterQuery
