import FilterQuery.Proofs.Criterion.Spelling

/-!
# Casting integers

What a text must look like to be cast to an integer, and to which one.  The range of 64 bits is
looked at when the whole number is known, so zeros in front do no harm.

**Results.**
* `cast_eq_integer_iff`: which texts are cast to which integers.
* `cast_integer`: every text is cast to the integer that it spells or refused, and what is written
  for an integer of 64 bits is cast to that integer.
-/

namespace FilterQuery

open Sql (Parameter)

namespace Column

variable {column : Column} {value : String}

/-- In a column of integers a value is cast to the integer of which it is a literal. -/
theorem cast_eq_integer_iff
    (hcolumn : column.valueType = .integer)
    {m : Int64} :
    column.cast value = .ok (.integer m) ↔ Decimal.IsLiteral value.toList m.toInt := by
  rw [cast_eq_ok_iff, row_eq, hcolumn]
  constructor
  · rintro ⟨m', hm, heq⟩
    rwa [Parameter.integer.inj heq]
  · intro hm
    exact ⟨m, hm, rfl⟩

/-- A column of integers gives an integer or the error with the text as it stands. -/
theorem cast_cases_of_integer
    (hcolumn : column.valueType = .integer)
    (value : String) :
    (∃ m, column.cast value = .ok (.integer m)) ∨
      column.cast value = .error (.invalidValue column value .integer) := by
  rw [cast, hcolumn, ValueType.read?]
  cases hread : (Decimal.integer? value.toList).bind Parameter.ofInt? with
  | none =>
      exact .inr rfl
  | some p =>
      obtain ⟨k, -, hk⟩ := Option.bind_eq_some_iff.1 hread
      obtain ⟨m, rfl, -⟩ := Parameter.ofInt?_eq_some_iff.1 hk
      exact .inl ⟨m, rfl⟩

/-- A text is cast to an integer exactly when it is a literal of that integer and 64 bits hold it.
All other texts are refused with the column and the text as it stands.  What is written for an
integer of 64 bits is cast to it. -/
theorem cast_integer
    (hcolumn : column.valueType = .integer)
    (value : String) :
    (∀ n : Int,
      (∃ m : Int64, column.cast value = .ok (.integer m) ∧ m.toInt = n) ↔
        Decimal.IsLiteral value.toList n ∧ -2 ^ 63 ≤ n ∧ n ≤ 2 ^ 63 - 1) ∧
    ((¬ ∃ n : Int, Decimal.IsLiteral value.toList n ∧ -2 ^ 63 ≤ n ∧ n ≤ 2 ^ 63 - 1) →
      column.cast value = .error (.invalidValue column value .integer)) ∧
    ∀ m : Int64, column.cast (Decimal.integerText m.toInt) = .ok (.integer m) := by
  have hspells : ∀ n : Int,
      (∃ m : Int64, column.cast value = .ok (.integer m) ∧ m.toInt = n) ↔
        Decimal.IsLiteral value.toList n ∧ -2 ^ 63 ≤ n ∧ n ≤ 2 ^ 63 - 1 := by
    intro n
    simp only [cast_eq_integer_iff hcolumn]
    constructor
    · rintro ⟨m, hm, rfl⟩
      exact ⟨hm, Int64.minValue_le_toInt m, Int64.toInt_le m⟩
    · rintro ⟨hn, hlow, hhigh⟩
      exact ⟨Int64.ofInt n, by rwa [Int64.toInt_ofInt_of_le hlow (by omega)],
        Int64.toInt_ofInt_of_le hlow (by omega)⟩
  refine ⟨hspells, ?_, ?_⟩
  · intro hnone
    refine (cast_cases_of_integer hcolumn value).resolve_left ?_
    rintro ⟨m, hm⟩
    exact hnone ⟨m.toInt, (hspells _).1 ⟨m, hm, rfl⟩⟩
  · intro m
    rw [cast_eq_integer_iff hcolumn, ← Decimal.integer?_eq_some_iff]
    exact Decimal.integer?_integerText m.toInt

/-- The least integer with zeros in front, one more than the greatest, and one as it is written. -/
theorem cast_integer_bounds :
    cast .year "-0009223372036854775808" = .ok (.integer Int64.minValue) ∧
      cast .year "9223372036854775808" =
        .error (.invalidValue .year "9223372036854775808" .integer) ∧
      cast .year (Decimal.integerText (Int64.toInt 2022)) = .ok (.integer 2022) := by
  have hyear : Column.year.valueType = .integer := rfl
  obtain ⟨hleast, -, hwritten⟩ := cast_integer hyear "-0009223372036854775808"
  obtain ⟨-, hrefused, -⟩ := cast_integer hyear "9223372036854775808"
  have hliteral : Decimal.IsLiteral "-0009223372036854775808".toList (-2 ^ 63) :=
    Decimal.integer?_eq_some_iff.1 (by decide +kernel)
  have hgreatest : Decimal.integer? "9223372036854775808".toList = some (2 ^ 63) := by
    decide +kernel
  refine ⟨?_, hrefused ?_, hwritten 2022⟩
  · obtain ⟨m, hm, hvalue⟩ := (hleast (-2 ^ 63)).2 ⟨hliteral, by omega, by omega⟩
    rw [hm, Int64.toInt_inj.1 (hvalue.trans (by rfl : -2 ^ 63 = Int64.minValue.toInt))]
  · rintro ⟨n, hn, -, hle⟩
    rw [← Decimal.integer?_eq_some_iff, hgreatest, Option.some.injEq] at hn
    omega

end Column
end FilterQuery
