import FilterQuery.Decimal.Literal
import FilterQuery.QueryError
import FilterQuery.Sql.Parameter

/-!
# Casting values

A value of a filter is a text; it becomes a parameter of the kind that its column holds.  A text is
taken as it is, an integer must be a literal of 64 bits, and a double must be finite after rounding.
-/

namespace FilterQuery

/-- The parameter of a number, if 64 bits can hold it. -/
def Sql.Parameter.ofInt? (n : Int) : Option Sql.Parameter :=
  if h : Int64.minValue.toInt ≤ n ∧ n ≤ Int64.maxValue.toInt then
    some (.integer (Int64.ofIntLE n h.1 h.2))
  else none

namespace ValueType

/-- The parameter of a kind that a text spells. -/
def read? (type : ValueType) (s : String) : Option Sql.Parameter :=
  match type with
  | .text => some (.text s)
  | .integer => (Decimal.integer? s.toList).bind Sql.Parameter.ofInt?
  | .float =>
      match Binary64.ofString? s with
      | some x => if x.isFinite then some (.float x) else none
      | none => none

end ValueType

namespace Column

/-- The parameter that a value of a column stands for. -/
def cast (column : Column) (value : String) : Except QueryError Sql.Parameter :=
  match column.valueType.read? value with
  | some parameter => .ok parameter
  | none => .error (.invalidValue column value column.valueType)

end Column
end FilterQuery
