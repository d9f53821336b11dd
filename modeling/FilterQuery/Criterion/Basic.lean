import FilterQuery.Operator
import FilterQuery.Schema.Column

/-!
# Criteria

A criterion is what a statement demands of one column: a list of tests, all of which must hold.
-/

namespace FilterQuery

/-- An operator with the values it is applied to, as written. -/
structure Test where
  operator : Operator
  values : List String
deriving DecidableEq

/-- The tests on one column. -/
structure Criterion where
  column : Column
  tests : List Test
deriving DecidableEq

end FilterQuery
