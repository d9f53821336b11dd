import FilterQuery.QueryError

/-!
# Excluded values

The placeholder values that a list of distinct values leaves out, as predicates on the bare column.
Category and country have no rule, since nobody lists their values.
-/

namespace FilterQuery
namespace Column

/-- The literals that stand for a missing value in a column, if the column has a rule. -/
def excluded? : Column → Option (List String)
  | .category => none
  | .country => none
  | .condition => some []
  | .year => some ["-1", "-2"]
  | .brand => some ["'unknown'"]
  | .productName => some []
  | .size => some ["'unknown'"]
  | .price => some []
  | .subprodName => some []
  | .version => some ["'not needed'", "'unknown'"]

/-- The predicates that leave out the excluded values of a column. -/
def exclusion (c : Column) : Except QueryError String :=
  match c.excluded? with
  | some literals => .ok (String.join (literals.map fun l => " and " ++ c.name ++ " <> " ++ l))
  | none => .error (.noExclusionRule c)

end Column
end FilterQuery
