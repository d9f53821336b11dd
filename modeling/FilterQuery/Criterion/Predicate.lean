import FilterQuery.Criterion.Basic
import FilterQuery.Criterion.Cast
import FilterQuery.Sql.Fragment

/-!
# Predicates

The text of a condition for the criteria of a statement.  A comparison is a column, a symbol and a
placeholder; `anyOf` is a parenthesized alternative of equations.  All of them are joined by `and`,
in the order of the criteria and of the tests in each.

**Errors.** The first test, from the left, that has the wrong number of values or a value that its
column does not accept decides the error.
-/

namespace FilterQuery

namespace Column

/-- The comparison of a column with a value. -/
def comparison (column : Column) (symbol : String) (value : String) :
    Except QueryError Sql.Fragment := do
  let parameter ← column.cast value
  return Sql.Fragment.bound (column.qualified ++ " " ++ symbol ++ " ?") parameter

end Column

namespace Test

/-- The predicate of a test on a column. -/
def predicate (column : Column) (test : Test) : Except QueryError Sql.Fragment :=
  match test.operator with
  | .compare comparison =>
      match test.values with
      | [] => .error (.emptyFilter column.name)
      | [value] => column.comparison comparison.symbol value
      | values => .error (.valueCount column test.operator values.length)
  | .anyOf =>
      match test.values with
      | [] => .error (.emptyFilter column.name)
      | values => do
          let equations ← values.mapM (column.comparison Comparison.eq.symbol)
          return (Sql.Fragment.join " or " equations).parenthesized

end Test

namespace Criterion

/-- The predicates of a criterion, one for each test. -/
def predicates (c : Criterion) : Except QueryError (List Sql.Fragment) :=
  c.tests.mapM (Test.predicate c.column)

end Criterion

namespace Criteria

/-- The condition of a list of criteria. -/
def condition (criteria : List Criterion) : Except QueryError Sql.Fragment := do
  let predicates ← criteria.mapM Criterion.predicates
  return Sql.Fragment.join " and " predicates.flatten

/-- The condition of a list of criteria as a clause. -/
def whereClause (criteria : List Criterion) : Except QueryError Sql.Fragment := do
  let condition ← condition criteria
  return Sql.Fragment.raw " where " ++ condition

end Criteria
end FilterQuery
