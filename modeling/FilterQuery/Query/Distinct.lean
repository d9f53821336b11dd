import FilterQuery.Criterion.Predicate
import FilterQuery.FilterMap.Criteria
import FilterQuery.Schema.Exclusion
import FilterQuery.Sql.Builder
import FilterQuery.Sql.Join

/-!
# Distinct values

The statement that lists the distinct values of a column among the products that pass the filters,
in ascending order and without the values that stand for a missing one.
-/

namespace FilterQuery
namespace Query

/-- The statement for the distinct values of a column under criteria in any order. -/
def distinctOf (criteria : List Criterion) (column : Column) :
    Except QueryError Sql.Statement := do
  let criteria ← Criteria.order criteria
  let exclusion ← column.exclusion
  let condition ← Criteria.whereClause criteria
  let joins := Sql.Join.plan criteria (some column)
  return Sql.Builder.empty
    |>.text "select distinct "
    |>.text column.qualified
    |>.text (Sql.Join.fromClause joins)
    |>.fragment condition
    |>.text exclusion
    |>.text " order by "
    |>.text column.qualified
    |>.build

/-- The statement for the distinct values of the column of a name under a filter map. -/
def distinct (filters : FilterMap) (name : String) : Except QueryError Sql.Statement := do
  let criteria ← filters.criteria
  let column ← Column.resolve name
  distinctOf criteria column

end Query
end FilterQuery
