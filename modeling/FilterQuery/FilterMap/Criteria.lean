import FilterQuery.Criterion.Order
import FilterQuery.FilterMap.Basic

/-!
# From filters to criteria

Interpretation of a filter map: names become columns, codes become operators, repeated entries are
dropped and the criteria are put in order.

**Errors.** Filters are visited in ascending order of their names.  The first that names no column,
has no entries, or has an entry with an unknown operator, no values or too many of them decides the
error; a missing mandatory filter is noticed last.
-/

namespace FilterQuery

namespace FilterEntry

/-- The test of an entry in the filter of a column. -/
def test (column : Column) (entry : FilterEntry) : Except QueryError Test := do
  let operator ← Operator.resolve entry.operator
  if entry.values = [] then throw (.emptyFilter column.name)
  if operator ≠ .anyOf ∧ entry.values.length ≠ 1 then
    throw (.valueCount column operator entry.values.length)
  return ⟨operator, entry.values⟩

end FilterEntry

namespace Filter

/-- The criterion of a filter; of equal tests the first counts. -/
def criterion (f : Filter) : Except QueryError Criterion := do
  let column ← Column.resolve f.name
  if f.entries = [] then throw (.emptyFilter f.name)
  let tests ← f.entries.mapM (FilterEntry.test column)
  return ⟨column, tests.eraseDups⟩

end Filter

namespace FilterMap

/-- The criteria of a filter map, in order. -/
def criteria (m : FilterMap) : Except QueryError (List Criterion) := do
  let criteria ← m.members.mapM Filter.criterion
  Criteria.order criteria

end FilterMap
end FilterQuery
