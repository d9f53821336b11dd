import FilterQuery.Criterion.Basic
import FilterQuery.QueryError

/-!
# Order of criteria

Criteria stand in descending priority of their columns and, where the priorities are equal, in
ascending order of the names of their columns; those of one column stand in the order in which they
were given.  A list without a criterion on a mandatory column has no order.
-/

namespace FilterQuery

/-- Whether a criterion may stand before another: its column is of higher priority, or of the same
one and its name does not come later. -/
def Criterion.precedes (a b : Criterion) : Bool :=
  b.column.priority < a.column.priority ||
    (a.column.priority = b.column.priority && a.column.name ≤ b.column.name)

namespace Criteria

/-- The first mandatory column on which there is no criterion. -/
def missing? (criteria : List Criterion) : Option Column :=
  Column.mandatory.find? fun column => !criteria.any fun c => c.column = column

/-- The criteria in order, or the first mandatory column that is missing. -/
def order (criteria : List Criterion) : Except QueryError (List Criterion) :=
  match missing? criteria with
  | some column => .error (.missingMandatoryFilter column)
  | none => .ok (criteria.mergeSort Criterion.precedes)

end Criteria
end FilterQuery
