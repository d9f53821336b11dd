import FilterQuery.Criterion.Predicate
import FilterQuery.FilterMap.Criteria
import FilterQuery.Sql.Builder
import FilterQuery.Sql.Join

/-!
# Search

The statement that shows one page of the products that pass the filters, cheapest first.

**Paging.** Page `k` begins at row `k · rows` and asks for `rows + 1` rows: the extra one tells
whether there is a further page.  A page whose first row has no number in 63 bits is refused.
-/

namespace FilterQuery
namespace Query

/-- The columns that a search shows. -/
def projection : String :=
  "p.brand_name_version, p.link, a.price, a.size, p.condition, p.visible_to_public"

/-- The number of the first row of a page. -/
def offset (rows page : UInt32) : Nat :=
  page.toNat * rows.toNat

/-- The number of rows that are asked for. -/
def limit (rows : UInt32) : Nat :=
  rows.toNat + 1

/-- The statement for one page of the search under criteria in any order. -/
def searchOf (rows : UInt32) (criteria : List Criterion) (page : UInt32) :
    Except QueryError Sql.Statement := do
  let criteria ← Criteria.order criteria
  match Sql.Parameter.ofInt? (limit rows), Sql.Parameter.ofInt? (offset rows page) with
  | some limit, some offset => do
      let condition ← Criteria.whereClause criteria
      return Sql.Builder.empty
        |>.text "select "
        |>.text projection
        |>.text (Sql.Join.fromClause Sql.Join.search)
        |>.fragment condition
        |>.bind " order by a.price limit ?" limit
        |>.bind " offset ?" offset
        |>.build
  | _, _ => throw (.pageOutOfRange page.toNat rows.toNat)

/-- The statement for one page of the search under a filter map. -/
def search (rows : UInt32) (filters : FilterMap) (page : UInt32) :
    Except QueryError Sql.Statement := do
  let criteria ← filters.criteria
  searchOf rows criteria page

end Query
end FilterQuery
