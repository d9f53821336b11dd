import FilterQuery.Criterion.Basic

/-!
# Joins

Which tables a statement joins to the products.  Shops are always joined; the product attributes
are joined when a criterion or the projected column refers to them.
-/

namespace FilterQuery
namespace Sql

/-- A table joined on a condition. -/
structure Join where
  table : Table
  condition : String
deriving DecidableEq

namespace Join

/-- The table that every statement selects from. -/
def base : Table :=
  .products

/-- The shop that offers a product. -/
def shops : Join :=
  ⟨.shops, "s.id = p.shop_id"⟩

/-- The sizes and prices of a product. -/
def attributes : Join :=
  ⟨.productAttributes, "p.id = a.product_id"⟩

/-- The text of a join. -/
def sql (j : Join) : String :=
  "inner join " ++ j.table.name ++ " " ++ j.table.qualifier ++ " on " ++ j.condition

/-- Whether the criteria or the projected column name a column of the product attributes. -/
def needsAttributes (criteria : List Criterion) (projected : Option Column) : Bool :=
  ((criteria.map Criterion.column ++ projected.toList).map Column.name).any
    (Column.namesOf .productAttributes).contains

/-- The joins of a statement that lists the values of a column. -/
def plan (criteria : List Criterion) (projected : Option Column) : List Join :=
  if needsAttributes criteria projected then [shops, attributes] else [shops]

/-- The joins of a search, which always shows size and price. -/
def search : List Join :=
  [shops, attributes]

/-- The clause that names the tables of a statement. -/
def fromClause (joins : List Join) : String :=
  " from " ++ base.name ++ " " ++ base.qualifier
    ++ String.join (joins.map fun j => " " ++ j.sql)

end Join
end Sql
end FilterQuery
