import FilterQuery.Json.Value
import FilterQuery.Schema.Table

/-!
# Columns

The columns that a filter may name, with the table, the kind of value and the priority of each.

**Priority.** Predicates are written in descending priority, so that the most selective columns come
first.  Category and country are mandatory and have the two highest priorities.

**Results.**
* `ofName?_eq_some_iff`: a text names a column exactly when it is the name of that column.
* `name_mem_namesOf_iff`: the name of a column is among those of a table if the column is.
* `priority_injective`: no two columns have the same priority.
-/

namespace FilterQuery

/-- A column that a filter may name. -/
inductive Column where
  | category
  | country
  | condition
  | year
  | brand
  | productName
  | size
  | price
  | subprodName
  | version
deriving DecidableEq

namespace Column

/-- All columns, in descending priority. -/
def all : List Column :=
  [.category, .country, .condition, .year, .brand, .productName, .size, .price, .subprodName,
    .version]

/-- The columns without a filter on which no statement is built, in the order of their check. -/
def mandatory : List Column :=
  [.category, .country]

/-- The name of a column, in filters and in the database. -/
def name : Column → String
  | .category => "category"
  | .country => "country"
  | .condition => "condition"
  | .year => "year"
  | .brand => "brand"
  | .productName => "product_name"
  | .size => "size"
  | .price => "price"
  | .subprodName => "subprod_name"
  | .version => "version"

/-- The table that a column belongs to. -/
def table : Column → Table
  | .country => .shops
  | .size => .productAttributes
  | .price => .productAttributes
  | _ => .products

/-- The kind of value that a column holds. -/
def valueType : Column → ValueType
  | .year => .integer
  | .price => .float
  | _ => .text

/-- The weight of a column: predicates on weightier columns come first. -/
def priority : Column → Nat
  | .category => 100
  | .country => 90
  | .condition => 80
  | .year => 70
  | .brand => 60
  | .productName => 50
  | .size => 40
  | .price => 30
  | .subprodName => 20
  | .version => 10

/-- The name of a column behind the alias of its table. -/
def qualified (c : Column) : String :=
  c.table.qualifier ++ "." ++ c.name

/-- The names of the columns that belong to a table. -/
def namesOf (table : Table) : List String :=
  (all.filter fun c => c.table = table).map name

/-- The column of a name; upper and lower case are distinct. -/
def ofName? (name : String) : Option Column :=
  all.find? fun c => c.name = name

/-- The description of a column as data. -/
def toJson (c : Column) : Json :=
  .object [
    ("name", .string c.name),
    ("table", .string c.table.name),
    ("sql_type", .string c.valueType.name),
    ("priority", .number (.integer c.priority))]

theorem mem_all (c : Column) :
    c ∈ all := by
  cases c <;> decide

theorem name_injective
    {c d : Column}
    (h : c.name = d.name) :
    c = d := by
  cases c <;> cases d <;> simp_all [name]

/-- No two columns share a name, so a name tells the table of its column. -/
theorem name_mem_namesOf_iff
    {c : Column} {table : Table} :
    c.name ∈ namesOf table ↔ c.table = table := by
  simp only [namesOf, List.mem_map, List.mem_filter, decide_eq_true_eq]
  constructor
  · rintro ⟨d, ⟨-, htable⟩, hname⟩
    rw [← name_injective hname]
    exact htable
  · intro htable
    exact ⟨c, ⟨mem_all c, htable⟩, rfl⟩

theorem qualified_injective
    {c d : Column}
    (h : c.qualified = d.qualified) :
    c = d := by
  have hfind : ∀ e : Column, all.find? (fun f => f.qualified = e.qualified) = some e := by
    intro e
    cases e <;> decide
  have hc := hfind c
  rw [h, hfind d] at hc
  exact (Option.some.inj hc).symm

theorem priority_injective
    {c d : Column}
    (h : c.priority = d.priority) :
    c = d := by
  cases c <;> cases d <;> simp_all [priority]

theorem ofName?_name (c : Column) :
    ofName? c.name = some c := by
  cases c <;> decide

theorem ofName?_eq_some_iff
    {name : String} {c : Column} :
    ofName? name = some c ↔ name = c.name := by
  constructor
  · intro h
    have := List.find?_some h
    simpa using (by simpa using this : c.name = name).symm
  · rintro rfl
    exact ofName?_name c

end Column
end FilterQuery
