import FilterQuery.Operator
import FilterQuery.Schema.Column

/-!
# The catalogue

The columns and the operators as requests and statements write them, put down as tables apart from
the definitions that names, codes and symbols are looked up in.  What a filter map means and what is
wrong with it is said in terms of these tables.

**Results.**
* `Column.row_eq`, `Column.listed?_eq`: the columns are defined as the tables say.
* `Operator.coded?_eq`, `Comparison.mem_signs_iff`: so are the operators.
-/

namespace FilterQuery

/-- What requests and statements write for a column, and the kind of its values. -/
structure ColumnRow where
  name : String
  qualified : String
  type : ValueType

namespace Column

def row : Column → ColumnRow
  | .category => ⟨"category", "p.category", .text⟩
  | .country => ⟨"country", "s.country", .text⟩
  | .condition => ⟨"condition", "p.condition", .text⟩
  | .year => ⟨"year", "p.year", .integer⟩
  | .brand => ⟨"brand", "p.brand", .text⟩
  | .productName => ⟨"product_name", "p.product_name", .text⟩
  | .size => ⟨"size", "a.size", .text⟩
  | .price => ⟨"price", "a.price", .float⟩
  | .subprodName => ⟨"subprod_name", "p.subprod_name", .text⟩
  | .version => ⟨"version", "p.version", .text⟩

/-- The columns from the weightiest one on. -/
def catalogue : List Column :=
  [category, country, condition, year, brand, productName, size, price, subprodName, version]

/-- The column that has a name in the catalogue. -/
def listed? (name : String) : Option Column :=
  catalogue.find? fun column => column.row.name = name

/-- The names, aliases and kinds of the columns are those of the catalogue. -/
theorem row_eq (column : Column) :
    column.row = ⟨column.name, column.qualified, column.valueType⟩ := by
  cases column <;> rfl

/-- All columns are in the catalogue, and in descending priority. -/
theorem catalogue_eq :
    catalogue = all ∧ catalogue.Pairwise fun c d => d.priority < c.priority :=
  ⟨rfl, by decide⟩

/-- A name is found as the catalogue lists it. -/
theorem listed?_eq (name : String) :
    listed? name = ofName? name := by
  simp only [listed?, ofName?, catalogue_eq.1, row_eq]

end Column

/-- What statements write for a comparison. -/
def Comparison.signs : List (Comparison × String) :=
  [(eq, "="), (ne, "!="), (gt, ">"), (gte, ">="), (lt, "<"), (lte, "<=")]

/-- The symbols of the comparisons are the signs of the table. -/
theorem Comparison.mem_signs_iff
    {comparison : Comparison} {sign : String} :
    (comparison, sign) ∈ signs ↔ sign = comparison.symbol := by
  cases comparison <;> simp [signs, symbol]

namespace Operator

/-- What requests write for an operator. -/
def codes : List (String × Operator) := [
  ("eq", compare .eq), ("ne", compare .ne), ("gt", compare .gt), ("gte", compare .gte),
  ("lt", compare .lt), ("lte", compare .lte), ("anyOf", anyOf), ("any", anyOf)]

/-- The operator that a code stands for. -/
def coded? (code : String) : Option Operator :=
  (codes.find? fun row => row.1 = code).map Prod.snd

/-- A code is read as the table has it. -/
theorem coded?_eq (code : String) :
    coded? code = ofCode? code := by
  unfold ofCode?
  split
  case h_9 heq hne hgt hgte hlt hlte hanyOf hany =>
      simp [coded?, codes, Ne.symm heq, Ne.symm hne, Ne.symm hgt, Ne.symm hgte, Ne.symm hlt,
        Ne.symm hlte, Ne.symm hanyOf, Ne.symm hany]
  all_goals rfl

end Operator
end FilterQuery
