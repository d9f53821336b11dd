/-!
# Operators

The tests that a filter may make: a comparison with one value, or equality with any of several.

**Results.**
* `ofCode?_code`: the code of an operator is read as that operator.
-/

namespace FilterQuery

/-- A comparison with one value. -/
inductive Comparison where
  | eq
  | ne
  | gt
  | gte
  | lt
  | lte
deriving DecidableEq

namespace Comparison

/-- The code of a comparison in filters. -/
def code : Comparison → String
  | .eq => "eq"
  | .ne => "ne"
  | .gt => "gt"
  | .gte => "gte"
  | .lt => "lt"
  | .lte => "lte"

/-- The symbol of a comparison in statements. -/
def symbol : Comparison → String
  | .eq => "="
  | .ne => "!="
  | .gt => ">"
  | .gte => ">="
  | .lt => "<"
  | .lte => "<="

theorem symbol_injective
    {c d : Comparison}
    (h : c.symbol = d.symbol) :
    c = d := by
  cases c <;> cases d <;> simp_all [symbol]

end Comparison

/-- The test that a filter makes. -/
inductive Operator where
  | compare (comparison : Comparison)
  | anyOf
deriving DecidableEq

namespace Operator

/-- The code of an operator in filters. -/
def code : Operator → String
  | .compare c => c.code
  | .anyOf => "anyOf"

/-- The symbol of an operator in statements; equality with any of several values has none. -/
def symbol? : Operator → Option String
  | .compare c => some c.symbol
  | .anyOf => none

/-- The operator of a code; `any` is another code of `anyOf`. -/
def ofCode? (code : String) : Option Operator :=
  match code with
  | "eq" => some (.compare .eq)
  | "ne" => some (.compare .ne)
  | "gt" => some (.compare .gt)
  | "gte" => some (.compare .gte)
  | "lt" => some (.compare .lt)
  | "lte" => some (.compare .lte)
  | "anyOf" => some .anyOf
  | "any" => some .anyOf
  | _ => none

theorem ofCode?_code (op : Operator) :
    ofCode? op.code = some op := by
  rcases op with c | _
  · cases c <;> rfl
  · rfl

end Operator
end FilterQuery
