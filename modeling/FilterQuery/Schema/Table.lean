/-!
# Tables and value types

The three tables of the product catalogue and the three kinds of value that their columns hold.
-/

namespace FilterQuery

/-- A table of the product catalogue. -/
inductive Table where
  | shops
  | products
  | productAttributes
deriving DecidableEq

namespace Table

/-- All tables. -/
def all : List Table :=
  [.shops, .products, .productAttributes]

/-- The name of a table in the database. -/
def name : Table → String
  | .shops => "shops"
  | .products => "products"
  | .productAttributes => "product_attributes"

/-- The alias under which every statement refers to a table. -/
def qualifier : Table → String
  | .shops => "s"
  | .products => "p"
  | .productAttributes => "a"

end Table

/-- The kind of value that a column holds. -/
inductive ValueType where
  | text
  | integer
  | float
deriving DecidableEq

namespace ValueType

/-- The name of a kind of value in data. -/
def name : ValueType → String
  | .text => "text"
  | .integer => "integer"
  | .float => "float"

/-- The name of a kind of value in messages. -/
def description : ValueType → String
  | .text => "text"
  | .integer => "integer"
  | .float => "floating-point"

end ValueType
end FilterQuery
