import FilterQuery.Sql.Parameter
import FilterQuery.Sql.Placeholder

/-!
# Statements

A statement is a text with placeholders and the parameters bound to them in order.
-/

namespace FilterQuery
namespace Sql

/-- A text with placeholders and their parameters. -/
structure Statement where
  sql : String
  parameters : List Parameter
deriving DecidableEq

namespace Statement

/-- The number of placeholders in the text. -/
def placeholders (s : Statement) : Nat :=
  countPlaceholders s.sql

/-- Whether there are as many parameters as placeholders. -/
def isConsistent (s : Statement) : Bool :=
  s.placeholders == s.parameters.length

/-- A statement as data. -/
def toJson (s : Statement) : Json :=
  .object [
    ("sql", .string s.sql),
    ("params", .array (s.parameters.map Parameter.toJson))]

/-- A statement in a message: the text, then the parameters in brackets. -/
def display (s : Statement) : String :=
  s.sql ++ " [" ++ ", ".intercalate (s.parameters.map Parameter.display) ++ "]"

end Statement
end Sql
end FilterQuery
