import FilterQuery.Json.Writer
import FilterQuery.Text.Quoted

/-!
# Parameters

The typed values that are bound to the placeholders of a statement, with their form in JSON and
their form in messages.

In a message a text stands in quotes with every unreadable character escaped, and a double has at
least one digit behind its point or an exponent, so the three kinds never look alike.
-/

namespace FilterQuery
namespace Sql

/-- A value bound to a placeholder. -/
inductive Parameter where
  | text (s : String)
  | integer (n : Int64)
  | float (x : Binary64)
deriving DecidableEq

namespace Parameter

/-- In messages, doubles stand without an exponent from 0.0001 to below 10000000000000000, and a
positive exponent carries no sign.  A tie between two shortest decimals goes up. -/
def doubles : Layout where
  positionalFrom := -4
  positionalBelow := 16
  signedExponent := false
  tie := .up

/-- A double in a message. -/
def displayDouble : Binary64 → String
  | .nan => "NaN"
  | .infinite false => "inf"
  | .infinite true => "-inf"
  | .finite negative x => doubles.write negative x

/-- A parameter in a message. -/
def display : Parameter → String
  | .text s => Text.quoted s
  | .integer n => Decimal.integerText n.toInt
  | .float x => displayDouble x

/-- A parameter as data: a string or a number, without a mark of its kind. -/
def toJson : Parameter → Json
  | .text s => .string s
  | .integer n => .number (.integer n.toInt)
  | .float x => .number (.float x)

end Parameter
end Sql
end FilterQuery
