/-!
# Placeholders

The question marks of a statement that stand for parameters: those outside string literals.

A quote switches between inside and outside a literal.  Two quotes inside a literal, which stand for
one quote of its text, switch twice and so leave it inside.
-/

namespace FilterQuery
namespace Sql

/-- What has been seen of a text: whether a literal is open, and the placeholders so far. -/
structure Scan where
  inLiteral : Bool
  count : Nat
deriving DecidableEq

namespace Scan

/-- The effect of one more character. -/
def next (scan : Scan) (c : Char) : Scan :=
  if c = '\'' then { scan with inLiteral := !scan.inLiteral }
  else if c = '?' ∧ scan.inLiteral = false then { scan with count := scan.count + 1 }
  else scan

end Scan

/-- The number of placeholders in a list of characters, from outside or inside a literal. -/
def placeholders (inLiteral : Bool) (s : List Char) : Nat :=
  (s.foldl Scan.next ⟨inLiteral, 0⟩).count

/-- The number of placeholders in a text. -/
def countPlaceholders (sql : String) : Nat :=
  placeholders false sql.toList

end Sql
end FilterQuery
