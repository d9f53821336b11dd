import FilterQuery.Binary64.Layout
import FilterQuery.Json.Value

/-!
# Writing JSON

Two written forms of one tree.  `compact` puts nothing between the tokens; `pretty` starts every
item and member on a line of its own, two spaces deeper than its container, and puts a space after
the colon.  An empty container is its two brackets in both forms.

**Strings** escape the quote, the backslash and the control characters below U+0020, nothing else.

**Numbers.** An integer is its digits.  A finite double is laid out by `doubles`, always with a
point or an exponent, so that it is never taken for an integer; any other double is `null`.
-/

namespace FilterQuery
namespace Json

/-- Doubles stand without an exponent from 0.00001 to below 10000000000000000; otherwise the
exponent carries a sign.  A tie between two shortest decimals goes to the even one. -/
def doubles : Layout where
  positionalFrom := -5
  positionalBelow := 16
  signedExponent := true
  tie := .even

/-- A character inside the quotes of a string. -/
def escaped (c : Char) : List Char :=
  match c with
  | '"' => ['\\', '"']
  | '\\' => ['\\', '\\']
  | '\x08' => ['\\', 'b']
  | '\t' => ['\\', 't']
  | '\n' => ['\\', 'n']
  | '\x0c' => ['\\', 'f']
  | '\r' => ['\\', 'r']
  | c =>
      if c.toNat < 0x10 then ['\\', 'u', '0', '0', '0'] ++ Decimal.hexDigits c.toNat
      else if c.toNat < 0x20 then ['\\', 'u', '0', '0'] ++ Decimal.hexDigits c.toNat
      else [c]

/-- A string between its quotes. -/
def writtenString (s : String) : List Char :=
  '"' :: (s.toList.flatMap escaped ++ ['"'])

/-- The keyword for nothing. -/
def writtenNull : List Char :=
  ['n', 'u', 'l', 'l']

/-- The keyword for a truth value. -/
def writtenBoolean : Bool → List Char
  | true => ['t', 'r', 'u', 'e']
  | false => ['f', 'a', 'l', 's', 'e']

/-- A number; a double that is not finite has no written form of its own. -/
def writtenNumber : Number → List Char
  | .integer n => (Decimal.integerText n).toList
  | .float (.finite negative x) => (doubles.write negative x).toList
  | .float _ => writtenNull

mutual

/-- The characters of a value with nothing between the tokens. -/
def compactChars : Json → List Char
  | .null => writtenNull
  | .boolean b => writtenBoolean b
  | .number n => writtenNumber n
  | .string s => writtenString s
  | .array items => '[' :: (compactItems items ++ [']'])
  | .object members => '{' :: (compactMembers members ++ ['}'])

/-- The items of an array with commas between them. -/
def compactItems : List Json → List Char
  | [] => []
  | [x] => compactChars x
  | x :: y :: rest => compactChars x ++ ',' :: compactItems (y :: rest)

/-- The members of an object with commas between them. -/
def compactMembers : List (String × Json) → List Char
  | [] => []
  | [(k, x)] => writtenString k ++ ':' :: compactChars x
  | (k, x) :: y :: rest =>
      writtenString k ++ ':' :: (compactChars x ++ ',' :: compactMembers (y :: rest))

end

/-- A line break and the indentation of a depth. -/
def newLine (depth : Nat) : List Char :=
  '\n' :: List.replicate (2 * depth) ' '

mutual

/-- The characters of a value that stands at a depth, one item or member to a line. -/
def prettyChars (depth : Nat) : Json → List Char
  | .null => writtenNull
  | .boolean b => writtenBoolean b
  | .number n => writtenNumber n
  | .string s => writtenString s
  | .array [] => ['[', ']']
  | .array (x :: rest) =>
      '[' :: (newLine (depth + 1) ++ prettyItems (depth + 1) (x :: rest) ++ newLine depth ++ [']'])
  | .object [] => ['{', '}']
  | .object (x :: rest) =>
      '{' :: (newLine (depth + 1) ++ prettyMembers (depth + 1) (x :: rest)
        ++ newLine depth ++ ['}'])

/-- The items of an array, each but the first on a new line. -/
def prettyItems (depth : Nat) : List Json → List Char
  | [] => []
  | [x] => prettyChars depth x
  | x :: y :: rest => prettyChars depth x ++ ',' :: (newLine depth ++ prettyItems depth (y :: rest))

/-- The members of an object, each but the first on a new line. -/
def prettyMembers (depth : Nat) : List (String × Json) → List Char
  | [] => []
  | [(k, x)] => writtenString k ++ ':' :: ' ' :: prettyChars depth x
  | (k, x) :: y :: rest =>
      writtenString k ++ ':' :: ' ' ::
        (prettyChars depth x ++ ',' :: (newLine depth ++ prettyMembers depth (y :: rest)))

end

/-- A value with nothing between the tokens. -/
def compact (v : Json) : String :=
  String.ofList (compactChars v)

/-- A value with one item or member to a line. -/
def pretty (v : Json) : String :=
  String.ofList (prettyChars 0 v)

end Json
end FilterQuery
