import FilterQuery.Decimal.Digits
import FilterQuery.Text.Extending
import FilterQuery.Text.Unprintable

/-!
# Quoted text

A text in double quotes in which every character can be read: the quote and the backslash are
escaped, as are tab, line feed, carriage return and NUL, and a character that shows nothing of its
own or attaches to its neighbour is written by its number.
-/

namespace FilterQuery
namespace Text

/-- A character by its number, in hexadecimal digits between braces. -/
def numbered (c : Char) : List Char :=
  ['\\', 'u', '\x7b'] ++ Decimal.hexDigits c.toNat ++ ['\x7d']

/-- A character inside double quotes. -/
def quotedChar (c : Char) : List Char :=
  match c with
  | '"' => ['\\', '"']
  | '\\' => ['\\', '\\']
  | '\t' => ['\\', 't']
  | '\r' => ['\\', 'r']
  | '\n' => ['\\', 'n']
  | '\x00' => ['\\', '0']
  | c => if isExtending c || isUnprintable c then numbered c else [c]

/-- A text between double quotes. -/
def quoted (s : String) : String :=
  String.ofList ('"' :: s.toList.flatMap quotedChar ++ ['"'])

end Text
end FilterQuery
