import FilterQuery.Text.Blank

/-!
# Lines of a variables file

The division of a variables file into entries.  An entry is a line, or several lines of which all
but the last end inside quotes, behind a backslash, or in a single blank.

**Comments.** A line whose first visible character is `#` is an empty entry; a `#` right behind a
blank outside quotes ends an entry.

**Errors.** A line that is no text, and an entry that is still open at the end of the file, end the
division with the mark `none`.
-/

namespace FilterQuery
namespace Environment

/-- Where a line stands with respect to quotes. -/
inductive Quoting where
  | outside
  | behindBlank
  | escaped
  | single
  | singleEscaped
  | double
  | doubleEscaped
deriving DecidableEq

namespace Quoting

/-- The effect of a character that begins or ends nothing of its own. -/
def opened (c : Char) : Quoting :=
  if c = '\\' then .escaped
  else if c = '"' then .double
  else if c = '\'' then .single
  else .outside

/-- The effect of a character, other than a `#` behind a blank. -/
def next (q : Quoting) (c : Char) : Quoting :=
  match q with
  | .outside =>
      if Text.isBlank c ∧ c ≠ '\n' ∧ c ≠ '\r' then .behindBlank else opened c
  | .behindBlank => opened c
  | .escaped => .outside
  | .single => if c = '\\' then .singleEscaped else if c = '\'' then .outside else .single
  | .singleEscaped => .single
  | .double => if c = '\\' then .doubleEscaped else if c = '"' then .outside else .double
  | .doubleEscaped => .double

end Quoting

/-- How a line ends: in a state of quoting, or at a comment behind some characters, last first. -/
inductive LineEnd where
  | open (q : Quoting)
  | comment (reversed : List Char)

/-- Follows a line to its end. -/
def endOfLine (q : Quoting) (reversed : List Char) : List Char → LineEnd
  | [] => .open q
  | c :: s =>
      if q = .behindBlank ∧ c = '#' then .comment reversed
      else endOfLine (q.next c) (c :: reversed) s

/-- A line without the break at its end. -/
def withoutBreak (line : List Char) : List Char :=
  match line.reverse with
  | '\n' :: '\r' :: r => r.reverse
  | '\n' :: r => r.reverse
  | _ => line

/-- The entries of a list of lines, from inside an entry that has begun with some characters. -/
def entriesFrom (q : Quoting) (begun : List Char) :
    List (Option (List Char)) → List (Option (List Char))
  | [] => if q = .outside then [] else [none]
  | none :: _ => [none]
  | some line :: rest =>
      let entry := begun ++ line
      if (entry.dropWhile Text.isBlank).head? = some '#' then
        some [] :: entriesFrom .outside [] rest
      else
        match endOfLine q [] line with
        | .comment reversed => some (begun ++ reversed.reverse) :: entriesFrom .outside [] rest
        | .open .outside => some (withoutBreak entry) :: entriesFrom .outside [] rest
        | .open q => entriesFrom q entry rest

/-- The entries of a list of lines. -/
def entries (lines : List (Option (List Char))) : List (Option (List Char)) :=
  entriesFrom .outside [] lines

/-- The lines of a file, each with its break; `line` is the line that has begun, last byte first. -/
def splitLines (line : List UInt8) : List UInt8 → List (List UInt8)
  | [] => if line = [] then [] else [line.reverse]
  | b :: rest =>
      if b = 10 then (b :: line).reverse :: splitLines [] rest else splitLines (b :: line) rest

/-- The bytes of a file without the mark of its encoding. -/
def withoutMark : List UInt8 → List UInt8
  | 0xef :: 0xbb :: 0xbf :: rest => rest
  | bytes => bytes

/-- The text of a line, unless it has none. -/
def lineText? (line : List UInt8) : Option (List Char) :=
  (String.fromUTF8? ⟨line.toArray⟩).map String.toList

/-- The lines of a file as texts. -/
def linesOf (bytes : ByteArray) : List (Option (List Char)) :=
  (splitLines [] (withoutMark bytes.toList)).map lineText?

end Environment
end FilterQuery
