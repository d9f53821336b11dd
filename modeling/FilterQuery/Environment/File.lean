import FilterQuery.Disk.Basic
import FilterQuery.Environment.Basic
import FilterQuery.Environment.Lines
import FilterQuery.Path
import FilterQuery.Text.Alphanumeric

/-!
# Variables files

A variables file gives values to variables that have none yet.  Each entry is `NAME=value`, with an
optional `export` before it; an entry without a name is empty or a comment.

**Values.** Single quotes keep everything as it is.  In double quotes and outside quotes a backslash
keeps the next character, or makes a line feed of an `n`, and `$NAME` or a name in braces behind the
dollar stands for the value of a variable.  Outside quotes a blank ends the value, and nothing but a
comment may follow.

**Errors.** The first entry that is malformed ends the file silently; those before it count.  A
value that its variable cannot hold is no such entry: it leaves no environment at all.
-/

namespace FilterQuery
namespace Environment

/-- What is being read of a value. -/
inductive ValuePart where
  | plain
  | escaped
  | single
  | name (reversed : List Char)
  | bracedName (reversed : List Char)
  /-- Behind the value. -/
  | behind
  /-- In the comment behind the value. -/
  | comment
deriving DecidableEq

/-- The value that has been read so far, last character first. -/
structure ValueScan where
  reversed : List Char
  inDouble : Bool
  part : ValuePart

namespace ValueScan

/-- Adds a character to the value. -/
def push (v : ValueScan) (c : Char) : ValueScan :=
  { v with reversed := c :: v.reversed, part := .plain }

/-- Adds the value of a variable, whose name is given last character first. -/
def substitute (env : Environment) (v : ValueScan) (reversed : List Char) : ValueScan :=
  let value := (env.get? (String.ofList reversed.reverse)).getD ""
  { v with reversed := value.toList.reverse ++ v.reversed, part := .plain }

/-- A character that stands for itself or begins something, outside single quotes. -/
def plain (v : ValueScan) (c : Char) : ValueScan :=
  if c = '$' then { v with part := .name [] }
  else if c = '\\' then { v with part := .escaped }
  else if c = '"' then { v with inDouble := !v.inDouble }
  else if v.inDouble then v.push c
  else if c = '\'' then { v with part := .single }
  else if c = ' ' ∨ c = '\t' then { v with part := .behind }
  else v.push c

/-- The effect of a character, unless it is an error. -/
def next (env : Environment) (v : ValueScan) (c : Char) : Option ValueScan :=
  match v.part with
  | .comment => some v
  | .behind =>
      if c = ' ' ∨ c = '\t' then some v
      else if c = '#' then some { v with part := .comment }
      else none
  | .escaped =>
      if c = '\\' ∨ c = '\'' ∨ c = '"' ∨ c = '$' ∨ c = ' ' then some (v.push c)
      else if c = 'n' then some (v.push '\n')
      else none
  | .single => some (if c = '\'' then { v with part := .plain } else
      { v with reversed := c :: v.reversed })
  | .name reversed =>
      if Text.isAlphanumeric c then some { v with part := .name (c :: reversed) }
      else if c = '\x7b' ∧ reversed = [] then some { v with part := .bracedName [] }
      else
        let v := v.substitute env reversed
        some (if c = '$' then { v with part := .name [] } else v.push c)
  | .bracedName reversed =>
      if c = '\x7d' then some (v.substitute env reversed)
      else some { v with part := .bracedName (c :: reversed) }
  | .plain => some (v.plain c)

/-- The value that has been read, unless it is still open. -/
def finish (env : Environment) (v : ValueScan) : Option String :=
  if v.inDouble then none
  else
    match v.part with
    | .single => none
    | .bracedName _ => none
    | .name reversed => some (String.ofList (v.substitute env reversed).reversed.reverse)
    | _ => some (String.ofList v.reversed.reverse)

end ValueScan

/-- The value that a text spells. -/
def value? (env : Environment) (s : List Char) : Option String := do
  let v ← s.foldlM (ValueScan.next env) ⟨[], false, .plain⟩
  v.finish env

/-- The characters from the first that is not blank on. -/
def skipBlanks (s : List Char) : List Char :=
  s.dropWhile Text.isBlank

/-- Whether a character may begin a name. -/
def beginsName (c : Char) : Bool :=
  c.isAlpha || c = '_'

/-- Whether a character may stand in a name. -/
def isNameChar (c : Char) : Bool :=
  c.isAlphanum || c = '_' || c = '.'

/-- Reads a name and the blanks behind it. -/
def name? (s : List Char) : Option (String × List Char) :=
  if (s.head?.map beginsName).getD false then
    some (String.ofList (s.takeWhile isNameChar), skipBlanks (s.dropWhile isNameChar))
  else none

/-- Reads a name, possibly behind the word `export`, up to behind its equals sign. -/
def assigned? (s : List Char) : Option (String × List Char) := do
  let (name, s) ← name? s
  match s with
  | '=' :: s => return (name, s)
  | s =>
      if name = "export" then
        match ← name? s with
        | (name, '=' :: s) => return (name, s)
        | _ => none
      else none

/-- The variable of an entry: none if the entry is malformed, none inside if it is empty. -/
def assignment? (env : Environment) (entry : List Char) : Option (Option (String × String)) :=
  let s := Text.trimmed entry
  match s with
  | [] => some none
  | '#' :: _ => some none
  | s => do
      let (name, s) ← assigned? s
      match skipBlanks s with
      | [] => return some (name, "")
      | '#' :: _ => return some (name, "")
      | s => return some (name, ← value? env s)

/-- The environment with the variables of a list of entries, if they can hold their values. -/
def withEntries? (env : Environment) : List (Option (List Char)) → Option Environment
  | [] => some env
  | none :: _ => some env
  | some entry :: rest =>
      match assignment? env entry with
      | none => some env
      | some none => withEntries? env rest
      | some (some (name, value)) =>
          match env.setIfAbsent? name value with
          | none => none
          | some env => withEntries? env rest

/-- The environment with the variables of a file, if they can hold their values. -/
def withFile? (env : Environment) (bytes : ByteArray) : Option Environment :=
  env.withEntries? (entries (linesOf bytes))

/-- The name of a variables file. -/
def fileName : String := ".env"

/-- Where a variables file is looked for: in a directory and in those above it. -/
def candidates (directory : String) : List String :=
  (directory.toList :: Path.above directory.toList).map fun d =>
    Path.join (String.ofList d) fileName

/-- The first file among some paths; a path that is not merely missing or a directory ends the
search. -/
def findFile (disk : Disk) : List String → Option ByteArray
  | [] => none
  | path :: rest =>
      match disk.status path with
      | .file bytes => some bytes
      | .directory => findFile disk rest
      | .absent .notFound => findFile disk rest
      | .absent _ => none

/-- The environment with the variables of the nearest file, if they can hold their values. -/
def load? (env : Environment) (disk : Disk) (directory : String) : Option Environment :=
  match findFile disk (candidates directory) with
  | some bytes => env.withFile? bytes
  | none => some env

end Environment
end FilterQuery
