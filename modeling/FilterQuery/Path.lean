import FilterQuery.Text.Blank

/-!
# Paths

Texts that name files.  A path is absolute when it begins with a slash.

**Expansion.** A path as a user writes it is trimmed; then `~` alone and `~/` at its front stand for
the home directory, and what is still relative is taken from the current directory.  Without a home
directory a tilde is a character like any other.  The names `.` and `..` are kept as written.
-/

namespace FilterQuery

/-- The directories that paths are taken from; there need not be a home directory. -/
structure Places where
  home? : Option String
  current : String
deriving DecidableEq

/-- The home directory, or an empty text. -/
def Places.home (places : Places) : String :=
  places.home?.getD ""

namespace Path

/-- Whether a path begins at the root. -/
def isAbsolute : List Char → Bool
  | '/' :: _ => true
  | _ => false

/-- A path taken from a directory: an absolute path is its own, any other comes behind the directory
and a slash. -/
def joined (directory path : List Char) : List Char :=
  if isAbsolute path then path
  else if directory = [] ∨ directory.getLast? = some '/' then directory ++ path
  else directory ++ '/' :: path

/-- A path taken from a directory. -/
def join (directory path : String) : String :=
  String.ofList (joined directory.toList path.toList)

/-- A path with the home directory, if there is one, in the place of a tilde that stands alone or
before a slash. -/
def withHome (home? : Option (List Char)) (path : List Char) : List Char :=
  match home?, path with
  | some home, ['~'] => home
  | some home, '~' :: '/' :: rest => joined home rest
  | _, path => path

/-- The path that a trimmed text stands for. -/
def expanded (home? : Option (List Char)) (current path : List Char) : List Char :=
  if path = [] then current else joined current (withHome home? path)

/-- The path that a user means by a text. -/
def expand (places : Places) (path : String) : String :=
  String.ofList
    (expanded (places.home?.map String.toList) places.current.toList (Text.trimmed path.toList))

/-- The pieces of a path between its slashes, empty ones included. -/
def pieces : List Char → List (List Char)
  | [] => [[]]
  | c :: s =>
      if c = '/' then [] :: pieces s
      else
        match pieces s with
        | [] => [[c]]
        | p :: ps => (c :: p) :: ps

/-- The names that lead to a file: the pieces of its path without the empty ones and those that stay
where they are.  That goes for a `.` at the front of a relative path too, although it tells such a
path from one that begins with a name. -/
def components (path : List Char) : List (List Char) :=
  (pieces path).filter fun p => p ≠ [] ∧ p ≠ ['.']

/-- The directories above an absolute path, nearest first. -/
def above (path : List Char) : List (List Char) :=
  let names := components path
  (List.range names.length).reverse.map fun n =>
    (names.take n).flatMap (fun name => '/' :: name) ++ if n = 0 then ['/'] else []

end Path
end FilterQuery
