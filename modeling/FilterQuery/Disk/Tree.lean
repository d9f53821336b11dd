import FilterQuery.Disk.Basic
import FilterQuery.Path

/-!
# Trees of files

A disk given by a tree of named directories and files.

**Walk.** A path is followed name by name from the root.  Every step, also one that goes nowhere
(an empty name or `.`), starts from a directory, so a slash behind the name of a file is an error;
`..` goes back to the directory above, and the root is above itself.
-/

namespace FilterQuery

/-- A file, or a directory with what it contains. -/
inductive Tree where
  | file (bytes : ByteArray)
  | directory (children : List (String × Tree))

namespace Tree

/-- The directory without contents. -/
def empty : Tree :=
  .directory []

/-- What a directory contains under a name. -/
def child? (parent : Tree) (name : String) : Option Tree :=
  match parent with
  | .file _ => none
  | .directory children => (children.find? fun c => c.1 = name).map Prod.snd

/-- Puts a tree under a name, in place of what was there. -/
def setChild (parent : Tree) (name : String) (t : Tree) : Tree :=
  match parent with
  | .file _ => .directory [(name, t)]
  | .directory children => .directory ((name, t) :: children.filter fun c => c.1 ≠ name)

/-- Puts a tree at the end of a list of names, making directories on the way.  An empty directory
leaves a directory that is already there as it is. -/
def insert (new : Tree) : List String → Tree → Tree
  | [], t =>
      match new, t with
      | .directory [], .directory children => .directory children
      | new, _ => new
  | name :: names, t => t.setChild name (insert new names ((t.child? name).getD empty))

/-- Puts a tree where a path leads from the root. -/
def insertAt (root : Tree) (path : String) (new : Tree) : Tree :=
  insert new ((Path.components path.toList).map String.ofList) root

/-- The largest number of bytes in a name. -/
def maxName : Nat := 255

/-- The largest number of bytes in a path. -/
def maxPath : Nat := 4095

/-- The number of bytes of a list of characters in UTF-8. -/
def byteCount (s : List Char) : Nat :=
  s.foldr (fun c n => c.utf8Size + n) 0

/-- Follows the pieces of a path from a place, with the directories above it, nearest first. -/
def walk (above : List Tree) (place : Tree) : List (List Char) → Except ReadFailure Tree
  | [] => .ok place
  | piece :: rest =>
      match place with
      | .file _ => .error .notADirectory
      | .directory _ =>
          if piece = [] ∨ piece = ['.'] then walk above place rest
          else if piece = ['.', '.'] then
            match above with
            | [] => walk [] place rest
            | up :: above => walk above up rest
          else if maxName < byteCount piece then .error .nameTooLong
          else
            match place.child? (String.ofList piece) with
            | none => .error .notFound
            | some t => walk (place :: above) t rest

/-- What an absolute path leads to, from the root. -/
def lookup (root : Tree) (path : String) : Except ReadFailure Tree :=
  let s := path.toList
  if s.contains '\x00' then .error .nulInName
  else if maxPath < byteCount s then .error .nameTooLong
  else walk [] root (Path.pieces s)

/-- The disk of a tree. -/
def toDisk (root : Tree) : Disk where
  status path :=
    match root.lookup path with
    | .error why => .absent why
    | .ok (.directory _) => .directory
    | .ok (.file bytes) => .file bytes

end Tree
end FilterQuery
