import FilterQuery.Json.Skip

/-!
# Settings documents

A settings file is a JSON object.  Its member `query` is null, an object with the member
`rows_per_page`, or an array of exactly that one item; the item is null or a number of 32 bits.

**Unknown members.** Other members of the document are read whole and their names are kept, each
once, in the order of their first appearance; other members of `query` are passed over.  The known
members may not come twice.
-/

namespace FilterQuery

/-- What a settings file says. -/
structure Document where
  /-- The number of rows of a page, if the file gives one. -/
  rows : Option UInt32
  /-- The names of members that mean nothing. -/
  unknown : List String
deriving DecidableEq

namespace Document

open Json

/-- What the number of rows of a page is called in messages. -/
def rowsName : String := "u32"

/-- What the member `query` is called in messages. -/
def queryName : String := "struct QueryFileConfig"

/-- What a document is called in messages. -/
def documentName : String := "struct FileConfig"

/-- The number of rows that a JSON number denotes. -/
def rowsOfNumber (n : Json.Number) : Except Problem UInt32 :=
  match n with
  | .integer k =>
      if 0 ≤ k ∧ k < UInt32.size then .ok (UInt32.ofNat k.toNat)
      else .error (.wrongValue (.number n) rowsName)
  | .float _ => .error (.wrongType (.number n) rowsName)

/-- Reads the number of rows, or null. -/
def readRows (s : List Char) : Except Problem (Option UInt32 × List Char) :=
  match skipBlanks s with
  | 'n' :: r => do
      let r ← keyword ['u', 'l', 'l'] r
      return (none, r)
  | c :: r =>
      if c = '-' ∨ c.isDigit then do
        let (n, r) ← readNumber (c :: r)
        let rows ← rowsOfNumber n
        return (some rows, r)
      else .error (mismatch rowsName (c :: r))
  | [] => .error .endInValue

/-- Reads a member of `query` from behind its name.  The state is the number of rows, if that member
has been read. -/
def readQueryMember (bound : Nat) (rows : Option (Option UInt32)) (name : String)
    (s : List Char) : Except Problem (Option (Option UInt32) × List Char) :=
  if name = "rows_per_page" then
    match rows with
    | some _ => .error (.duplicateField "rows_per_page")
    | none => do
        let s ← colon s
        let (rows, s) ← readRows s
        return (some rows, s)
  else do
    let s ← colon s
    let s ← skipValue bound s
    return (rows, s)

/-- Reads the value of `query`. -/
def readQuery (bound : Nat) (s : List Char) : Except Problem (Option UInt32 × List Char) :=
  match skipBlanks s with
  | 'n' :: r => do
      let r ← keyword ['u', 'l', 'l'] r
      return (none, r)
  | '[' :: r => do
      match ← nextItem true r with
      | .closed _ => throw (.wrongLength 0 (queryName ++ " with 1 element"))
      | .item r => do
          let (rows, r) ← readRows r
          let r ← endArray r
          return (rows, r)
  | '{' :: r => do
      let (rows, r) ← foldMembers (readQueryMember bound) bound true none r
      return (rows.join, r)
  | r => .error (mismatch queryName r)

/-- The members of a document that have been read so far, the unknown ones last first. -/
structure Parts where
  query : Option (Option UInt32)
  unknown : List String

/-- Reads a member of a document from behind its name. -/
def readMember (bound : Nat) (parts : Parts) (name : String) (s : List Char) :
    Except Problem (Parts × List Char) :=
  if name = "query" then
    match parts.query with
    | some _ => .error (.duplicateField "query")
    | none => do
        let s ← colon s
        let (rows, s) ← readQuery bound s
        return ({ parts with query := some rows }, s)
  else do
    let s ← colon s
    let (_, s) ← readValue bound (maxDepth - 1) s
    return ({ parts with unknown := name :: parts.unknown }, s)

/-- Reads a text that holds a document and nothing else. -/
def readText (s : List Char) : Except Problem Document :=
  match skipBlanks s with
  | '{' :: r => do
      let bound := s.length + 1
      let (parts, r) ← foldMembers (readMember bound) bound true ⟨none, []⟩ r
      endText r
      return ⟨parts.query.join, parts.unknown.reverse.eraseDups⟩
  | r => .error (mismatch documentName r)

/-- The document of a text. -/
def parse (text : String) : Except Problem Document :=
  readText text.toList

end Document
end FilterQuery
