import FilterQuery.FilterMap.Basic
import FilterQuery.Json.Skip
import FilterQuery.QueryError

/-!
# Payloads

A filter map as it is sent: a JSON object from names to lists of entries.

**Entries.** An entry is an object with the members `op`, a string, and `values` or `value`, a
string or an array of strings; members of other names are passed over.  It may also be an array of
exactly two items, the values and the operator.

**Limits.** A payload has at most `maxBytes` bytes of UTF-8, checked before it is read, and at most
`maxFilters` different names, checked after it was read.  Of two members with one name the later
counts.

**Errors.** A payload is read from left to right and the first problem is reported, be it bad syntax
or a value of the wrong kind.
-/

namespace FilterQuery
namespace Payload

open Json

/-- The largest size of a payload in bytes. -/
def maxBytes : Nat := 65536

/-- The largest number of filters in a payload. -/
def maxFilters : Nat := 50

/-- What an entry is called in messages. -/
def entryName : String := "struct SearchValAndOp"

/-- The number of containers that are open around the values of an entry: the map, the list of
entries and the entry. -/
def entryDepth : Nat := 3

/-- Reads the values of an entry: one string, or an array of strings.  The value is read whole
before its kind is looked at. -/
def readValues (bound : Nat) (s : List Char) : Except Problem (List String × List Char) := do
  let (v, s) ← readValue bound (maxDepth - entryDepth) s
  match v.text?, v.texts? with
  | some text, _ => return ([text], s)
  | none, some texts => return (texts, s)
  | none, none => throw (.noVariant "OneOrMany")

/-- The parts of an entry that have been read so far. -/
structure Parts where
  values : Option (List String)
  operator : Option String

/-- Reads a member of an entry from behind its name.  No part may come twice. -/
def readPart (bound : Nat) (parts : Parts) (name : String) (s : List Char) :
    Except Problem (Parts × List Char) :=
  if name = "values" ∨ name = "value" then
    match parts.values with
    | some _ => .error (.duplicateField "values")
    | none => do
        let s ← colon s
        let (values, s) ← readValues bound s
        return ({ parts with values := some values }, s)
  else if name = "op" then
    match parts.operator with
    | some _ => .error (.duplicateField "op")
    | none => do
        let s ← colon s
        let (operator, s) ← expectString s
        return ({ parts with operator := some operator }, s)
  else do
    let s ← colon s
    let s ← skipValue bound s
    return (parts, s)

/-- Both parts of an entry, or the problem that one is missing. -/
def Parts.entry (parts : Parts) : Except Problem FilterEntry :=
  match parts.values, parts.operator with
  | some values, some operator => .ok ⟨values, operator⟩
  | some _, none => .error (.missingField "op")
  | none, _ => .error (.missingField "values")

/-- The problem of an entry written as an array of fewer than two items. -/
def tooShort (count : Nat) : Problem :=
  .wrongLength count (entryName ++ " with 2 elements")

/-- Reads an entry written as an array, from behind its opening bracket. -/
def readPair (bound : Nat) (s : List Char) : Except Problem (FilterEntry × List Char) := do
  match ← nextItem true s with
  | .closed _ => throw (tooShort 0)
  | .item s => do
      let (values, s) ← readValues bound s
      match ← nextItem false s with
      | .closed _ => throw (tooShort 1)
      | .item s => do
          let (operator, s) ← expectString s
          let s ← endArray s
          return (⟨values, operator⟩, s)

/-- Reads an entry. -/
def readEntry (bound : Nat) (s : List Char) : Except Problem (FilterEntry × List Char) :=
  match skipBlanks s with
  | '[' :: r => readPair bound r
  | '{' :: r => do
      let (parts, r) ← foldMembers (readPart bound) bound true ⟨none, none⟩ r
      let entry ← parts.entry
      return (entry, r)
  | r => .error (mismatch entryName r)

/-- Reads the entries of a filter. -/
def readEntries (bound : Nat) (s : List Char) :
    Except Problem (List FilterEntry × List Char) :=
  match skipBlanks s with
  | '[' :: r => readItems (readEntry bound) bound r
  | r => .error (mismatch "a sequence" r)

/-- Reads the filters of a payload, in written order. -/
def readFilters (bound : Nat) (s : List Char) : Except Problem (List Filter × List Char) :=
  match skipBlanks s with
  | '{' :: r => do
      let (members, r) ← readMembers (readEntries bound) bound r
      return (members.map fun (name, entries) => ⟨name, entries⟩, r)
  | r => .error (mismatch "a map" r)

/-- Reads a text that holds a payload and nothing else. -/
def readText (s : List Char) : Except Problem (List Filter) := do
  let (filters, s) ← readFilters (s.length + 1) s
  endText s
  return filters

end Payload

namespace FilterMap

/-- The filter map of a payload. -/
def parse (payload : String) : Except QueryError FilterMap :=
  if Payload.maxBytes < payload.utf8ByteSize then .error (.payloadTooLarge Payload.maxBytes)
  else
    match Payload.readText payload.toList with
    | .error problem => .error (.invalidPayload problem.message)
    | .ok filters =>
        let m := ofList filters
        if Payload.maxFilters < m.size then .error (.tooManyFilters Payload.maxFilters) else .ok m

end FilterMap
end FilterQuery
