import FilterQuery.Json.Scanner

/-!
# Reading JSON

Readers for arrays, objects and whole values.  A reader takes the characters that are left and
returns what it read with the characters behind it, or the first problem.

**Containers.** `foldItems` and `foldMembers` run a reader over the items of an array and over the
members of an object; they are shared by the reader of untyped values (`readValue`) and by the
readers of documents with a fixed form, so all of them meet the same problems at the same places.
Their bound is the number of items they may visit; no text has more items than characters.

**Depth.** `readValue` is given the number of containers that it may still open.
-/

namespace FilterQuery
namespace Json

/-- Where a container stands after an item: closed, or before its next item. -/
inductive Next where
  | closed (rest : List Char)
  | item (rest : List Char)

/-- Looks for the next item of an array. -/
def nextItem (first : Bool) (s : List Char) : Except Problem Next :=
  match skipBlanks s with
  | [] => .error .endInList
  | ']' :: r => .ok (.closed r)
  | c :: r =>
      if first then .ok (.item (c :: r))
      else if c = ',' then
        match skipBlanks r with
        | [] => .error .endInValue
        | ']' :: _ => .error .trailingComma
        | r => .ok (.item r)
      else .error .expectedListEnd

/-- Looks for the next member of an object; the rest begins behind the quote that opens its name. -/
def nextMember (first : Bool) (s : List Char) : Except Problem Next :=
  match skipBlanks s with
  | [] => .error .endInObject
  | '}' :: r => .ok (.closed r)
  | c :: r =>
      if first then
        if c = '"' then .ok (.item r) else .error .keyNotString
      else if c = ',' then
        match skipBlanks r with
        | [] => .error .endInValue
        | '"' :: r => .ok (.item r)
        | '}' :: _ => .error .trailingComma
        | _ => .error .keyNotString
      else .error .expectedObjectEnd

/-- Reads the colon behind the name of a member. -/
def colon (s : List Char) : Except Problem (List Char) :=
  match skipBlanks s with
  | [] => .error .endInObject
  | ':' :: r => .ok r
  | _ => .error .expectedColon

/-- Reads the end of an array whose expected items have all been read. -/
def endArray (s : List Char) : Except Problem (List Char) :=
  match skipBlanks s with
  | [] => .error .endInList
  | ']' :: r => .ok r
  | ',' :: r =>
      match skipBlanks r with
      | ']' :: _ => .error .trailingComma
      | _ => .error .trailingCharacters
  | _ => .error .trailingCharacters

/-- The end of a text behind its value: blanks only. -/
def endText (s : List Char) : Except Problem Unit :=
  match skipBlanks s with
  | [] => .ok ()
  | _ => .error .trailingCharacters

section Fold

variable {σ : Type}

/-- Folds a reader over the items of an array, from behind its opening bracket or an item. -/
def foldItems (step : σ → List Char → Except Problem (σ × List Char)) :
    Nat → Bool → σ → List Char → Except Problem (σ × List Char)
  | 0, _, _, _ => .error .endInList
  | bound + 1, first, state, s =>
      match nextItem first s with
      | .error e => .error e
      | .ok (.closed r) => .ok (state, r)
      | .ok (.item r) =>
          match step state r with
          | .error e => .error e
          | .ok (state, r) => foldItems step bound false state r

/-- Folds a reader over the members of an object, from behind its opening brace or a member.  The
reader is given the name and starts before the colon. -/
def foldMembers (step : σ → String → List Char → Except Problem (σ × List Char)) :
    Nat → Bool → σ → List Char → Except Problem (σ × List Char)
  | 0, _, _, _ => .error .endInObject
  | bound + 1, first, state, s =>
      match nextMember first s with
      | .error e => .error e
      | .ok (.closed r) => .ok (state, r)
      | .ok (.item r) =>
          match readString r with
          | .error e => .error e
          | .ok (name, r) =>
              match step state name r with
              | .error e => .error e
              | .ok (state, r) => foldMembers step bound false state r

end Fold

section Collect

variable {α : Type}

/-- Reads the items of an array, from behind its opening bracket. -/
def readItems (item : List Char → Except Problem (α × List Char)) (bound : Nat)
    (s : List Char) : Except Problem (List α × List Char) := do
  let step (acc : List α) (s : List Char) := do
    let (x, s) ← item s
    return (x :: acc, s)
  let (acc, s) ← foldItems step bound true [] s
  return (acc.reverse, s)

/-- Reads the members of an object, from behind its opening brace. -/
def readMembers (member : List Char → Except Problem (α × List Char)) (bound : Nat)
    (s : List Char) : Except Problem (List (String × α) × List Char) := do
  let step (acc : List (String × α)) (name : String) (s : List Char) := do
    let s ← colon s
    let (x, s) ← member s
    return ((name, x) :: acc, s)
  let (acc, s) ← foldMembers step bound true [] s
  return (acc.reverse, s)

end Collect

/-- Reads a value that is no container, from its first character on. -/
def readScalar (s : List Char) : Except Problem (Json × List Char) :=
  match s with
  | [] => .error .endInValue
  | 'n' :: r => do
      let r ← keyword ['u', 'l', 'l'] r
      return (.null, r)
  | 't' :: r => do
      let r ← keyword ['r', 'u', 'e'] r
      return (.boolean true, r)
  | 'f' :: r => do
      let r ← keyword ['a', 'l', 's', 'e'] r
      return (.boolean false, r)
  | '"' :: r => do
      let (text, r) ← readString r
      return (.string text, r)
  | c :: r =>
      if c = '-' ∨ c.isDigit then do
        let (n, r) ← readNumber (c :: r)
        return (.number n, r)
      else .error .expectedValue

/-- Reads a value that may open so many containers, one inside the other. -/
def readValue (bound : Nat) (depth : Nat) (s : List Char) : Except Problem (Json × List Char) :=
  match skipBlanks s with
  | '[' :: r =>
      match depth with
      | 0 => .error .tooDeep
      | depth + 1 => do
          let (items, r) ← readItems (readValue bound depth) bound r
          return (.array items, r)
  | '{' :: r =>
      match depth with
      | 0 => .error .tooDeep
      | depth + 1 => do
          let (members, r) ← readMembers (readValue bound depth) bound r
          return (.object members, r)
  | r => readScalar r
termination_by structural depth

/-- The number of containers that may be open at once in a text. -/
def maxDepth : Nat := 127

/-- The problem that a value of another kind stands at a place.  A scalar is read first, so that its
own problems come before. -/
def mismatch (expected : String) (s : List Char) : Problem :=
  match s with
  | '[' :: _ => .wrongType .sequence expected
  | '{' :: _ => .wrongType .map expected
  | s =>
      match readScalar s with
      | .error e => e
      | .ok (.null, _) => .wrongType .null expected
      | .ok (.boolean b, _) => .wrongType (.boolean b) expected
      | .ok (.number n, _) => .wrongType (.number n) expected
      | .ok (.string t, _) => .wrongType (.string t) expected
      | .ok (.array _, _) => .wrongType .sequence expected
      | .ok (.object _, _) => .wrongType .map expected

/-- Reads a string where nothing else may stand. -/
def expectString (s : List Char) : Except Problem (String × List Char) :=
  match skipBlanks s with
  | '"' :: r => readString r
  | r => .error (mismatch "a string" r)

end Json
end FilterQuery
