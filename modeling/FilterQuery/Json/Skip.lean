import FilterQuery.Json.Reader

/-!
# Skipping JSON values

Passing over a value that nobody asked for.  Its syntax is checked; the size of its numbers, the
pairing of its surrogates and its depth are not.

**Algorithm.** The containers that are open are kept in a list, innermost first, so that any depth
is walked in one loop (`skipFrom`).  Each round takes a token or opens the first item of an
array, which gives the bound of `skipValue`.
-/

namespace FilterQuery
namespace Json

/-- Passes over the digits at the front, of which there must be at least one. -/
def skipDigits (s : List Char) : Except Problem (List Char) :=
  match s with
  | [] => .error .invalidNumber
  | c :: r => if c.isDigit then .ok (r.dropWhile Char.isDigit) else .error .invalidNumber

/-- Passes over an exponent, if there is one. -/
def skipExponent (s : List Char) : Except Problem (List Char) :=
  match s with
  | [] => .ok []
  | c :: r =>
      if c = 'e' ∨ c = 'E' then
        match r with
        | '+' :: r => skipDigits r
        | '-' :: r => skipDigits r
        | r => skipDigits r
      else .ok (c :: r)

/-- Passes over a fraction and an exponent, if they are there. -/
def skipFraction (s : List Char) : Except Problem (List Char) :=
  match s with
  | '.' :: r => do
      let r ← skipDigits r
      skipExponent r
  | r => skipExponent r

/-- Passes over a number from behind its sign. -/
def skipNumber (s : List Char) : Except Problem (List Char) :=
  match s with
  | '0' :: r =>
      if (r.head?.map Char.isDigit).getD false then .error .invalidNumber else skipFraction r
  | r => do
      let r ← skipDigits r
      skipFraction r

/-- Passes over what follows a backslash. -/
def skipEscape (s : List Char) : Except Problem (List Char) :=
  match s with
  | [] => .error .endInString
  | c :: r =>
      if (letterEscape? c).isSome then .ok r
      else if c = 'u' then do
        let (_, r) ← hexUnit r
        return r
      else .error .invalidEscape

theorem length_skipEscape_lt
    {s r : List Char}
    (h : skipEscape s = .ok r) :
    r.length < s.length := by
  unfold skipEscape at h
  split at h
  · simp at h
  · split at h
    · simp only [Except.ok.injEq] at h
      subst h
      simp
    · split at h
      · rename_i s _ _
        cases hunit : hexUnit s with
        | error e =>
            simp [hunit, bind, Except.bind] at h
        | ok p =>
            have hlt := length_hexUnit_lt (s := s) (n := p.1) (r := p.2) (by simpa using hunit)
            simp [hunit, bind, Except.bind, pure, Except.pure] at h
            subst h
            simp only [List.length_cons]
            omega
      · simp at h

/-- Passes over a string from behind its opening quote. -/
def skipString (s : List Char) : Except Problem (List Char) :=
  match s with
  | [] => .error .endInString
  | c :: s =>
      if c = '"' then .ok s
      else if c = '\\' then
        match h : skipEscape s with
        | .error e => .error e
        | .ok r =>
            have : r.length < s.length := length_skipEscape_lt h
            skipString r
      else if c.toNat < 0x20 then .error .controlCharacter
      else skipString s
termination_by s.length

/-- Passes over a value that is no container, from its first character on. -/
def skipScalar (s : List Char) : Except Problem (List Char) :=
  match s with
  | [] => .error .endInValue
  | 'n' :: r => keyword ['u', 'l', 'l'] r
  | 't' :: r => keyword ['r', 'u', 'e'] r
  | 'f' :: r => keyword ['a', 'l', 's', 'e'] r
  | '"' :: r => skipString r
  | '-' :: r => skipNumber r
  | c :: r => if c.isDigit then skipNumber (c :: r) else .error .expectedValue

/-- The two kinds of container. -/
inductive Container where
  | array
  | object
deriving DecidableEq

namespace Container

/-- The bracket that closes a container. -/
def closing : Container → Char
  | .array => ']'
  | .object => '}'

/-- The problem of a text that ends inside a container. -/
def unfinished : Container → Problem
  | .array => .endInList
  | .object => .endInObject

/-- The problem of an item that is followed neither by a comma nor by the end of its container. -/
def expectedEnd : Container → Problem
  | .array => .expectedListEnd
  | .object => .expectedObjectEnd

/-- Passes over what stands before a value in a container: nothing in an array, a name and a colon
in an object. -/
def skipName (container : Container) (s : List Char) : Except Problem (List Char) :=
  match container with
  | .array => .ok s
  | .object =>
      match skipBlanks s with
      | [] => .error .endInObject
      | '"' :: r => do
          let r ← skipString r
          colon r
      | _ => .error .keyNotString

end Container

/-- What is due while a value is passed over. -/
inductive Due where
  /-- A value. -/
  | value
  /-- The first item of the innermost container, or its end. -/
  | first
  /-- A comma before the next item of the innermost container, or its end. -/
  | next

/-- Passes over the rest of a value of which `containers` are open. -/
def skipFrom : Nat → Due → List Container → List Char → Except Problem (List Char)
  | 0, _, _, _ => .error .endInValue
  | bound + 1, .value, containers, s =>
      match skipBlanks s with
      | '[' :: r => skipFrom bound .first (.array :: containers) r
      | '{' :: r => skipFrom bound .first (.object :: containers) r
      | r =>
          match skipScalar r with
          | .error e => .error e
          | .ok r => skipFrom bound .next containers r
  | _ + 1, .first, [], s => .ok s
  | bound + 1, .first, c :: outer, s =>
      match skipBlanks s with
      | [] => .error c.unfinished
      | d :: r =>
          if d = c.closing then skipFrom bound .next outer r
          else
            match c.skipName (d :: r) with
            | .error e => .error e
            | .ok r => skipFrom bound .value (c :: outer) r
  | _ + 1, .next, [], s => .ok s
  | bound + 1, .next, c :: outer, s =>
      match skipBlanks s with
      | [] => .error c.unfinished
      | d :: r =>
          if d = ',' then
            match c.skipName r with
            | .error e => .error e
            | .ok r => skipFrom bound .value (c :: outer) r
          else if d = c.closing then skipFrom bound .next outer r
          else .error c.expectedEnd

/-- Passes over a value, in a text that has fewer than `bound` characters left. -/
def skipValue (bound : Nat) (s : List Char) : Except Problem (List Char) :=
  skipFrom (2 * bound) .value [] s

end Json
end FilterQuery
