import FilterQuery.Json.Problem

/-!
# Scanning JSON tokens

The tokens of JSON at the front of a list of characters: blanks, keywords, strings and numbers.
Each scanner returns what it read together with the characters that follow, or the first problem.

**Strings.** An escape by number counts UTF-16 units: two of them, a high and a low surrogate, make
one character, and a surrogate on its own is refused.

**Numbers.** The digits of an integer are exact up to 64 bits.  Beyond that, and with a point or an
exponent, the number is the double `significand · 10 ^ exponent`, where the significand keeps only
the leading digits that fit in 64 bits and the power is applied by one rounded multiplication or
division (`Magnitude.scaled?`).

**Results.**
* `length_escapedChar_lt`: an escape leaves less to read than it found.
-/

namespace FilterQuery
namespace Json

/-- The four characters that may stand between tokens. -/
def isBlank (c : Char) : Bool :=
  c = ' ' || c = '\n' || c = '\t' || c = '\r'

/-- The characters from the next token on. -/
def skipBlanks (s : List Char) : List Char :=
  s.dropWhile isBlank

/-- Reads the remaining letters of a keyword. -/
def keyword : List Char → List Char → Except Problem (List Char)
  | [], s => .ok s
  | _ :: _, [] => .error .endInValue
  | c :: cs, d :: s => if c = d then keyword cs s else .error .expectedKeyword

/-- The number that four hexadecimal digits denote. -/
def unit? (a b c d : Char) : Option Nat := do
  let a ← Decimal.hexValue? a
  let b ← Decimal.hexValue? b
  let c ← Decimal.hexValue? c
  let d ← Decimal.hexValue? d
  return ((a * 16 + b) * 16 + c) * 16 + d

/-- Reads four hexadecimal digits.  Fewer than four bytes before the end are an unfinished text,
whatever they are. -/
def hexUnit : List Char → Except Problem (Nat × List Char)
  | a :: b :: c :: d :: s =>
      match unit? a b c d with
      | some n => .ok (n, s)
      | none => .error .invalidEscape
  | s =>
      if s.foldr (fun c n => c.utf8Size + n) 0 < 4 then .error .endInString
      else .error .invalidEscape

/-- The character of a UTF-16 unit, or of the pair of surrogates that it begins. -/
def unitChar (n : Nat) (s : List Char) : Except Problem (Char × List Char) :=
  if n < 0xd800 ∨ 0xdfff < n then .ok (Char.ofNat n, s)
  else if 0xdc00 ≤ n then .error .loneSurrogate
  else
    match s with
    | [] => .error .endInString
    | '\\' :: [] => .error .endInString
    | '\\' :: 'u' :: s =>
        match hexUnit s with
        | .error e => .error e
        | .ok (low, s) =>
            if 0xdc00 ≤ low ∧ low ≤ 0xdfff then
              .ok (Char.ofNat ((n - 0xd800) * 0x400 + (low - 0xdc00) + 0x10000), s)
            else .error .loneSurrogate
    | _ => .error .unexpectedEscapeEnd

/-- The character that a single letter after a backslash stands for. -/
def letterEscape? (c : Char) : Option Char :=
  match c with
  | '"' => some '"'
  | '\\' => some '\\'
  | '/' => some '/'
  | 'b' => some '\x08'
  | 'f' => some '\x0c'
  | 'n' => some '\n'
  | 'r' => some '\r'
  | 't' => some '\t'
  | _ => none

/-- Reads what follows a backslash. -/
def escapedChar : List Char → Except Problem (Char × List Char)
  | [] => .error .endInString
  | c :: s =>
      match letterEscape? c with
      | some d => .ok (d, s)
      | none =>
          if c = 'u' then
            match hexUnit s with
            | .error e => .error e
            | .ok (n, s) => unitChar n s
          else .error .invalidEscape

theorem length_hexUnit_lt
    {s r : List Char} {n : Nat}
    (h : hexUnit s = .ok (n, r)) :
    r.length < s.length := by
  unfold hexUnit at h
  split at h
  · split at h
    · simp only [Except.ok.injEq, Prod.mk.injEq] at h
      obtain ⟨_, rfl⟩ := h
      simp only [List.length_cons]
      omega
    · simp at h
  · split at h <;> simp at h

theorem length_unitChar_le
    {n : Nat} {s r : List Char} {c : Char}
    (h : unitChar n s = .ok (c, r)) :
    r.length ≤ s.length := by
  unfold unitChar at h
  split at h
  · simp only [Except.ok.injEq, Prod.mk.injEq] at h
    obtain ⟨_, rfl⟩ := h
    exact Nat.le_refl _
  · split at h
    · simp at h
    · split at h
      · simp at h
      · simp at h
      · split at h
        · simp at h
        · rename_i hlow
          split at h
          · simp only [Except.ok.injEq, Prod.mk.injEq] at h
            obtain ⟨_, rfl⟩ := h
            have := length_hexUnit_lt hlow
            simp only [List.length_cons]
            omega
          · simp at h
      · simp at h

theorem length_escapedChar_lt
    {s r : List Char} {c : Char}
    (h : escapedChar s = .ok (c, r)) :
    r.length < s.length := by
  unfold escapedChar at h
  split at h
  · simp at h
  · split at h
    · simp only [Except.ok.injEq, Prod.mk.injEq] at h
      obtain ⟨_, rfl⟩ := h
      simp
    · split at h
      · split at h
        · simp at h
        · rename_i hunit
          have := length_hexUnit_lt hunit
          have := length_unitChar_le h
          simp only [List.length_cons]
          omega
      · simp at h

/-- Reads a string from behind its opening quote; `acc` holds the characters read, last first. -/
def stringChars (acc : List Char) (s : List Char) : Except Problem (List Char × List Char) :=
  match s with
  | [] => .error .endInString
  | c :: s =>
      if c = '"' then .ok (acc.reverse, s)
      else if c = '\\' then
        match h : escapedChar s with
        | .error e => .error e
        | .ok (d, r) =>
            have : r.length < s.length := length_escapedChar_lt h
            stringChars (d :: acc) r
      else if c.toNat < 0x20 then .error .controlCharacter
      else stringChars (c :: acc) s
termination_by s.length

/-- Reads a string from behind its opening quote. -/
def readString (s : List Char) : Except Problem (String × List Char) :=
  match stringChars [] s with
  | .error e => .error e
  | .ok (cs, r) => .ok (String.ofList cs, r)

/-- The largest integer that is read exactly. -/
def maxInteger : Nat := Nat.pow 2 64 - 1

/-- One more digit of a number, if the number still fits in 64 bits. -/
def withDigit? (n : Nat) (c : Char) : Option Nat :=
  let m := 10 * n + (c.toNat - '0'.toNat)
  if m ≤ maxInteger then some m else none

/-- Reads the digits before the point: the number they begin with and how many did not fit. -/
def wholeDigits (n dropped : Nat) : List Char → Nat × Nat × List Char
  | [] => (n, dropped, [])
  | c :: s =>
      if c.isDigit then
        match dropped, withDigit? n c with
        | 0, some m => wholeDigits m 0 s
        | _, _ => wholeDigits n (dropped + 1) s
      else (n, dropped, c :: s)

/-- Reads the digits after the point: they extend the significand as long as it fits; the first one
that does not fit ends this for good.  The count is of the digits that were taken. -/
def fractionDigits (n taken : Nat) (full : Bool) : List Char → Nat × Nat × List Char
  | [] => (n, taken, [])
  | c :: s =>
      if c.isDigit then
        match full, withDigit? n c with
        | false, some m => fractionDigits m (taken + 1) false s
        | _, _ => fractionDigits n taken true s
      else (n, taken, c :: s)

/-- The double nearest to a power of ten. -/
def powerOfTen (n : Nat) : Magnitude :=
  (Magnitude.ofDecimal? 1 n).getD Magnitude.zero

/-- The largest power of ten that one multiplication or division applies. -/
def maxPower : Nat := 308

/-- Divides by `10 ^ maxPower` until the exponent is within its reach or the number is zero. -/
def lowered (x : Magnitude) (e : Int) : Magnitude × Int :=
  if e < -maxPower ∧ ¬ x.isZero then
    lowered ((x.over? (powerOfTen maxPower)).getD Magnitude.zero) (e + maxPower)
  else (x, e)
termination_by (-e).toNat
decreasing_by
  simp only [maxPower] at *
  omega

/-- The double `significand · 10 ^ exponent`: the significand is rounded, then multiplied or divided
by the power.  There is none if it is beyond the range. -/
def scaled? (significand : Nat) (exponent : Int) : Option Magnitude := do
  let x ← Magnitude.ofRatio? significand 1
  let (x, e) := lowered x exponent
  if x.isZero then return x
  else if e < 0 then x.over? (powerOfTen e.natAbs)
  else if e ≤ maxPower then x.times? (powerOfTen e.natAbs)
  else none

/-- A double of a sign, or the problem that it is beyond the range. -/
def realNumber (negative : Bool) (significand : Nat) (exponent : Int) :
    Except Problem Number :=
  match scaled? significand exponent with
  | some x => .ok (.float (.finite negative x))
  | none => .error .numberOutOfRange

/-- A number without point and exponent: an integer if it is one of 64 bits, else a double.  Minus
zero is a double. -/
def plainNumber (negative : Bool) (n : Nat) : Number :=
  if negative = false then .integer n
  else if 0 < n ∧ n ≤ Nat.pow 2 63 then .integer (-(n : Int))
  else .float (Binary64.ofMagnitude? true (Magnitude.ofRatio? n 1))

/-- Reads an exponent from behind its letter: an optional sign and at least one digit. -/
def exponent (s : List Char) : Except Problem (Int × List Char) :=
  let (negative, s) :=
    match s with
    | '+' :: r => (false, r)
    | '-' :: r => (true, r)
    | r => (false, r)
  match s with
  | [] => .error .endInValue
  | c :: _ =>
      if c.isDigit then
        let n := Decimal.value (s.takeWhile Char.isDigit)
        .ok (if negative then -(n : Int) else n, s.dropWhile Char.isDigit)
      else .error .invalidNumber

/-- Reads an exponent, if there is one, and gives the double. -/
def numberFromExponent (negative : Bool) (n : Nat) (shift : Int) (s : List Char) :
    Except Problem (Number × List Char) := do
  let (e, s) ←
    match s with
    | 'e' :: r => exponent r
    | 'E' :: r => exponent r
    | r => .ok (0, r)
  let x ← realNumber negative n (shift + e)
  return (x, s)

/-- Reads what follows the digits before the point. -/
def numberFromPoint (negative : Bool) (n dropped : Nat) (s : List Char) :
    Except Problem (Number × List Char) :=
  match s with
  | '.' :: [] => .error .endInValue
  | '.' :: c :: r =>
      if c.isDigit then
        let (m, taken, r) := fractionDigits n 0 false (c :: r)
        numberFromExponent negative m ((dropped : Int) - taken) r
      else .error .invalidNumber
  | 'e' :: _ => numberFromExponent negative n dropped s
  | 'E' :: _ => numberFromExponent negative n dropped s
  | _ =>
      if dropped = 0 then .ok (plainNumber negative n, s)
      else numberFromExponent negative n dropped s

/-- Reads a number from behind its sign.  A zero is followed by no further digit. -/
def unsignedNumber (negative : Bool) (s : List Char) : Except Problem (Number × List Char) :=
  match s with
  | [] => .error .endInValue
  | '0' :: r =>
      if (r.head?.map Char.isDigit).getD false then .error .invalidNumber
      else numberFromPoint negative 0 0 r
  | c :: _ =>
      if c.isDigit then
        let (n, dropped, r) := wholeDigits 0 0 s
        numberFromPoint negative n dropped r
      else .error .invalidNumber

/-- Reads a number. -/
def readNumber (s : List Char) : Except Problem (Number × List Char) :=
  match s with
  | '-' :: r => unsignedNumber true r
  | r => unsignedNumber false r

end Json
end FilterQuery
