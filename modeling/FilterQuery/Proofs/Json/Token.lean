import FilterQuery.Json.Scanner
import Mathlib.Data.List.TakeWhile

/-!
# The tokens of JSON

The grammar of strings and numbers, apart from any reader of them.

**Strings.** What stands between the quotes of a string denotes units of UTF-16: a character that
is written as it is denotes its one or two units, a letter behind a backslash the unit of the
character that it stands for, and `u` with four hexadecimal digits the unit of that number.  So
every string of the grammar denotes something, but only some of the sequences of units are those of
a text.

**Numbers** are kept as they are written.

**Results.**
* `textUnits_injective`: texts with the same units are equal.
* `Quoted.unique`, `IsNumber.unique`: where a token ends and what it denotes is determined by the
  characters from its beginning on.
-/

namespace FilterQuery

/-- Whether a character is the hexadecimal digit of a number, in either case. -/
def Decimal.IsHexDigit (c : Char) (n : Nat) : Prop :=
  n < 16 ∧ (c = n.digitChar ∨ c = n.digitChar.toUpper)

namespace Json

/-- Characters that may all stand between tokens. -/
def Blank (w : List Char) : Prop :=
  ∀ c ∈ w, isBlank c = true

theorem blank_nil :
    Blank [] := by
  simp [Blank]

theorem Blank.append
    {w w' : List Char}
    (hw : Blank w)
    (hw' : Blank w') :
    Blank (w ++ w') :=
  List.forall_mem_append.2 ⟨hw, hw'⟩

theorem skipBlanks_blank
    {w : List Char}
    (hw : Blank w) :
    skipBlanks w = [] := by
  rw [skipBlanks, List.dropWhile_eq_nil_iff]
  exact hw

theorem skipBlanks_append
    {w : List Char}
    (hw : Blank w)
    (s : List Char) :
    skipBlanks (w ++ s) = skipBlanks s :=
  List.dropWhile_append_of_pos hw

theorem skipBlanks_cons
    {c : Char}
    (hc : isBlank c = false)
    (s : List Char) :
    skipBlanks (c :: s) = c :: s := by
  rw [skipBlanks, List.dropWhile_cons_of_neg (by simp [hc])]

theorem exists_blank (s : List Char) :
    ∃ w, Blank w ∧ s = w ++ skipBlanks s :=
  ⟨s.takeWhile isBlank, fun _ hc => List.mem_takeWhile_imp hc, List.takeWhile_append_dropWhile.symm⟩

/-- Blanks end where the next token begins. -/
theorem blank_append_inj
    {w w' s s' : List Char} {c c' : Char}
    (hw : Blank w)
    (hw' : Blank w')
    (hc : isBlank c = false)
    (hc' : isBlank c' = false)
    (heq : w ++ c :: s = w' ++ c' :: s') :
    w = w' ∧ c = c' ∧ s = s' := by
  have hskip := congrArg skipBlanks heq
  rw [skipBlanks_append hw, skipBlanks_append hw', skipBlanks_cons hc, skipBlanks_cons hc'] at hskip
  rw [hskip] at heq
  exact ⟨List.append_cancel_right heq, List.cons.inj hskip⟩

/-- The units of a character in UTF-16. -/
def charUnits (c : Char) : List Nat :=
  if c.toNat < 0x10000 then [c.toNat]
  else [0xd800 + (c.toNat - 0x10000) / 0x400, 0xdc00 + (c.toNat - 0x10000) % 0x400]

def textUnits (s : String) : List Nat :=
  s.toList.flatMap charUnits

/-- The numbers of characters leave out the surrogates. -/
theorem toNat_valid (c : Char) :
    c.toNat < 0xd800 ∨ 0xdfff < c.toNat ∧ c.toNat < 0x110000 :=
  c.valid

theorem eq_of_toNat_eq
    {c d : Char}
    (h : c.toNat = d.toNat) :
    c = d :=
  Char.toNat_inj.1 h

theorem charUnits_ne_nil (c : Char) :
    charUnits c ≠ [] := by
  unfold charUnits
  split <;> simp

/-- No sequence of units begins with two characters. -/
theorem charUnits_append_inj
    {c d : Char} {us vs : List Nat}
    (h : charUnits c ++ us = charUnits d ++ vs) :
    c = d ∧ us = vs := by
  have hc := toNat_valid c
  have hd := toNat_valid d
  unfold charUnits at h
  split at h <;> split at h <;>
    simp only [List.cons_append, List.nil_append, List.cons.injEq] at h
  · exact ⟨eq_of_toNat_eq h.1, h.2⟩
  · omega
  · omega
  · exact ⟨eq_of_toNat_eq (by omega), h.2.2⟩

/-- The units of characters tell the characters. -/
theorem flatMap_charUnits_inj
    {cs ds : List Char}
    (h : cs.flatMap charUnits = ds.flatMap charUnits) :
    cs = ds := by
  induction cs generalizing ds with
  | nil =>
      cases ds with
      | nil =>
          rfl
      | cons d ds =>
          simp [charUnits_ne_nil] at h
  | cons c cs ih =>
      cases ds with
      | nil =>
          simp [charUnits_ne_nil] at h
      | cons d ds =>
          rw [List.flatMap_cons, List.flatMap_cons] at h
          obtain ⟨rfl, hrest⟩ := charUnits_append_inj h
          rw [ih hrest]

/-- Texts with the same units are equal. -/
theorem textUnits_injective
    {s t : String}
    (h : textUnits s = textUnits t) :
    s = t :=
  String.toList_injective (flatMap_charUnits_inj h)

/-- The letters that may stand behind a backslash, with the characters that they stand for. -/
def letterEscapes : List (Char × Char) := [
  ('"', '"'), ('\\', '\\'), ('/', '/'), ('b', '\x08'), ('f', '\x0c'), ('n', '\n'), ('r', '\r'),
  ('t', '\t')]

/-- A written character or escape, with the units that it denotes. -/
inductive Piece : List Char → List Nat → Prop
  | raw
      {c : Char}
      (hquote : c ≠ '"')
      (hslash : c ≠ '\\')
      (hcontrol : 0x20 ≤ c.toNat) :
      Piece [c] (charUnits c)
  | letter
      {c d : Char}
      (hescape : (c, d) ∈ letterEscapes) :
      Piece ['\\', c] [d.toNat]
  | unit
      {a b c d : Char} {i j k l : Nat}
      (ha : Decimal.IsHexDigit a i)
      (hb : Decimal.IsHexDigit b j)
      (hc : Decimal.IsHexDigit c k)
      (hd : Decimal.IsHexDigit d l) :
      Piece ['\\', 'u', a, b, c, d] [((i * 16 + j) * 16 + k) * 16 + l]

/-- What stands between the quotes of a string, with the units that it denotes. -/
inductive Quoted : List Char → List Nat → Prop
  | nil : Quoted [] []
  | cons
      {p s : List Char} {us vs : List Nat}
      (hp : Piece p us)
      (hs : Quoted s vs) :
      Quoted (p ++ s) (us ++ vs)

end Json

/-- A hexadecimal digit has one number. -/
theorem Decimal.IsHexDigit.unique
    {c : Char} {m n : Nat}
    (hm : IsHexDigit c m)
    (hn : IsHexDigit c n) :
    m = n := by
  have hall : ∀ m < 16, ∀ n < 16, (m.digitChar = n.digitChar ∨ m.digitChar = n.digitChar.toUpper ∨
      m.digitChar.toUpper = n.digitChar ∨ m.digitChar.toUpper = n.digitChar.toUpper) → m = n := by
    decide
  obtain ⟨hm, rfl | rfl⟩ := hm <;> obtain ⟨hn, h | h⟩ := hn <;>
    exact hall m hm n hn (by simp [h])

namespace Json

theorem letterEscapes_unique
    {c d e : Char}
    (hd : (c, d) ∈ letterEscapes)
    (he : (c, e) ∈ letterEscapes) :
    d = e := by
  have hall : ∀ p ∈ letterEscapes, ∀ q ∈ letterEscapes, p.1 = q.1 → p.2 = q.2 := by
    decide
  exact hall _ hd _ he rfl

/-- The letter of the escapes by number is no other escape. -/
theorem not_mem_letterEscapes_u (d : Char) :
    ('u', d) ∉ letterEscapes := by
  simp [letterEscapes]

/-- Where a piece of a string ends and what it denotes is told by the characters from its beginning
on. -/
theorem Piece.unique
    {p p' s s' : List Char} {us us' : List Nat}
    (h : Piece p us)
    (h' : Piece p' us')
    (heq : p ++ s = p' ++ s') :
    p = p' ∧ us = us' ∧ s = s' := by
  cases h with
  | raw hquote hslash hcontrol =>
      cases h' with
      | raw =>
          simp_all
      | letter | unit =>
          exact absurd (List.cons.inj heq).1 hslash
  | letter hescape =>
      cases h' with
      | raw hquote' hslash' hcontrol' =>
          exact absurd (List.cons.inj heq).1.symm hslash'
      | letter hescape' =>
          simp only [List.cons_append, List.nil_append, List.cons.injEq, true_and] at heq
          obtain ⟨rfl, rfl⟩ := heq
          simp [letterEscapes_unique hescape hescape']
      | unit =>
          simp only [List.cons_append, List.nil_append, List.cons.injEq, true_and] at heq
          exact absurd (heq.1 ▸ hescape) (not_mem_letterEscapes_u _)
  | unit ha hb hc hd =>
      cases h' with
      | raw hquote' hslash' hcontrol' =>
          exact absurd (List.cons.inj heq).1.symm hslash'
      | letter hescape' =>
          simp only [List.cons_append, List.nil_append, List.cons.injEq, true_and] at heq
          exact absurd (heq.1 ▸ hescape') (not_mem_letterEscapes_u _)
      | unit ha' hb' hc' hd' =>
          simp only [List.cons_append, List.nil_append, List.cons.injEq, true_and] at heq
          obtain ⟨rfl, rfl, rfl, rfl, rfl⟩ := heq
          simp [ha.unique ha', hb.unique hb', hc.unique hc', hd.unique hd']

/-- No piece of a string begins with the quote that ends it. -/
theorem Piece.append_ne_quote
    {p s r : List Char} {us : List Nat}
    (h : Piece p us) :
    p ++ s ≠ '"' :: r := by
  cases h <;> simp_all

theorem Quoted.unique
    {s s' r r' : List Char} {us us' : List Nat}
    (h : Quoted s us)
    (h' : Quoted s' us')
    (heq : s ++ '"' :: r = s' ++ '"' :: r') :
    s = s' ∧ us = us' ∧ r = r' := by
  induction h generalizing s' us' with
  | nil =>
      cases h' with
      | nil =>
          simp_all
      | cons hp hs =>
          rw [List.nil_append, List.append_assoc] at heq
          exact absurd heq.symm hp.append_ne_quote
  | cons hp hs ih =>
      cases h' with
      | nil =>
          rw [List.nil_append, List.append_assoc] at heq
          exact absurd heq hp.append_ne_quote
      | cons hp' hs' =>
          rw [List.append_assoc, List.append_assoc] at heq
          obtain ⟨rfl, rfl, heq⟩ := hp.unique hp' heq
          obtain ⟨rfl, rfl, rfl⟩ := ih hs' heq
          exact ⟨rfl, rfl, rfl⟩

def IsDigits (ds : List Char) : Prop :=
  ds ≠ [] ∧ ∀ c ∈ ds, c.isDigit = true

/-- The digits before the point: a zero stands alone or not at all in front. -/
def IsWhole (ds : List Char) : Prop :=
  IsDigits ds ∧ (ds.head? = some '0' → ds = ['0'])

/-- Nothing, or a point and digits. -/
def IsFraction (s : List Char) : Prop :=
  s = [] ∨ ∃ ds, IsDigits ds ∧ s = '.' :: ds

/-- Nothing, or `e` in either case with digits that may have a sign. -/
def IsExponent (s : List Char) : Prop :=
  s = [] ∨ ∃ e sign ds, (e = 'e' ∨ e = 'E') ∧ (sign = [] ∨ sign = ['+'] ∨ sign = ['-']) ∧
    IsDigits ds ∧ s = e :: (sign ++ ds)

inductive IsNumber : List Char → Prop
  | mk
      {sign whole fraction exponent : List Char}
      (hsign : sign = [] ∨ sign = ['-'])
      (hwhole : IsWhole whole)
      (hfraction : IsFraction fraction)
      (hexponent : IsExponent exponent) :
      IsNumber (sign ++ (whole ++ (fraction ++ exponent)))

/-- The characters that numbers are made of. -/
def isNumeric (c : Char) : Bool :=
  c.isDigit || c = '-' || c = '+' || c = '.' || c = 'e' || c = 'E'

/-- Whether no number goes on in the characters that follow. -/
def Stops (r : List Char) : Prop :=
  ∀ c ∈ r.head?, isNumeric c = false

theorem IsDigits.numeric
    {ds : List Char}
    (h : IsDigits ds) :
    ∀ c ∈ ds, isNumeric c = true := by
  intro c hc
  simp [isNumeric, h.2 c hc]

theorem IsFraction.numeric
    {s : List Char}
    (h : IsFraction s) :
    ∀ c ∈ s, isNumeric c = true := by
  obtain rfl | ⟨ds, hds, rfl⟩ := h
  · simp
  · rw [List.forall_mem_cons]
    exact ⟨by decide, hds.numeric⟩

theorem IsExponent.numeric
    {s : List Char}
    (h : IsExponent s) :
    ∀ c ∈ s, isNumeric c = true := by
  obtain rfl | ⟨e, sign, ds, he, hsign, hds, rfl⟩ := h
  · simp
  · rw [List.forall_mem_cons, List.forall_mem_append]
    refine ⟨?_, ?_, hds.numeric⟩
    · rcases he with rfl | rfl <;> decide
    · rcases hsign with rfl | rfl | rfl <;> simp [isNumeric]

theorem IsNumber.numeric
    {s : List Char}
    (h : IsNumber s) :
    ∀ c ∈ s, isNumeric c = true := by
  obtain ⟨hsign, hwhole, hfraction, hexponent⟩ := h
  simp only [List.forall_mem_append]
  refine ⟨?_, hwhole.1.numeric, hfraction.numeric, hexponent.numeric⟩
  rcases hsign with rfl | rfl <;> simp [isNumeric]

theorem IsNumber.ne_nil
    {s : List Char}
    (h : IsNumber s) :
    s ≠ [] := by
  obtain ⟨-, hwhole, -, -⟩ := h
  simp [hwhole.1.1]

/-- A character of no number begins none. -/
theorem IsNumber.append_ne_cons
    {c : Char} {s r t : List Char}
    (h : IsNumber s)
    (hc : isNumeric c = false) :
    s ++ r ≠ c :: t := by
  obtain ⟨d, s', rfl⟩ := List.exists_cons_of_ne_nil h.ne_nil
  rintro ⟨⟩
  simp [h.numeric c (by simp)] at hc

/-- Where a number ends is told by the first character that cannot belong to one. -/
theorem takeWhile_isNumeric
    {s r : List Char}
    (hs : ∀ c ∈ s, isNumeric c = true)
    (hr : Stops r) :
    (s ++ r).takeWhile isNumeric = s := by
  rw [List.takeWhile_append_of_pos hs]
  cases r with
  | nil =>
      simp
  | cons c r =>
      simp [hr c rfl]

/-- Where a number ends is told by what follows it. -/
theorem IsNumber.unique
    {s s' r r' : List Char}
    (h : IsNumber s)
    (h' : IsNumber s')
    (hr : Stops r)
    (hr' : Stops r')
    (heq : s ++ r = s' ++ r') :
    s = s' ∧ r = r' := by
  have hs : s = s' := by
    rw [← takeWhile_isNumeric h.numeric hr, heq, takeWhile_isNumeric h'.numeric hr']
  subst hs
  exact ⟨rfl, List.append_cancel_left heq⟩

theorem stops_nil :
    Stops [] := by
  simp [Stops]

theorem stops_cons
    {c : Char} {r : List Char}
    (h : isNumeric c = false) :
    Stops (c :: r) := by
  simpa [Stops] using h

theorem Blank.stops
    {w r : List Char}
    (hw : Blank w)
    (hr : Stops r) :
    Stops (w ++ r) := by
  cases w with
  | nil =>
      exact hr
  | cons c w =>
      refine stops_cons ?_
      have hc : isBlank c = true := hw c (by simp)
      simp only [isBlank, Bool.or_eq_true, decide_eq_true_eq] at hc
      rcases hc with ((rfl | rfl) | rfl) | rfl <;> decide

end Json
end FilterQuery
