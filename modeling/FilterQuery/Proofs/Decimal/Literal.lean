import FilterQuery.Proofs.Json.Numeral
import Mathlib.Algebra.Group.Int.Defs
import Mathlib.Data.List.Induction

/-!
# Written integers

The texts that are read as integers, apart from any reader of them.

**Model.** A literal is one or more digits behind at most one sign.  The number of its digits is
given by the last of them and the number of those in front, which count ten times (`Denotes`), so
zeros in front change nothing.

**Results.**
* `denotes_iff`: what is read as a natural number is a sequence of digits that denotes it.
* `integer?_eq_some_iff`: what is read as an integer is a literal of it.
-/

namespace FilterQuery

namespace Decimal

/-- The number that digits denote: those in front of the last one count ten times. -/
inductive Denotes : List Char → Nat → Prop
  | digit
      {d : Nat}
      (hd : d < 10) :
      Denotes [d.digitChar] d
  | append
      {ds : List Char} {n d : Nat}
      (hds : Denotes ds n)
      (hd : d < 10) :
      Denotes (ds ++ [d.digitChar]) (10 * n + d)

/-- A written integer: one or more digits behind at most one sign. -/
inductive IsLiteral : List Char → Int → Prop
  | unsigned
      {ds : List Char} {n : Nat}
      (hds : Denotes ds n) :
      IsLiteral ds n
  | plus
      {ds : List Char} {n : Nat}
      (hds : Denotes ds n) :
      IsLiteral ('+' :: ds) n
  | minus
      {ds : List Char} {n : Nat}
      (hds : Denotes ds n) :
      IsLiteral ('-' :: ds) (-n)

variable {s ds : List Char} {n : Nat}

/-- A digit is that of a number below ten. -/
theorem exists_digitChar_of_isDigit
    {c : Char}
    (hc : c.isDigit = true) :
    ∃ d, d < 10 ∧ c = d.digitChar := by
  have hbounds : 48 ≤ c.toNat ∧ c.toNat ≤ 57 := by
    simpa [Char.isDigit, UInt32.le_iff_toNat_le] using hc
  have hd : c.toNat - 48 < 10 := by
    omega
  refine ⟨c.toNat - 48, hd, Json.eq_of_toNat_eq ?_⟩
  rw [Nat.toNat_digitChar_of_lt_ten hd]
  omega

theorem value_append_digitChar
    {d : Nat}
    (hd : d < 10) :
    value (ds ++ [d.digitChar]) = 10 * value ds + d := by
  rw [value, Nat.ofDigitChars_append, Nat.ofDigitChars_cons_digitChar_of_lt_ten hd,
    Nat.ofDigitChars_nil, ← value]

/-- Digits denote their value.  The induction is on the digits from the last one on. -/
theorem denotes_value
    (h : Json.IsDigits ds) :
    Denotes ds (value ds) := by
  obtain ⟨hne, hall⟩ := h
  induction ds using List.reverseRecOn with
  | nil =>
      exact absurd rfl hne
  | append_singleton ds c ih =>
      rw [List.forall_mem_append, List.forall_mem_singleton] at hall
      obtain ⟨d, hd, rfl⟩ := exists_digitChar_of_isDigit hall.2
      rw [value_append_digitChar hd]
      cases ds with
      | nil =>
          have hzero : value [] = 0 := rfl
          rw [hzero, Nat.mul_zero, Nat.zero_add]
          exact .digit hd
      | cons a ds =>
          exact .append (ih (by simp) hall.1) hd

/-- What is read as a natural number is digits that denote it. -/
theorem denotes_iff :
    Denotes ds n ↔ natural? ds = some n := by
  rw [Json.natural?_eq_some_iff]
  constructor
  · intro h
    induction h with
    | @digit d hd =>
        have hvalue : value ([] ++ [d.digitChar]) = 10 * value [] + d :=
          value_append_digitChar hd
        refine ⟨⟨by simp, by simp [Nat.isDigit_digitChar, hd]⟩, ?_⟩
        simpa [value] using hvalue
    | @append ds n d hds hd ih =>
        obtain ⟨hdigits, rfl⟩ := ih
        refine ⟨⟨by simp, ?_⟩, value_append_digitChar hd⟩
        rw [List.forall_mem_append, List.forall_mem_singleton]
        exact ⟨hdigits.2, by simp [Nat.isDigit_digitChar, hd]⟩
  · rintro ⟨hdigits, rfl⟩
    exact denotes_value hdigits

/-- What is read as an integer is a literal of it. -/
theorem integer?_eq_some_iff
    {k : Int} :
    integer? s = some k ↔ IsLiteral s k := by
  constructor
  · intro h
    unfold integer? at h
    split at h <;>
      simp only [Option.map_eq_some_iff, Option.bind_eq_bind, Option.bind_eq_some_iff,
        Option.pure_def, Option.some.injEq] at h <;>
      obtain ⟨_, ⟨n, hn, rfl⟩, rfl⟩ := h
    · exact .minus (denotes_iff.2 hn)
    · exact .plus (denotes_iff.2 hn)
    · exact .unsigned (denotes_iff.2 hn)
  · intro h
    cases h with
    | unsigned hds =>
        obtain ⟨hdigits, rfl⟩ := Json.natural?_eq_some_iff.1 (denotes_iff.1 hds)
        exact Json.integer?_of_digits hdigits
    | plus hds | minus hds =>
        rw [integer?, denotes_iff.1 hds]
        rfl

end Decimal
end FilterQuery
