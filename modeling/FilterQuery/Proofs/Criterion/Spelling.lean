import FilterQuery.Criterion.Cast
import FilterQuery.Proofs.Binary64.Nearest
import FilterQuery.Proofs.Decimal.Real
import FilterQuery.Proofs.Schema.Catalogue

/-!
# What texts spell

Which texts a kind of value accepts, and which parameters they stand for: a text stands for itself,
a literal for its integer if 64 bits hold it, and a decimal number for the double nearest to it
unless that is none of the finite ones.

**Results.**
* `ValueType.read?_eq_some_iff`: a text is read as the parameter that it spells.
* `ValueType.accepts_iff`: an accepted text spells a parameter.
* `Column.cast_eq_ok_iff`: a value is cast to the parameter that it spells.
-/

namespace FilterQuery

open Sql (Parameter)

/-- A number is a parameter when 64 bits hold it. -/
theorem Sql.Parameter.ofInt?_eq_some_iff
    {n : Int} {p : Parameter} :
    Parameter.ofInt? n = some p ↔ ∃ m : Int64, p = .integer m ∧ m.toInt = n := by
  rw [Parameter.ofInt?]
  constructor
  · intro h
    split at h
    · rename_i hn
      exact ⟨_, (Option.some.inj h).symm, Int64.toInt_ofIntLE⟩
    · simp at h
  · rintro ⟨m, rfl, rfl⟩
    have hm : Int64.minValue.toInt ≤ m.toInt ∧ m.toInt ≤ Int64.maxValue.toInt :=
      ⟨Int64.minValue_le_toInt m, Int64.toInt_le m⟩
    rw [dif_pos hm]
    simp

theorem Sql.Parameter.ofInt?_eq_none_iff
    {n : Int} :
    Parameter.ofInt? n = none ↔ ∀ m : Int64, m.toInt ≠ n := by
  rw [Option.eq_none_iff_forall_ne_some]
  constructor
  · intro h m hm
    exact h _ (ofInt?_eq_some_iff.2 ⟨m, rfl, hm⟩)
  · intro h p hp
    obtain ⟨m, -, hm⟩ := ofInt?_eq_some_iff.1 hp
    exact h m hm

/-- A number that is read is finite exactly when it is a decimal number with a finite double. -/
theorem Binary64.ofString?_eq_finite_iff
    {s : String} {negative : Bool} {x : Magnitude} :
    ofString? s = some (.finite negative x) ↔
      ∃ c e, Decimal.IsReal s.toList negative c e ∧ Magnitude.ofDecimal? c e = some x := by
  simp only [ofString?, Option.map_eq_some_iff, ← Decimal.ofChars?_eq_some_iff]
  constructor
  · rintro ⟨r, hr, hx⟩
    cases r with
    | nan | infinity =>
        cases hx
    | decimal sign c e =>
        rw [ofReal] at hx
        cases hm : Magnitude.ofDecimal? c e with
        | none =>
            rw [hm] at hx
            cases hx
        | some y =>
            rw [hm] at hx
            cases hx
            exact ⟨c, e, hr, hm⟩
  · rintro ⟨c, e, hr, hm⟩
    exact ⟨_, hr, by rw [ofReal, hm, ofMagnitude?]⟩

namespace ValueType

/-- Whether a text stands for a parameter. -/
def Spells (type : ValueType) (s : String) (p : Parameter) : Prop :=
  match type with
  | .text => p = .text s
  | .integer => ∃ m : Int64, Decimal.IsLiteral s.toList m.toInt ∧ p = .integer m
  | .float =>
      ∃ negative c e x, Decimal.IsReal s.toList negative c e ∧
        (c : ℚ) * 10 ^ e < 2 ^ 1024 - 2 ^ 970 ∧ Magnitude.IsNearest (c * 10 ^ e) x ∧
        p = .float (.finite negative x)

/-- Whether a text is a value of a kind. -/
def Accepts (type : ValueType) (s : String) : Prop :=
  match type with
  | .text => True
  | .integer => ∃ n : Int, Decimal.IsLiteral s.toList n ∧ -2 ^ 63 ≤ n ∧ n ≤ 2 ^ 63 - 1
  | .float =>
      ∃ negative c e, Decimal.IsReal s.toList negative c e ∧
        (c : ℚ) * 10 ^ e < 2 ^ 1024 - 2 ^ 970

variable {type : ValueType} {s : String} {p : Parameter}

/-- A double counts only while it is finite. -/
theorem read?_float :
    read? .float s = some p ↔
      ∃ negative x, Binary64.ofString? s = some (.finite negative x) ∧
        p = .float (.finite negative x) := by
  rw [read?]
  cases Binary64.ofString? s with
  | none =>
      simp
  | some x =>
      cases x <;> simp [Binary64.isFinite, eq_comm]

/-- A text is read as the parameter that it spells. -/
theorem read?_eq_some_iff :
    type.read? s = some p ↔ type.Spells s p := by
  cases type with
  | text =>
      simp [read?, Spells, eq_comm]
  | integer =>
      simp only [read?, Spells, Option.bind_eq_some_iff, Decimal.integer?_eq_some_iff,
        Parameter.ofInt?_eq_some_iff]
      constructor
      · rintro ⟨n, hn, m, rfl, rfl⟩
        exact ⟨m, hn, rfl⟩
      · rintro ⟨m, hm, rfl⟩
        exact ⟨m.toInt, hm, m, rfl, rfl⟩
  | float =>
      simp only [read?_float, Spells, Binary64.ofString?_eq_finite_iff,
        Magnitude.ofDecimal?_eq_some_iff]
      constructor
      · rintro ⟨negative, x, ⟨c, e, hs, hrange, hx⟩, rfl⟩
        exact ⟨negative, c, e, x, hs, hrange, hx, rfl⟩
      · rintro ⟨negative, c, e, x, hs, hrange, hx, rfl⟩
        exact ⟨negative, x, ⟨c, e, hs, hrange, hx⟩, rfl⟩

/-- The accepted texts are those that spell something: in range there is an integer of 64 bits, and
a nearest double. -/
theorem accepts_iff :
    type.Accepts s ↔ ∃ p, type.Spells s p := by
  cases type with
  | text =>
      exact iff_of_true trivial ⟨.text s, rfl⟩
  | integer =>
      constructor
      · rintro ⟨n, hn, hlow, hhigh⟩
        refine ⟨.integer (Int64.ofInt n), Int64.ofInt n, ?_, rfl⟩
        rwa [Int64.toInt_ofInt_of_le hlow (by omega)]
      · rintro ⟨p, m, hm, rfl⟩
        exact ⟨m.toInt, hm, Int64.minValue_le_toInt m, Int64.toInt_le m⟩
  | float =>
      constructor
      · rintro ⟨negative, c, e, hs, hrange⟩
        obtain ⟨x, hx⟩ := Magnitude.exists_ofDecimal?_iff.2 hrange
        exact ⟨_, negative, c, e, x, hs, hrange, (Magnitude.ofDecimal?_eq_some_iff.1 hx).2, rfl⟩
      · rintro ⟨p, negative, c, e, x, hs, hrange, -, -⟩
        exact ⟨negative, c, e, hs, hrange⟩

theorem isSome_read?_iff :
    (type.read? s).isSome ↔ type.Accepts s := by
  simp only [Option.isSome_iff_exists, read?_eq_some_iff, accepts_iff]

instance : Decidable (type.Accepts s) :=
  decidable_of_iff _ isSome_read?_iff

end ValueType

namespace Column

/-- A value is cast to the parameter that it spells. -/
theorem cast_eq_ok_iff
    {column : Column} {value : String} {p : Parameter} :
    column.cast value = .ok p ↔ column.row.type.Spells value p := by
  rw [row_eq, ← ValueType.read?_eq_some_iff, cast]
  cases column.valueType.read? value <;> simp

end Column
end FilterQuery
