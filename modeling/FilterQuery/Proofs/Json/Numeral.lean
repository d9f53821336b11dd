import FilterQuery.Json.Writer
import FilterQuery.Proofs.Json.Number

/-!
# Written numbers

The digits of an integer and the layout of a double are numbers of the grammar, and they are told
apart: an integer has digits and a sign only, while a double has a point or an exponent.

**Doubles.** How near the shortest decimal of a double is to it does not matter here.  It is enough
that its digits do not begin with a zero, and for this that no double but zero is near the decimal
zero (`onGrid?_ne_zero`).

**Results.**
* `integer?_integerText`, `isNumber_integerText`.
* `isNumber_write`.
-/

namespace FilterQuery

open Json

namespace Decimal

variable {c : Char} {n : Nat}

theorem isDigits_digits (n : Nat) :
    IsDigits (digits n) :=
  ⟨Nat.toDigits_ne_nil, fun _ hc => Nat.isDigit_of_mem_toDigits (by decide) (by decide) hc⟩

/-- The digits of a number have no zero in front.  The induction takes the last digit off. -/
theorem head?_digits
    (hn : n ≠ 0) :
    (digits n).head? ≠ some '0' := by
  induction n using Nat.strong_induction_on with
  | h n ih =>
      by_cases hlt : n < 10
      · have hall : ∀ k < 10, k ≠ 0 → some k.digitChar ≠ some '0' := by
          decide
        rw [digits, Nat.toDigits_of_lt_base hlt, List.head?_cons]
        exact hall n hlt hn
      · have hsplit : digits n = digits (n / 10) ++ digits (n % 10) := by
          rw [digits, digits, digits, Nat.toDigits_append_toDigits (by decide) (by omega)
            (Nat.mod_lt n (by decide)), Nat.div_add_mod]
        have hne : (digits (n / 10)).head?.isSome := by
          simpa using (isDigits_digits (n / 10)).1
        obtain ⟨d, hd⟩ := Option.isSome_iff_exists.1 hne
        rw [hsplit, List.head?_append, hd, Option.some_or, ← hd]
        exact ih (n / 10) (by omega) (by omega)

theorem isWhole_digits (n : Nat) :
    IsWhole (digits n) := by
  refine ⟨isDigits_digits n, fun hzero => ?_⟩
  by_cases hn : n = 0
  · subst hn
    rfl
  · exact absurd hzero (head?_digits hn)

/-- An integer is written as a number. -/
theorem isNumber_integerText (n : Int) :
    IsNumber (integerText n).toList := by
  have hnumber : ∀ sign, (sign = [] ∨ sign = ['-']) → IsNumber (sign ++ digits n.natAbs) := by
    intro sign hsign
    simpa using IsNumber.mk hsign (isWhole_digits n.natAbs) (.inl rfl) (.inl rfl)
  rw [integerText, String.toList_ofList]
  split
  · exact hnumber ['-'] (.inr rfl)
  · exact hnumber [] (.inl rfl)

/-- What is written for an integer is read as it. -/
theorem integer?_integerText (n : Int) :
    integer? (integerText n).toList = some n := by
  rw [integerText, String.toList_ofList]
  split
  · rw [integer?, natural?_of_digits (isDigits_digits _), value_digits]
    exact congrArg some (show -(n.natAbs : Int) = n by omega)
  · rw [integer?_of_digits (isDigits_digits _), value_digits]
    exact congrArg some (by omega)

theorem sign_or_digit_of_mem_integerText
    {n : Int}
    (hc : c ∈ (integerText n).toList) :
    c = '-' ∨ c.isDigit = true := by
  rw [integerText, String.toList_ofList] at hc
  split at hc
  · rcases List.mem_cons.1 hc with rfl | hc
    · exact .inl rfl
    · exact .inr ((isDigits_digits _).2 c hc)
  · exact .inr ((isDigits_digits _).2 c hc)

/-- The digits of an integer and its sign are neither a point nor the letter of an exponent. -/
theorem integerText_ne
    {n : Int}
    (hc : c ∈ (integerText n).toList) :
    c ≠ '.' ∧ c ≠ 'e' ∧ c ≠ 'E' := by
  have hsign := sign_or_digit_of_mem_integerText hc
  refine ⟨?_, ?_, ?_⟩
  all_goals
    rintro rfl
    revert hsign
    decide

end Decimal

namespace Magnitude

variable {tie : Tie} {x : Magnitude}

theorem significand_pos
    (hx : x.isZero = false) :
    0 < x.significand := by
  have hrank : x.rank.val ≠ 0 := by simpa [isZero] using hx
  unfold significand
  split
  · omega
  · exact Nat.add_pos_left (Nat.pow_pos (by decide)) _

/-- The decimal zero rounds to the double zero only. -/
theorem onGrid?_ne_zero
    (hx : x.isZero = false)
    (u : Int) :
    x.onGrid? tie u ≠ some 0 := by
  unfold onGrid?
  extract_lets q num den low high holds c r
  have hlow : 0 < low := by
    have hsignificand := significand_pos hx
    have hquarters : 0 < 4 * x.significand - x.lowerQuarters := by
      unfold lowerQuarters
      split <;> omega
    exact Nat.mul_pos hquarters (Nat.mul_pos (Nat.pow_pos (by decide)) (Nat.pow_pos (by decide)))
  have hzero : holds 0 = false := by
    simp only [holds, Nat.zero_mul]
    split
    · simp [hlow.ne']
    · simp
  have hc : holds c = true → c ≠ 0 := by
    intro hhit h
    rw [h, hzero] at hhit
    cases hhit
  split
  · simp
  · rename_i hhit _
    simpa using hc hhit
  · simp
  · rename_i hhit _
    have hne := hc hhit
    split
    · simpa using hne
    · split
      · simp
      · cases tie
        · simp
        · intro h
          exact hne (Nat.eq_zero_of_add_eq_zero_right (Option.some.inj h))

theorem shortest_eq_or_ne_zero
    (tie : Tie)
    (hx : x.isZero = false) :
    x.shortest tie = (0, 0) ∨ (x.shortest tie).1 ≠ 0 := by
  unfold shortest
  simp only
  cases hfound : (List.range 17).findSome? fun i =>
      (x.onGrid? tie (x.decimalOrder - (i + 1 : Nat))).map fun c =>
        (c, x.decimalOrder - (i + 1 : Nat)) with
  | none =>
      exact .inl rfl
  | some p =>
      obtain ⟨i, -, hi⟩ := List.exists_of_findSome?_eq_some hfound
      obtain ⟨c, hc, rfl⟩ := Option.map_eq_some_iff.1 hi
      refine .inr ?_
      rintro (rfl : c = 0)
      exact onGrid?_ne_zero hx _ hc

end Magnitude

namespace Layout

variable {layout : Layout} {ds : List Char} {x : Magnitude}

/-- An unsigned number with a point or an exponent. -/
def IsReal (s : List Char) : Prop :=
  ∃ whole f e, IsWhole whole ∧ IsFraction f ∧ IsExponent e ∧ s = whole ++ (f ++ e) ∧
    ('.' ∈ s ∨ 'e' ∈ s)

theorem isReal_point
    {whole : List Char}
    (hwhole : IsWhole whole)
    (hds : IsDigits ds) :
    IsReal (whole ++ '.' :: ds) :=
  ⟨whole, '.' :: ds, [], hwhole, .inr ⟨ds, hds, rfl⟩, .inl rfl, by simp, by simp⟩

/-- Some digits remain when the zeros at the end are left out, and the first is the same. -/
theorem significant_ne_zero
    {c : Nat}
    (hc : c ≠ 0) :
    IsDigits (significant c).1 ∧ (significant c).1.head? ≠ some '0' := by
  have hdigits := Decimal.isDigits_digits c
  have hhead := Decimal.head?_digits hc
  obtain ⟨d, rest, hcons⟩ := List.exists_cons_of_ne_nil hdigits.1
  have hlt : ((Decimal.digits c).reverse.takeWhile (· = '0')).length <
      (Decimal.digits c).length := by
    by_contra hle
    have hprefix := List.takeWhile_prefix (l := (Decimal.digits c).reverse) fun d => d = '0'
    have hall := hprefix.eq_of_length_le (by rw [List.length_reverse]; omega)
    rw [List.takeWhile_eq_self_iff] at hall
    have hd : d = '0' := by simpa using hall d (by rw [hcons]; simp)
    rw [hcons, hd] at hhead
    exact hhead rfl
  obtain ⟨k, hk⟩ : ∃ k, (Decimal.digits c).length -
      ((Decimal.digits c).reverse.takeWhile (· = '0')).length = k + 1 :=
    ⟨_, (Nat.succ_pred_eq_of_pos (by omega)).symm⟩
  have htake : (significant c).1 = d :: rest.take k := by
    simp only [significant]
    rw [hk, hcons, List.take_succ_cons]
  rw [htake]
  refine ⟨⟨by simp, fun a ha => hdigits.2 a ?_⟩, ?_⟩
  · rw [hcons]
    rcases List.mem_cons.1 ha with rfl | ha
    · simp
    · exact List.mem_cons_of_mem _ (List.mem_of_mem_take ha)
  · rw [hcons] at hhead
    exact hhead

theorem isReal_positional
    (hds : IsDigits ds)
    (hhead : ds.head? ≠ some '0')
    (order : Int) :
    IsReal (positional ds order) := by
  have hzeros : ∀ n, ∀ c ∈ List.replicate n '0', c.isDigit = true := by
    intro n c hc
    rw [List.eq_of_mem_replicate hc]
    decide
  unfold positional
  split
  · refine isReal_point isWhole_zero ⟨by simp [hds.1], ?_⟩
    exact List.forall_mem_append.2 ⟨hzeros _, hds.2⟩
  · simp only
    obtain ⟨d, rest, rfl⟩ := List.exists_cons_of_ne_nil hds.1
    have hd : d ≠ '0' := by simpa using hhead
    split
    · have hwhole : IsWhole
          (d :: (rest ++ List.replicate (order.toNat + 1 - (d :: rest).length) '0')) := by
        refine isWhole_cons ⟨by simp, ?_⟩ hd
        rw [← List.cons_append]
        exact List.forall_mem_append.2 ⟨hds.2, hzeros _⟩
      have hreal := isReal_point hwhole isWhole_zero.1
      simpa using hreal
    · rename_i hlength
      refine isReal_point ?_ ⟨?_, fun c hc => hds.2 c (List.mem_of_mem_drop hc)⟩
      · rw [List.take_succ_cons]
        refine isWhole_cons ⟨by simp, fun c hc => ?_⟩ hd
        rw [← List.take_succ_cons] at hc
        exact hds.2 c (List.mem_of_mem_take hc)
      · intro hnil
        rw [List.drop_eq_nil_iff] at hnil
        exact hlength hnil

theorem isReal_scientific
    (hds : IsDigits ds)
    (hhead : ds.head? ≠ some '0')
    (order : Int) :
    IsReal (layout.scientific ds order) := by
  obtain ⟨d, rest, rfl⟩ := List.exists_cons_of_ne_nil hds.1
  have hd : d ≠ '0' := by simpa using hhead
  have hwhole : IsWhole [d] :=
    isWhole_cons ⟨by simp, by simpa using hds.2 d (by simp)⟩ hd
  have hexponent : IsExponent ('e' :: ((if order < 0 then ['-'] else
      if layout.signedExponent then ['+'] else []) ++ Decimal.digits order.natAbs)) := by
    refine .inr ⟨'e', _, _, .inl rfl, ?_, Decimal.isDigits_digits _, rfl⟩
    split
    · simp
    · split <;> simp
  unfold scientific
  cases rest with
  | nil =>
      exact ⟨[d], [], _, hwhole, .inl rfl, hexponent, by simp, by simp⟩
  | cons a rest =>
      have hfraction : IsFraction ('.' :: a :: rest) :=
        .inr ⟨_, ⟨by simp, fun c hc => hds.2 c (List.mem_cons_of_mem d hc)⟩, rfl⟩
      exact ⟨[d], '.' :: a :: rest, _, hwhole, hfraction, hexponent, by simp, by simp⟩

/-- A double is written as a real number. -/
theorem isReal_magnitude
    (hfrom : layout.positionalFrom ≤ 0)
    (hbelow : 0 < layout.positionalBelow)
    (x : Magnitude) :
    IsReal (layout.magnitude x) := by
  have hzero : IsReal ['0', '.', '0'] :=
    isReal_point isWhole_zero isWhole_zero.1
  unfold magnitude
  split
  · exact hzero
  · rename_i hx
    rcases Magnitude.shortest_eq_or_ne_zero layout.tie (by simpa using hx) with hshort | hc
    · rw [hshort]
      simpa [significant, Decimal.digits, positional, hfrom, hbelow] using hzero
    · obtain ⟨hds, hhead⟩ := significant_ne_zero hc
      simp only
      split
      · exact isReal_positional hds hhead _
      · exact isReal_scientific hds hhead _

/-- A double in text is a number with a point or an exponent. -/
theorem isNumber_write
    (hfrom : layout.positionalFrom ≤ 0)
    (hbelow : 0 < layout.positionalBelow)
    (negative : Bool) (x : Magnitude) :
    IsNumber (layout.write negative x).toList ∧
      ('.' ∈ (layout.write negative x).toList ∨ 'e' ∈ (layout.write negative x).toList) := by
  obtain ⟨whole, f, e, hwhole, hf, he, heq, hmark⟩ := isReal_magnitude hfrom hbelow x
  rw [write, String.toList_ofList]
  split
  · refine ⟨?_, hmark.imp (List.mem_cons_of_mem _) (List.mem_cons_of_mem _)⟩
    rw [heq]
    exact .mk (.inr rfl) hwhole hf he
  · refine ⟨?_, hmark⟩
    rw [heq]
    exact .mk (.inl rfl) hwhole hf he

end Layout
end FilterQuery
