import FilterQuery.Proofs.Json.Node
import FilterQuery.Proofs.Traversal

/-!
# Reading numbers

What is read as a number, or passed over as one, is a number of the grammar.  A number of the
grammar is passed over whole if no number goes on behind it.

**Values.** A number that is read as an integer is written without point and exponent and denotes
that integer.  How the other numbers are rounded is left open.

**Results.**
* `exists_number_of_readNumber`, `exists_number_of_skipNumber`.
* `readNumber_of_natural`.
* `skipNumber_of_number`: no number is refused when it is passed over.
-/

namespace FilterQuery
namespace Json

/-- What is passed over as digits is one or more of them. -/
theorem skipDigits_eq_ok
    {s r : List Char}
    (h : skipDigits s = .ok r) :
    ∃ ds, IsDigits ds ∧ s = ds ++ r := by
  unfold skipDigits at h
  split at h
  · cases h
  · rename_i c t
    split at h
    · rename_i hc
      cases h
      refine ⟨c :: t.takeWhile Char.isDigit, ⟨by simp, ?_⟩, ?_⟩
      · rw [List.forall_mem_cons]
        exact ⟨hc, fun d hd => List.mem_takeWhile_imp hd⟩
      · rw [List.cons_append, List.takeWhile_append_dropWhile]
    · cases h

/-- Whether no digits go on in the characters that follow. -/
def NoDigit (r : List Char) : Prop :=
  ∀ c ∈ r.head?, c.isDigit = false

theorem Stops.noDigit
    {r : List Char}
    (h : Stops r) :
    NoDigit r := by
  intro c hc
  have hnumeric := h c hc
  simp only [isNumeric, Bool.or_eq_false_iff] at hnumeric
  exact hnumeric.1.1.1.1.1

theorem IsExponent.noDigit
    {e r : List Char}
    (he : IsExponent e)
    (hr : Stops r) :
    NoDigit (e ++ r) := by
  obtain rfl | ⟨c, sign, ds, rfl | rfl, -, -, rfl⟩ := he
  · exact hr.noDigit
  · simp [NoDigit]
  · simp [NoDigit]

theorem IsFraction.noDigit
    {f r : List Char}
    (hf : IsFraction f)
    (hr : NoDigit r) :
    NoDigit (f ++ r) := by
  obtain rfl | ⟨ds, -, rfl⟩ := hf
  · exact hr
  · simp [NoDigit]

theorem IsDigits.isDigit_of_append_eq
    {ds r t : List Char} {c : Char}
    (h : IsDigits ds)
    (heq : ds ++ r = c :: t) :
    c.isDigit = true := by
  obtain ⟨d, ds, rfl⟩ := List.exists_cons_of_ne_nil h.1
  cases heq
  exact h.2 c (by simp)

/-- Behind digits stands what is not a digit. -/
theorem dropWhile_digits
    {ds r : List Char}
    (hds : ∀ c ∈ ds, c.isDigit = true)
    (hr : NoDigit r) :
    (ds ++ r).dropWhile Char.isDigit = r := by
  rw [List.dropWhile_append_of_pos hds]
  cases r with
  | nil =>
      rfl
  | cons c r =>
      rw [List.dropWhile_cons_of_neg (by simp [hr c rfl])]

theorem skipDigits_of_digits
    {ds r : List Char}
    (hds : IsDigits ds)
    (hr : NoDigit r) :
    skipDigits (ds ++ r) = .ok r := by
  obtain ⟨hne, hall⟩ := hds
  obtain ⟨c, ds, rfl⟩ := List.exists_cons_of_ne_nil hne
  rw [List.forall_mem_cons] at hall
  rw [List.cons_append, skipDigits, if_pos hall.1, dropWhile_digits hall.2 hr]

theorem skipExponent_eq_ok
    {s r : List Char}
    (h : skipExponent s = .ok r) :
    ∃ e, IsExponent e ∧ s = e ++ r := by
  unfold skipExponent at h
  split at h
  · cases h
    exact ⟨[], .inl rfl, rfl⟩
  · rename_i c t
    split at h
    · rename_i hc
      split at h
      · obtain ⟨ds, hds, rfl⟩ := skipDigits_eq_ok h
        exact ⟨c :: '+' :: ds, .inr ⟨c, ['+'], ds, hc, by simp, hds, rfl⟩, rfl⟩
      · obtain ⟨ds, hds, rfl⟩ := skipDigits_eq_ok h
        exact ⟨c :: '-' :: ds, .inr ⟨c, ['-'], ds, hc, by simp, hds, rfl⟩, rfl⟩
      · obtain ⟨ds, hds, rfl⟩ := skipDigits_eq_ok h
        exact ⟨c :: ds, .inr ⟨c, [], ds, hc, by simp, hds, rfl⟩, rfl⟩
    · cases h
      exact ⟨[], .inl rfl, rfl⟩

/-- What is passed over behind the digits of a number is a fraction and an exponent. -/
theorem skipFraction_eq_ok
    {s r : List Char}
    (h : skipFraction s = .ok r) :
    ∃ f e, IsFraction f ∧ IsExponent e ∧ s = f ++ (e ++ r) := by
  unfold skipFraction at h
  split at h
  · obtain ⟨t, ht, hexponent⟩ := bind_eq_ok_iff.1 h
    obtain ⟨ds, hds, rfl⟩ := skipDigits_eq_ok ht
    obtain ⟨e, he, rfl⟩ := skipExponent_eq_ok hexponent
    exact ⟨'.' :: ds, e, .inr ⟨ds, hds, rfl⟩, he, rfl⟩
  · obtain ⟨e, he, rfl⟩ := skipExponent_eq_ok h
    exact ⟨[], e, .inl rfl, he, rfl⟩

/-- Digits that follow on no zero in front, or a single zero. -/
theorem isWhole_cons
    {c : Char} {ds : List Char}
    (hds : IsDigits (c :: ds))
    (hc : c ≠ '0') :
    IsWhole (c :: ds) :=
  ⟨hds, fun h => absurd (Option.some.inj h) hc⟩

theorem isWhole_zero :
    IsWhole ['0'] :=
  ⟨⟨by simp, by simp⟩, fun _ => rfl⟩

/-- What is passed over as a number is one. -/
theorem exists_number_of_skipNumber
    {sign s r : List Char}
    (hsign : sign = [] ∨ sign = ['-'])
    (h : skipNumber s = .ok r) :
    ∃ token, IsNumber (sign ++ token) ∧ s = token ++ r := by
  unfold skipNumber at h
  split at h
  · split at h
    · cases h
    · obtain ⟨f, e, hf, he, rfl⟩ := skipFraction_eq_ok h
      exact ⟨'0' :: (f ++ e), .mk hsign isWhole_zero hf he, by simp⟩
  · rename_i hzero
    obtain ⟨t, ht, hfraction⟩ := bind_eq_ok_iff.1 h
    obtain ⟨ds, hds, rfl⟩ := skipDigits_eq_ok ht
    obtain ⟨f, e, hf, he, rfl⟩ := skipFraction_eq_ok hfraction
    obtain ⟨c, ds, rfl⟩ := List.exists_cons_of_ne_nil hds.1
    have hc : c ≠ '0' := by
      rintro rfl
      exact hzero _ rfl
    exact ⟨c :: ds ++ (f ++ e), .mk hsign (isWhole_cons hds hc) hf he, by simp⟩

theorem skipExponent_of_exponent
    {e r : List Char}
    (he : IsExponent e)
    (hr : Stops r) :
    skipExponent (e ++ r) = .ok r := by
  obtain rfl | ⟨c, sign, ds, hc, hsign, hds, rfl⟩ := he
  · cases r with
    | nil =>
        rfl
    | cons c r =>
        have hc := hr c rfl
        simp only [isNumeric, Bool.or_eq_false_iff, decide_eq_false_iff_not] at hc
        rw [List.nil_append]
        unfold skipExponent
        exact if_neg (by simp [hc.1.2, hc.2])
  · have hdigits := skipDigits_of_digits hds hr.noDigit
    rw [List.cons_append, List.append_assoc]
    unfold skipExponent
    simp only [if_pos hc]
    rcases hsign with rfl | rfl | rfl
    · rw [List.nil_append]
      split
      · rename_i heq
        exact absurd (hds.isDigit_of_append_eq heq) (by decide)
      · rename_i heq
        exact absurd (hds.isDigit_of_append_eq heq) (by decide)
      · exact hdigits
    · exact hdigits
    · exact hdigits

theorem skipFraction_of_fraction
    {f e r : List Char}
    (hf : IsFraction f)
    (he : IsExponent e)
    (hr : Stops r) :
    skipFraction (f ++ (e ++ r)) = .ok r := by
  have hexponent := skipExponent_of_exponent he hr
  obtain rfl | ⟨ds, hds, rfl⟩ := hf
  · rw [List.nil_append]
    unfold skipFraction
    split
    · rename_i t heq
      obtain rfl | ⟨c, sign, ds, hc, -, -, rfl⟩ := he
      · rw [List.nil_append] at heq
        exact absurd (hr '.' (by rw [heq]; rfl)) (by decide)
      · rw [List.cons_append, List.cons.injEq] at heq
        rcases hc with rfl | rfl <;> exact absurd heq.1 (by decide)
    · exact hexponent
  · exact bind_eq_ok_iff.2 ⟨e ++ r, skipDigits_of_digits hds (he.noDigit hr), hexponent⟩

/-- A number is passed over as a whole. -/
theorem skipNumber_of_number
    {whole f e r : List Char}
    (hwhole : IsWhole whole)
    (hf : IsFraction f)
    (he : IsExponent e)
    (hr : Stops r) :
    skipNumber (whole ++ (f ++ (e ++ r))) = .ok r := by
  have hfraction := skipFraction_of_fraction hf he hr
  have hnoDigit : NoDigit (f ++ (e ++ r)) := hf.noDigit (he.noDigit hr)
  unfold skipNumber
  split
  · rename_i t heq
    obtain rfl : whole = ['0'] := by
      obtain ⟨c, ds, rfl⟩ := List.exists_cons_of_ne_nil hwhole.1.1
      cases heq
      exact hwhole.2 rfl
    obtain rfl : f ++ (e ++ r) = t := (List.cons.inj heq).2
    rw [if_neg, hfraction]
    cases hhead : (f ++ (e ++ r)).head? with
    | none =>
        simp
    | some c =>
        simp [hnoDigit c hhead]
  · exact bind_eq_ok_iff.2 ⟨_, skipDigits_of_digits hwhole.1 hnoDigit, hfraction⟩

/-- The digits before the point are all read; as long as they fit, their number is exact. -/
theorem wholeDigits_eq (n dropped : Nat) (s : List Char) :
    (wholeDigits n dropped s).2.2 = s.dropWhile Char.isDigit ∧
      ((wholeDigits n dropped s).2.1 = 0 →
        dropped = 0 ∧ (wholeDigits n dropped s).1 =
          Nat.ofDigitChars 10 (s.takeWhile Char.isDigit) n) := by
  fun_induction wholeDigits n dropped s with
  | case1 =>
      simp
  | case2 n c s hc m hm ih =>
      have hvalue : m = 10 * n + (c.toNat - '0'.toNat) := by
        simp only [withDigit?] at hm
        split at hm
        · exact (Option.some.inj hm).symm
        · cases hm
      rw [List.dropWhile_cons_of_pos hc, List.takeWhile_cons_of_pos hc, Nat.ofDigitChars_cons,
        ← hvalue]
      exact ih
  | case3 n dropped c s hc hfull ih =>
      rw [List.dropWhile_cons_of_pos hc]
      refine ⟨ih.1, fun hzero => ?_⟩
      exact absurd (ih.2 hzero).1 (by omega)
  | case4 n dropped c s hc =>
      simp [hc]

/-- The digits of a fraction are read to their end, also those that do not count. -/
theorem fractionDigits_eq (n taken : Nat) (full : Bool) (s : List Char) :
    (fractionDigits n taken full s).2.2 = s.dropWhile Char.isDigit := by
  fun_induction fractionDigits n taken full s with
  | case1 =>
      rfl
  | case2 n taken c s hc m hm ih =>
      rw [List.dropWhile_cons_of_pos hc, ih]
  | case3 n taken full c s hc hfull ih =>
      rw [List.dropWhile_cons_of_pos hc, ih]
  | case4 n taken full c s hc =>
      rw [List.dropWhile_cons_of_neg hc]

/-- The digits at the front and what follows them. -/
theorem exists_digits
    {c : Char} {s : List Char}
    (hc : c.isDigit = true) :
    IsDigits ((c :: s).takeWhile Char.isDigit) ∧
      c :: s = (c :: s).takeWhile Char.isDigit ++ (c :: s).dropWhile Char.isDigit := by
  refine ⟨⟨?_, fun d hd => List.mem_takeWhile_imp hd⟩, List.takeWhile_append_dropWhile.symm⟩
  rw [List.takeWhile_cons_of_pos hc]
  simp

theorem exponent_eq_ok
    {s r : List Char} {e : Int}
    (h : exponent s = .ok (e, r)) :
    ∃ sign ds, (sign = [] ∨ sign = ['+'] ∨ sign = ['-']) ∧ IsDigits ds ∧
      s = sign ++ (ds ++ r) := by
  unfold exponent at h
  simp only at h
  split at h
  · cases h
  · rename_i c t heq
    rw [heq] at h
    split at h
    · rename_i hc
      obtain ⟨hds, hsplit⟩ := exists_digits (s := t) hc
      rw [Except.ok.injEq, Prod.mk.injEq] at h
      obtain ⟨-, rfl⟩ := h
      rw [hsplit] at heq
      split at heq
      · exact ⟨['+'], _, by simp, hds, congrArg (List.cons '+') heq⟩
      · exact ⟨['-'], _, by simp, hds, congrArg (List.cons '-') heq⟩
      · exact ⟨[], _, by simp, hds, heq⟩
    · cases h

theorem eq_of_realNumber_eq_ok
    {negative : Bool} {n : Nat} {e : Int} {s r : List Char} {x : Number}
    (h : (do
      let x ← realNumber negative n e
      return (x, s)) = Except.ok (x, r)) :
    s = r ∧ ∀ k, x ≠ .integer k := by
  obtain ⟨y, hy, hpair⟩ := bind_eq_ok_iff.1 h
  cases hpair
  refine ⟨rfl, ?_⟩
  rintro k rfl
  unfold realNumber at hy
  split at hy <;> cases hy

theorem numberFromExponent_eq_ok
    {negative : Bool} {n : Nat} {shift : Int} {s r : List Char} {x : Number}
    (h : numberFromExponent negative n shift s = .ok (x, r)) :
    ∃ e, IsExponent e ∧ s = e ++ r ∧ ∀ k, x ≠ .integer k := by
  unfold numberFromExponent at h
  simp only at h
  split at h
  · obtain ⟨⟨e, t⟩, hexponent, hreal⟩ := bind_eq_ok_iff.1 h
    obtain ⟨rfl, hx⟩ := eq_of_realNumber_eq_ok hreal
    obtain ⟨sign, ds, hsign, hds, rfl⟩ := exponent_eq_ok hexponent
    exact ⟨'e' :: (sign ++ ds), .inr ⟨'e', sign, ds, by simp, hsign, hds, rfl⟩, by simp, hx⟩
  · obtain ⟨⟨e, t⟩, hexponent, hreal⟩ := bind_eq_ok_iff.1 h
    obtain ⟨rfl, hx⟩ := eq_of_realNumber_eq_ok hreal
    obtain ⟨sign, ds, hsign, hds, rfl⟩ := exponent_eq_ok hexponent
    exact ⟨'E' :: (sign ++ ds), .inr ⟨'E', sign, ds, by simp, hsign, hds, rfl⟩, by simp, hx⟩
  · obtain ⟨⟨e, t⟩, hnone, hreal⟩ := bind_eq_ok_iff.1 h
    cases hnone
    obtain ⟨rfl, hx⟩ := eq_of_realNumber_eq_ok hreal
    exact ⟨[], .inl rfl, rfl, hx⟩

/-- What is read behind the digits of a number makes it a real one unless it is nothing. -/
theorem numberFromPoint_eq_ok
    {negative : Bool} {n dropped : Nat} {s r : List Char} {x : Number}
    (h : numberFromPoint negative n dropped s = .ok (x, r)) :
    ∃ f e, IsFraction f ∧ IsExponent e ∧ s = f ++ (e ++ r) ∧
      ∀ k, x = .integer k → f = [] ∧ e = [] ∧ dropped = 0 ∧ x = plainNumber negative n := by
  have hwithout : ∀ {shift : Int} {t : List Char},
      numberFromExponent negative n shift t = .ok (x, r) →
        ∃ f e, IsFraction f ∧ IsExponent e ∧ t = f ++ (e ++ r) ∧
          ∀ k, x = .integer k → f = [] ∧ e = [] ∧ dropped = 0 ∧ x = plainNumber negative n := by
    intro shift t ht
    obtain ⟨e, he, rfl, hx⟩ := numberFromExponent_eq_ok ht
    exact ⟨[], e, .inl rfl, he, rfl, fun k hk => absurd hk (hx k)⟩
  unfold numberFromPoint at h
  split at h
  · cases h
  · rename_i c t
    split at h
    · rename_i hc
      obtain ⟨hds, hsplit⟩ := exists_digits (s := t) hc
      have hrest := fractionDigits_eq n 0 false (c :: t)
      generalize fractionDigits n 0 false (c :: t) = p at h hrest
      obtain ⟨m, taken, u⟩ := p
      obtain ⟨e, he, rfl, hx⟩ := numberFromExponent_eq_ok h
      refine ⟨'.' :: (c :: t).takeWhile Char.isDigit, e, .inr ⟨_, hds, rfl⟩, he, ?_,
        fun k hk => absurd hk (hx k)⟩
      have htail : e ++ r = (c :: t).dropWhile Char.isDigit := hrest
      rw [List.cons_append, htail, ← hsplit]
    · cases h
  · exact hwithout h
  · exact hwithout h
  · split at h
    · rename_i hdropped
      cases h
      exact ⟨[], [], .inl rfl, .inl rfl, rfl, fun k hk => ⟨rfl, rfl, hdropped, rfl⟩⟩
    · exact hwithout h

/-- A number that is read has its three parts, and an integer has only the first. -/
theorem unsignedNumber_eq_ok
    {negative : Bool} {s r : List Char} {x : Number}
    (h : unsignedNumber negative s = .ok (x, r)) :
    ∃ whole f e, IsWhole whole ∧ IsFraction f ∧ IsExponent e ∧ s = whole ++ (f ++ (e ++ r)) ∧
      ∀ k, x = .integer k → f = [] ∧ e = [] ∧ x = plainNumber negative (Decimal.value whole) := by
  unfold unsignedNumber at h
  split at h
  · cases h
  · split at h
    · cases h
    · obtain ⟨f, e, hf, he, rfl, hx⟩ := numberFromPoint_eq_ok h
      refine ⟨['0'], f, e, isWhole_zero, hf, he, rfl, fun k hk => ?_⟩
      obtain ⟨hfraction, hexponent, -, hplain⟩ := hx k hk
      exact ⟨hfraction, hexponent, hplain⟩
  · rename_i c t hzero
    split at h
    · rename_i hc
      obtain ⟨hrest, hvalue⟩ := wholeDigits_eq 0 0 (c :: t)
      generalize wholeDigits 0 0 (c :: t) = p at h hrest hvalue
      obtain ⟨n, dropped, u⟩ := p
      obtain ⟨hds, hsplit⟩ := exists_digits (s := t) hc
      obtain ⟨f, e, hf, he, rfl, hx⟩ := numberFromPoint_eq_ok h
      have hwhole : IsWhole ((c :: t).takeWhile Char.isDigit) := by
        rw [List.takeWhile_cons_of_pos hc] at hds ⊢
        refine isWhole_cons hds ?_
        exact hzero
      refine ⟨_, f, e, hwhole, hf, he, ?_, fun k hk => ?_⟩
      · have htail : f ++ (e ++ r) = (c :: t).dropWhile Char.isDigit := hrest
        rw [htail, ← hsplit]
      · obtain ⟨hfraction, hexponent, hdropped, hplain⟩ := hx k hk
        obtain ⟨-, rfl⟩ := hvalue hdropped
        exact ⟨hfraction, hexponent, hplain⟩
    · cases h

theorem natural?_eq_some_iff
    {s : List Char} {n : Nat} :
    Decimal.natural? s = some n ↔ IsDigits s ∧ Decimal.value s = n := by
  simp [Decimal.natural?, IsDigits]

theorem natural?_of_digits
    {ds : List Char}
    (h : IsDigits ds) :
    Decimal.natural? ds = some (Decimal.value ds) :=
  natural?_eq_some_iff.2 ⟨h, rfl⟩

theorem integer?_of_digits
    {ds : List Char}
    (h : IsDigits ds) :
    Decimal.integer? ds = some (Decimal.value ds) := by
  unfold Decimal.integer?
  split
  · exact absurd (h.2 '-' (by simp)) (by decide)
  · exact absurd (h.2 '+' (by simp)) (by decide)
  · rw [natural?_of_digits h]
    rfl

/-- What is read as a number is one, and an integer has its value.  A natural number has no sign. -/
theorem exists_number_of_readNumber
    {s r : List Char} {x : Number}
    (h : readNumber s = .ok (x, r)) :
    ∃ token, IsNumber token ∧ s = token ++ r ∧
      ∀ k, x = .integer k →
        Decimal.integer? token = some k ∧
          (0 ≤ k → Decimal.natural? token = some k.toNat) := by
  unfold readNumber at h
  split at h
  · obtain ⟨whole, f, e, hwhole, hf, he, rfl, hx⟩ := unsignedNumber_eq_ok h
    refine ⟨['-'] ++ (whole ++ (f ++ e)), .mk (by simp) hwhole hf he, by simp, fun k hk => ?_⟩
    obtain ⟨rfl, rfl, hplain⟩ := hx k hk
    rw [hk, plainNumber, if_neg (by simp)] at hplain
    split at hplain
    · rename_i hpos
      cases hplain
      exact ⟨by simp [Decimal.integer?, natural?_of_digits hwhole.1], fun hnonneg => by omega⟩
    · cases hplain
  · obtain ⟨whole, f, e, hwhole, hf, he, rfl, hx⟩ := unsignedNumber_eq_ok h
    refine ⟨[] ++ (whole ++ (f ++ e)), .mk (by simp) hwhole hf he, by simp, fun k hk => ?_⟩
    obtain ⟨rfl, rfl, hplain⟩ := hx k hk
    rw [hk, plainNumber, if_pos rfl] at hplain
    cases hplain
    exact ⟨by simpa using integer?_of_digits hwhole.1,
      fun _ => by simpa using natural?_of_digits hwhole.1⟩

theorem le_ofDigitChars (ds : List Char) (n : Nat) :
    n ≤ Nat.ofDigitChars 10 ds n := by
  induction ds generalizing n with
  | nil =>
      simp
  | cons c ds ih =>
      rw [Nat.ofDigitChars_cons]
      have htail := ih (10 * n + (c.toNat - '0'.toNat))
      omega

theorem withDigit?_of_le
    {n : Nat} {c : Char}
    (h : 10 * n + (c.toNat - '0'.toNat) ≤ maxInteger) :
    withDigit? n c = some (10 * n + (c.toNat - '0'.toNat)) := by
  simp only [withDigit?, if_pos h]

/-- No digit of a number that fits is left out. -/
theorem wholeDigits_of_le
    {n dropped : Nat} {s : List Char}
    (hdropped : dropped = 0)
    (h : Nat.ofDigitChars 10 (s.takeWhile Char.isDigit) n ≤ maxInteger) :
    (wholeDigits n dropped s).2.1 = 0 := by
  fun_induction wholeDigits n dropped s with
  | case1 =>
      exact hdropped
  | case2 n c s hc m hm ih =>
      rw [List.takeWhile_cons_of_pos hc, Nat.ofDigitChars_cons] at h
      have hfits : 10 * n + (c.toNat - '0'.toNat) ≤ maxInteger :=
        Nat.le_trans (le_ofDigitChars _ _) h
      rw [withDigit?_of_le hfits, Option.some.injEq] at hm
      exact ih rfl (hm ▸ h)
  | case3 n dropped c s hc hfull ih =>
      rw [List.takeWhile_cons_of_pos hc, Nat.ofDigitChars_cons] at h
      have hfits : 10 * n + (c.toNat - '0'.toNat) ≤ maxInteger :=
        Nat.le_trans (le_ofDigitChars _ _) h
      exact absurd (withDigit?_of_le hfits) (hfull _ hdropped)
  | case4 =>
      exact hdropped

theorem numberFromPoint_of_stops
    {negative : Bool} {n : Nat} {r : List Char}
    (hr : Stops r) :
    numberFromPoint negative n 0 r = .ok (plainNumber negative n, r) := by
  unfold numberFromPoint
  split
  · exact absurd (hr '.' rfl) (by decide)
  · exact absurd (hr '.' rfl) (by decide)
  · exact absurd (hr 'e' rfl) (by decide)
  · exact absurd (hr 'E' rfl) (by decide)
  · rfl

/-- A number that has nothing but digits has its digits before the point. -/
theorem IsNumber.isWhole
    {token : List Char}
    (h : IsNumber token)
    (hdigits : ∀ c ∈ token, c.isDigit = true) :
    IsWhole token := by
  obtain ⟨hsign, hwhole, hfraction, hexponent⟩ := h
  simp only [List.forall_mem_append] at hdigits
  obtain ⟨hsigns, -, hfractions, hexponents⟩ := hdigits
  obtain rfl | rfl := hsign
  · obtain rfl | ⟨ds, -, rfl⟩ := hfraction
    · obtain rfl | ⟨e, sign, ds, rfl | rfl, -, -, rfl⟩ := hexponent
      · simpa using hwhole
      · exact absurd (hexponents 'e' (by simp)) (by decide)
      · exact absurd (hexponents 'E' (by simp)) (by decide)
    · exact absurd (hfractions '.' (by simp)) (by decide)
  · exact absurd (hsigns '-' (by simp)) (by decide)

/-- Digits that fit into 64 bits are all counted. -/
theorem wholeDigits_of_digits
    {ds r : List Char}
    (hds : ∀ c ∈ ds, c.isDigit = true)
    (hfits : Decimal.value ds ≤ maxInteger)
    (hr : NoDigit r) :
    wholeDigits 0 0 (ds ++ r) = (Decimal.value ds, 0, r) := by
  have hrest := dropWhile_digits hds hr
  have htake : (ds ++ r).takeWhile Char.isDigit = ds := by
    refine List.append_cancel_right (?_ : _ ++ r = _ ++ r)
    nth_rewrite 2 [← hrest]
    exact List.takeWhile_append_dropWhile
  obtain ⟨hdrop, hexact⟩ := wholeDigits_eq 0 0 (ds ++ r)
  have hdropped : (wholeDigits 0 0 (ds ++ r)).2.1 = 0 := by
    refine wholeDigits_of_le rfl ?_
    rw [htake]
    exact hfits
  obtain ⟨-, hvalue⟩ := hexact hdropped
  rw [htake] at hvalue
  rw [hrest] at hdrop
  exact Prod.ext hvalue (Prod.ext hdropped hdrop)

/-- Digits that fit into 64 bits are read as their value. -/
theorem unsignedNumber_of_whole
    {negative : Bool} {ds r : List Char}
    (hds : IsWhole ds)
    (hfits : Decimal.value ds ≤ maxInteger)
    (hr : Stops r) :
    unsignedNumber negative (ds ++ r) = .ok (plainNumber negative (Decimal.value ds), r) := by
  obtain ⟨⟨hne, hall⟩, hzero⟩ := hds
  obtain ⟨c, ds, rfl⟩ := List.exists_cons_of_ne_nil hne
  by_cases hc : c = '0'
  · subst hc
    obtain rfl : ds = [] := (List.cons.inj (hzero rfl)).2
    have hhead : ¬ (r.head?.map Char.isDigit).getD false = true := by
      cases r with
      | nil =>
          simp
      | cons d r =>
          simpa using hr.noDigit d rfl
    exact (if_neg hhead).trans (numberFromPoint_of_stops hr)
  · have hdigits := wholeDigits_of_digits hall hfits hr.noDigit
    rw [List.cons_append] at hdigits ⊢
    unfold unsignedNumber
    split
    · cases ‹_ = []›
    · rename_i heq
      exact absurd (List.cons.inj heq).1 hc
    · rename_i heq
      cases heq
      rw [if_pos (hall _ (by simp)), hdigits]
      exact numberFromPoint_of_stops hr

/-- Digits without a sign are read as their number, if it fits. -/
theorem readNumber_of_natural
    {token r : List Char} {n : Nat}
    (htoken : IsNumber token)
    (hvalue : Decimal.natural? token = some n)
    (hn : n ≤ maxInteger)
    (hr : Stops r) :
    readNumber (token ++ r) = .ok (.integer n, r) := by
  obtain ⟨hdigits, rfl⟩ := natural?_eq_some_iff.1 hvalue
  have hunsigned : unsignedNumber false (token ++ r) = .ok (.integer (Decimal.value token), r) :=
    unsignedNumber_of_whole (htoken.isWhole hdigits.2) hn hr
  unfold readNumber
  split
  · rename_i heq
    exact absurd (hdigits.isDigit_of_append_eq heq) (by decide)
  · exact hunsigned

end Json
end FilterQuery
