import FilterQuery.Proofs.Json.Number

/-!
# Numbers and what stands behind them

What a number is read as is a matter of its own characters.  It is read in the same way in front of
anything by which no number goes on; and where it is read at all, it is read in the same way at the
end of a text.

**Parts.** The digits in front of a point, a fraction and an exponent are read one behind the other.
For each part it is said what it leaves to the next, which may refuse it; that part of a text which
was read is then a part of the grammar.

**Results.**
* `exists_readNumber`, `readNumber_append`: the reading of a number does not look behind it.
* `exists_readNumber_split`: what is read as a number is one, and is read alone.
-/

namespace FilterQuery
namespace Json

variable {negative : Bool} {ds f e token r : List Char}

/-- Characters that begin with no digit are left alone by the digits before the point. -/
theorem wholeDigits_append
    (hr : NoDigit r)
    (n dropped : Nat)
    (s : List Char) :
    wholeDigits n dropped (s ++ r) =
      ((wholeDigits n dropped s).1, (wholeDigits n dropped s).2.1,
        (wholeDigits n dropped s).2.2 ++ r) := by
  fun_induction wholeDigits n dropped s with
  | case1 =>
      cases r with
      | nil =>
          rfl
      | cons c r =>
          exact if_neg (by simp [hr c rfl])
  | case2 n c s hc m hm ih =>
      rw [List.cons_append]
      conv_lhs => unfold wholeDigits
      simp only [if_pos hc, hm]
      exact ih
  | case3 n dropped c s hc hfull ih =>
      rw [List.cons_append]
      conv_lhs => unfold wholeDigits
      rw [if_pos hc]
      split
      · rename_i m hm
        exact absurd hm (hfull m rfl)
      · exact ih
  | case4 n dropped c s hc =>
      exact if_neg hc

/-- Characters that begin with no digit are left alone by the digits behind the point. -/
theorem fractionDigits_append
    (hr : NoDigit r)
    (n taken : Nat)
    (full : Bool)
    (s : List Char) :
    fractionDigits n taken full (s ++ r) =
      ((fractionDigits n taken full s).1, (fractionDigits n taken full s).2.1,
        (fractionDigits n taken full s).2.2 ++ r) := by
  fun_induction fractionDigits n taken full s with
  | case1 =>
      cases r with
      | nil =>
          rfl
      | cons c r =>
          exact if_neg (by simp [hr c rfl])
  | case2 n taken c s hc m hm ih =>
      rw [List.cons_append]
      conv_lhs => unfold fractionDigits
      simp only [if_pos hc, hm]
      exact ih
  | case3 n taken full c s hc hfull ih =>
      rw [List.cons_append]
      conv_lhs => unfold fractionDigits
      rw [if_pos hc]
      split
      · rename_i m hm
        exact absurd hm (hfull m rfl)
      · exact ih
  | case4 n taken full c s hc =>
      exact if_neg hc

theorem noDigit_dropWhile (s : List Char) :
    NoDigit (s.dropWhile Char.isDigit) := by
  intro c hc
  have hnot := List.head?_dropWhile_not Char.isDigit s
  rw [show (s.dropWhile Char.isDigit).head? = some c from hc] at hnot
  exact hnot

theorem NoDigit.of_append
    {s r : List Char}
    (h : NoDigit (s ++ r))
    (hs : s ≠ []) :
    NoDigit s := by
  obtain ⟨c, s, rfl⟩ := List.exists_cons_of_ne_nil hs
  exact h

/-- An exponent is read as its digits say, with its sign. -/
theorem exponent_of_digits
    {sign : List Char}
    (hsign : sign = [] ∨ sign = ['+'] ∨ sign = ['-'])
    (hds : IsDigits ds)
    (hr : NoDigit r) :
    exponent (sign ++ (ds ++ r)) =
      .ok (if sign = ['-'] then -(Decimal.value ds : Int) else Decimal.value ds, r) := by
  obtain ⟨hne, hall⟩ := hds
  have hdrop := dropWhile_digits hall hr
  have htake : (ds ++ r).takeWhile Char.isDigit = ds := by
    refine List.append_cancel_right (?_ : _ ++ r = _ ++ r)
    nth_rewrite 2 [← hdrop]
    exact List.takeWhile_append_dropWhile
  obtain ⟨c, ds, rfl⟩ := List.exists_cons_of_ne_nil hne
  have hc : c.isDigit = true := hall c (by simp)
  rw [List.cons_append] at htake hdrop ⊢
  obtain rfl | rfl | rfl := hsign
  · rw [List.nil_append, exponent]
    · simp only [if_pos hc, htake, hdrop]
      rfl
    · rintro _ ⟨⟩
      exact absurd hc (by decide)
    · rintro _ ⟨⟩
      exact absurd hc (by decide)
  · rw [List.singleton_append, exponent]
    simp only [if_pos hc, htake, hdrop]
    rfl
  · rw [List.singleton_append, exponent]
    simp only [if_pos hc, htake, hdrop]

theorem noDigit_of_exponent
    {s : List Char} {k : Int}
    (h : exponent s = .ok (k, r)) :
    NoDigit r := by
  unfold exponent at h
  simp only at h
  split at h
  · cases h
  · split at h
    · cases h
      exact noDigit_dropWhile _
    · cases h

/-- An exponent that is read is read without what stands behind it. -/
theorem exists_exponent_split
    {s : List Char} {k : Int}
    (h : exponent s = .ok (k, r)) :
    ∃ t, s = t ++ r ∧ (∀ c, c = 'e' ∨ c = 'E' → IsExponent (c :: t)) ∧
      exponent t = .ok (k, []) := by
  have hr := noDigit_of_exponent h
  obtain ⟨sign, ds, hsign, hds, rfl⟩ := exponent_eq_ok h
  have hnil : NoDigit [] := by
    simp [NoDigit]
  have hread := exponent_of_digits hsign hds hnil
  rw [exponent_of_digits hsign hds hr] at h
  cases h
  rw [List.append_nil] at hread
  exact ⟨sign ++ ds, by simp, fun c hc => .inr ⟨c, sign, ds, hc, hsign, hds, rfl⟩, hread⟩

theorem bind_pair_eq_map
    {α : Type}
    (y : Except Problem α)
    (s : List Char) :
    (y >>= fun x => pure (x, s)) = y.map fun x => (x, s) := by
  cases y <;> rfl

theorem map_pair_eq_ok_iff
    {α : Type} {y : Except Problem α} {x : α} {s : List Char} :
    (y.map fun x => (x, s)) = .ok (x, r) ↔ y = .ok x ∧ s = r := by
  cases y <;> simp [Except.map]

/-- Whether an exponent begins with a character. -/
def BeginsExponent (s : List Char) : Prop :=
  ∃ t, s = 'e' :: t ∨ s = 'E' :: t

/-- Without an exponent a number ends where its digits do. -/
theorem numberFromExponent_of_not_begins
    {s : List Char}
    (h : ¬ BeginsExponent s)
    (n : Nat)
    (shift : Int) :
    numberFromExponent negative n shift s =
      (realNumber negative n shift).map fun x => (x, s) := by
  rw [numberFromExponent, ok_bind]
  · simp only [Int.add_zero]
    exact bind_pair_eq_map _ s
  · rintro t rfl
    exact h ⟨t, .inl rfl⟩
  · rintro t rfl
    exact h ⟨t, .inr rfl⟩

theorem numberFromExponent_of_exponent
    {c : Char} {s : List Char} {k : Int}
    (hc : c = 'e' ∨ c = 'E')
    (h : exponent s = .ok (k, r))
    (n : Nat)
    (shift : Int) :
    numberFromExponent negative n shift (c :: s) =
      (realNumber negative n (shift + k)).map fun x => (x, r) := by
  obtain rfl | rfl := hc
  · rw [numberFromExponent, h, ok_bind]
    exact bind_pair_eq_map _ r
  · rw [numberFromExponent, h, ok_bind]
    exact bind_pair_eq_map _ r

theorem not_begins_of_stops
    (hr : Stops r) :
    ¬ BeginsExponent r := by
  rintro ⟨t, rfl | rfl⟩
  · exact absurd (hr 'e' rfl) (by decide)
  · exact absurd (hr 'E' rfl) (by decide)

theorem exists_numberFromExponent
    (he : IsExponent e)
    (negative : Bool)
    (n : Nat)
    (shift : Int) :
    ∃ y : Except Problem Number, ∀ r, Stops r →
      numberFromExponent negative n shift (e ++ r) = y.map fun x => (x, r) := by
  obtain rfl | ⟨c, sign, ds, hc, hsign, hds, rfl⟩ := he
  · exact ⟨realNumber negative n shift, fun r hr =>
      numberFromExponent_of_not_begins (not_begins_of_stops hr) n shift⟩
  · obtain ⟨k, hk⟩ : ∃ k, ∀ r, NoDigit r → exponent (sign ++ (ds ++ r)) = .ok (k, r) :=
      ⟨_, fun r hr => exponent_of_digits hsign hds hr⟩
    refine ⟨realNumber negative n (shift + k), fun r hr => ?_⟩
    rw [List.cons_append, List.append_assoc,
      numberFromExponent_of_exponent hc (hk r hr.noDigit)]

theorem exists_numberFromExponent_split
    {s : List Char} {n : Nat} {shift : Int} {x : Number}
    (h : numberFromExponent negative n shift s = .ok (x, r)) :
    ∃ e, IsExponent e ∧ s = e ++ r ∧ (BeginsExponent s → BeginsExponent e) ∧
      numberFromExponent negative n shift e = .ok (x, []) := by
  by_cases hs : BeginsExponent s
  · obtain ⟨c, t, hc, rfl⟩ : ∃ c t, (c = 'e' ∨ c = 'E') ∧ s = c :: t := by
      obtain ⟨t, rfl | rfl⟩ := hs
      · exact ⟨_, t, .inl rfl, rfl⟩
      · exact ⟨_, t, .inr rfl, rfl⟩
    cases hread : exponent t with
    | error =>
        obtain rfl | rfl := hc <;> rw [numberFromExponent, hread] at h <;> cases h
    | ok p =>
        obtain ⟨k, u⟩ := p
        rw [numberFromExponent_of_exponent hc hread, map_pair_eq_ok_iff] at h
        obtain ⟨hx, rfl⟩ := h
        obtain ⟨t, rfl, hexponent, hshort⟩ := exists_exponent_split hread
        refine ⟨c :: t, hexponent c hc, rfl, fun _ => ?_, ?_⟩
        · obtain rfl | rfl := hc
          · exact ⟨t, .inl rfl⟩
          · exact ⟨t, .inr rfl⟩
        · rw [numberFromExponent_of_exponent hc hshort, hx]
          rfl
  · rw [numberFromExponent_of_not_begins hs, map_pair_eq_ok_iff] at h
    obtain ⟨hx, rfl⟩ := h
    refine ⟨[], .inl rfl, rfl, fun h => absurd h hs, ?_⟩
    rw [numberFromExponent_of_not_begins (not_begins_of_stops stops_nil), hx]
    rfl

/-- Digits behind a point are counted, and they shift the point back. -/
theorem numberFromPoint_of_digits
    (hds : IsDigits ds)
    (hr : NoDigit r)
    (n dropped : Nat) :
    numberFromPoint negative n dropped ('.' :: (ds ++ r)) =
      numberFromExponent negative (fractionDigits n 0 false ds).1
        ((dropped : Int) - (fractionDigits n 0 false ds).2.1) r := by
  have hrest := fractionDigits_append hr n 0 false ds
  have hdrop : ds.dropWhile Char.isDigit = [] := List.dropWhile_eq_nil_iff.2 hds.2
  rw [fractionDigits_eq, hdrop, List.nil_append] at hrest
  obtain ⟨c, ds, rfl⟩ := List.exists_cons_of_ne_nil hds.1
  rw [List.cons_append, numberFromPoint, if_pos (hds.2 c (by simp)), ← List.cons_append, hrest]

theorem numberFromPoint_of_exponent
    {s : List Char} {n dropped : Nat}
    (hpoint : s.head? ≠ some '.')
    (h : BeginsExponent s ∨ dropped ≠ 0) :
    numberFromPoint negative n dropped s = numberFromExponent negative n dropped s := by
  unfold numberFromPoint
  split
  · exact absurd rfl hpoint
  · exact absurd rfl hpoint
  · rfl
  · rfl
  · rename_i he hE
    refine if_neg ?_
    obtain ⟨t, rfl | rfl⟩ | hdropped := h
    · exact absurd rfl (he t)
    · exact absurd rfl (hE t)
    · exact hdropped

theorem numberFromPoint_of_plain
    {s : List Char}
    (hpoint : s.head? ≠ some '.')
    (h : ¬ BeginsExponent s)
    (n : Nat) :
    numberFromPoint negative n 0 s = .ok (plainNumber negative n, s) := by
  unfold numberFromPoint
  split
  · exact absurd rfl hpoint
  · exact absurd rfl hpoint
  · exact absurd ⟨_, .inl rfl⟩ h
  · exact absurd ⟨_, .inr rfl⟩ h
  · rfl

theorem head?_ne_point
    (he : IsExponent e)
    (hr : Stops r) :
    (e ++ r).head? ≠ some '.' := by
  obtain rfl | ⟨c, sign, ds, rfl | rfl, -, -, rfl⟩ := he
  · intro h
    exact absurd (hr '.' h) (by decide)
  · simp
  · simp

theorem exists_numberFromPoint
    (hf : IsFraction f)
    (he : IsExponent e)
    (negative : Bool)
    (n dropped : Nat) :
    ∃ y : Except Problem Number, ∀ r, Stops r →
      numberFromPoint negative n dropped (f ++ (e ++ r)) = y.map fun x => (x, r) := by
  obtain rfl | ⟨ds, hds, rfl⟩ := hf
  · by_cases hplain : e = [] ∧ dropped = 0
    · obtain ⟨rfl, rfl⟩ := hplain
      exact ⟨.ok (plainNumber negative n), fun r hr =>
        numberFromPoint_of_plain (head?_ne_point he hr) (not_begins_of_stops hr) n⟩
    · obtain ⟨y, hy⟩ := exists_numberFromExponent he negative n dropped
      refine ⟨y, fun r hr => ?_⟩
      rw [List.nil_append, numberFromPoint_of_exponent (head?_ne_point he hr), hy r hr]
      obtain rfl | ⟨c, sign, ds, rfl | rfl, -, -, rfl⟩ := he
      · exact .inr fun hdropped => hplain ⟨rfl, hdropped⟩
      · exact .inl ⟨_, .inl rfl⟩
      · exact .inl ⟨_, .inr rfl⟩
  · obtain ⟨y, hy⟩ := exists_numberFromExponent he negative
      (fractionDigits n 0 false ds).1 ((dropped : Int) - (fractionDigits n 0 false ds).2.1)
    refine ⟨y, fun r hr => ?_⟩
    rw [List.cons_append, numberFromPoint_of_digits hds (he.noDigit hr), hy r hr]

/-- A point is followed by digits wherever a number with it is read. -/
theorem exists_digits_of_point
    {s : List Char} {n dropped : Nat} {p : Number × List Char}
    (h : numberFromPoint negative n dropped ('.' :: s) = .ok p) :
    ∃ ds t, IsDigits ds ∧ NoDigit t ∧ s = ds ++ t := by
  cases s with
  | nil =>
      cases h
  | cons c s =>
      by_cases hc : c.isDigit = true
      · obtain ⟨hds, hsplit⟩ := exists_digits (s := s) hc
        exact ⟨_, _, hds, noDigit_dropWhile _, hsplit⟩
      · rw [numberFromPoint, if_neg hc] at h
        cases h

theorem exists_numberFromPoint_split
    {s : List Char} {n dropped : Nat} {x : Number}
    (h : numberFromPoint negative n dropped s = .ok (x, r)) :
    ∃ f e, IsFraction f ∧ IsExponent e ∧ s = f ++ (e ++ r) ∧
      numberFromPoint negative n dropped (f ++ e) = .ok (x, []) := by
  by_cases hpoint : s.head? = some '.'
  · obtain ⟨s, rfl⟩ := List.head?_eq_some_iff.1 hpoint
    obtain ⟨ds, t, hds, ht, rfl⟩ := exists_digits_of_point h
    rw [numberFromPoint_of_digits hds ht] at h
    obtain ⟨e, he, rfl, -, hshort⟩ := exists_numberFromExponent_split h
    have hnoDigit : NoDigit e := by
      simpa using he.noDigit stops_nil
    refine ⟨'.' :: ds, e, .inr ⟨ds, hds, rfl⟩, he, by simp, ?_⟩
    rw [List.cons_append, numberFromPoint_of_digits hds hnoDigit, hshort]
  -- With digits that did not fit, a number goes through the reader of exponents in any case.
  · by_cases hplain : ¬ BeginsExponent s ∧ dropped = 0
    · obtain ⟨hbegins, rfl⟩ := hplain
      rw [numberFromPoint_of_plain hpoint hbegins] at h
      cases h
      exact ⟨[], [], .inl rfl, .inl rfl, rfl, rfl⟩
    · have hor : BeginsExponent s ∨ dropped ≠ 0 := by
        tauto
      rw [numberFromPoint_of_exponent hpoint hor] at h
      obtain ⟨e, he, rfl, hbegins, hshort⟩ := exists_numberFromExponent_split h
      refine ⟨[], e, .inl rfl, he, rfl, ?_⟩
      have hhead := head?_ne_point he stops_nil
      rw [List.append_nil] at hhead
      rw [List.nil_append, numberFromPoint_of_exponent hhead (hor.imp_left hbegins), hshort]

/-- The digits before the point are read first, whatever follows. -/
theorem unsignedNumber_append
    {whole : List Char}
    (hwhole : IsWhole whole)
    (hr : NoDigit r)
    (negative : Bool) :
    unsignedNumber negative (whole ++ r) =
      numberFromPoint negative (wholeDigits 0 0 whole).1 (wholeDigits 0 0 whole).2.1 r := by
  obtain ⟨hds, hzero⟩ := hwhole
  by_cases hc : whole.head? = some '0'
  · obtain rfl := hzero hc
    have hhead : ¬ (r.head?.map Char.isDigit).getD false = true := by
      cases hhead : r.head? with
      | none =>
          simp
      | some c =>
          simp [hr c hhead]
    exact if_neg hhead
  · have hrest := wholeDigits_append hr 0 0 whole
    have hdrop : whole.dropWhile Char.isDigit = [] := List.dropWhile_eq_nil_iff.2 hds.2
    rw [(wholeDigits_eq 0 0 whole).1, hdrop, List.nil_append] at hrest
    obtain ⟨c, ds, rfl⟩ := List.exists_cons_of_ne_nil hds.1
    rw [List.cons_append] at hrest ⊢
    rw [unsignedNumber, if_pos (hds.2 c (by simp)), hrest]
    rintro rfl
    exact hc rfl

theorem exists_whole_of_unsignedNumber
    {s : List Char} {p : Number × List Char}
    (h : unsignedNumber negative s = .ok p) :
    ∃ whole t, IsWhole whole ∧ NoDigit t ∧ s = whole ++ t := by
  unfold unsignedNumber at h
  split at h
  · cases h
  · rename_i t
    split at h
    · cases h
    · rename_i hhead
      refine ⟨['0'], t, isWhole_zero, fun c hc => ?_, rfl⟩
      rw [show t.head? = some c from hc] at hhead
      simpa using hhead
  · rename_i c s hzero
    split at h
    · rename_i hc
      obtain ⟨hds, hsplit⟩ := exists_digits (s := s) hc
      have hwhole : IsWhole ((c :: s).takeWhile Char.isDigit) := by
        rw [List.takeWhile_cons_of_pos hc] at hds ⊢
        exact isWhole_cons hds hzero
      exact ⟨_, _, hwhole, noDigit_dropWhile _, hsplit⟩
    · cases h

/-- A number without a sign has its three parts, and they tell its value. -/
theorem exists_unsignedNumber_split
    {s : List Char} {x : Number}
    (h : unsignedNumber negative s = .ok (x, r)) :
    ∃ whole f e, IsWhole whole ∧ IsFraction f ∧ IsExponent e ∧ s = whole ++ (f ++ (e ++ r)) ∧
      unsignedNumber negative (whole ++ (f ++ e)) = .ok (x, []) := by
  obtain ⟨whole, t, hwhole, ht, rfl⟩ := exists_whole_of_unsignedNumber h
  rw [unsignedNumber_append hwhole ht] at h
  obtain ⟨f, e, hf, he, rfl, hshort⟩ := exists_numberFromPoint_split h
  have hnoDigit : NoDigit (f ++ e) := by
    simpa using hf.noDigit (he.noDigit stops_nil)
  refine ⟨whole, f, e, hwhole, hf, he, rfl, ?_⟩
  rw [unsignedNumber_append hwhole hnoDigit, hshort]

theorem readNumber_of_whole
    {whole : List Char}
    (hwhole : IsWhole whole)
    (r : List Char) :
    readNumber (whole ++ r) = unsignedNumber false (whole ++ r) := by
  rw [readNumber]
  intro t heq
  exact absurd (hwhole.1.isDigit_of_append_eq heq) (by decide)

/-- What a number is read as does not depend on what stands behind it. -/
theorem exists_readNumber
    (h : IsNumber token) :
    ∃ y : Except Problem Number, ∀ r, Stops r →
      readNumber (token ++ r) = y.map fun x => (x, r) := by
  obtain @⟨sign, whole, f, e, hsign, hwhole, hf, he⟩ := h
  obtain ⟨y, hy⟩ := exists_numberFromPoint hf he (decide (sign = ['-']))
    (wholeDigits 0 0 whole).1 (wholeDigits 0 0 whole).2.1
  refine ⟨y, fun r hr => ?_⟩
  have hread := unsignedNumber_append hwhole (hf.noDigit (he.noDigit hr)) (decide (sign = ['-']))
  rw [hy r hr] at hread
  simp only [List.append_assoc]
  rw [← hread]
  obtain rfl | rfl := hsign
  · rw [List.nil_append, readNumber_of_whole hwhole]
    rfl
  · rfl

/-- A number that is read to its end is read so in front of anything that ends it. -/
theorem readNumber_append
    {x : Number}
    (h : IsNumber token)
    (hx : readNumber token = .ok (x, []))
    (hr : Stops r) :
    readNumber (token ++ r) = .ok (x, r) := by
  obtain ⟨y, hy⟩ := exists_readNumber h
  have hnil := hy [] stops_nil
  rw [List.append_nil, hx] at hnil
  rw [hy r hr, map_pair_eq_ok_iff]
  exact ⟨(map_pair_eq_ok_iff.1 hnil.symm).1, rfl⟩

/-- A number that is read is read without what stands behind it. -/
theorem exists_readNumber_split
    {s : List Char} {x : Number}
    (h : readNumber s = .ok (x, r)) :
    ∃ token, IsNumber token ∧ s = token ++ r ∧ readNumber token = .ok (x, []) := by
  unfold readNumber at h
  split at h
  · obtain ⟨whole, f, e, hwhole, hf, he, rfl, hshort⟩ := exists_unsignedNumber_split h
    exact ⟨['-'] ++ (whole ++ (f ++ e)), .mk (.inr rfl) hwhole hf he, by simp, hshort⟩
  · obtain ⟨whole, f, e, hwhole, hf, he, rfl, hshort⟩ := exists_unsignedNumber_split h
    refine ⟨[] ++ (whole ++ (f ++ e)), .mk (.inl rfl) hwhole hf he, by simp, ?_⟩
    rw [List.nil_append, readNumber_of_whole hwhole, hshort]

end Json
end FilterQuery
