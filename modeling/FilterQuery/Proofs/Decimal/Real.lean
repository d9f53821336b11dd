import FilterQuery.Proofs.Decimal.Literal

/-!
# Written reals

The texts that are read as real numbers, apart from any reader of them.

**Model.** A significand is digits with at most one point among them, in front of them or behind
them; how many digits stand behind the point says which power of ten is taken off.  An exponent
stands behind `e` in either case, with at most one sign.  Its digits count until their number
reaches `65536`; those behind are passed over.

**Results.**
* `unsigned?_eq_some_iff`: what is read as a real number without a sign is one.
* `ofChars?_eq_some_iff`: what is read as a real number other than infinity is one.
-/

namespace FilterQuery
namespace Decimal

open Json (IsDigits NoDigit)

/-- The number that the digits of an exponent stand for: none counts behind those that reach the
bound. -/
inductive Counts : List Char → Nat → Prop
  | digit
      {d : Nat}
      (hd : d < 10) :
      Counts [d.digitChar] d
  | append
      {ds : List Char} {n d : Nat}
      (hds : Counts ds n)
      (hn : n < 65536)
      (hd : d < 10) :
      Counts (ds ++ [d.digitChar]) (10 * n + d)
  | ignored
      {ds : List Char} {n d : Nat}
      (hds : Counts ds n)
      (hn : 65536 ≤ n)
      (hd : d < 10) :
      Counts (ds ++ [d.digitChar]) n

/-- Digits with at most one point, the number of the digits, and how many stand behind the point. -/
inductive IsSignificand : List Char → Nat → Nat → Prop
  | whole
      {ds : List Char} {n : Nat}
      (hds : Denotes ds n) :
      IsSignificand ds n 0
  | pointed
      {whole fraction : List Char} {n : Nat}
      (hds : Denotes (whole ++ fraction) n) :
      IsSignificand (whole ++ '.' :: fraction) n fraction.length

/-- Nothing, or `e` in either case with digits behind at most one sign. -/
inductive IsExponent : List Char → Int → Prop
  | none : IsExponent [] 0
  | unsigned
      {e : Char} {ds : List Char} {n : Nat}
      (he : e = 'e' ∨ e = 'E')
      (hds : Counts ds n) :
      IsExponent (e :: ds) n
  | plus
      {e : Char} {ds : List Char} {n : Nat}
      (he : e = 'e' ∨ e = 'E')
      (hds : Counts ds n) :
      IsExponent (e :: '+' :: ds) n
  | minus
      {e : Char} {ds : List Char} {n : Nat}
      (he : e = 'e' ∨ e = 'E')
      (hds : Counts ds n) :
      IsExponent (e :: '-' :: ds) (-n)

/-- A real number without a sign: the text of `c · 10 ^ e`. -/
def IsMagnitude (s : List Char) (c : Nat) (e : Int) : Prop :=
  ∃ (m x : List Char) (k : Nat) (f : Int),
    s = m ++ x ∧ IsSignificand m c k ∧ IsExponent x f ∧ e = f - k

/-- A written real number: the text of `c · 10 ^ e` behind at most one sign, and whether it is a
minus sign. -/
inductive IsReal : List Char → Bool → Nat → Int → Prop
  | unsigned
      {s : List Char} {c : Nat} {e : Int}
      (hs : IsMagnitude s c e) :
      IsReal s false c e
  | plus
      {s : List Char} {c : Nat} {e : Int}
      (hs : IsMagnitude s c e) :
      IsReal ('+' :: s) false c e
  | minus
      {s : List Char} {c : Nat} {e : Int}
      (hs : IsMagnitude s c e) :
      IsReal ('-' :: s) true c e

variable {s ds r m x : List Char} {n c k : Nat} {e : Int}

/-- A last digit counts while the number in front of it is below the bound. -/
theorem boundedValue_append_digitChar
    {d : Nat}
    (hd : d < 10) :
    Real.boundedValue (ds ++ [d.digitChar]) =
      if Real.boundedValue ds < 65536 then 10 * Real.boundedValue ds + d
      else Real.boundedValue ds := by
  have hvalue : d.digitChar.toNat - '0'.toNat = d := by
    have hzero : '0'.toNat = 48 := rfl
    rw [Nat.toNat_digitChar_of_lt_ten hd, hzero]
    omega
  rw [Real.boundedValue, List.foldl_append, List.foldl_cons, List.foldl_nil, hvalue]
  rfl

/-- Digits count up to the bound.  The induction is on the digits from the last one on. -/
theorem counts_boundedValue
    (h : IsDigits ds) :
    Counts ds (Real.boundedValue ds) := by
  obtain ⟨hne, hall⟩ := h
  induction ds using List.reverseRecOn with
  | nil =>
      exact absurd rfl hne
  | append_singleton ds c ih =>
      rw [List.forall_mem_append, List.forall_mem_singleton] at hall
      obtain ⟨d, hd, rfl⟩ := exists_digitChar_of_isDigit hall.2
      rw [boundedValue_append_digitChar hd]
      cases ds with
      | nil =>
          have hzero : Real.boundedValue [] = 0 := rfl
          rw [hzero, if_pos (by omega), Nat.mul_zero, Nat.zero_add]
          exact .digit hd
      | cons a ds =>
          have hfront := ih (by simp) hall.1
          split
          · rename_i hn
            exact .append hfront hn hd
          · rename_i hn
            exact .ignored hfront (by omega) hd

/-- The digits of an exponent count as they are read. -/
theorem counts_iff :
    Counts ds n ↔ IsDigits ds ∧ Real.boundedValue ds = n := by
  constructor
  · intro h
    induction h with
    | @digit d hd =>
        refine ⟨⟨by simp, by simp [Nat.isDigit_digitChar, hd]⟩, ?_⟩
        have hvalue := @boundedValue_append_digitChar [] d hd
        simpa [Real.boundedValue] using hvalue
    | @append ds n d hds hn hd ih | @ignored ds n d hds hn hd ih =>
        obtain ⟨hdigits, rfl⟩ := ih
        refine ⟨⟨by simp, ?_⟩, ?_⟩
        · rw [List.forall_mem_append, List.forall_mem_singleton]
          exact ⟨hdigits.2, by simp [Nat.isDigit_digitChar, hd]⟩
        · rw [boundedValue_append_digitChar hd]
          split <;> omega
  · rintro ⟨hdigits, rfl⟩
    exact counts_boundedValue hdigits

theorem isDigits_iff :
    (ds ≠ [] ∧ ds.all Char.isDigit) ↔ IsDigits ds := by
  simp [IsDigits]

/-- What is read as an exponent is one. -/
theorem exponent?_eq_some_iff :
    Real.exponent? s = some e ↔ IsExponent s e := by
  constructor
  · intro h
    unfold Real.exponent? at h
    split at h
    · cases h
      exact .none
    · split at h
      · rename_i he
        split at h <;> split at h
        · rename_i hds
          cases h
          exact .minus he (counts_boundedValue (isDigits_iff.1 hds))
        · cases h
        · rename_i hds
          cases h
          exact .plus he (counts_boundedValue (isDigits_iff.1 hds))
        · cases h
        · rename_i hds
          cases h
          exact .unsigned he (counts_boundedValue (isDigits_iff.1 hds))
        · cases h
      · cases h
  · intro h
    cases h with
    | none =>
        rfl
    | unsigned he hds =>
        obtain ⟨hdigits, rfl⟩ := counts_iff.1 hds
        unfold Real.exponent?
        simp only [if_pos he]
        split
        · exact absurd (hdigits.2 '-' (by simp)) (by decide)
        · exact absurd (hdigits.2 '+' (by simp)) (by decide)
        · exact if_pos (isDigits_iff.2 hdigits)
    | plus he hds | minus he hds =>
        obtain ⟨hdigits, rfl⟩ := counts_iff.1 hds
        simp only [Real.exponent?, if_pos he]
        exact if_pos (isDigits_iff.2 hdigits)

/-- Behind the digits of a number, neither a point nor an exponent begins with a digit. -/
theorem IsExponent.noDigit
    (h : IsExponent x e) :
    NoDigit x := by
  intro c hc
  cases h with
  | none =>
      simp at hc
  | unsigned he | plus he | minus he =>
      obtain rfl := Option.some.inj hc
      rcases he with rfl | rfl <;> rfl

/-- An exponent does not begin with a point. -/
theorem IsExponent.ne_point
    (h : IsExponent x e)
    (t : List Char) :
    x ≠ '.' :: t := by
  rintro rfl
  cases h with
  | unsigned he | plus he | minus he =>
      exact absurd he (by decide)

/-- The digits at the front of a text end where no digit follows. -/
theorem takeWhile_digits
    (hds : ∀ c ∈ ds, c.isDigit = true)
    (hr : NoDigit r) :
    (ds ++ r).takeWhile Char.isDigit = ds := by
  have hsplit := List.takeWhile_append_dropWhile (p := Char.isDigit) (l := ds ++ r)
  rw [Json.dropWhile_digits hds hr] at hsplit
  exact List.append_cancel_right hsplit

/-- Digits without a point and an exponent are read as they stand. -/
theorem unsigned?_of_whole
    {negative : Bool}
    (hds : Denotes m c)
    (hx : IsExponent x e) :
    Real.unsigned? negative (m ++ x) = some (.decimal negative c e) := by
  obtain ⟨⟨hne, hdigits⟩, rfl⟩ := Json.natural?_eq_some_iff.1 (denotes_iff.1 hds)
  rw [Real.unsigned?, takeWhile_digits hdigits hx.noDigit, Json.dropWhile_digits hdigits hx.noDigit]
  split
  rename_i fraction tail htail
  split at htail
  · rename_i r
    exact absurd rfl (hx.ne_point r)
  · cases htail
    rw [if_neg (by simp [hne]), exponent?_eq_some_iff.2 hx, List.append_nil]
    simp

/-- Digits behind the point lower the exponent. -/
theorem unsigned?_of_pointed
    {negative : Bool} {whole fraction : List Char}
    (hds : Denotes (whole ++ fraction) c)
    (hx : IsExponent x e) :
    Real.unsigned? negative (whole ++ '.' :: fraction ++ x) =
      some (.decimal negative c (e - fraction.length)) := by
  obtain ⟨⟨hne, hdigits⟩, rfl⟩ := Json.natural?_eq_some_iff.1 (denotes_iff.1 hds)
  rw [List.forall_mem_append] at hdigits
  have hpoint : NoDigit ('.' :: fraction ++ x) := by
    rintro d ⟨⟩
    rfl
  rw [Real.unsigned?, List.append_assoc, takeWhile_digits hdigits.1 hpoint,
    Json.dropWhile_digits hdigits.1 hpoint]
  simp only [List.cons_append, takeWhile_digits hdigits.2 hx.noDigit,
    Json.dropWhile_digits hdigits.2 hx.noDigit, exponent?_eq_some_iff.2 hx]
  rw [if_neg (by simpa using hne)]
  rfl

/-- What stands on either side of the point, and behind it, makes a real number. -/
theorem exists_of_parts
    {negative : Bool} {x : Real} {whole fraction tail : List Char}
    (hwhole : ∀ d ∈ whole, d.isDigit = true)
    (hfraction : ∀ d ∈ fraction, d.isDigit = true)
    (h : (if whole = [] ∧ fraction = [] then none
        else (Real.exponent? tail).map fun e =>
          Real.decimal negative (value (whole ++ fraction)) (e - fraction.length)) = some x) :
    ∃ c f, Denotes (whole ++ fraction) c ∧ IsExponent tail f ∧
      x = .decimal negative c (f - fraction.length) := by
  split at h
  · cases h
  · rename_i hne
    obtain ⟨f, hf, rfl⟩ := Option.map_eq_some_iff.1 h
    refine ⟨_, f, denotes_value ⟨?_, List.forall_mem_append.2 ⟨hwhole, hfraction⟩⟩,
      exponent?_eq_some_iff.1 hf, rfl⟩
    rwa [ne_eq, List.append_eq_nil_iff]

/-- What is read as a real number without a sign is one. -/
theorem unsigned?_eq_some_iff
    {negative : Bool} {x : Real} :
    Real.unsigned? negative s = some x ↔
      ∃ c e, IsMagnitude s c e ∧ x = .decimal negative c e := by
  constructor
  · intro h
    have htaken : ∀ t : List Char, ∀ d ∈ t.takeWhile Char.isDigit, d.isDigit = true :=
      fun _ _ hd => List.mem_takeWhile_imp hd
    have hsplit : ∀ t : List Char, t.takeWhile Char.isDigit ++ t.dropWhile Char.isDigit = t :=
      fun _ => List.takeWhile_append_dropWhile
    unfold Real.unsigned? at h
    dsimp only at h
    split at h
    · rename_i r hr
      obtain ⟨c, f, hc, hf, rfl⟩ := exists_of_parts (htaken s) (htaken r) h
      refine ⟨_, _, ⟨_, _, _, f, ?_, .pointed hc, hf, rfl⟩, rfl⟩
      rw [List.append_assoc, List.cons_append, hsplit r, ← hr, hsplit s]
    · obtain ⟨c, f, hc, hf, rfl⟩ := exists_of_parts (htaken s) (List.forall_mem_nil _) h
      rw [List.append_nil] at hc
      exact ⟨_, _, ⟨_, _, _, f, (hsplit s).symm, .whole hc, hf, rfl⟩, rfl⟩
  · rintro ⟨c, e, ⟨m, x, k, f, rfl, hm, hx, rfl⟩, rfl⟩
    cases hm with
    | whole hds =>
        rw [unsigned?_of_whole hds hx, Int.natCast_zero, Int.sub_zero]
    | pointed hds =>
        exact unsigned?_of_pointed hds hx

/-- A real number without a sign begins with a digit or a point. -/
theorem IsMagnitude.head
    (h : IsMagnitude s c e) :
    ∃ d r, s = d :: r ∧ (d.isDigit = true ∨ d = '.') := by
  obtain ⟨m, x, k, f, rfl, hm, -, -⟩ := h
  cases hm with
  | whole hds =>
      obtain ⟨⟨hne, hdigits⟩, -⟩ := Json.natural?_eq_some_iff.1 (denotes_iff.1 hds)
      obtain ⟨d, r, rfl⟩ := List.exists_cons_of_ne_nil hne
      exact ⟨d, r ++ x, rfl, .inl (hdigits d (by simp))⟩
  | @pointed whole fraction n hds =>
      obtain ⟨⟨-, hdigits⟩, -⟩ := Json.natural?_eq_some_iff.1 (denotes_iff.1 hds)
      cases whole with
      | nil =>
          exact ⟨'.', fraction ++ x, rfl, .inr rfl⟩
      | cons d whole =>
          exact ⟨d, _, rfl, .inl (hdigits d (by simp))⟩

/-- A digit and a point are no letters, and no signs. -/
theorem not_letter_of_begins
    {d : Char}
    (hd : d.isDigit = true ∨ d = '.') :
    d.toLower ≠ 'n' ∧ d.toLower ≠ 'i' ∧ d ≠ '-' ∧ d ≠ '+' := by
  have hdigits : ∀ n < 10, n.digitChar.toLower ≠ 'n' ∧ n.digitChar.toLower ≠ 'i' ∧
      n.digitChar ≠ '-' ∧ n.digitChar ≠ '+' := by
    decide
  rcases hd with hd | rfl
  · obtain ⟨n, hn, rfl⟩ := exists_digitChar_of_isDigit hd
    exact hdigits n hn
  · decide

/-- A real number without a sign is told from the names of other values by its first character. -/
theorem magnitude?_eq_some_iff
    {negative sign : Bool} :
    Real.magnitude? sign s = some (.decimal negative c e) ↔
      IsMagnitude s c e ∧ negative = sign := by
  constructor
  · intro h
    unfold Real.magnitude? at h
    simp only at h
    split at h
    · cases h
    · split at h
      · cases h
      · obtain ⟨c', e', hs, heq⟩ := unsigned?_eq_some_iff.1 h
        cases heq
        exact ⟨hs, rfl⟩
  · rintro ⟨hs, rfl⟩
    obtain ⟨d, r, rfl, hd⟩ := hs.head
    obtain ⟨hn, hi, -, -⟩ := not_letter_of_begins hd
    rw [Real.magnitude?]
    simp only [List.map_cons, List.cons.injEq, hn, hi, false_and, or_false, if_false]
    exact unsigned?_eq_some_iff.2 ⟨c, e, hs, rfl⟩

/-- What is read as a real number other than infinity is one. -/
theorem ofChars?_eq_some_iff
    {negative : Bool} :
    Real.ofChars? s = some (.decimal negative c e) ↔ IsReal s negative c e := by
  constructor
  · intro h
    unfold Real.ofChars? at h
    split at h <;> obtain ⟨hs, rfl⟩ := magnitude?_eq_some_iff.1 h
    · exact .minus hs
    · exact .plus hs
    · exact .unsigned hs
  · intro h
    cases h with
    | unsigned hs =>
        obtain ⟨d, r, rfl, hd⟩ := hs.head
        obtain ⟨-, -, hminus, hplus⟩ := not_letter_of_begins hd
        unfold Real.ofChars?
        split
        · rename_i heq
          exact absurd (List.cons.inj heq).1 hminus
        · rename_i heq
          exact absurd (List.cons.inj heq).1 hplus
        · exact magnitude?_eq_some_iff.2 ⟨hs, rfl⟩
    | plus hs | minus hs =>
        exact magnitude?_eq_some_iff.2 ⟨hs, rfl⟩

end Decimal
end FilterQuery
