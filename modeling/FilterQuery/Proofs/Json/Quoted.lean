import FilterQuery.Proofs.Json.Node
import FilterQuery.Proofs.Traversal
import Mathlib.Tactic.ByContra

/-!
# Reading strings

A string is read exactly when the grammar has it and its units are those of a text, which is then
what was read.  It is passed over whenever the grammar has it.

**Method.** Reading goes character by character while the grammar goes piece by piece, and a
character outside the first 65536 may be written in two pieces.  Two lemmas tie them together: what
an escape reads is written by pieces with the units of the character (`quoted_of_escapedChar`),
and pieces that begin with the units of a character begin with that character or with an escape
that reads it (`Quoted.exists_front`).

**Results.**
* `readString_eq_ok_iff`, `skipString_eq_ok_iff`.
-/

namespace FilterQuery

instance (c : Char) (n : Nat) : Decidable (Decimal.IsHexDigit c n) :=
  inferInstanceAs (Decidable (_ ∧ _))

/-- A character is read as a hexadecimal digit when it is one. -/
theorem Decimal.hexValue?_eq_some_iff
    {c : Char} {n : Nat} :
    hexValue? c = some n ↔ IsHexDigit c n := by
  constructor
  · intro h
    have hall : ∀ m < 103, ∀ n ∈ hexValue? (Char.ofNat m), IsHexDigit (Char.ofNat m) n := by
      decide
    have hc : c.toNat < 103 := by
      by_contra hc
      have hle : ∀ {d : Char}, c ≤ d → d.toNat < 103 → False :=
        fun hcd hd => hc (Nat.lt_of_le_of_lt hcd hd)
      have h9 : ¬ c ≤ '9' := fun hcd => hle hcd (by decide)
      have hf : ¬ c ≤ 'f' := fun hcd => hle hcd (by decide)
      have hF : ¬ c ≤ 'F' := fun hcd => hle hcd (by decide)
      simp [hexValue?, h9, hf, hF] at h
    have hdigit := hall c.toNat hc n
    rw [Char.ofNat_toNat] at hdigit
    exact hdigit h
  · rintro ⟨hn, rfl | rfl⟩
    · revert n
      decide
    · revert n
      decide

namespace Json

theorem toNat_ofNat
    {n : Nat}
    (h : n.isValidChar) :
    (Char.ofNat n).toNat = n := by
  rw [Char.ofNat, dif_pos h]
  rfl

/-- A character that is no surrogate and below the supplementary ones has one unit. -/
theorem charUnits_ofNat
    {n : Nat}
    (h : n < 0xd800 ∨ 0xdfff < n)
    (hn : n < 0x10000) :
    charUnits (Char.ofNat n) = [n] := by
  have hvalid : n.isValidChar := by
    unfold Nat.isValidChar
    omega
  rw [charUnits, toNat_ofNat hvalid, if_pos hn]

/-- A high and a low surrogate are the units of one character. -/
theorem charUnits_pair
    {high low n : Nat}
    (hhigh : 0xd800 ≤ high ∧ high < 0xdc00)
    (hlow : 0xdc00 ≤ low ∧ low ≤ 0xdfff)
    (hn : n = (high - 0xd800) * 0x400 + (low - 0xdc00) + 0x10000) :
    charUnits (Char.ofNat n) = [high, low] := by
  have hvalid : n.isValidChar := by
    unfold Nat.isValidChar
    omega
  have hfirst : 0xd800 + (n - 0x10000) / 0x400 = high := by
    omega
  have hsecond : 0xdc00 + (n - 0x10000) % 0x400 = low := by
    omega
  rw [charUnits, toNat_ofNat hvalid, if_neg (by omega), hfirst, hsecond]

theorem letterEscape?_eq_some_iff
    {c d : Char} :
    letterEscape? c = some d ↔ (c, d) ∈ letterEscapes := by
  constructor
  · intro h
    unfold letterEscape? at h
    split at h <;> cases h <;> decide
  · intro h
    simp only [letterEscapes, List.mem_cons, Prod.mk.injEq, List.not_mem_nil, or_false] at h
    rcases h with ⟨rfl, rfl⟩ | ⟨rfl, rfl⟩ | ⟨rfl, rfl⟩ | ⟨rfl, rfl⟩ | ⟨rfl, rfl⟩ | ⟨rfl, rfl⟩ |
      ⟨rfl, rfl⟩ | ⟨rfl, rfl⟩ <;> rfl

/-- The characters of the escapes by letter have one unit each. -/
theorem charUnits_of_mem_letterEscapes
    {c d : Char}
    (h : (c, d) ∈ letterEscapes) :
    charUnits d = [d.toNat] := by
  have hall : ∀ p ∈ letterEscapes, charUnits p.2 = [p.2.toNat] := by
    decide
  exact hall _ h

theorem Piece.units_ne_nil
    {p : List Char} {us : List Nat}
    (h : Piece p us) :
    us ≠ [] := by
  cases h <;> simp [charUnits_ne_nil]

theorem Quoted.eq_nil
    {s : List Char}
    (h : Quoted s []) :
    s = [] := by
  generalize hus : ([] : List Nat) = us at h
  cases h with
  | nil =>
      rfl
  | cons hp ht =>
      exact absurd (List.append_eq_nil_iff.1 hus.symm).1 hp.units_ne_nil

theorem Piece.quoted
    {p : List Char} {us : List Nat}
    (h : Piece p us) :
    Quoted p us := by
  simpa using Quoted.cons h .nil

theorem Quoted.append
    {s t : List Char} {us vs : List Nat}
    (hs : Quoted s us)
    (ht : Quoted t vs) :
    Quoted (s ++ t) (us ++ vs) := by
  induction hs with
  | nil =>
      exact ht
  | cons hp hs ih =>
      rw [List.append_assoc, List.append_assoc]
      exact .cons hp ih

/-- Four hexadecimal digits are read as the unit that they denote. -/
theorem unit?_eq_some_iff
    {a b c d : Char} {n : Nat} :
    unit? a b c d = some n ↔ Piece ['\\', 'u', a, b, c, d] [n] := by
  constructor
  · intro h
    simp only [unit?, Option.pure_def, Option.bind_eq_bind, Option.bind_eq_some_iff,
      Option.some.injEq, Decimal.hexValue?_eq_some_iff] at h
    obtain ⟨i, hi, j, hj, k, hk, l, hl, rfl⟩ := h
    exact .unit hi hj hk hl
  · intro h
    cases h with
    | unit hi hj hk hl =>
        rw [← Decimal.hexValue?_eq_some_iff] at hi hj hk hl
        simp [unit?, hi, hj, hk, hl]

theorem Piece.exists_unit
    {p : List Char} {us : List Nat}
    (h : Piece ('\\' :: 'u' :: p) us) :
    ∃ a b c d n, p = [a, b, c, d] ∧ us = [n] ∧ n < 0x10000 := by
  cases h with
  | letter hescape =>
      exact absurd hescape (not_mem_letterEscapes_u _)
  | unit hi hj hk hl =>
      have hlt := And.intro hi.1 (And.intro hj.1 (And.intro hk.1 hl.1))
      exact ⟨_, _, _, _, _, rfl, rfl, by omega⟩

/-- What is read behind `u` is four digits. -/
theorem hexUnit_eq_ok_iff
    {s r : List Char} {n : Nat} :
    hexUnit s = .ok (n, r) ↔ ∃ p, Piece ('\\' :: 'u' :: p) [n] ∧ s = p ++ r := by
  constructor
  · intro h
    unfold hexUnit at h
    split at h
    · split at h
      · rename_i hunit
        cases h
        exact ⟨_, unit?_eq_some_iff.1 hunit, rfl⟩
      · cases h
    · split at h <;> cases h
  · rintro ⟨p, hp, rfl⟩
    obtain ⟨a, b, c, d, m, rfl, -⟩ := hp.exists_unit
    simp [hexUnit, unit?_eq_some_iff.2 hp]

/-- What is passed over behind a backslash is the rest of an escape. -/
theorem skipEscape_eq_ok_iff
    {s r : List Char} :
    skipEscape s = .ok r ↔ ∃ p us, Piece ('\\' :: p) us ∧ s = p ++ r := by
  constructor
  · intro h
    unfold skipEscape at h
    split at h
    · cases h
    · rename_i c t
      split at h
      · rename_i hletter
        cases h
        obtain ⟨d, hd⟩ := Option.isSome_iff_exists.1 hletter
        exact ⟨[c], _, .letter (letterEscape?_eq_some_iff.1 hd), rfl⟩
      · split at h
        · rename_i hu
          subst hu
          obtain ⟨⟨n, r'⟩, hunit, hr⟩ := bind_eq_ok_iff.1 h
          cases hr
          obtain ⟨p, hp, rfl⟩ := hexUnit_eq_ok_iff.1 hunit
          exact ⟨'u' :: p, _, hp, rfl⟩
        · cases h
  · rintro ⟨p, us, hp, rfl⟩
    cases hp with
    | raw hquote hslash hcontrol =>
        exact absurd rfl hslash
    | letter hescape =>
        simp [skipEscape, letterEscape?_eq_some_iff.2 hescape]
    | unit ha hb hc hd =>
        have hunit := hexUnit_eq_ok_iff.2 ⟨_, Piece.unit ha hb hc hd, Eq.refl (_ ++ r)⟩
        rw [List.cons_append, skipEscape, if_neg (by decide), if_pos rfl]
        exact bind_eq_ok_iff.2 ⟨_, hunit, rfl⟩

/-- What an escape reads is written by pieces with the units of the character. -/
theorem quoted_of_escapedChar
    {s r : List Char} {c : Char}
    (h : escapedChar s = .ok (c, r)) :
    ∃ p, Quoted ('\\' :: p) (charUnits c) ∧ s = p ++ r := by
  unfold escapedChar at h
  split at h
  · cases h
  · rename_i a t
    split at h
    · rename_i d hd
      cases h
      have hescape := letterEscape?_eq_some_iff.1 hd
      rw [charUnits_of_mem_letterEscapes hescape]
      exact ⟨[a], (Piece.letter hescape).quoted, rfl⟩
    · split at h
      · rename_i hu
        subst hu
        split at h
        · cases h
        · rename_i n t' hunit
          obtain ⟨p, hp, rfl⟩ := hexUnit_eq_ok_iff.1 hunit
          obtain ⟨_, _, _, _, m, -, hm, hlt⟩ := hp.exists_unit
          obtain rfl : n = m := by simpa using hm
          unfold unitChar at h
          split at h
          · rename_i hrange
            cases h
            rw [charUnits_ofNat hrange hlt]
            exact ⟨'u' :: p, hp.quoted, rfl⟩
          · rename_i hrange
            split at h
            · cases h
            · rename_i hhigh
              split at h
              · cases h
              · cases h
              · split at h
                · cases h
                · rename_i low t'' hlow
                  obtain ⟨q, hq, rfl⟩ := hexUnit_eq_ok_iff.1 hlow
                  split at h
                  · rename_i hbounds
                    rw [Except.ok.injEq, Prod.mk.injEq] at h
                    obtain ⟨rfl, rfl⟩ := h
                    rw [charUnits_pair (by omega) hbounds rfl]
                    exact ⟨'u' :: (p ++ '\\' :: 'u' :: q), hp.quoted.append hq.quoted, by simp⟩
                  · cases h
              · cases h
      · cases h

/-- Pieces that begin with a low surrogate begin with an escape by its number. -/
theorem Quoted.exists_low
    {s : List Char} {us : List Nat} {low : Nat}
    (h : Quoted s (low :: us))
    (hlow : 0xdc00 ≤ low ∧ low ≤ 0xdfff) :
    ∃ p t, Piece ('\\' :: 'u' :: p) [low] ∧ Quoted t us ∧ s = '\\' :: 'u' :: (p ++ t) := by
  generalize hvs : low :: us = vs at h
  cases h with
  | nil =>
      cases hvs
  | @cons p t ps ts hp ht =>
      cases hp with
      | @raw c hquote hslash hcontrol =>
          have hc := toNat_valid c
          unfold charUnits at hvs
          split at hvs <;>
            · simp only [List.cons_append, List.nil_append, List.cons.injEq] at hvs
              omega
      | @letter c d hescape =>
          have hd := toNat_valid d
          simp only [List.cons_append, List.nil_append, List.cons.injEq] at hvs
          omega
      | unit hi hj hk hl =>
          simp only [List.cons_append, List.nil_append, List.cons.injEq] at hvs
          obtain ⟨rfl, rfl⟩ := hvs
          exact ⟨_, t, .unit hi hj hk hl, ht, rfl⟩

theorem escapedChar_unit
    {p r : List Char} {n : Nat}
    (h : Piece ('\\' :: 'u' :: p) [n]) :
    escapedChar ('u' :: (p ++ r)) = unitChar n r := by
  have hletter : letterEscape? 'u' = none := rfl
  rw [escapedChar, hletter]
  simp only [if_pos]
  rw [hexUnit_eq_ok_iff.2 ⟨p, h, rfl⟩]

theorem unitChar_single
    {c : Char}
    (h : c.toNat < 0x10000)
    (r : List Char) :
    unitChar c.toNat r = .ok (c, r) := by
  have hvalid := toNat_valid c
  unfold unitChar
  rw [if_pos (by omega), Char.ofNat_toNat]

/-- A high surrogate is read together with the low one behind it. -/
theorem unitChar_pair
    {c : Char} {high low : Nat} {p : List Char}
    (h : charUnits c = [high, low])
    (hp : Piece ('\\' :: 'u' :: p) [low])
    (r : List Char) :
    unitChar high ('\\' :: 'u' :: (p ++ r)) = .ok (c, r) := by
  have hvalid := toNat_valid c
  unfold charUnits at h
  split at h
  · cases h
  · simp only [List.cons.injEq, and_true] at h
    obtain ⟨hhigh, hlow⟩ := h
    have hvalue : (high - 0xd800) * 0x400 + (low - 0xdc00) + 0x10000 = c.toNat := by
      omega
    rw [unitChar, if_neg (by omega), if_neg (by omega)]
    simp only [hexUnit_eq_ok_iff.2 ⟨p, hp, Eq.refl (p ++ r)⟩]
    rw [if_pos (by omega), hvalue, Char.ofNat_toNat]

/-- Pieces that begin with the units of a character begin with that character, written as it is, or
with an escape that reads it. -/
theorem Quoted.exists_front
    {s : List Char} {us : List Nat} {c : Char}
    (h : Quoted s (charUnits c ++ us)) :
    ∃ p t, Quoted t us ∧ s = p ++ t ∧
      (p = [c] ∧ c ≠ '"' ∧ c ≠ '\\' ∧ 0x20 ≤ c.toNat ∨
        ∃ q, p = '\\' :: q ∧ ∀ r, escapedChar (q ++ r) = .ok (c, r)) := by
  have hvalid := toNat_valid c
  generalize hvs : charUnits c ++ us = vs at h
  cases h with
  | nil =>
      simp [charUnits_ne_nil] at hvs
  | @cons p t ps ts hp ht =>
      cases hp with
      | @raw d hquote hslash hcontrol =>
          obtain ⟨rfl, rfl⟩ := charUnits_append_inj hvs
          exact ⟨[c], t, ht, rfl, .inl ⟨rfl, hquote, hslash, hcontrol⟩⟩
      | @letter a d hescape =>
          rw [← charUnits_of_mem_letterEscapes hescape] at hvs
          obtain ⟨rfl, rfl⟩ := charUnits_append_inj hvs
          refine ⟨['\\', a], t, ht, rfl, .inr ⟨[a], rfl, ?_⟩⟩
          intro r
          simp [escapedChar, letterEscape?_eq_some_iff.2 hescape]
      | @unit a b d e i j k l hi hj hk hl =>
          have hp := Piece.unit hi hj hk hl
          unfold charUnits at hvs
          split at hvs
          · rename_i hsmall
            simp only [List.cons_append, List.nil_append, List.cons.injEq] at hvs
            obtain ⟨hc, rfl⟩ := hvs
            rw [← hc] at hp
            refine ⟨_, t, ht, rfl, .inr ⟨_, rfl, ?_⟩⟩
            intro r
            rw [List.cons_append, escapedChar_unit hp, unitChar_single hsmall]
          · rename_i hlarge
            simp only [List.cons_append, List.nil_append, List.cons.injEq] at hvs
            obtain ⟨hhigh, hlow⟩ := hvs
            rw [← hhigh] at hp
            rw [← hlow] at ht
            obtain ⟨q, t', hq, ht', rfl⟩ := ht.exists_low (by omega)
            refine ⟨'\\' :: 'u' :: ([a, b, d, e] ++ '\\' :: 'u' :: q), t', ht', by simp,
              .inr ⟨_, rfl, ?_⟩⟩
            intro r
            rw [List.cons_append, List.append_assoc, escapedChar_unit hp]
            exact unitChar_pair (if_neg hlarge) hq r

theorem stringChars_quote (acc r : List Char) :
    stringChars acc ('"' :: r) = .ok (acc.reverse, r) := by
  rw [stringChars, if_pos rfl]

theorem stringChars_raw
    {c : Char}
    (hquote : c ≠ '"')
    (hslash : c ≠ '\\')
    (hcontrol : 0x20 ≤ c.toNat)
    (acc r : List Char) :
    stringChars acc (c :: r) = stringChars (c :: acc) r := by
  rw [stringChars, if_neg hquote, if_neg hslash, if_neg (by omega)]

theorem stringChars_escape
    {c : Char} {s r : List Char}
    (h : escapedChar s = .ok (c, r))
    (acc : List Char) :
    stringChars acc ('\\' :: s) = stringChars (c :: acc) r := by
  rw [stringChars, if_neg (by decide), if_pos rfl]
  split
  · rename_i e he
    rw [h] at he
    cases he
  · rename_i d r' hd
    rw [h] at hd
    cases hd
    rfl

/-- What is read as a string denotes the units of its characters. -/
theorem quoted_of_stringChars
    {acc s cs r : List Char}
    (h : stringChars acc s = .ok (cs, r)) :
    ∃ xs t, Quoted t (xs.flatMap charUnits) ∧ cs = acc.reverse ++ xs ∧ s = t ++ '"' :: r := by
  fun_induction stringChars acc s with
  | case1 =>
      cases h
  | case2 acc s =>
      cases h
      exact ⟨[], [], .nil, by simp, rfl⟩
  | case3 =>
      cases h
  | case4 acc s d r' hescape hlt hquote ih =>
      obtain ⟨xs, t, ht, rfl, rfl⟩ := ih h
      obtain ⟨p, hp, rfl⟩ := quoted_of_escapedChar hescape
      exact ⟨d :: xs, '\\' :: (p ++ t), hp.append ht, by simp, by simp⟩
  | case5 =>
      cases h
  | case6 acc c s hquote hslash hcontrol ih =>
      obtain ⟨xs, t, ht, rfl, rfl⟩ := ih h
      exact ⟨c :: xs, c :: t, .cons (.raw hquote hslash (by omega)) ht, by simp, rfl⟩

/-- What denotes the units of characters is read as these characters. -/
theorem stringChars_of_quoted
    {acc xs t : List Char}
    (h : Quoted t (xs.flatMap charUnits))
    (r : List Char) :
    stringChars acc (t ++ '"' :: r) = .ok (acc.reverse ++ xs, r) := by
  induction xs generalizing acc t with
  | nil =>
      rw [h.eq_nil, List.nil_append, stringChars_quote, List.append_nil]
  | cons x xs ih =>
      rw [List.flatMap_cons] at h
      obtain ⟨p, u, hu, rfl, ⟨rfl, hquote, hslash, hcontrol⟩ | ⟨q, rfl, hescape⟩⟩ := h.exists_front
      · rw [List.append_assoc, List.singleton_append, stringChars_raw hquote hslash hcontrol, ih hu]
        simp
      · rw [List.append_assoc, List.cons_append, stringChars_escape (hescape _), ih hu]
        simp

theorem skipString_escape
    {s r : List Char}
    (h : skipEscape s = .ok r) :
    skipString ('\\' :: s) = skipString r := by
  rw [skipString, if_neg (by decide), if_pos rfl]
  split
  · rename_i e he
    rw [h] at he
    cases he
  · rename_i r' hr
    rw [h] at hr
    cases hr
    rfl

/-- A string is read exactly when its units are those of a text. -/
theorem readString_eq_ok_iff
    {s r : List Char} {x : String} :
    readString s = .ok (x, r) ↔ ∃ t, Quoted t (textUnits x) ∧ s = t ++ '"' :: r := by
  constructor
  · intro h
    unfold readString at h
    split at h
    · cases h
    · rename_i cs r' hchars
      cases h
      obtain ⟨xs, t, ht, rfl, rfl⟩ := quoted_of_stringChars hchars
      exact ⟨t, by simpa [textUnits] using ht, rfl⟩
  · rintro ⟨t, ht, rfl⟩
    rw [readString, stringChars_of_quoted ht]
    simp

/-- What is passed over as a string denotes some units, which need not be those of a text. -/
theorem skipString_eq_ok_iff
    {s r : List Char} :
    skipString s = .ok r ↔ ∃ t us, Quoted t us ∧ s = t ++ '"' :: r := by
  constructor
  · intro h
    fun_induction skipString s with
    | case1 =>
        cases h
    | case2 s =>
        cases h
        exact ⟨[], [], .nil, rfl⟩
    | case3 =>
        cases h
    | case4 s r' hescape hlt hquote ih =>
        obtain ⟨t, us, ht, rfl⟩ := ih h
        obtain ⟨p, vs, hp, rfl⟩ := skipEscape_eq_ok_iff.1 hescape
        exact ⟨'\\' :: p ++ t, vs ++ us, .cons hp ht, by simp⟩
    | case5 =>
        cases h
    | case6 c s hquote hslash hcontrol ih =>
        obtain ⟨t, us, ht, rfl⟩ := ih h
        exact ⟨[c] ++ t, _, .cons (.raw hquote hslash (by omega)) ht, rfl⟩
  · rintro ⟨t, us, ht, rfl⟩
    induction ht with
    | nil =>
        rw [List.nil_append, skipString, if_pos rfl]
    | cons hp ht ih =>
        rw [List.append_assoc]
        cases hp with
        | raw hquote hslash hcontrol =>
            rw [List.singleton_append, skipString, if_neg hquote, if_neg hslash,
              if_neg (by omega), ih]
        | letter hescape =>
            rw [List.cons_append, skipString_escape (skipEscape_eq_ok_iff.2
              ⟨_, _, .letter hescape, rfl⟩), ih]
        | unit ha hb hc hd =>
            rw [List.cons_append, skipString_escape (skipEscape_eq_ok_iff.2
              ⟨_, _, .unit ha hb hc hd, rfl⟩), ih]

end Json
end FilterQuery
