import Mathlib.Tactic.SplitIfs

/-!
# The order of bytes

Texts are ordered by their code points.  Ordered by the bytes of their encoding they stand in the
same order, since the encoding of a greater character has a greater byte where the two differ first.

**Results.**
* `bytes_lt_bytes`: a lesser text has lesser bytes.
-/

namespace FilterQuery
namespace Text

def bytes (s : String) : List UInt8 :=
  s.toUTF8.data.toList

theorem bytes_eq_flatMap (s : String) :
    bytes s = s.toList.flatMap String.utf8EncodeChar := by
  rw [bytes, String.toUTF8_eq_toByteArray, ← String.utf8Encode_toList, List.utf8Encode]
  simp

/-- Two characters differ first in a byte that is greater in the greater character. -/
theorem utf8EncodeChar_append_lt
    {c d : Char}
    (h : c < d)
    (s t : List UInt8) :
    String.utf8EncodeChar c ++ s < String.utf8EncodeChar d ++ t := by
  have hcd : c.val.toNat < d.val.toNat := h
  have hd : d.val.toNat < 0x110000 := by
    rcases d.valid with hd | hd
    · exact Nat.lt_trans hd (by decide)
    · exact hd.2
  unfold String.utf8EncodeChar
  generalize c.val.toNat = m at hcd
  generalize d.val.toNat = n at hcd hd
  simp only
  split_ifs
  all_goals
    simp only [List.cons_append, List.nil_append, List.cons_lt_cons_iff, UInt8.lt_iff_toNat_lt,
      ← UInt8.toNat_inj, UInt8.toNat_ofNat']
  any_goals omega
  -- Left are two characters of four bytes: the first group of bits in which they differ decides.
  by_cases h18 : m / 262144 = n / 262144
  · refine Or.inr ⟨by rw [h18], ?_⟩
    by_cases h12 : m / 4096 = n / 4096
    · refine Or.inr ⟨by rw [h12], ?_⟩
      by_cases h6 : m / 64 = n / 64
      · refine Or.inr ⟨by rw [h6], Or.inl ?_⟩
        omega
      · refine Or.inl ?_
        omega
    · refine Or.inl ?_
      omega
  · refine Or.inl ?_
    omega

/-- Texts in order have their bytes in order. -/
theorem bytes_lt_bytes
    {s t : String}
    (h : s < t) :
    bytes s < bytes t := by
  have hlist : s.toList < t.toList := h
  rw [bytes_eq_flatMap, bytes_eq_flatMap]
  generalize s.toList = s at hlist
  generalize t.toList = t at hlist
  induction hlist with
  | @nil d t =>
      obtain ⟨b, bs, hb⟩ := List.exists_cons_of_ne_nil (String.utf8EncodeChar_ne_nil (c := d))
      rw [List.flatMap_nil, List.flatMap_cons, hb]
      exact List.nil_lt_cons b _
  | @rel c s d t hcd =>
      rw [List.flatMap_cons, List.flatMap_cons]
      exact utf8EncodeChar_append_lt hcd _ _
  | @cons c s t hst ih =>
      rw [List.flatMap_cons, List.flatMap_cons]
      exact List.append_left_lt ih

end Text
end FilterQuery
