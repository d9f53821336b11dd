import FilterQuery.Text.Ranges

/-!
# Blank characters

The Unicode property White_Space and the removal of such characters around a text.

**Results.**
* `isBlank_of_isWhitespace`: the white space of ASCII that the core library knows is blank.
-/

namespace FilterQuery
namespace Text

/-- The characters with the property White_Space, as closed ranges in ascending order. -/
def blanks : List (Nat × Nat) := [
  (0x0009, 0x000d), (0x0020, 0x0020), (0x0085, 0x0085), (0x00a0, 0x00a0), (0x1680, 0x1680),
  (0x2000, 0x200a), (0x2028, 0x2029), (0x202f, 0x202f), (0x205f, 0x205f), (0x3000, 0x3000)]

/-- Whether a character is white space. -/
def isBlank (c : Char) : Bool :=
  inRanges blanks c.toNat

/-- A list of characters without the blanks at its two ends. -/
def trimmed (s : List Char) : List Char :=
  ((s.dropWhile isBlank).reverse.dropWhile isBlank).reverse

theorem isBlank_of_isWhitespace
    {c : Char}
    (h : c.isWhitespace = true) :
    isBlank c = true := by
  simp only [Char.isWhitespace, Bool.or_eq_true, decide_eq_true_eq] at h
  rcases h with ((rfl | rfl) | rfl) | rfl <;> decide

end Text
end FilterQuery
