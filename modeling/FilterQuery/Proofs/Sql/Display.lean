import FilterQuery.Proofs.Json.Numeral
import FilterQuery.Proofs.Text.Quoted
import FilterQuery.Sql.Statement

/-!
# Statements in messages

The parameters of a statement are found again in its message, whatever their texts are.

**Method.** Every parameter is written as a quoted text or as a run of characters that numbers are
made of.  Either is over by itself or at the comma or bracket behind it (`display_append_inj`), so
the parameters are read off one by one (`behind_inj`).  A value that looks like the end of a
parameter does not end it, since the quotes in it are escaped.

**Doubles.** Their digits are not read back here.  A double is told from an integer by its point,
its exponent or a letter.

**Results.**
* `display_eq_iff`: two statements with one text have the same message exactly when their
  parameters, one by one, have the same ones.
* `display_unambiguous`: then they are the same parameters when there is no double among them.
-/

namespace FilterQuery
namespace Sql
namespace Parameter

variable {p q : Parameter} {s u v : List Char} {c d : Char}

/-- Whether a character may stand in a number or in the name of a double that is none. -/
def isBare (c : Char) : Bool :=
  Json.isNumeric c || c ∈ ['N', 'a', 'i', 'n', 'f']

/-- A text as numbers are written, without quotes. -/
def Bare (s : List Char) : Prop :=
  s ≠ [] ∧ ∀ c ∈ s, isBare c = true

instance : DecidablePred Bare :=
  fun s => decidable_of_iff (s ≠ [] ∧ s.all isBare = true) (and_congr_right' List.all_eq_true)

theorem not_isControl_of_isBare
    (h : isBare c = true) :
    ¬ Text.IsControl c := by
  have hbounds : 0x20 ≤ c.toNat ∧ c.toNat < 0x7f := by
    simp only [isBare, Json.isNumeric, Bool.or_eq_true, decide_eq_true_eq, List.mem_cons,
      List.not_mem_nil, or_false] at h
    rcases h with (((((h | rfl) | rfl) | rfl) | rfl) | rfl) | rfl | rfl | rfl | rfl | rfl
    · have hdigit : 48 ≤ c.toNat ∧ c.toNat ≤ 57 := by
        simpa [Char.isDigit, UInt32.le_iff_toNat_le] using h
      omega
    all_goals decide
  rintro (h | h | rfl | rfl)
  · omega
  · omega
  · exact absurd hbounds (by decide)
  · exact absurd hbounds (by decide)

/-- A written number has none of the characters that texts are told by. -/
theorem bare_of_isNumber
    (h : Json.IsNumber s) :
    Bare s := by
  refine ⟨h.ne_nil, ?_⟩
  intro c hc
  rw [isBare, h.numeric c hc, Bool.true_or]

/-- A double is written as a number with a point or an exponent. -/
theorem isNumber_write_doubles (negative : Bool) (x : Magnitude) :
    Json.IsNumber (doubles.write negative x).toList ∧
      ('.' ∈ (doubles.write negative x).toList ∨ 'e' ∈ (doubles.write negative x).toList) :=
  Layout.isNumber_write (by decide) (by decide) negative x

theorem bare_display_integer (n : Int64) :
    Bare (display (.integer n)).toList :=
  bare_of_isNumber (Decimal.isNumber_integerText n.toInt)

theorem bare_display_float (x : Binary64) :
    Bare (display (.float x)).toList := by
  rcases x with _ | ⟨_ | _⟩ | ⟨negative, x⟩
  · decide
  · decide
  · decide
  · exact bare_of_isNumber (isNumber_write_doubles negative x).1

/-- A parameter is shown in quotes when it is a text, and bare when it is not. -/
theorem text_or_bare (p : Parameter) :
    (∃ s, p = .text s) ∨ Bare p.display.toList := by
  cases p with
  | text s =>
      exact .inl ⟨s, rfl⟩
  | integer n =>
      exact .inr (bare_display_integer n)
  | float x =>
      exact .inr (bare_display_float x)

/-- A number begins with no quote, comma or bracket. -/
theorem Bare.append_ne_cons
    (h : Bare s)
    (hc : isBare c = false) :
    s ++ u ≠ c :: v := by
  obtain ⟨a, s, rfl⟩ := List.exists_cons_of_ne_nil h.1
  rintro ⟨⟩
  rw [h.2 c List.mem_cons_self] at hc
  cases hc

theorem display_text (t : String) :
    (display (.text t)).toList = '"' :: (t.toList.flatMap Text.quotedChar ++ ['"']) :=
  Text.toList_quoted t

/-- No parameter is shown as the end of a list. -/
theorem display_append_ne_bracket (p : Parameter) :
    p.display.toList ++ u ≠ ']' :: v := by
  rcases text_or_bare p with ⟨t, rfl⟩ | hp
  · rw [display_text]
    exact fun h => absurd (List.cons.inj h).1 (by decide)
  · exact hp.append_ne_cons rfl

/-- A parameter is over where something stands that is no part of a number, wherever that is. -/
theorem display_append_inj
    (hc : isBare c = false)
    (hd : isBare d = false)
    (h : p.display.toList ++ c :: u = q.display.toList ++ d :: v) :
    p.display = q.display ∧ c = d ∧ u = v := by
  rcases text_or_bare p with ⟨t, rfl⟩ | hp
  · rcases text_or_bare q with ⟨t', rfl⟩ | hq
    · obtain ⟨rfl, hrest⟩ := Text.quoted_append_inj h
      exact ⟨rfl, List.cons.inj hrest⟩
    · rw [display_text] at h
      exact absurd h.symm (hq.append_ne_cons rfl)
  · rcases text_or_bare q with ⟨t', rfl⟩ | hq
    · rw [display_text t'] at h
      exact absurd h (hp.append_ne_cons rfl)
    · obtain ⟨hdisplay, hrest⟩ := append_cons_inj_of_forall hp.2 hq.2 hc hd h
      exact ⟨String.toList_inj.1 hdisplay, hrest⟩

/-- No parameter is shown with a control character. -/
theorem not_isControl_of_mem_display
    (h : c ∈ p.display.toList) :
    ¬ Text.IsControl c := by
  rcases text_or_bare p with ⟨t, rfl⟩ | hp
  · exact Text.not_isControl_of_mem_quoted h
  · exact not_isControl_of_isBare (hp.2 c h)

/-- Something in a double is no part of an integer. -/
theorem exists_mem_display_float (x : Binary64) :
    ∃ c ∈ (display (.float x)).toList, ¬ (c = '-' ∨ c.isDigit = true) := by
  rcases x with _ | ⟨_ | _⟩ | ⟨negative, x⟩
  · exact ⟨'N', by decide⟩
  · exact ⟨'i', by decide⟩
  · exact ⟨'i', by decide⟩
  · rcases (isNumber_write_doubles negative x).2 with h | h
    · exact ⟨'.', h, by decide⟩
    · exact ⟨'e', h, by decide⟩

theorem display_text_ne_of_bare
    (hp : Bare p.display.toList)
    (t : String) :
    p.display ≠ display (.text t) := by
  intro h
  have hlist := congrArg String.toList h
  rw [display_text, ← List.append_nil p.display.toList] at hlist
  exact hp.append_ne_cons rfl hlist

/-- A double is never shown as an integer. -/
theorem display_float_ne_integer (x : Binary64) (n : Int64) :
    display (.float x) ≠ display (.integer n) := by
  intro h
  obtain ⟨c, hc, hne⟩ := exists_mem_display_float x
  rw [h] at hc
  exact hne (Decimal.sign_or_digit_of_mem_integerText hc)

/-- Texts and integers are read back from their messages. -/
theorem eq_of_display_eq
    (hp : ∀ x, p ≠ .float x)
    (hq : ∀ x, q ≠ .float x)
    (h : p.display = q.display) :
    p = q := by
  cases p with
  | float x =>
      exact absurd rfl (hp x)
  | text s =>
      cases q with
      | float x =>
          exact absurd rfl (hq x)
      | text t =>
          rw [Text.quoted_injective h]
      | integer n =>
          exact absurd h.symm (display_text_ne_of_bare (bare_display_integer n) s)
  | integer m =>
      cases q with
      | float x =>
          exact absurd rfl (hq x)
      | text t =>
          exact absurd h (display_text_ne_of_bare (bare_display_integer m) t)
      | integer n =>
          have hint := congrArg (fun s => Decimal.integer? s.toList) h
          simp only [display, Decimal.integer?_integerText, Option.some.injEq] at hint
          rw [Int64.toInt_inj.1 hint]

/-- Without doubles, parameters are told by how they are shown. -/
theorem eq_of_map_display_eq
    {ps qs : List Parameter}
    (hps : ∀ p ∈ ps, ∀ x, p ≠ .float x)
    (hqs : ∀ q ∈ qs, ∀ x, q ≠ .float x)
    (h : ps.map display = qs.map display) :
    ps = qs := by
  induction ps generalizing qs with
  | nil =>
      exact (List.map_eq_nil_iff.1 h.symm).symm
  | cons p ps ih =>
      cases qs with
      | nil =>
          cases h
      | cons q qs =>
          rw [List.forall_mem_cons] at hps hqs
          obtain ⟨hdisplay, hrest⟩ := List.cons.inj h
          rw [eq_of_display_eq hps.1 hqs.1 hdisplay, ih hps.2 hqs.2 hrest]

/-- What stands behind the first parameters of a list, up to the closing bracket. -/
def behind : List Parameter → List Char
  | [] => [']']
  | p :: ps => ',' :: ' ' :: (p.display.toList ++ behind ps)

def bracketed (ps : List Parameter) : String :=
  "[" ++ ", ".intercalate (ps.map display) ++ "]"

theorem toList_bracketed_nil :
    (bracketed []).toList = ['[', ']'] := by
  decide

theorem toList_bracketed_cons (p : Parameter) (ps : List Parameter) :
    (bracketed (p :: ps)).toList = '[' :: (p.display.toList ++ behind ps) := by
  have hlist : (", ".intercalate ((p :: ps).map display) ++ "]").toList =
      p.display.toList ++ behind ps := by
    induction ps generalizing p with
    | nil =>
        simp [behind]
    | cons q ps ih =>
        rw [List.map_cons, List.map_cons, String.intercalate_cons_cons, behind, ← ih q]
        simp [String.toList_append]
  rw [bracketed, String.append_assoc, String.toList_append, hlist]
  rfl

/-- A comma or the bracket is behind a parameter. -/
theorem exists_behind_eq (ps : List Parameter) :
    ∃ c u, behind ps = c :: u ∧ isBare c = false := by
  cases ps with
  | nil =>
      exact ⟨']', [], rfl, rfl⟩
  | cons p ps =>
      exact ⟨',', _, rfl, rfl⟩

/-- Where one parameter ends and the next begins is told by the text. -/
theorem display_append_behind_inj
    {ps qs : List Parameter}
    (h : p.display.toList ++ behind ps = q.display.toList ++ behind qs) :
    p.display = q.display ∧ behind ps = behind qs := by
  obtain ⟨c, u, hps, hc⟩ := exists_behind_eq ps
  obtain ⟨d, v, hqs, hd⟩ := exists_behind_eq qs
  rw [hps, hqs] at h ⊢
  obtain ⟨hdisplay, rfl, rfl⟩ := display_append_inj hc hd h
  exact ⟨hdisplay, rfl⟩

theorem behind_inj
    {ps qs : List Parameter}
    (h : behind ps = behind qs) :
    ps.map display = qs.map display := by
  induction ps generalizing qs with
  | nil =>
      cases qs with
      | nil =>
          rfl
      | cons q qs =>
          exact absurd (List.cons.inj h).1 (by decide)
  | cons p ps ih =>
      cases qs with
      | nil =>
          exact absurd (List.cons.inj h).1 (by decide)
      | cons q qs =>
          simp only [behind, List.cons.injEq, true_and] at h
          obtain ⟨hdisplay, hbehind⟩ := display_append_behind_inj h
          rw [List.map_cons, List.map_cons, hdisplay, ih hbehind]

/-- A list of parameters is told by the text in brackets. -/
theorem bracketed_inj
    {ps qs : List Parameter}
    (h : bracketed ps = bracketed qs) :
    ps.map display = qs.map display := by
  have hlist := congrArg String.toList h
  cases ps with
  | nil =>
      cases qs with
      | nil =>
          rfl
      | cons q qs =>
          rw [toList_bracketed_nil, toList_bracketed_cons] at hlist
          exact absurd (List.cons.inj hlist).2.symm (display_append_ne_bracket q)
  | cons p ps =>
      cases qs with
      | nil =>
          rw [toList_bracketed_nil, toList_bracketed_cons] at hlist
          exact absurd (List.cons.inj hlist).2 (display_append_ne_bracket p)
      | cons q qs =>
          rw [toList_bracketed_cons, toList_bracketed_cons] at hlist
          obtain ⟨hdisplay, hbehind⟩ := display_append_behind_inj (List.cons.inj hlist).2
          rw [List.map_cons, List.map_cons, hdisplay, behind_inj hbehind]

theorem not_isControl_of_mem_behind
    {ps : List Parameter}
    (h : c ∈ behind ps) :
    ¬ Text.IsControl c := by
  induction ps with
  | nil =>
      obtain rfl := List.mem_singleton.1 h
      decide
  | cons p ps ih =>
      simp only [behind, List.mem_cons, List.mem_append] at h
      rcases h with rfl | rfl | h | h
      · decide
      · decide
      · exact not_isControl_of_mem_display h
      · exact ih h

/-- No list of parameters is shown with a control character. -/
theorem not_isControl_of_mem_bracketed
    {ps : List Parameter}
    (h : c ∈ (bracketed ps).toList) :
    ¬ Text.IsControl c := by
  cases ps with
  | nil =>
      rw [toList_bracketed_nil, List.mem_cons, List.mem_singleton] at h
      rcases h with rfl | rfl
      · decide
      · decide
  | cons p ps =>
      rw [toList_bracketed_cons, List.mem_cons, List.mem_append] at h
      rcases h with rfl | h | h
      · decide
      · exact not_isControl_of_mem_display h
      · exact not_isControl_of_mem_behind h

end Parameter

namespace Statement

open Parameter (bracketed)

theorem display_eq (sql : String) (ps : List Parameter) :
    (⟨sql, ps⟩ : Statement).display = sql ++ " " ++ bracketed ps := by
  have hbracket : " [" = " " ++ "[" := rfl
  rw [display, bracketed, hbracket]
  simp only [String.append_assoc]

/-- Two statements with one text have the same message exactly when their parameters, one by one,
have the same ones. -/
theorem display_eq_iff
    {sql : String} {ps qs : List Parameter} :
    (⟨sql, ps⟩ : Statement).display = (⟨sql, qs⟩ : Statement).display ↔
      ps.map Parameter.display = qs.map Parameter.display := by
  constructor
  · intro h
    rw [display_eq, display_eq, String.append_right_inj] at h
    exact Parameter.bracketed_inj h
  · intro h
    rw [display_eq, display_eq, bracketed, bracketed, h]

/-- The message of a statement tells its texts and integers, however they are put.  No double is
taken for either, and there are no control characters in the brackets. -/
theorem display_unambiguous (sql : String) :
    (∀ ps qs : List Parameter,
      (⟨sql, ps⟩ : Statement).display = (⟨sql, qs⟩ : Statement).display ↔
        ps.map Parameter.display = qs.map Parameter.display) ∧
    (∀ ps qs : List Parameter, (∀ p ∈ ps ++ qs, ∀ x, p ≠ .float x) →
      ((⟨sql, ps⟩ : Statement).display = (⟨sql, qs⟩ : Statement).display ↔ ps = qs)) ∧
    (∀ (x : Binary64) (s : String) (n : Int64),
      Parameter.display (.float x) ≠ Parameter.display (.text s) ∧
        Parameter.display (.float x) ≠ Parameter.display (.integer n)) ∧
    ∀ ps : List Parameter,
      (⟨sql, ps⟩ : Statement).display = sql ++ " " ++ bracketed ps ∧
        ∀ c ∈ (bracketed ps).toList, ¬ Text.IsControl c := by
  refine ⟨fun _ _ => display_eq_iff, ?_, ?_, ?_⟩
  · intro ps qs hfloats
    rw [List.forall_mem_append] at hfloats
    rw [display_eq_iff]
    constructor
    · intro h
      exact Parameter.eq_of_map_display_eq hfloats.1 hfloats.2 h
    · rintro rfl
      rfl
  · intro x s n
    exact ⟨Parameter.display_text_ne_of_bare (Parameter.bare_display_float x) s,
      Parameter.display_float_ne_integer x n⟩
  · intro ps
    exact ⟨display_eq sql ps, fun c hc => Parameter.not_isControl_of_mem_bracketed hc⟩

/-- A text that looks like two, a text that looks like an integer, and one that breaks lines. -/
theorem display_unambiguous_forged :
    (⟨"brand = ?", [.text "audi\", \"bmw"]⟩ : Statement).display ≠
        (⟨"brand = ?", [.text "audi", .text "bmw"]⟩ : Statement).display ∧
      (⟨"brand = ?", [.text "2020"]⟩ : Statement).display ≠
        (⟨"brand = ?", [.integer 2020]⟩ : Statement).display ∧
      Parameter.display (.float .nan) ≠ Parameter.display (.text "NaN") ∧
      ∀ c ∈ (bracketed [.text "]\r\nbrand = ? ["]).toList, ¬ Text.IsControl c := by
  obtain ⟨-, hlists, hdoubles, hparts⟩ := display_unambiguous "brand = ?"
  refine ⟨?_, ?_, (hdoubles .nan "NaN" 0).1, (hparts _).2⟩
  · rw [Ne, hlists _ _ (by simp)]
    simp
  · rw [Ne, hlists _ _ (by simp)]
    simp

end Statement
end Sql
end FilterQuery
