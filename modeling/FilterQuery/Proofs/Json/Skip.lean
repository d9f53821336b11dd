import FilterQuery.Proofs.Json.Container
import FilterQuery.Proofs.Json.Number

/-!
# Passing over values

A value is passed over exactly when the grammar has it, whatever its depth.

**Soundness.** Behind each token stands what closes the containers that are open (`Closes`).
`skipFrom` is followed round by round, and each of its rounds takes from the front of what the
relation describes.

**Completeness.** The rounds that a value costs do not depend on the containers around it, and they
are at most twice its characters (`Passes`).  The induction is on the length of the value.

**Results.**
* `exists_written_of_skipValue`: what is passed over is a value of the grammar.
* `skipValue_of_written`: each value of the grammar is passed over.
-/

namespace FilterQuery
namespace Json

section Scalar

variable {s r t : List Char} {n : Node}

theorem keyword_eq_ok_iff
    {cs : List Char} :
    keyword cs s = .ok r ↔ s = cs ++ r := by
  induction cs generalizing s with
  | nil =>
      simp [keyword]
  | cons c cs ih =>
      cases s with
      | nil =>
          simp [keyword]
      | cons d s =>
          by_cases hcd : c = d
          · simp [keyword, hcd, ih]
          · simp [keyword, hcd, Ne.symm hcd]

/-- What is passed over without brackets is a value. -/
theorem exists_written_of_skipScalar
    (h : skipScalar s = .ok r) :
    ∃ (n : Node) (t : List Char), n.Written t ∧ s = t ++ r := by
  unfold skipScalar at h
  split at h
  · cases h
  · obtain rfl := keyword_eq_ok_iff.1 h
    exact ⟨_, _, .null, rfl⟩
  · obtain rfl := keyword_eq_ok_iff.1 h
    exact ⟨_, _, .yes, rfl⟩
  · obtain rfl := keyword_eq_ok_iff.1 h
    exact ⟨_, _, .no, rfl⟩
  · obtain ⟨t, us, ht, rfl⟩ := skipString_eq_ok_iff.1 h
    exact ⟨_, _, .string ht, by simp⟩
  · obtain ⟨token, htoken, rfl⟩ := exists_number_of_skipNumber (.inr rfl) h
    exact ⟨_, _, .number htoken, rfl⟩
  · split at h
    · obtain ⟨token, htoken, heq⟩ := exists_number_of_skipNumber (.inl rfl) h
      exact ⟨_, _, .number htoken, heq⟩
    · cases h

theorem skipScalar_of_number
    (ht : IsNumber t)
    (hr : Stops r) :
    skipScalar (t ++ r) = .ok r := by
  obtain ⟨hsign, hwhole, hf, he⟩ := ht
  have hnumber := skipNumber_of_number hwhole hf he hr
  rcases hsign with rfl | rfl
  · simp only [List.nil_append, List.append_assoc]
    obtain ⟨c, ds, rfl⟩ := List.exists_cons_of_ne_nil hwhole.1.1
    have hc := hwhole.1.2 c (by simp)
    unfold skipScalar
    split
    all_goals
      rename_i heq
      cases heq
    case h_7 =>
      rw [if_pos hc]
      exact hnumber
    all_goals exact absurd hc (by decide)
  · simpa [skipScalar] using hnumber

end Scalar

namespace Container

def opening : Container → Char
  | .array => '['
  | .object => '{'

/-- What stands before a value in a container: nothing, or a name and a colon. -/
def Lead (k : Container) (p : List Char) : Prop :=
  match k with
  | .array => p = []
  | .object =>
      ∃ w name us w', Blank w ∧ Quoted name us ∧ Blank w' ∧
        p = w ++ '"' :: (name ++ '"' :: (w' ++ [':']))

/-- What stands between the brackets of a container. -/
def Content (k : Container) (body : List Char) : Prop :=
  match k with
  | .array => ∃ ns, Listed Node.Written ns body
  | .object => ∃ ms, Listed (Labelled Node.Written) ms body

/-- What stands between a value in a container and the bracket that closes it. -/
def Tail (k : Container) (body : List Char) : Prop :=
  match k with
  | .array => ∃ ns, More Node.Written ns body
  | .object => ∃ ms, More (Labelled Node.Written) ms body

variable {k : Container} {s r p w v t body : List Char} {n : Node}

theorem exists_lead_of_skipName
    (h : k.skipName s = .ok r) :
    ∃ p, k.Lead p ∧ s = p ++ r := by
  cases k with
  | array =>
      cases h
      exact ⟨[], rfl, rfl⟩
  | object =>
      simp only [skipName] at h
      split at h
      · cases h
      · rename_i t heq
        obtain ⟨w, hw, rfl⟩ := exists_blank_of_skipBlanks_eq heq
        obtain ⟨t', hname, hcolon⟩ := bind_eq_ok_iff.1 h
        obtain ⟨name, us, hq, rfl⟩ := skipString_eq_ok_iff.1 hname
        obtain ⟨w', hw', rfl⟩ := colon_eq_ok_iff.1 hcolon
        exact ⟨_, ⟨w, name, us, w', hw, hq, hw', rfl⟩, by simp⟩
      · cases h

theorem content_empty
    (hw : Blank w) :
    k.Content w := by
  cases k
  · exact ⟨[], .empty hw⟩
  · exact ⟨[], .empty hw⟩

theorem tail_done
    (hw : Blank w) :
    k.Tail w := by
  cases k
  · exact ⟨[], .done hw⟩
  · exact ⟨[], .done hw⟩

/-- A first item and what follows it are the contents of a container. -/
theorem content_item
    (hw : Blank w)
    (hp : k.Lead p)
    (hv : Blank v)
    (hn : n.Written t)
    (hbody : k.Tail body) :
    k.Content (w ++ (p ++ (v ++ (t ++ body)))) := by
  cases k with
  | array =>
      cases hp
      obtain ⟨ns, hns⟩ := hbody
      refine ⟨n :: ns, ?_⟩
      rw [List.nil_append, ← List.append_assoc]
      exact .items (hw.append hv) hn hns
  | object =>
      obtain ⟨u, name, us, u', hu, hq, hu', rfl⟩ := hp
      obtain ⟨ms, hms⟩ := hbody
      refine ⟨(us, n) :: ms, ?_⟩
      have hitem := Listed.items (hw.append hu) (.mk hq hu' hv hn) hms
      simpa using hitem

theorem tail_item
    (hw : Blank w)
    (hp : k.Lead p)
    (hv : Blank v)
    (hn : n.Written t)
    (hbody : k.Tail body) :
    k.Tail (w ++ ',' :: (p ++ (v ++ (t ++ body)))) := by
  cases k with
  | array =>
      cases hp
      obtain ⟨ns, hns⟩ := hbody
      rw [List.nil_append]
      exact ⟨n :: ns, .item hw hv hn hns⟩
  | object =>
      obtain ⟨u, name, us, u', hu, hq, hu', rfl⟩ := hp
      obtain ⟨ms, hms⟩ := hbody
      refine ⟨(us, n) :: ms, ?_⟩
      have hitem := More.item hw hu (.mk hq hu' hv hn) hms
      simpa using hitem

/-- A container with its contents is a value. -/
theorem exists_written_of_content
    (h : k.Content body) :
    ∃ n : Node, n.Written (k.opening :: (body ++ [k.closing])) := by
  cases k with
  | array =>
      obtain ⟨ns, hns⟩ := h
      exact ⟨_, .array hns⟩
  | object =>
      obtain ⟨ms, hms⟩ := h
      exact ⟨_, .object hms⟩

end Container

/-- The characters that close all open containers, innermost first. -/
inductive Closes : List Container → List Char → List Char → Prop
  | nil
      {r : List Char} :
      Closes [] r r
  | cons
      {k : Container} {outer : List Container} {body s r : List Char}
      (hbody : k.Tail body)
      (h : Closes outer s r) :
      Closes (k :: outer) (body ++ k.closing :: s) r

/-- What the characters up to a place hold, by what is due. -/
def Due.Fits (due : Due) (containers : List Container) (s r : List Char) : Prop :=
  match due, containers with
  | .value, containers =>
      ∃ w t s', ∃ n : Node, Blank w ∧ n.Written t ∧ s = w ++ (t ++ s') ∧ Closes containers s' r
  | .first, [] => s = r
  | .first, k :: outer =>
      ∃ body s', k.Content body ∧ s = body ++ k.closing :: s' ∧ Closes outer s' r
  | .next, containers => Closes containers s r

theorem Due.fits_open
    {k : Container} {containers : List Container} {w s r : List Char}
    (hw : Blank w)
    (h : Due.first.Fits (k :: containers) s r) :
    Due.value.Fits containers (w ++ k.opening :: s) r := by
  obtain ⟨body, s', hbody, rfl, hs'⟩ := h
  obtain ⟨n, hn⟩ := Container.exists_written_of_content hbody
  exact ⟨w, _, s', n, hw, hn, by simp, hs'⟩

theorem Due.fits_first
    {k : Container} {outer : List Container} {w p s r : List Char}
    (hw : Blank w)
    (hp : k.Lead p)
    (h : Due.value.Fits (k :: outer) s r) :
    Due.first.Fits (k :: outer) (w ++ (p ++ s)) r := by
  obtain ⟨v, t, s', n, hv, hn, rfl, hs'⟩ := h
  cases hs' with
  | @cons _ _ body s' _ hbody hs' =>
      exact ⟨w ++ (p ++ (v ++ (t ++ body))), s', Container.content_item hw hp hv hn hbody,
        by simp, hs'⟩

theorem Due.fits_next
    {k : Container} {outer : List Container} {w p s r : List Char}
    (hw : Blank w)
    (hp : k.Lead p)
    (h : Due.value.Fits (k :: outer) s r) :
    Due.next.Fits (k :: outer) (w ++ ',' :: (p ++ s)) r := by
  obtain ⟨v, t, s', n, hv, hn, rfl, hs'⟩ := h
  cases hs' with
  | @cons _ _ body s' _ hbody hs' =>
      have hcloses := Closes.cons (Container.tail_item hw hp hv hn hbody) hs'
      simpa [Due.Fits] using hcloses

/-- Each round takes from the front what is due. -/
theorem fits_of_skipFrom
    {bound : Nat} {due : Due} {containers : List Container} {s r : List Char}
    (h : skipFrom bound due containers s = .ok r) :
    due.Fits containers s r := by
  fun_induction skipFrom bound due containers s with
  | case1 =>
      cases h
  | case2 bound containers s t heq ih =>
      obtain ⟨w, hw, rfl⟩ := exists_blank_of_skipBlanks_eq heq
      exact Due.fits_open (k := .array) hw (ih h)
  | case3 bound containers s t heq ih =>
      obtain ⟨w, hw, rfl⟩ := exists_blank_of_skipBlanks_eq heq
      exact Due.fits_open (k := .object) hw (ih h)
  | case4 =>
      cases h
  | case5 bound containers s s' hbracket hbrace hscalar ih =>
      obtain ⟨w, hw, heq⟩ := exists_blank s
      obtain ⟨n, t, hn, hsplit⟩ := exists_written_of_skipScalar hscalar
      exact ⟨w, t, s', n, hw, hn, hsplit ▸ heq, ih h⟩
  | case6 =>
      cases h
      exact Eq.refl r
  | case7 =>
      cases h
  | case8 bound k outer s t heq ih =>
      obtain ⟨w, hw, rfl⟩ := exists_blank_of_skipBlanks_eq heq
      exact ⟨w, t, Container.content_empty hw, rfl, ih h⟩
  | case9 =>
      cases h
  | case10 bound k outer s d t heq hd t' hname ih =>
      obtain ⟨w, hw, rfl⟩ := exists_blank_of_skipBlanks_eq heq
      obtain ⟨p, hp, hsplit⟩ := Container.exists_lead_of_skipName hname
      rw [hsplit]
      exact Due.fits_first hw hp (ih h)
  | case11 =>
      cases h
      exact .nil
  | case12 =>
      cases h
  | case13 =>
      cases h
  | case14 bound k outer s t t' hname heq ih =>
      obtain ⟨w, hw, rfl⟩ := exists_blank_of_skipBlanks_eq heq
      obtain ⟨p, hp, rfl⟩ := Container.exists_lead_of_skipName hname
      exact Due.fits_next hw hp (ih h)
  | case15 bound k outer s t heq hcomma ih =>
      obtain ⟨w, hw, rfl⟩ := exists_blank_of_skipBlanks_eq heq
      exact .cons (Container.tail_done hw) (ih h)
  | case16 =>
      cases h

/-- What is passed over as a value is one. -/
theorem exists_written_of_skipValue
    {bound : Nat} {s r : List Char}
    (h : skipValue bound s = .ok r) :
    ∃ w t, ∃ n : Node, Blank w ∧ n.Written t ∧ s = w ++ (t ++ r) := by
  obtain ⟨w, t, s', n, hw, hn, rfl, hs'⟩ := fits_of_skipFrom h
  cases hs'
  exact ⟨w, t, n, hw, hn, rfl⟩

/-- A number of rounds takes a value to what stands behind it, whatever is open around it. -/
def Passes (t : List Char) : Prop :=
  ∃ rounds, rounds ≤ 2 * t.length ∧ ∀ bound containers w r, Blank w → Stops r →
    skipFrom (bound + rounds) .value containers (w ++ (t ++ r)) =
      skipFrom bound .next containers r

/-- The same of a value in a container, after the name and the colon before it. -/
def Container.Passes (k : Container) (t : List Char) : Prop :=
  ∃ rounds, rounds ≤ 2 * t.length ∧ ∀ w r, Blank w → Stops r → ∃ s,
    k.skipName (w ++ (t ++ r)) = .ok s ∧ ∀ bound outer,
      skipFrom (bound + rounds) .value (k :: outer) s = skipFrom bound .next (k :: outer) r

section Completeness

variable {α : Type}
variable {k : Container} {t w r body : List Char} {n : Node} {xs : List α}

theorem Passes.item
    (h : Passes t) :
    Container.array.Passes t := by
  obtain ⟨rounds, hle, hskip⟩ := h
  exact ⟨rounds, hle, fun w r hw hr => ⟨_, rfl, fun bound outer => hskip bound _ w r hw hr⟩⟩

theorem passes_labelled
    {m : List Nat × Node}
    (h : Labelled (fun _ => Passes) m t) :
    Container.object.Passes t := by
  obtain ⟨hname, hv, hv', rounds, hle, hskip⟩ := h
  refine ⟨rounds, ?_, fun w r hw hr => ?_⟩
  · simp only [List.length_cons, List.length_append]
    omega
  · rename_i name v v' t
    refine ⟨v' ++ (t ++ r), ?_, fun bound outer => hskip bound _ v' r hv' hr⟩
    have hcolon : colon (v ++ ':' :: (v' ++ (t ++ r))) = .ok (v' ++ (t ++ r)) :=
      colon_eq_ok_iff.2 ⟨v, hv, rfl⟩
    simp only [Container.skipName, List.cons_append, List.append_assoc, skipBlanks_append hw,
      skipBlanks_cons (show isBlank '"' = false by decide)]
    exact bind_eq_ok_iff.2 ⟨_, skipString_eq_ok_iff.2 ⟨_, _, hname, rfl⟩, hcolon⟩

theorem skipFrom_closing
    (hw : Blank w)
    (bound : Nat) (outer : List Container) (r : List Char) :
    skipFrom (bound + 1) .next (k :: outer) (w ++ k.closing :: r) =
      skipFrom bound .next outer r := by
  rw [skipFrom, skipBlanks_append hw, skipBlanks_cons k.isBlank_closing]
  simp [k.closing_ne_comma]

/-- The rounds from behind an item to behind its container. -/
theorem exists_rounds_of_more
    (h : More (fun (_ : α) => k.Passes) xs body) :
    ∃ rounds, rounds ≤ 2 * body.length + 1 ∧ ∀ bound outer r,
      skipFrom (bound + rounds) .next (k :: outer) (body ++ k.closing :: r) =
        skipFrom bound .next outer r := by
  induction h with
  | done hw =>
      exact ⟨1, by omega, fun bound outer r => skipFrom_closing hw bound outer r⟩
  | @item x xs w w' t s hw hw' hx hxs ih =>
      obtain ⟨rounds, hle, hskip⟩ := hx
      obtain ⟨more, hmore, hrest⟩ := ih
      refine ⟨more + rounds + 1, ?_, fun bound outer r => ?_⟩
      · simp only [List.length_append, List.length_cons]
        omega
      · obtain ⟨u, hname, hvalue⟩ := hskip w' (s ++ k.closing :: r) hw' (hxs.stops k r)
        rw [← hrest bound outer r, ← hvalue, ← Nat.add_assoc, ← Nat.add_assoc]
        simp only [List.append_assoc, List.cons_append]
        rw [skipFrom, skipBlanks_append hw, skipBlanks_cons (by decide)]
        simp [hname]

/-- The rounds from behind the bracket that opens a container to behind the one that closes it. -/
theorem exists_rounds_of_listed
    (h : Listed (fun (_ : α) t => Opens t ∧ k.Passes t) xs body) :
    ∃ rounds, rounds ≤ 2 * body.length + 2 ∧ ∀ bound outer r,
      skipFrom (bound + rounds) .first (k :: outer) (body ++ k.closing :: r) =
        skipFrom bound .next outer r := by
  cases h with
  | empty hw =>
      refine ⟨1, by omega, fun bound outer r => ?_⟩
      rw [skipFrom, skipBlanks_append hw, skipBlanks_cons k.isBlank_closing]
      simp
  | @items x xs w t s hw hx hxs =>
      obtain ⟨hopens, rounds, hle, hskip⟩ := hx
      obtain ⟨more, hmore, hrest⟩ := exists_rounds_of_more (hxs.mono fun hx _ => hx.2)
      refine ⟨more + rounds + 1, ?_, fun bound outer r => ?_⟩
      · simp only [List.length_append]
        omega
      · obtain ⟨u, hname, hvalue⟩ := hskip [] (s ++ k.closing :: r) blank_nil (hxs.stops k r)
        rw [← hrest bound outer r, ← hvalue, ← Nat.add_assoc, ← Nat.add_assoc]
        simp only [List.append_assoc, List.nil_append] at hname ⊢
        have hskipBlanks := skipBlanks_of_opens hw (hopens.append (s ++ k.closing :: r))
        obtain ⟨c, t, rfl, -, -, hbracket, hbrace⟩ := hopens
        have hc : c ≠ k.closing := by
          cases k
          · exact hbracket
          · exact hbrace
        rw [skipFrom, hskipBlanks]
        simp only [List.cons_append] at hname ⊢
        simp [hc, hname]

theorem skipFrom_scalar
    (hw : Blank w)
    (ht : Opens t)
    (hbracket : ∀ s, t ≠ '[' :: s)
    (hbrace : ∀ s, t ≠ '{' :: s)
    (hscalar : skipScalar (t ++ r) = .ok r)
    (bound : Nat) (containers : List Container) :
    skipFrom (bound + 1) .value containers (w ++ (t ++ r)) = skipFrom bound .next containers r := by
  have hskip := skipBlanks_of_opens hw (ht.append r)
  obtain ⟨c, t, rfl, -⟩ := ht
  rw [skipFrom, hskip]
  split
  · rename_i heq
    cases heq
    exact absurd rfl (hbracket t)
  · rename_i heq
    cases heq
    exact absurd rfl (hbrace t)
  · rw [hscalar]

theorem skipFrom_opening
    (hw : Blank w)
    (bound : Nat) (containers : List Container) (r : List Char) :
    skipFrom (bound + 1) .value containers (w ++ k.opening :: r) =
      skipFrom bound .first (k :: containers) r := by
  rw [skipFrom, skipBlanks_append hw]
  cases k
  · rw [Container.opening, skipBlanks_cons (by decide)]
    rfl
  · rw [Container.opening, skipBlanks_cons (by decide)]
    rfl

theorem passes_scalar
    (ht : Opens t)
    (hbracket : ∀ s, t ≠ '[' :: s)
    (hbrace : ∀ s, t ≠ '{' :: s)
    (hscalar : ∀ r, Stops r → skipScalar (t ++ r) = .ok r) :
    Passes t := by
  have hlength := ht.length_pos
  refine ⟨1, by omega, fun bound containers w r hw hr => ?_⟩
  exact skipFrom_scalar hw ht hbracket hbrace (hscalar r hr) bound containers

/-- A container is passed over when its items are. -/
theorem passes_container
    (h : Listed (fun (_ : α) t => Opens t ∧ k.Passes t) xs body) :
    Passes (k.opening :: (body ++ [k.closing])) := by
  obtain ⟨rounds, hle, hskip⟩ := exists_rounds_of_listed h
  refine ⟨rounds + 1, ?_, fun bound containers w r hw hr => ?_⟩
  · simp only [List.length_cons, List.length_append, List.length_nil]
    omega
  · rw [List.cons_append, List.append_assoc, ← Nat.add_assoc, skipFrom_opening hw]
    exact hskip bound containers r

/-- Every value is passed over, at any depth. -/
theorem passes_of_written
    (h : n.Written t) :
    Passes t := by
  generalize hN : t.length = N
  induction N using Nat.strong_induction_on generalizing n t with
  | h N ih =>
      have hopens := h.opens
      cases h with
      | null | yes | no =>
          refine passes_scalar hopens (by simp) (by simp) fun r hr => ?_
          exact keyword_eq_ok_iff.2 rfl
      | number htoken =>
          have hne : ∀ {c}, isNumeric c = false → ∀ s, t ≠ c :: s := by
            intro c hc s
            simpa using htoken.append_ne_cons (r := []) (t := s) hc
          exact passes_scalar hopens (hne (by decide)) (hne (by decide)) fun r hr =>
            skipScalar_of_number htoken hr
      | string hs =>
          refine passes_scalar hopens (by simp) (by simp) fun r hr => ?_
          exact skipString_eq_ok_iff.2 ⟨_, _, hs, by simp⟩
      | @array items s hs =>
          refine passes_container (k := .array) (hs.mono fun hn hle => ⟨hn.opens, ?_⟩)
          refine (ih _ ?_ hn rfl).item
          simp only [List.length_cons, List.length_append] at hN
          omega
      | @object members s hs =>
          refine passes_container (k := .object) (hs.mono fun {m u} hm hle => ⟨hm.opens, ?_⟩)
          refine passes_labelled (hm.mono fun hn hlt => ?_)
          refine ih _ ?_ hn rfl
          simp only [List.length_cons, List.length_append] at hN
          omega

/-- A value is passed over as a whole, with the blanks in front of it. -/
theorem skipValue_of_written
    {bound : Nat}
    (hw : Blank w)
    (hn : n.Written t)
    (hr : Stops r)
    (hbound : t.length < bound) :
    skipValue bound (w ++ (t ++ r)) = .ok r := by
  obtain ⟨rounds, hle, hskip⟩ := passes_of_written hn
  obtain ⟨spare, hspare⟩ : ∃ spare, 2 * bound = spare + 1 + rounds :=
    ⟨2 * bound - rounds - 1, by omega⟩
  rw [skipValue, hspare, hskip _ _ w r hw hr, skipFrom]

end Completeness

end Json
end FilterQuery
