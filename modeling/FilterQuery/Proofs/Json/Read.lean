import FilterQuery.Proofs.Json.Skip

/-!
# Readers of values

A reader of values is described by a relation between the tree of a value and what is read
(`Reads`, `Accepts`).  The relation of an array is that of its items, and the relation of an object
that of its members.  An object may also be read into fields, each of which takes the value of one
member at most (`Fills`).

**Results.**
* `exists_of_readItems`, `exists_of_readMembers`: what is read is an array or an object of the
  grammar.
* `readItems_of_listed`, `readMembers_of_listed`: arrays and objects of the grammar are read.
* `run_field_iff`: what a field takes from the members of an object.
-/

namespace FilterQuery
namespace Json

section Reader

variable {α : Type}
variable {read : List Char → Except Problem (α × List Char)} {R : Node → α → Prop}
variable {bound N : Nat} {s r body : List Char} {xs : List α} {ns : List Node}

/-- What a reader returns is related to the tree of a value that stands in front. -/
def Reads (read : List Char → Except Problem (α × List Char)) (R : Node → α → Prop) : Prop :=
  ∀ s x r, read s = .ok (x, r) →
    ∃ w t n, Blank w ∧ n.Written t ∧ R n x ∧ s = w ++ (t ++ r)

/-- A reader returns all that is related to a value in front, in a text that is shorter than a
bound. -/
def Accepts (N : Nat) (read : List Char → Except Problem (α × List Char)) (R : Node → α → Prop) :
    Prop :=
  ∀ w t n x r, Blank w → n.Written t → R n x → Stops r → (w ++ (t ++ r)).length < N →
    read (w ++ (t ++ r)) = .ok (x, r)

/-- The relation of an array to the list of what its items are related to. -/
def Node.IsArray (R : Node → α → Prop) (n : Node) (xs : List α) : Prop :=
  ∃ ns, n = .array ns ∧ List.Forall₂ R ns xs

inductive Node.IsMember (R : Node → α → Prop) : List Nat × Node → String × α → Prop
  | mk
      {name : String} {n : Node} {x : α}
      (hx : R n x) :
      IsMember R (textUnits name, n) (name, x)

/-- The relation of an object to the list of what its members are related to. -/
def Node.IsObject (R : Node → α → Prop) (n : Node) (xs : List (String × α)) : Prop :=
  ∃ ms, n = .object ms ∧ List.Forall₂ (Node.IsMember R) ms xs

section Member

variable {γ : Type} {c : γ} {n : Node} {x : α} {w w' t : List Char}

/-- A member that is read has a colon and a value. -/
theorem exists_of_member
    {k : α × List Char → Except Problem γ}
    (hread : Reads read R)
    (h : (colon s >>= fun s => read s >>= k) = .ok c) :
    ∃ w w' t n x r, Blank w ∧ Blank w' ∧ n.Written t ∧ R n x ∧ k (x, r) = .ok c ∧
      s = w ++ ':' :: (w' ++ (t ++ r)) := by
  obtain ⟨s', hcolon, hvalue⟩ := bind_eq_ok_iff.1 h
  obtain ⟨⟨x, r⟩, hx, hk⟩ := bind_eq_ok_iff.1 hvalue
  obtain ⟨w, hw, rfl⟩ := colon_eq_ok_iff.1 hcolon
  obtain ⟨w', t, n, hw', hn, hR, rfl⟩ := hread _ _ _ hx
  exact ⟨w, w', t, n, x, r, hw, hw', hn, hR, hk, rfl⟩

theorem member_of_written
    {k : α × List Char → Except Problem γ}
    (hread : Accepts N read R)
    (hw : Blank w)
    (hw' : Blank w')
    (hn : n.Written t)
    (hR : R n x)
    (hr : Stops r)
    (hN : (w ++ ':' :: (w' ++ (t ++ r))).length < N) :
    (colon (w ++ ':' :: (w' ++ (t ++ r))) >>= fun s => read s >>= k) = k (x, r) := by
  have hvalue := hread w' t n x r hw' hn hR hr (length_behind_colon hN)
  rw [colon_of_blank hw]
  exact congrArg (fun p => p >>= k) hvalue

theorem exists_of_skippedMember
    {k : List Char → Except Problem γ}
    (h : (colon s >>= fun s => skipValue bound s >>= k) = .ok c) :
    ∃ w w' t r, ∃ n : Node, Blank w ∧ Blank w' ∧ n.Written t ∧ k r = .ok c ∧
      s = w ++ ':' :: (w' ++ (t ++ r)) := by
  obtain ⟨s', hcolon, hvalue⟩ := bind_eq_ok_iff.1 h
  obtain ⟨r, hskip, hk⟩ := bind_eq_ok_iff.1 hvalue
  obtain ⟨w, hw, rfl⟩ := colon_eq_ok_iff.1 hcolon
  obtain ⟨w', t, n, hw', hn, rfl⟩ := exists_written_of_skipValue hskip
  exact ⟨w, w', t, r, n, hw, hw', hn, hk, rfl⟩

theorem skippedMember_of_written
    {k : List Char → Except Problem γ}
    (hw : Blank w)
    (hw' : Blank w')
    (hn : n.Written t)
    (hr : Stops r)
    (hbound : (w ++ ':' :: (w' ++ (t ++ r))).length < bound) :
    (colon (w ++ ':' :: (w' ++ (t ++ r))) >>= fun s => skipValue bound s >>= k) = k r := by
  have hskip : skipValue bound (w' ++ (t ++ r)) = .ok r := by
    refine skipValue_of_written hw' hn hr ?_
    have hlength := length_behind_colon hbound
    simp only [List.length_append] at hlength
    omega
  rw [colon_of_blank hw]
  exact congrArg (fun p => p >>= k) hskip

end Member

/-- One more item at the front of those that were read. -/
def Adds (R : Node → α → Prop) (acc : List α) (n : Node) (acc' : List α) : Prop :=
  ∃ x, R n x ∧ acc' = x :: acc

/-- Reading items one by one collects what each of them means. -/
theorem run_adds_iff
    {acc acc' : List α} :
    Run (Adds R) acc ns acc' ↔ ∃ xs, List.Forall₂ R ns xs ∧ acc' = xs.reverse ++ acc := by
  constructor
  · intro h
    induction h with
    | nil =>
        exact ⟨[], .nil, rfl⟩
    | cons hx _ ih =>
        obtain ⟨x, hR, rfl⟩ := hx
        obtain ⟨xs, hxs, rfl⟩ := ih
        exact ⟨x :: xs, .cons hR hxs, by simp⟩
  · rintro ⟨xs, hxs, rfl⟩
    induction hxs generalizing acc with
    | nil =>
        exact .nil
    | @cons n x ns xs hR hxs ih =>
        rw [List.reverse_cons, List.append_assoc, List.singleton_append]
        exact .cons ⟨x, hR, rfl⟩ ih

theorem readItems_eq_ok_iff :
    readItems read bound s = .ok (xs, r) ↔
      foldItems (fun acc s => do
        let (x, s) ← read s
        return (x :: acc, s)) bound true [] s = .ok (xs.reverse, r) := by
  unfold readItems
  rw [bind_eq_ok_iff]
  constructor
  · rintro ⟨⟨acc, t⟩, hfold, h⟩
    cases h
    simpa using hfold
  · intro h
    exact ⟨_, h, by simp [pure, Except.pure]⟩

/-- What is read as items is written as a list of them. -/
theorem exists_of_readItems
    (hread : Reads read R)
    (h : readItems read bound s = .ok (xs, r)) :
    ∃ ns body, Listed Node.Written ns body ∧ List.Forall₂ R ns xs ∧ s = body ++ ']' :: r := by
  have hstep : StepSound (fun acc s => do
      let (x, s) ← read s
      return (x :: acc, s)) (Adds R) := by
    intro acc s acc' r h
    obtain ⟨⟨x, r'⟩, hx, h⟩ := bind_eq_ok_iff.1 h
    cases h
    obtain ⟨w, t, n, hw, hn, hR, rfl⟩ := hread _ _ _ hx
    exact ⟨w, t, n, hw, hn, ⟨x, hR, rfl⟩, rfl⟩
  obtain ⟨ns, body, hbody, hrun, rfl⟩ := exists_run_of_foldItems hstep (readItems_eq_ok_iff.1 h)
  obtain ⟨ys, hys, heq⟩ := run_adds_iff.1 hrun
  obtain rfl : xs = ys := by simpa using heq
  exact ⟨ns, body, hbody, hys, rfl⟩

/-- A list of items is read item by item. -/
theorem readItems_of_listed
    (hread : Accepts N read R)
    (hbody : Listed Node.Written ns body)
    (hns : List.Forall₂ R ns xs)
    (hN : (body ++ ']' :: r).length < N)
    (hbound : (body ++ ']' :: r).length < bound) :
    readItems read bound (body ++ ']' :: r) = .ok (xs, r) := by
  have hstep : StepComplete N (fun acc s => do
      let (x, s) ← read s
      return (x :: acc, s)) (Adds R) := by
    rintro acc t n _ r hn ⟨x, hR, rfl⟩ hr hlt
    exact bind_eq_ok_iff.2 ⟨_, hread [] t n x r blank_nil hn hR hr hlt, rfl⟩
  have hrun : Run (Adds R) [] ns xs.reverse :=
    run_adds_iff.2 ⟨xs, hns, by simp⟩
  exact readItems_eq_ok_iff.2 (foldItems_of_run hstep hbody hrun hN hbound)

def AddsMember (R : Node → α → Prop) (acc : List (String × α)) (m : String × Node)
    (acc' : List (String × α)) : Prop :=
  ∃ x, R m.2 x ∧ acc' = (m.1, x) :: acc

variable {ms : List (List Nat × Node)} {ys : List (String × α)}

theorem exists_members_of_run
    {named : List (String × Node)} {acc acc' : List (String × α)}
    (h : Run (AddsMember R) acc named acc') :
    ∃ ys, List.Forall₂ (Node.IsMember R) (spelledNames named) ys ∧ acc' = ys.reverse ++ acc := by
  induction h with
  | nil =>
      exact ⟨[], .nil, rfl⟩
  | @cons a b c m ms hm hms ih =>
      obtain ⟨x, hR, rfl⟩ := hm
      obtain ⟨ys, hys, rfl⟩ := ih
      exact ⟨(m.1, x) :: ys, .cons (.mk hR) hys, by simp⟩

theorem exists_run_of_members
    (h : List.Forall₂ (Node.IsMember R) ms ys)
    (acc : List (String × α)) :
    ∃ named, spelledNames named = ms ∧ Run (AddsMember R) acc named (ys.reverse ++ acc) := by
  induction h generalizing acc with
  | nil =>
      exact ⟨[], rfl, .nil⟩
  | @cons m y ms ys hm hms ih =>
      cases hm with
      | @mk name n x hR =>
          obtain ⟨named, rfl, hrun⟩ := ih ((name, x) :: acc)
          rw [List.reverse_cons, List.append_assoc, List.singleton_append]
          exact ⟨(name, n) :: named, rfl, .cons ⟨x, hR, rfl⟩ hrun⟩

theorem readMembers_eq_ok_iff :
    readMembers read bound s = .ok (ys, r) ↔
      foldMembers (fun acc name s => do
        let s ← colon s
        let (x, s) ← read s
        return ((name, x) :: acc, s)) bound true [] s = .ok (ys.reverse, r) := by
  unfold readMembers
  rw [bind_eq_ok_iff]
  constructor
  · rintro ⟨⟨acc, t⟩, hfold, h⟩
    cases h
    simpa using hfold
  · intro h
    exact ⟨_, h, by simp [pure, Except.pure]⟩

/-- What is read as members is written as a list of them. -/
theorem exists_of_readMembers
    (hread : Reads read R)
    (h : readMembers read bound s = .ok (ys, r)) :
    ∃ ms body, Listed (Labelled Node.Written) ms body ∧ List.Forall₂ (Node.IsMember R) ms ys ∧
      s = body ++ '}' :: r := by
  have hstep : MemberSound (fun acc name s => do
      let s ← colon s
      let (x, s) ← read s
      return ((name, x) :: acc, s)) (AddsMember R) := by
    intro acc name s acc' r h
    obtain ⟨w, w', t, n, x, r', hw, hw', hn, hR, hk, rfl⟩ := exists_of_member hread h
    cases hk
    exact ⟨w, w', t, n, hw, hw', hn, ⟨x, hR, rfl⟩, rfl⟩
  obtain ⟨named, body, hbody, hrun, rfl⟩ :=
    exists_run_of_foldMembers hstep (readMembers_eq_ok_iff.1 h)
  obtain ⟨zs, hzs, heq⟩ := exists_members_of_run hrun
  obtain rfl : ys = zs := by simpa using heq
  exact ⟨_, body, hbody, hzs, rfl⟩

/-- A list of members is read member by member. -/
theorem readMembers_of_listed
    (hread : Accepts N read R)
    (hbody : Listed (Labelled Node.Written) ms body)
    (hms : List.Forall₂ (Node.IsMember R) ms ys)
    (hN : (body ++ '}' :: r).length < N)
    (hbound : (body ++ '}' :: r).length < bound) :
    readMembers read bound (body ++ '}' :: r) = .ok (ys, r) := by
  have hstep : MemberComplete N (fun acc name s => do
      let s ← colon s
      let (x, s) ← read s
      return ((name, x) :: acc, s)) (AddsMember R) := by
    rintro acc name w w' t n _ r hw hw' hn ⟨x, hR, rfl⟩ hr hlt
    exact member_of_written hread hw hw' hn hR hr hlt
  obtain ⟨named, rfl, hrun⟩ := exists_run_of_members hms []
  rw [List.append_nil] at hrun
  exact readMembers_eq_ok_iff.2 (foldMembers_of_run hstep hbody hrun hN hbound)

end Reader

/-- The values of the members whose names are those of a field. -/
def fieldValues (p : String → Prop) [DecidablePred p] (ms : List (String × Node)) : List Node :=
  (ms.filter fun m => p m.1).map Prod.snd

/-- What a field holds before and after the values of its members: one value at most. -/
inductive Fills {α : Type} (R : Node → α → Prop) : Option α → List Node → Option α → Prop
  | keep
      {a : Option α} :
      Fills R a [] a
  | fill
      {n : Node} {x : α}
      (hx : R n x) :
      Fills R none [n] (some x)

/-- What a member does to a field: it fills it, or it has another name and passes. -/
inductive AddsField {α : Type} (p : String → Prop) (R : Node → α → Prop) :
    Option α → String × Node → Option α → Prop
  | fill
      {name : String} {n : Node} {x : α}
      (hname : p name)
      (hx : R n x) :
      AddsField p R none (name, n) (some x)
  | pass
      {name : String} {n : Node} {a : Option α}
      (hname : ¬ p name) :
      AddsField p R a (name, n) a

section Fields

variable {α : Type} {R : Node → α → Prop} {p : String → Prop} [DecidablePred p]
variable {name : String} {n : Node} {ms : List (String × Node)} {ns : List Node}

theorem fieldValues_cons_of_pos
    (h : p name) :
    fieldValues p ((name, n) :: ms) = n :: fieldValues p ms := by
  simp [fieldValues, h]

theorem fieldValues_cons_of_neg
    (h : ¬ p name) :
    fieldValues p ((name, n) :: ms) = fieldValues p ms := by
  simp [fieldValues, h]

theorem fills_nil_iff
    {a b : Option α} :
    Fills R a [] b ↔ a = b := by
  constructor
  · intro h
    cases h
    rfl
  · rintro rfl
    exact .keep

theorem fills_cons_iff
    {a b : Option α} :
    Fills R a (n :: ns) b ↔ a = none ∧ ∃ x, R n x ∧ Fills R (some x) ns b := by
  constructor
  · intro h
    cases h with
    | fill hx =>
        exact ⟨rfl, _, hx, .keep⟩
  · rintro ⟨rfl, x, hx, h⟩
    cases h
    exact .fill hx

/-- Filling a field member by member amounts to looking for its values among all of them. -/
theorem run_field_iff
    {a b : Option α} :
    Run (AddsField p R) a ms b ↔ Fills R a (fieldValues p ms) b := by
  induction ms generalizing a with
  | nil =>
      constructor
      · intro h
        cases h
        exact .keep
      · intro h
        obtain rfl := fills_nil_iff.1 h
        exact .nil
  | cons m ms ih =>
      obtain ⟨name, n⟩ := m
      by_cases hname : p name
      · rw [fieldValues_cons_of_pos hname, fills_cons_iff]
        constructor
        · intro h
          cases h with
          | cons hm hms =>
              cases hm with
              | fill _ hx =>
                  exact ⟨rfl, _, hx, ih.1 hms⟩
              | pass hother =>
                  exact absurd hname hother
        · rintro ⟨rfl, x, hx, hms⟩
          exact .cons (.fill hname hx) (ih.2 hms)
      · rw [fieldValues_cons_of_neg hname]
        constructor
        · intro h
          cases h with
          | cons hm hms =>
              cases hm with
              | fill hother _ =>
                  exact absurd hother hname
              | pass _ =>
                  exact ih.1 hms
        · intro h
          exact .cons (.pass hname) (ih.2 h)

/-- An empty field that is filled has one value. -/
theorem fills_some_iff
    {x : α} :
    Fills R none ns (some x) ↔ ∃ n, ns = [n] ∧ R n x := by
  constructor
  · intro h
    cases h with
    | fill hx =>
        exact ⟨_, rfl, hx⟩
  · rintro ⟨n, rfl, hx⟩
    exact .fill hx

theorem Fills.unique
    {a b c : Option α}
    (h : Fills R a ns b)
    (h' : Fills R a ns c)
    (hR : ∀ {n x y}, R n x → R n y → x = y) :
    b = c := by
  cases h with
  | keep =>
      exact fills_nil_iff.1 h'
  | fill hx =>
      cases h' with
      | fill hy =>
          rw [hR hx hy]

end Fields

end Json
end FilterQuery
