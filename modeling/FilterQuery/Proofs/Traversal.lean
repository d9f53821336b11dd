import Mathlib.Data.List.Forall2

/-!
# Steps that may fail

Lists are visited from the left and the first failure ends the visit.

**Results.**
* `mapM_eq_ok_iff`: a visit succeeds exactly when every step does, and gives their results in order.
* `failure?_mapM`: a visit fails with the error of the first step that fails.
* `findSome?_eraseDups`: repeated items do not change which is the first with a result.
-/

namespace FilterQuery

universe u v w

variable {ε : Type u} {α : Type v} {β : Type u} {γ : Type u}

def failure? {α : Type w} : Except ε α → Option ε
  | .error e => some e
  | .ok _ => none

section Failure

variable {α : Type w}

@[simp] theorem failure?_error (e : ε) :
    failure? (.error e : Except ε α) = some e := by
  rfl

@[simp] theorem failure?_ok (a : α) :
    failure? (.ok a : Except ε α) = none := by
  rfl

theorem failure?_eq_some_iff
    {x : Except ε α} {e : ε} :
    failure? x = some e ↔ x = .error e := by
  cases x <;> simp

theorem failure?_eq_none_iff
    {x : Except ε α} :
    failure? x = none ↔ ∃ a, x = .ok a := by
  cases x <;> simp

theorem exists_error_iff
    {x : Except ε α} :
    (∃ e, x = .error e) ↔ ¬ ∃ a, x = .ok a := by
  cases x <;> simp

end Failure

section Bind

variable {x : Except ε β} {f : β → Except ε γ}

theorem ok_bind (b : β) :
    (.ok b : Except ε β) >>= f = f b := by
  rfl

/-- Two steps succeed when the first gives what the second succeeds with. -/
theorem bind_eq_ok_iff
    {c : γ} :
    x >>= f = .ok c ↔ ∃ b, x = .ok b ∧ f b = .ok c := by
  cases x <;> simp [bind, Except.bind]

/-- Two steps fail for the first, or for the second after it. -/
theorem bind_eq_error_iff
    {e : ε} :
    x >>= f = .error e ↔ x = .error e ∨ ∃ b, x = .ok b ∧ f b = .error e := by
  cases x <;> simp [bind, Except.bind]

/-- A sequence of two steps fails with the error of the first that fails. -/
theorem failure?_bind :
    failure? (x >>= f) =
      match x with
      | .error e => some e
      | .ok b => failure? (f b) := by
  cases x <;> rfl

/-- A step that cannot fail changes nothing of a failure. -/
theorem failure?_bind_pure (x : Except ε β) (g : β → γ) :
    failure? (x >>= fun b => pure (g b)) = failure? x := by
  cases x <;> rfl

end Bind

/-- A traversal succeeds when every item does. -/
theorem mapM_eq_ok_iff
    {f : α → Except ε β} {xs : List α} {ys : List β} :
    xs.mapM f = .ok ys ↔ List.Forall₂ (fun x y => f x = .ok y) xs ys := by
  induction xs generalizing ys with
  | nil =>
      simp [pure, Except.pure, eq_comm]
  | cons x xs ih =>
      rw [List.mapM_cons, List.forall₂_cons_left_iff]
      simp only [bind_eq_ok_iff, ih]
      constructor
      · rintro ⟨y, hy, ys', hys, h⟩
        cases h
        exact ⟨y, ys', hy, hys, rfl⟩
      · rintro ⟨y, ys', hy, hys, rfl⟩
        exact ⟨y, hy, ys', hys, rfl⟩

/-- Items that take the same step one by one are visited alike. -/
theorem mapM_eq_of_forall₂
    {f : α → Except ε β} {xs ys : List α}
    (h : List.Forall₂ (fun x y => f x = f y) xs ys) :
    xs.mapM f = ys.mapM f := by
  induction h with
  | nil =>
      rfl
  | @cons x y xs ys hxy hxys ih =>
      rw [List.mapM_cons, List.mapM_cons, hxy, ih]

/-- A traversal fails for its first item that fails. -/
theorem failure?_mapM
    (f : α → Except ε β) (xs : List α) :
    failure? (xs.mapM f) = xs.findSome? fun x => failure? (f x) := by
  induction xs with
  | nil =>
      rfl
  | cons x xs ih =>
      rw [List.mapM_cons, List.findSome?_cons, failure?_bind]
      cases hx : f x with
      | error e =>
          rfl
      | ok y =>
          rw [← ih]
          cases xs.mapM f <;> rfl

/-- A visit fails with the error of an item in front of which no item fails. -/
theorem mapM_eq_error_iff
    {f : α → Except ε β} {xs : List α} {e : ε} :
    xs.mapM f = .error e ↔
      ∃ front x rest, xs = front ++ x :: rest ∧ (∀ a ∈ front, ∃ b, f a = .ok b) ∧
        f x = .error e := by
  rw [← failure?_eq_some_iff, failure?_mapM, List.findSome?_eq_some_iff]
  simp only [failure?_eq_some_iff, failure?_eq_none_iff]
  constructor
  · rintro ⟨front, x, rest, hxs, hx, hfront⟩
    exact ⟨front, x, rest, hxs, hfront, hx⟩
  · rintro ⟨front, x, rest, hxs, hfront, hx⟩
    exact ⟨front, x, rest, hxs, hx, hfront⟩

/-- A visit to lists within a list is a visit to all their items. -/
theorem mapM_flatMap
    {δ : Type w}
    (f : α → Except ε β) (g : δ → List α) (xs : List δ) :
    (xs.flatMap g).mapM f = (do
      let yss ← xs.mapM fun x => (g x).mapM f
      return yss.flatten) := by
  induction xs with
  | nil =>
      rfl
  | cons x xs ih =>
      rw [List.flatMap_cons, List.mapM_append, ih, List.mapM_cons]
      cases (g x).mapM f with
      | error e =>
          rfl
      | ok ys =>
          cases xs.mapM fun x => (g x).mapM f <;> rfl

theorem exists_of_mem_of_forall₂
    {α : Type u} {β : Type v} {R : α → β → Prop} {xs : List α} {ys : List β} {x : α}
    (h : List.Forall₂ R xs ys)
    (hx : x ∈ xs) :
    ∃ y ∈ ys, R x y := by
  induction h with
  | nil =>
      simp at hx
  | @cons a b xs ys hab hxs ih =>
      rcases List.mem_cons.1 hx with rfl | hx
      · exact ⟨b, by simp, hab⟩
      · obtain ⟨y, hy, hxy⟩ := ih hx
        exact ⟨y, List.mem_cons_of_mem b hy, hxy⟩

theorem forall_mem_of_forall₂
    {α : Type u} {β : Type v} {R : α → β → Prop} {P : α → Prop} {xs : List α} {ys : List β}
    (h : List.Forall₂ R xs ys)
    (himp : ∀ x y, R x y → P x) :
    ∀ x ∈ xs, P x := by
  intro x hx
  obtain ⟨y, -, hxy⟩ := exists_of_mem_of_forall₂ h hx
  exact himp x y hxy

/-- Items that correspond to each other one by one have a property all together or not at all. -/
theorem forall_mem_iff_of_forall₂
    {α : Type u} {β : Type v} {R : α → β → Prop} {P : α → Prop} {Q : β → Prop}
    {xs : List α} {ys : List β}
    (h : List.Forall₂ R xs ys)
    (hiff : ∀ x y, R x y → (P x ↔ Q y)) :
    (∀ x ∈ xs, P x) ↔ ∀ y ∈ ys, Q y := by
  induction h with
  | nil =>
      simp
  | @cons x y xs ys hxy hxys ih =>
      rw [List.forall_mem_cons, List.forall_mem_cons, ih, hiff x y hxy]

/-- A relation to a concatenation splits. -/
theorem forall₂_append_left_iff
    {α : Type u} {β : Type v} {R : α → β → Prop} {xs xs' : List α} {zs : List β} :
    List.Forall₂ R (xs ++ xs') zs ↔
      ∃ ys ys', List.Forall₂ R xs ys ∧ List.Forall₂ R xs' ys' ∧ zs = ys ++ ys' := by
  constructor
  · intro h
    induction xs generalizing zs with
    | nil =>
        exact ⟨[], zs, .nil, h, rfl⟩
    | cons x xs ih =>
        obtain ⟨z, zs, hz, hzs, rfl⟩ := List.forall₂_cons_left_iff.1 h
        obtain ⟨ys, ys', hys, hys', rfl⟩ := ih hzs
        exact ⟨z :: ys, ys', .cons hz hys, hys', rfl⟩
  · rintro ⟨ys, ys', hys, hys', rfl⟩
    exact List.rel_append hys hys'

theorem forall₂_append_iff_of_length_eq
    {α : Type u} {β : Type v} {R : α → β → Prop} {xs xs' : List α} {ys ys' : List β}
    (hlength : xs.length = ys.length) :
    List.Forall₂ R (xs ++ xs') (ys ++ ys') ↔ List.Forall₂ R xs ys ∧ List.Forall₂ R xs' ys' := by
  constructor
  · intro h
    obtain ⟨zs, zs', hzs, hzs', heq⟩ := forall₂_append_left_iff.1 h
    obtain ⟨rfl, rfl⟩ := List.append_inj heq (hlength.symm.trans hzs.length_eq)
    exact ⟨hzs, hzs'⟩
  · rintro ⟨h, h'⟩
    exact List.rel_append h h'

/-- Items correspond when what they give corresponds. -/
theorem forall₂_of_images
    {α : Type u} {β : Type v} {C : α → β → Prop} {R : β → β → Prop} {xs xs' : List α}
    {ys ys' : List β}
    (hxs : List.Forall₂ C xs ys)
    (hxs' : List.Forall₂ C xs' ys')
    (h : List.Forall₂ R ys ys') :
    List.Forall₂ (fun x x' => ∃ y y', C x y ∧ C x' y' ∧ R y y') xs xs' := by
  induction h generalizing xs xs' with
  | nil =>
      obtain rfl := List.forall₂_nil_right_iff.1 hxs
      obtain rfl := List.forall₂_nil_right_iff.1 hxs'
      exact .nil
  | @cons y y' ys ys' hyy' h ih =>
      obtain ⟨x, zs, hx, hzs, rfl⟩ := List.forall₂_cons_right_iff.1 hxs
      obtain ⟨x', zs', hx', hzs', rfl⟩ := List.forall₂_cons_right_iff.1 hxs'
      exact .cons ⟨y, y', hx, hx', hyy'⟩ (ih hzs hzs')

section FindSome

variable {α : Type u} {β : Type v}

theorem findSome?_congr
    {f g : α → Option β} {l : List α}
    (h : ∀ a ∈ l, f a = g a) :
    l.findSome? f = l.findSome? g := by
  induction l with
  | nil =>
      rfl
  | cons a l ih =>
      rw [List.forall_mem_cons] at h
      rw [List.findSome?_cons, List.findSome?_cons, h.1, ih h.2]

theorem findSome?_flatMap
    {γ : Type w}
    (f : α → Option β) (g : γ → List α) (l : List γ) :
    (l.flatMap g).findSome? f = l.findSome? fun c => (g c).findSome? f := by
  induction l with
  | nil =>
      rfl
  | cons c l ih =>
      rw [List.flatMap_cons, List.findSome?_append, List.findSome?_cons, ih]
      cases (g c).findSome? f <;> rfl

/-- A repetition is never the first item with a result. -/
theorem findSome?_eraseDups
    [BEq α]
    [LawfulBEq α]
    (f : α → Option β) (l : List α) :
    l.eraseDups.findSome? f = l.findSome? f := by
  have hfilter : ∀ (a : α) (as : List α), f a = none →
      (as.filter fun b => !b == a).findSome? f = as.findSome? f := by
    intro a as ha
    induction as with
    | nil =>
        rfl
    | cons b as ih =>
        by_cases hb : b = a
        · subst b
          simpa [ha] using ih
        · rw [List.filter_cons_of_pos (by simpa using hb), List.findSome?_cons,
          List.findSome?_cons, ih]
  induction hn : l.length using Nat.strongRecOn generalizing l with
  | ind n ih =>
      cases l with
      | nil =>
          rfl
      | cons a as =>
          rw [List.eraseDups_cons, List.findSome?_cons, List.findSome?_cons]
          cases ha : f a with
          | some b =>
              rfl
          | none =>
              have hle := List.length_filter_le (fun b => !b == a) as
              rw [List.length_cons] at hn
              have hrest := ih _ (by omega) (as.filter fun b => !b == a) rfl
              rw [hrest, hfilter a as ha]

theorem eraseDups_of_nodup
    [BEq α]
    [LawfulBEq α]
    {l : List α}
    (h : l.Nodup) :
    l.eraseDups = l := by
  induction l with
  | nil =>
      rfl
  | cons a l ih =>
      rw [List.nodup_cons] at h
      have hfilter : (l.filter fun b => !b == a) = l := by
        rw [List.filter_eq_self]
        intro b hb
        have hne : b ≠ a := fun hba => h.1 (hba ▸ hb)
        simpa using hne
      rw [List.eraseDups_cons, hfilter, ih h.2]

end FindSome

end FilterQuery
