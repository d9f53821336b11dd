import FilterQuery.Sql.Builder

/-!
# The algebra of fragments

Fragments are written one behind the other, with the empty one as the unit.  A join is such a
writing with the separator between each two of its items, and a builder writes from the left.

**Method.** `concat` writes a list of fragments.  Joins and builders are brought to it, and what is
regrouped is the list.

**Results.**
* `concat_append`, `join_flatten`: what is written or joined in parts is so at once.
* `Builder.written_foldl`: a builder writes the fragments of its steps.
* `fragments_regroup`: the laws of writing, joining and building together.
-/

namespace FilterQuery
namespace Sql
namespace Fragment

/-- Fragments written one behind the other, from the left. -/
def concat (fs : List Fragment) : Fragment :=
  fs.foldl (· ++ ·) empty

theorem append_assoc (f g h : Fragment) :
    f ++ g ++ h = f ++ (g ++ h) := by
  ext1
  · exact String.append_assoc
  · exact List.append_assoc _ _ _

@[simp] theorem empty_append (f : Fragment) :
    empty ++ f = f := by
  ext1
  · exact String.empty_append
  · exact List.nil_append _

@[simp] theorem append_empty (f : Fragment) :
    f ++ empty = f := by
  ext1
  · exact String.append_empty
  · exact List.append_nil _

instance : Std.Associative (fun f g : Fragment => f ++ g) :=
  ⟨append_assoc⟩

theorem foldl_append_eq (f : Fragment) (fs : List Fragment) :
    fs.foldl (· ++ ·) f = f ++ concat fs := by
  have hfold : fs.foldl (· ++ ·) (f ++ empty) = f ++ concat fs :=
    List.foldl_assoc
  rwa [append_empty] at hfold

@[simp] theorem concat_nil :
    concat [] = empty := by
  rfl

@[simp] theorem concat_cons (f : Fragment) (fs : List Fragment) :
    concat (f :: fs) = f ++ concat fs := by
  rw [concat, List.foldl_cons, empty_append, foldl_append_eq]

theorem concat_singleton (f : Fragment) :
    concat [f] = f := by
  simp

@[simp] theorem concat_append (fs gs : List Fragment) :
    concat (fs ++ gs) = concat fs ++ concat gs := by
  rw [concat, List.foldl_append, foldl_append_eq]
  rfl

theorem sql_concat (fs : List Fragment) :
    (concat fs).sql = String.join (fs.map sql) := by
  induction fs with
  | nil =>
      rfl
  | cons f fs ih =>
      rw [concat_cons, sql_append, ih, List.map_cons, String.join_cons]

theorem parameters_concat (fs : List Fragment) :
    (concat fs).parameters = fs.flatMap parameters := by
  induction fs with
  | nil =>
      rfl
  | cons f fs ih =>
      rw [concat_cons, parameters_append, ih, List.flatMap_cons]

@[simp] theorem join_nil (separator : String) :
    join separator [] = empty := by
  simp [join_eq, empty]

@[simp] theorem join_singleton (separator : String) (f : Fragment) :
    join separator [f] = f := by
  simp [join_eq]

/-- A separator stands between the first part and the rest. -/
theorem join_cons_cons (separator : String) (f g : Fragment) (fs : List Fragment) :
    join separator (f :: g :: fs) = f ++ raw separator ++ join separator (g :: fs) := by
  ext1 <;> simp

/-- A join is a concatenation with the separator between the parts. -/
theorem join_eq_concat (separator : String) (fs : List Fragment) :
    join separator fs = concat (fs.intersperse (raw separator)) := by
  match fs with
  | [] =>
      simp
  | [f] =>
      simp
  | f :: g :: fs =>
      rw [join_cons_cons, join_eq_concat, List.intersperse_cons_cons, concat_cons, concat_cons,
        append_assoc]

/-- Lists may be joined apart unless one is empty. -/
theorem join_append
    {fs gs : List Fragment}
    (hfs : fs ≠ [])
    (hgs : gs ≠ [])
    (separator : String) :
    join separator (fs ++ gs) = join separator fs ++ raw separator ++ join separator gs := by
  ext1
  · rw [sql_join, List.map_append, String.intercalate_append_of_ne_nil (by simpa using hfs)
      (by simpa using hgs)]
    simp
  · simp

/-- Groups may be joined first unless one is empty. -/
theorem join_flatten
    {fss : List (List Fragment)}
    (h : ∀ fs ∈ fss, fs ≠ [])
    (separator : String) :
    join separator (fss.map (join separator)) = join separator fss.flatten := by
  induction fss with
  | nil =>
      rfl
  | cons fs fss ih =>
      rw [List.forall_mem_cons] at h
      rcases fss with _ | ⟨gs, fss⟩
      · simp
      · have hrest : (gs :: fss).flatten ≠ [] := by
          simp [h.2 gs (by simp)]
        rw [List.flatten_cons, join_append h.1 hrest, ← ih h.2, List.map_cons, List.map_cons,
          join_cons_cons]

end Fragment

namespace Builder

/-- One call of a builder. -/
inductive Step where
  | text (sql : String)
  | bind (sql : String) (parameter : Parameter)
  | fragment (f : Fragment)

/-- The fragment that a step writes. -/
def Step.written : Step → Fragment
  | .text sql => .raw sql
  | .bind sql parameter => .bound sql parameter
  | .fragment f => f

/-- A builder after one more step. -/
def take (b : Builder) : Step → Builder
  | .text sql => b.text sql
  | .bind sql parameter => b.bind sql parameter
  | .fragment f => b.fragment f

/-- What a builder has written so far. -/
def written (b : Builder) : Fragment :=
  ⟨b.sql, b.parameters.toList⟩

/-- What is built is what was written. -/
theorem build_eq (b : Builder) :
    b.build = b.written.toStatement := by
  rfl

@[simp] theorem written_empty :
    empty.written = .empty := by
  rfl

theorem written_take (b : Builder) (step : Step) :
    (b.take step).written = b.written ++ step.written := by
  cases step with
  | text sql =>
      ext1
      · rfl
      · exact (List.append_nil _).symm
  | bind sql parameter =>
      ext1
      · rfl
      · exact Array.toList_push
  | fragment f =>
      ext1
      · rfl
      · exact Array.toList_append

/-- Steps write one behind the other. -/
theorem written_foldl (b : Builder) (steps : List Step) :
    (steps.foldl take b).written = b.written ++ Fragment.concat (steps.map Step.written) := by
  induction steps generalizing b with
  | nil =>
      exact (Fragment.append_empty _).symm
  | cons step steps ih =>
      rw [List.foldl_cons, ih, written_take, List.map_cons, Fragment.concat_cons,
        Fragment.append_assoc]

end Builder

namespace Fragment

/-- Writing one behind the other is associative, with the empty fragment as its unit.  A join writes
the separator between each two of its items, empty ones too, so that non-empty groups may be joined
first.  A builder writes the fragments of its steps. -/
theorem fragments_regroup :
    (∀ f g h : Fragment, f ++ g ++ h = f ++ (g ++ h)) ∧
    (∀ f : Fragment, empty ++ f = f ∧ f ++ empty = f) ∧
    (∀ (separator : String) (fs : List Fragment),
      join separator fs = (fs.intersperse (raw separator)).foldl (· ++ ·) empty) ∧
    (∀ separator : String, join separator [] = empty) ∧
    (∀ (separator : String) (fs gs : List Fragment), fs ≠ [] → gs ≠ [] →
      join separator (fs ++ gs) = join separator fs ++ raw separator ++ join separator gs) ∧
    (∀ (separator : String) (fss : List (List Fragment)), (∀ fs ∈ fss, fs ≠ []) →
      join separator (fss.map (join separator)) = join separator fss.flatten) ∧
    ∀ steps : List Builder.Step,
      (steps.foldl Builder.take Builder.empty).build =
        ((steps.map Builder.Step.written).foldl (· ++ ·) empty).toStatement := by
  refine ⟨append_assoc, ?_, join_eq_concat, join_nil, ?_, ?_, ?_⟩
  · intro f
    exact ⟨empty_append f, append_empty f⟩
  · intro separator fs gs hfs hgs
    exact join_append hfs hgs separator
  · intro separator fss h
    exact join_flatten h separator
  · intro steps
    rw [Builder.build_eq, Builder.written_foldl, Builder.written_empty, empty_append]
    rfl

/-- Two fragments, of which the second is empty. -/
def blankSecond : List Fragment :=
  [bound "a.size = ?" (.text "9"), empty]

/-- Empty items keep their separators, also where groups are joined first. -/
theorem fragments_regroup_blanks :
    blankSecond ≠ [] ∧ [empty] ≠ [] ∧ (∀ fs ∈ [blankSecond, [empty]], fs ≠ []) ∧
    join " or " blankSecond ++ raw " or " ++ join " or " [empty] =
      ⟨"a.size = ? or  or ", [.text "9"]⟩ ∧
    join " or " [join " or " blankSecond, join " or " [empty]] =
      ⟨"a.size = ? or  or ", [.text "9"]⟩ ∧
    ([Builder.Step.text "where ", .fragment (blankSecond.head (by decide))].foldl
      Builder.take Builder.empty).build = ⟨"where a.size = ?", [.text "9"]⟩ := by
  obtain ⟨-, -, -, -, happend, hflatten, hbuild⟩ := fragments_regroup
  have hsecond : blankSecond ≠ [] := by
    decide
  have hlast : [empty] ≠ [] := by
    decide
  have hgroups : ∀ fs ∈ [blankSecond, [empty]], fs ≠ [] := by
    decide
  refine ⟨hsecond, hlast, hgroups, ?_, ?_, ?_⟩
  · rw [← happend _ _ _ hsecond hlast]
    decide
  · exact (hflatten " or " _ hgroups).trans (by decide)
  · rw [hbuild]
    decide

end Fragment
end Sql
end FilterQuery
