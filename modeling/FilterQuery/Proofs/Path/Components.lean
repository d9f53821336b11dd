import FilterQuery.Proofs.Path.Expansion

/-!
# Components of expanded paths

The names of a path that is taken from a directory are those of the directory and then those of the
path.  The names `..` are kept; empty names, and those that stay where they are, count for nothing.

**Tildes.** A text with a tilde at its front is meant to be a path below the home directory.

**A gap.** The rest behind the tilde and its slash is taken from the home directory as any other
path is.  A rest that begins with a second slash is absolute, and an absolute path is taken from
nowhere: the home directory is lost.

**Results.**
* `components_joined`: the names of a path that is taken from a directory.
* `tilde_below_home_iff`: a text with a tilde expands to a path below the home directory unless its
  rest is absolute.
* `not_below_home_doubled`: a text with a tilde that expands to a path elsewhere.
-/

namespace FilterQuery
namespace Path

variable {home directory path s t : List Char}

theorem pieces_ne_nil (s : List Char) :
    pieces s ≠ [] := by
  cases s with
  | nil =>
      simp [pieces]
  | cons c s =>
      unfold pieces
      split
      · simp
      · split <;> simp

/-- A slash divides the pieces of a path. -/
theorem pieces_append (s t : List Char) :
    pieces (s ++ '/' :: t) = pieces s ++ pieces t := by
  induction s with
  | nil =>
      rfl
  | cons c s ih =>
      by_cases hc : c = '/'
      · simp [pieces, hc, ih]
      · obtain ⟨p, ps, hps⟩ := List.exists_cons_of_ne_nil (pieces_ne_nil s)
        simp [pieces, hc, ih, hps]

/-- The names on either side of a slash are those of the two sides. -/
theorem components_append (s t : List Char) :
    components (s ++ '/' :: t) = components s ++ components t := by
  rw [components, pieces_append, List.filter_append]
  rfl

/-- A slash at the end of a directory is no name. -/
theorem components_append_of_slash
    (h : directory.getLast? = some '/')
    (path : List Char) :
    components (directory ++ path) = components directory ++ components path := by
  obtain ⟨front, rfl⟩ := List.getLast?_eq_some_iff.1 h
  rw [components_append front [], List.append_assoc, List.singleton_append, components_append]
  have hnil : components [] = [] := by
    decide
  rw [hnil, List.append_nil]

/-- The names of a path that is taken from a directory: first those of the directory. -/
theorem components_joined
    (h : isAbsolute path = false)
    (directory : List Char) :
    components (joined directory path) = components directory ++ components path := by
  rw [joined, if_neg (by simp [h])]
  split
  · rename_i hend
    obtain rfl | hslash := hend
    · rfl
    · exact components_append_of_slash hslash path
  · exact components_append directory path

/-- The rest behind a tilde is appended to the names of the home directory exactly when it is no
absolute path, or when the home directory has no names. -/
theorem components_below_home_iff :
    components (joined home path) = components home ++ components path ↔
      isAbsolute path = false ∨ components home = [] := by
  cases hpath : isAbsolute path with
  | false =>
      simp [components_joined hpath]
  | true =>
      simp [joined_of_isAbsolute hpath]

/-- A path that is taken from the home directory is below it unless it is absolute and leads
elsewhere. -/
theorem isPrefix_below_home_iff :
    components home <+: components (joined home path) ↔
      isAbsolute path = false ∨ components home <+: components path := by
  cases hpath : isAbsolute path with
  | false =>
      simp [components_joined hpath]
  | true =>
      simp [joined_of_isAbsolute hpath]

/-- An absolute home directory is there. -/
theorem home?_eq_some
    {places : Places}
    (hhome : isAbsolute places.home.toList = true) :
    places.home? = some places.home := by
  obtain ⟨home?, current⟩ := places
  cases home? with
  | none =>
      cases hhome
  | some home =>
      rfl

/-- A tilde alone is the home directory.  What a tilde and a slash are followed by is a path below
the home directory, with the names of the home directory in front of its own, except where it is
itself absolute: then it is the path that is meant, and it is below the home directory only if it
says so. -/
theorem tilde_below_home_iff
    {places : Places}
    (hhome : isAbsolute places.home.toList = true)
    (s : String) :
    (Text.Trims s.toList ['~'] → expand places s = places.home) ∧
      ∀ rest, Text.Trims s.toList ('~' :: '/' :: rest) →
        isAbsolute (expand places s).toList = true ∧
        (components (expand places s).toList = components places.home.toList ++ components rest ↔
          isAbsolute rest = false ∨ components places.home.toList = []) ∧
        (components places.home.toList <+: components (expand places s).toList ↔
          isAbsolute rest = false ∨ components places.home.toList <+: components rest) ∧
        (isAbsolute rest = true → expand places s = String.ofList rest) := by
  constructor
  · intro htrims
    rw [expand_of_trims htrims, home?_eq_some hhome, Option.map_some, expanded_tilde hhome,
      String.ofList_toList]
  · intro rest htrims
    rw [expand_of_trims htrims, home?_eq_some hhome, Option.map_some, expanded_below_home hhome,
      String.toList_ofList]
    refine ⟨isAbsolute_joined hhome, components_below_home_iff, isPrefix_below_home_iff, ?_⟩
    intro habsolute
    rw [joined_of_isAbsolute habsolute]

/-- Names that go up are kept, those that stay are not, and a second slash leads away. -/
theorem tilde_below_home_iff_dotted :
    components (expand ⟨some "/home/ann", "/work"⟩ " ~/./a b/../c/").toList =
        ["home".toList, "ann".toList, "a b".toList, "..".toList, "c".toList] ∧
      expand ⟨some "/home/ann", "/work"⟩ "~//etc/passwd" = "/etc/passwd" ∧
      expand ⟨some "/home/ann", "/work"⟩ "~\n" = "/home/ann" := by
  have hhome : isAbsolute "/home/ann".toList = true := by
    decide
  have hall := fun s => @tilde_below_home_iff ⟨some "/home/ann", "/work"⟩ hhome s
  have htrims := fun s t => (Text.trimmed_eq_iff (s := String.toList s) (t := t)).1
  obtain ⟨-, hdotted, -⟩ := (hall " ~/./a b/../c/").2 "./a b/../c/".toList
    (htrims _ _ (by decide +kernel))
  obtain ⟨-, -, -, hdoubled⟩ := (hall "~//etc/passwd").2 "/etc/passwd".toList
    (htrims _ _ (by decide +kernel))
  refine ⟨(hdotted.2 (.inl (by decide))).trans (by decide), ?_, ?_⟩
  · exact (hdoubled (by decide)).trans (by decide +kernel)
  · exact (hall "~\n").1 (htrims _ _ (by decide +kernel))

/-- The home directory is absolute and the text begins with a tilde and a slash, but the path that
it expands to is not below the home directory. -/
theorem not_below_home_doubled :
    isAbsolute "/home/ann".toList = true ∧
      Text.trimmed "~//etc/passwd".toList = '~' :: '/' :: "/etc/passwd".toList ∧
      ¬ components "/home/ann".toList <+:
        components (expand ⟨some "/home/ann", "/work"⟩ "~//etc/passwd").toList := by
  decide +kernel

end Path
end FilterQuery
