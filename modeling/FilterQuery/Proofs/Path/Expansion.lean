import FilterQuery.Path
import FilterQuery.Session.Execute
import FilterQuery.Settings.Layers
import Mathlib.Data.List.TakeWhile

/-!
# Expansion of paths

The path that a user means by a text is absolute, and it stands for itself: expanding it a second
time changes nothing.

**Trimming.** What is left of a text is described by what was around it (`Text.Trims`): blanks in
front and behind, and no blank at either end of what is left.

**Cases.** A trimmed text is empty, absolute, a tilde alone, a tilde before a slash, or anything
else.  Only what begins with a slash is absolute, and no expanded path is touched by trimming, so
that of the five cases the second one takes all results.

**Results.**
* `trimmed_eq_iff`: trimming is what `Text.Trims` says.
* `expanded_cases`: what each of the five forms expands to.
* `expand_expand`: expansion is idempotent.
* `expand_names_one_file`: all of it, with the files that a path argument and a request for settings
  name.
-/

namespace FilterQuery

namespace Text

/-- Whether a list of characters does not begin with a blank. -/
def BeginsVisible (s : List Char) : Prop :=
  ∀ c ∈ s.head?, isBlank c = false

def EndsVisible (s : List Char) : Prop :=
  ∀ c ∈ s.getLast?, isBlank c = false

/-- What is left of a text between the blanks in front and those behind. -/
structure Trims (s t : List Char) : Prop where
  around : ∃ before after, (∀ c ∈ before, isBlank c = true) ∧ (∀ c ∈ after, isBlank c = true) ∧
    s = before ++ (t ++ after)
  begins : BeginsVisible t
  ends : EndsVisible t

variable {s t : List Char}

theorem beginsVisible_dropWhile (s : List Char) :
    BeginsVisible (s.dropWhile isBlank) := by
  intro c hc
  have hnot := List.head?_dropWhile_not isBlank s
  rw [Option.mem_def.1 hc] at hnot
  simpa using hnot

theorem endsVisible_reverse_iff :
    EndsVisible s.reverse ↔ BeginsVisible s := by
  rw [EndsVisible, List.getLast?_reverse, BeginsVisible]

theorem dropWhile_of_beginsVisible
    (h : BeginsVisible s) :
    s.dropWhile isBlank = s := by
  cases s with
  | nil =>
      rfl
  | cons c s =>
      exact List.dropWhile_cons_of_neg (by simp [h c rfl])

/-- Trimming takes off blanks on either side and nothing else. -/
theorem trims_trimmed (s : List Char) :
    Trims s (trimmed s) := by
  have hbegins := beginsVisible_dropWhile s
  have hends := endsVisible_reverse_iff.2 (beginsVisible_dropWhile (s.dropWhile isBlank).reverse)
  have hsplit : s.dropWhile isBlank =
      trimmed s ++ ((s.dropWhile isBlank).reverse.takeWhile isBlank).reverse := by
    rw [trimmed, ← List.reverse_append, List.takeWhile_append_dropWhile, List.reverse_reverse]
  refine ⟨⟨s.takeWhile isBlank, ((s.dropWhile isBlank).reverse.takeWhile isBlank).reverse,
    fun c hc => List.mem_takeWhile_imp hc,
    fun c hc => List.mem_takeWhile_imp (List.mem_reverse.1 hc), ?_⟩, ?_, hends⟩
  · rw [← hsplit, List.takeWhile_append_dropWhile]
  · intro c hc
    obtain ⟨r, hr⟩ := List.head?_eq_some_iff.1 hc
    refine hbegins c ?_
    rw [hsplit, hr]
    rfl

/-- Trimming a text leaves what stands between the blanks at its two ends, and nothing else. -/
theorem trimmed_eq_iff :
    trimmed s = t ↔ Trims s t := by
  constructor
  · rintro rfl
    exact trims_trimmed s
  · rintro ⟨⟨before, after, hbefore, hafter, rfl⟩, hbegins, hends⟩
    rw [trimmed, List.dropWhile_append_of_pos hbefore]
    cases t with
    | nil =>
        rw [List.nil_append, List.dropWhile_eq_nil_iff.2 hafter]
        rfl
    | cons c t =>
        have hfront : BeginsVisible (c :: t ++ after) := hbegins
        have hback : BeginsVisible (c :: t).reverse := by
          rwa [← endsVisible_reverse_iff, List.reverse_reverse]
        rw [dropWhile_of_beginsVisible hfront, List.reverse_append, List.dropWhile_append_of_pos
          (fun d hd => hafter d (List.mem_reverse.1 hd)), dropWhile_of_beginsVisible hback,
          List.reverse_reverse]

theorem trimmed_of_visible
    (hbegins : BeginsVisible s)
    (hends : EndsVisible s) :
    trimmed s = s :=
  trimmed_eq_iff.2 ⟨⟨[], [], by simp, by simp, by simp⟩, hbegins, hends⟩

end Text

namespace Path

open Text (EndsVisible)

/-- Whether a trimmed text begins with the sign for the home directory. -/
def IsTilde (t : List Char) : Prop :=
  t = ['~'] ∨ ∃ rest, t = '~' :: '/' :: rest

/-- A directory that paths may be taken from: absolute, and without a blank at its end. -/
structure IsBase (directory : String) : Prop where
  absolute : isAbsolute directory.toList = true
  ends : EndsVisible directory.toList

variable {home current directory t : List Char} {home? : Option (List Char)}

theorem isAbsolute_iff :
    isAbsolute t = true ↔ ∃ s, t = '/' :: s := by
  unfold isAbsolute
  split
  · simp
  · rename_i hne
    simp only [Bool.false_eq_true, false_iff, not_exists]
    exact fun s hs => hne s hs

theorem ne_nil_of_isAbsolute
    (h : isAbsolute t = true) :
    t ≠ [] := by
  rintro rfl
  cases h

theorem beginsVisible_of_isAbsolute
    (h : isAbsolute t = true) :
    Text.BeginsVisible t := by
  obtain ⟨s, rfl⟩ := isAbsolute_iff.1 h
  intro c hc
  cases hc
  decide

theorem joined_of_isAbsolute
    (h : isAbsolute t = true) :
    joined directory t = t :=
  if_pos h

theorem isAbsolute_joined
    (h : isAbsolute directory = true) :
    isAbsolute (joined directory t) = true := by
  obtain ⟨s, rfl⟩ := isAbsolute_iff.1 h
  unfold joined
  split
  · assumption
  · split <;> rfl

theorem endsVisible_append
    (h : EndsVisible directory)
    (ht : EndsVisible t) :
    EndsVisible (directory ++ t) := by
  intro c hc
  rw [List.getLast?_append, Option.mem_def, Option.or_eq_some_iff] at hc
  obtain hlast | ⟨-, hlast⟩ := hc
  · exact ht c hlast
  · exact h c hlast

/-- A path that is taken from a directory ends as one of the two does. -/
theorem endsVisible_joined
    (h : EndsVisible directory)
    (ht : EndsVisible t) :
    EndsVisible (joined directory t) := by
  unfold joined
  split
  · exact ht
  · split
    · exact endsVisible_append h ht
    · have hslash : EndsVisible ['/'] := by
        intro c hc
        cases hc
        decide
      exact endsVisible_append h (endsVisible_append hslash ht)

/-- A tilde is nothing special where there is no home directory, nor is any other text. -/
theorem withHome_of_not_isTilde
    (h : IsTilde t → home? = none) :
    withHome home? t = t := by
  unfold withHome
  split
  · cases h (.inl rfl)
  · cases h (.inr ⟨_, rfl⟩)
  · rfl

theorem not_isTilde_of_isAbsolute
    (h : isAbsolute t = true) :
    ¬ IsTilde t := by
  obtain ⟨s, rfl⟩ := isAbsolute_iff.1 h
  simp [IsTilde]

theorem expanded_of_isAbsolute
    (h : isAbsolute t = true) :
    expanded home? current t = t := by
  have htilde : IsTilde t → home? = none := fun ht => absurd ht (not_isTilde_of_isAbsolute h)
  rw [expanded, if_neg (ne_nil_of_isAbsolute h), withHome_of_not_isTilde htilde,
    joined_of_isAbsolute h]

theorem expanded_tilde
    (hhome : isAbsolute home = true) :
    expanded (some home) current ['~'] = home :=
  joined_of_isAbsolute hhome

/-- A tilde and a slash stand for the home directory in front of a path. -/
theorem expanded_below_home
    (hhome : isAbsolute home = true)
    (rest : List Char) :
    expanded (some home) current ('~' :: '/' :: rest) = joined home rest :=
  joined_of_isAbsolute (isAbsolute_joined hhome)

theorem expanded_of_not_isTilde
    (hne : t ≠ [])
    (h : IsTilde t → home? = none) :
    expanded home? current t = joined current t := by
  rw [expanded, if_neg hne, withHome_of_not_isTilde h]

/-- What a trimmed text expands to, by its five forms. -/
theorem expanded_cases
    (hhome : ∀ home ∈ home?, isAbsolute home = true)
    (current t : List Char) :
    (t = [] ∧ expanded home? current t = current) ∨
      (isAbsolute t = true ∧ expanded home? current t = t) ∨
      (t = ['~'] ∧ expanded home? current t ∈ home?) ∨
      (∃ home ∈ home?, ∃ rest, t = '~' :: '/' :: rest ∧
        expanded home? current t = joined home rest) ∨
      expanded home? current t = joined current t := by
  by_cases hnil : t = []
  · exact .inl ⟨hnil, if_pos hnil⟩
  · refine .inr ?_
    by_cases habsolute : isAbsolute t = true
    · exact .inl ⟨habsolute, expanded_of_isAbsolute habsolute⟩
    · refine .inr ?_
      by_cases htilde : IsTilde t → home? = none
      · exact .inr (.inr (expanded_of_not_isTilde hnil htilde))
      · rw [Classical.not_imp] at htilde
        obtain ⟨home, rfl⟩ := Option.ne_none_iff_exists'.1 htilde.2
        obtain rfl | ⟨rest, rfl⟩ := htilde.1
        · exact .inl ⟨rfl, congrArg some (expanded_tilde (hhome home rfl)).symm⟩
        · exact .inr (.inl ⟨home, rfl, rest, rfl, expanded_below_home (hhome home rfl) rest⟩)

/-- Between absolute directories every text expands to an absolute path. -/
theorem isAbsolute_expanded
    (hhome : ∀ home ∈ home?, isAbsolute home = true)
    (hcurrent : isAbsolute current = true)
    (t : List Char) :
    isAbsolute (expanded home? current t) = true := by
  obtain ⟨-, h⟩ | ⟨habsolute, h⟩ | ⟨-, h⟩ | ⟨home, hmem, rest, -, h⟩ | h :=
    expanded_cases hhome current t
  · rw [h]
    exact hcurrent
  · rw [h]
    exact habsolute
  · exact hhome _ h
  · rw [h]
    exact isAbsolute_joined (hhome home hmem)
  · rw [h]
    exact isAbsolute_joined hcurrent

theorem endsVisible_expanded
    (hhome : ∀ home ∈ home?, isAbsolute home = true)
    (hhomeEnds : ∀ home ∈ home?, EndsVisible home)
    (hcurrentEnds : EndsVisible current)
    (ht : EndsVisible t) :
    EndsVisible (expanded home? current t) := by
  obtain ⟨-, h⟩ | ⟨-, h⟩ | ⟨-, h⟩ | ⟨home, hmem, rest, rfl, h⟩ | h :=
    expanded_cases hhome current t
  · rw [h]
    exact hcurrentEnds
  · rw [h]
    exact ht
  · exact hhomeEnds _ h
  · rw [h]
    refine endsVisible_joined (hhomeEnds home hmem) fun c hc => ?_
    cases rest with
    | nil =>
        cases hc
    | cons d rest =>
        exact ht c hc
  · rw [h]
    exact endsVisible_joined hcurrentEnds ht

variable {places : Places}

theorem toList_expand (places : Places) (s : String) :
    (expand places s).toList =
      expanded (places.home?.map String.toList) places.current.toList (Text.trimmed s.toList) :=
  String.toList_ofList

/-- What a text expands to depends on what trimming leaves of it. -/
theorem expand_of_trims
    {s : String} {t : List Char}
    (h : Text.Trims s.toList t) :
    expand places s =
      String.ofList (expanded (places.home?.map String.toList) places.current.toList t) := by
  rw [expand, Text.trimmed_eq_iff.2 h]

/-- A property of the home directory is one of its characters. -/
theorem forall_mem_map_toList
    {P : List Char → Prop}
    (h : ∀ home ∈ places.home?, P home.toList) :
    ∀ home ∈ places.home?.map String.toList, P home := by
  intro home hmem
  obtain ⟨name, hname, rfl⟩ := Option.map_eq_some_iff.1 hmem
  exact h name hname

/-- Expansion is idempotent. -/
theorem expand_expand
    (hhome : ∀ home ∈ places.home?, IsBase home)
    (hcurrent : IsBase places.current)
    (s : String) :
    expand places (expand places s) = expand places s := by
  have hhomeAbsolute : ∀ home ∈ places.home?.map String.toList, isAbsolute home = true :=
    forall_mem_map_toList fun home hmem => (hhome home hmem).absolute
  have hhomeEnds : ∀ home ∈ places.home?.map String.toList, EndsVisible home :=
    forall_mem_map_toList fun home hmem => (hhome home hmem).ends
  have habsolute := isAbsolute_expanded hhomeAbsolute hcurrent.absolute (Text.trimmed s.toList)
  have hends := endsVisible_expanded hhomeAbsolute hhomeEnds hcurrent.ends
    (Text.trims_trimmed s.toList).ends
  rw [expand, toList_expand,
    Text.trimmed_of_visible (beginsVisible_of_isAbsolute habsolute) hends,
    expanded_of_isAbsolute habsolute]
  rfl

/-- An argument behind `@` names the path that it expands to. -/
theorem argumentPath?_at (places : Places) (path : String) :
    argumentPath? places ("@" ++ path) = some (expand places path) := by
  have htext : ("@" ++ path).toList = '@' :: path.toList := by
    simp
  rw [argumentPath?, htext]
  simp only [String.ofList_toList]

theorem overlay?_some (disk : Disk) (places : Places) (path : String) :
    Settings.overlay? disk places (some path) =
      if disk.isPresent (expand places path) then
        .ok (some ⟨expand places path, expand places path⟩)
      else .error (.overlayMissing (expand places path)) := by
  simp only [Settings.overlay?, Settings.overlaySource, Option.isSome_some, if_true]

/-- Between directories to take them from, all texts expand to absolute paths: nothing is the
current directory, an absolute path is itself, a tilde is the home directory, what follows a tilde
and a slash is taken from there, and all else is taken from the current directory, tildes too where
there is no home directory.  An expanded path stands for itself, and so it names the same filters
and the same settings as the text. -/
theorem expand_names_one_file
    (hhome : ∀ home ∈ places.home?, IsBase home)
    (hcurrent : IsBase places.current)
    (s : String) :
    isAbsolute (expand places s).toList = true ∧
      (∀ t, Text.Trims s.toList t →
        (t = [] → expand places s = places.current) ∧
        (isAbsolute t = true → expand places s = String.ofList t) ∧
        (∀ home ∈ places.home?, t = ['~'] → expand places s = home) ∧
        (∀ home ∈ places.home?, ∀ rest, t = '~' :: '/' :: rest →
          expand places s = join home (String.ofList rest)) ∧
        (t ≠ [] → isAbsolute t = false → (IsTilde t → places.home? = none) →
          expand places s = join places.current (String.ofList t))) ∧
      expand places (expand places s) = expand places s ∧
      (∀ disk : Disk, readArgument disk places ("@" ++ expand places s) =
        readArgument disk places ("@" ++ s)) ∧
      ∀ (disk : Disk) (rows : Option UInt32),
        Settings.load disk places ⟨some (expand places s), rows⟩ =
          Settings.load disk places ⟨some s, rows⟩ := by
  have hidempotent := expand_expand hhome hcurrent s
  refine ⟨?_, fun t ht => ?_, hidempotent, fun disk => ?_, fun disk rows => ?_⟩
  · rw [toList_expand]
    refine isAbsolute_expanded ?_ hcurrent.absolute _
    exact forall_mem_map_toList fun home hmem => (hhome home hmem).absolute
  · rw [expand_of_trims ht]
    refine ⟨?_, ?_, ?_, ?_, ?_⟩
    · rintro rfl
      exact String.ofList_toList
    · intro habsolute
      rw [expanded_of_isAbsolute habsolute]
    · rintro home hmem rfl
      rw [Option.mem_def.1 hmem, Option.map_some, expanded_tilde (hhome home hmem).absolute,
        String.ofList_toList]
    · rintro home hmem rest rfl
      rw [Option.mem_def.1 hmem, Option.map_some,
        expanded_below_home (hhome home hmem).absolute, join, String.toList_ofList]
    · intro hne _ htilde
      have hnone : IsTilde t → places.home?.map String.toList = none := by
        intro hIs
        rw [htilde hIs, Option.map_none]
      rw [expanded_of_not_isTilde hne hnone, join, String.toList_ofList]
  · simp only [readArgument, argumentPath?_at, hidempotent]
  · simp only [Settings.load, overlay?_some, hidempotent]

/-- A text with blanks around it, the path that it stands for, a name behind a tilde, and blanks
alone, where the current directory is the root; and a tilde where there is no home directory. -/
theorem expand_names_one_file_blanks :
    expand ⟨some "/home/ann", "/"⟩ "\t~/ notes \u3000" = "/home/ann/ notes" ∧
      expand ⟨some "/home/ann", "/"⟩ "/home/ann/ notes" = "/home/ann/ notes" ∧
      expand ⟨some "/home/ann", "/"⟩ "~ann" = "/~ann" ∧
      expand ⟨some "/home/ann", "/"⟩ " \n" = "/" ∧
      expand ⟨none, "/"⟩ "~/notes" = "/~/notes" := by
  have hann : ∀ home ∈ some "/home/ann", IsBase home := by
    rintro home ⟨⟩
    refine ⟨by decide, ?_⟩
    rintro c ⟨⟩
    decide
  have hroot : IsBase "/" := by
    refine ⟨by decide, ?_⟩
    rintro c ⟨⟩
    decide
  have hall := fun s => @expand_names_one_file ⟨some "/home/ann", "/"⟩ hann hroot s
  have hcases := fun s t ht => (hall s).2.1 t (Text.trimmed_eq_iff.1 ht)
  obtain ⟨-, -, -, hnotes, -⟩ :=
    hcases "\t~/ notes \u3000" "~/ notes".toList (by decide +kernel)
  obtain ⟨-, -, -, -, hname⟩ := hcases "~ann" "~ann".toList (by decide +kernel)
  obtain ⟨hblank, -⟩ := hcases " \n" [] (by decide +kernel)
  have hbelow : expand ⟨some "/home/ann", "/"⟩ "\t~/ notes \u3000" = "/home/ann/ notes" :=
    (hnotes "/home/ann" rfl " notes".toList (by decide +kernel)).trans (by decide +kernel)
  obtain ⟨-, hhomeless, -⟩ := @expand_names_one_file ⟨none, "/"⟩ (by simp) hroot "~/notes"
  obtain ⟨-, -, -, -, htilde⟩ := hhomeless "~/notes".toList
    (Text.trimmed_eq_iff.1 (by decide +kernel))
  refine ⟨hbelow, ?_, ?_, hblank rfl, ?_⟩
  · rw [← hbelow]
    exact (hall _).2.2.1
  · exact (hname (by decide +kernel) (by decide +kernel) (by simp [IsTilde])).trans
      (by decide +kernel)
  · exact (htilde (by decide +kernel) (by decide +kernel) fun _ => rfl).trans (by decide +kernel)

end Path
end FilterQuery
