import FilterQuery.CommandLine.Parse
import FilterQuery.Proofs.Criterion.Cast
import Mathlib.Data.List.Nodup

/-!
# Reading written options

An option with a value is written in one argument or in two (`Writes`), and several options are
written one behind the other (`Written`).  Where a level has these options, each at most once and
with a value that it accepts, they are read back as they are, and what follows is read as if nothing
had stood in front.

**Model.** A reader that has read some options settles on what they have been given
(`Given.ofOptions`), whether its last option is settled or still waiting, and it does not expect a
value.  Each option takes such a reader to the next (`readLevel_writes`), and so do all of them
(`readLevel_written`).

**Results.**
* `word?_eq_some_iff`: which texts spell a number.
* `readLevel_written`: written options are read back.
-/

namespace FilterQuery
namespace CommandLine

/-- Whether a text may be the value of an option. -/
def Key.Accepts (key : Key) (value : String) : Prop :=
  match key with
  | .config => value ≠ ""
  | .rows => ∃ n, word? value = some n
  | .page => ∃ n, word? value = some n
  | .column => True
  | .filters => True

/-- A number of rows or a page is a literal that 32 bits hold. -/
theorem word?_eq_some_iff
    {s : String} {n : UInt32} :
    word? s = some n ↔ Decimal.IsLiteral s.toList n.toNat := by
  rw [← Decimal.integer?_eq_some_iff, word?]
  constructor
  · intro h
    split at h
    · rename_i k hk
      split at h
      · cases h
        have hlt : k.toNat < UInt32.size := by omega
        rw [hk, UInt32.toNat_ofNat_of_lt' hlt, Int.toNat_of_nonneg (by omega)]
      · cases h
    · cases h
  · intro h
    have hrange : 0 ≤ (n.toNat : Int) ∧ (n.toNat : Int) < UInt32.size :=
      ⟨by omega, by exact_mod_cast n.toNat_lt⟩
    simp only [h, if_pos hrange, Int.toNat_natCast, UInt32.ofNat_toNat]

namespace Given

/-- What options have been given, if each stands there once. -/
def ofOptions (options : List (Key × String)) : Given where
  config := options.lookup .config
  rows := (options.lookup .rows).bind word?
  column := options.lookup .column
  page := (options.lookup .page).bind word?
  filters := options.lookup .filters

end Given

variable {options done : List (Key × String)} {key : Key} {value : String}

theorem lookup_eq_none
    (h : ∀ o ∈ options, o.1 ≠ key) :
    options.lookup key = none := by
  rw [List.lookup_eq_none_iff]
  intro o ho
  rw [bne_iff_ne]
  exact (h o ho).symm

theorem lookup_eq_none_of_not_mem
    (h : key ∉ options.map Prod.fst) :
    options.lookup key = none := by
  refine lookup_eq_none fun o ho => ?_
  rintro rfl
  exact h (List.mem_map_of_mem ho)

theorem lookup_option (k key : Key) (value : String) (options : List (Key × String)) :
    ((key, value) :: options).lookup k = if k = key then some value else options.lookup k := by
  rw [List.lookup_cons]
  by_cases h : k = key
  · simp [h]
  · have hbeq : (k == key) = false := by
      simpa using h
    simp [h, hbeq]

/-- The last option gives its key a value where none before it did. -/
theorem lookup_concat (done : List (Key × String)) (key k : Key) (value : String) :
    (done ++ [(key, value)]).lookup k =
      (done.lookup k).or (if k = key then some value else none) := by
  rw [List.lookup_append, lookup_option, List.lookup_nil]

/-- An option that is new and has a value that it accepts is added to those that were given. -/
theorem give_ofOptions
    (hnew : key ∉ done.map Prod.fst)
    (hvalue : key.Accepts value) :
    Progress.give (.ofOptions done) key value = .ok (.ofOptions (done ++ [(key, value)])) := by
  have hnone := lookup_eq_none_of_not_mem hnew
  cases key with
  | config =>
      have hne : value ≠ "" := hvalue
      simp [Progress.give, Given.has, Given.set, Given.ofOptions, lookup_concat, hnone, hne]
  | rows | page =>
      obtain ⟨n, hn⟩ := hvalue
      simp [Progress.give, Given.has, Given.set, Given.ofOptions, lookup_concat, hnone, hn]
  | column | filters =>
      simp [Progress.give, Given.has, Given.set, Given.ofOptions, lookup_concat, hnone]

/-- The arguments that an option with its value is written in.  A value in an argument of its own
does not begin with a dash. -/
inductive Writes : Key × String → List String → Prop
  | joined
      {key : Key} {value : String} :
      Writes (key, value) ["--" ++ key.name ++ "=" ++ value]
  | long
      {key : Key} {value : String}
      (hvalue : value.toList.head? ≠ some '-') :
      Writes (key, value) ["--" ++ key.name, value]
  | short
      {key : Key} {value : String} {letter : Char}
      (hletter : key.letter? = some letter)
      (hvalue : value.toList.head? ≠ some '-') :
      Writes (key, value) ["-" ++ letter.toString, value]

/-- The arguments that options are written in, one behind the other. -/
inductive Written : List (Key × String) → List String → Prop
  | nil : Written [] []
  | cons
      {o : Key × String} {os : List (Key × String)} {args rest : List String}
      (ho : Writes o args)
      (hos : Written os rest) :
      Written (o :: os) (args ++ rest)

/-- The name of an option is not empty and holds no equals sign. -/
theorem name_shape (key : Key) :
    key.name.toList ≠ [] ∧ ∀ c ∈ key.name.toList, c ≠ '=' := by
  cases key <;> simp [Key.name]

theorem ofArgument_of_dashes
    {arg : String} {s : List Char}
    (harg : arg.toList = '-' :: '-' :: s)
    (hs : s ≠ []) :
    Form.ofArgument arg =
      .long (String.ofList (s.takeWhile (· ≠ '=')))
        (match s.dropWhile (· ≠ '=') with
        | _ :: v => some (String.ofList v)
        | [] => none) := by
  rw [Form.ofArgument, harg]
  split
  · rename_i heq
    cases heq
    exact absurd rfl hs
  · rename_i heq
    cases heq
    rfl
  · rename_i hdash heq
    cases heq
    exact absurd rfl hdash
  · rename_i hdash
    exact absurd rfl (hdash _ _)

/-- A long option with a value behind a sign of equality. -/
theorem ofArgument_joined (key : Key) (value : String) :
    Form.ofArgument ("--" ++ key.name ++ "=" ++ value) = .long key.name (some value) := by
  obtain ⟨hne, hname⟩ := name_shape key
  have hall : ∀ c ∈ key.name.toList, decide (c ≠ '=') = true := by
    simpa using hname
  have harg : ("--" ++ key.name ++ "=" ++ value).toList =
      '-' :: '-' :: (key.name.toList ++ '=' :: value.toList) := by
    simp
  rw [ofArgument_of_dashes harg (by simp), List.takeWhile_append_of_pos hall,
    List.dropWhile_append_of_pos hall]
  simp

theorem ofArgument_long (key : Key) :
    Form.ofArgument ("--" ++ key.name) = .long key.name none := by
  obtain ⟨hne, hname⟩ := name_shape key
  have harg : ("--" ++ key.name).toList = '-' :: '-' :: key.name.toList := by
    simp
  have htake : key.name.toList.takeWhile (· ≠ '=') = key.name.toList :=
    List.takeWhile_eq_self_iff.2 (by simpa using hname)
  have hdrop : key.name.toList.dropWhile (· ≠ '=') = [] :=
    List.dropWhile_eq_nil_iff.2 (by simpa using hname)
  rw [ofArgument_of_dashes harg hne, htake, hdrop, String.ofList_toList]

theorem ofArgument_short
    {letter : Char}
    (h : key.letter? = some letter) :
    Form.ofArgument ("-" ++ letter.toString) = .short letter [] := by
  cases key with
  | config | filters =>
      cases h
      rfl
  | rows | column | page =>
      cases h

theorem ofArgument_plain
    (h : value.toList.head? ≠ some '-') :
    Form.ofArgument value = .plain := by
  unfold Form.ofArgument
  split
  · simp_all
  · simp_all
  · simp_all
  · rfl

/-- No name of a command begins with a dash. -/
theorem isCommandName_of_dash
    {arg : String}
    (h : arg.toList.head? = some '-') :
    isCommandName arg = false := by
  rw [← Bool.not_eq_true, isCommandName, Bool.or_eq_true, decide_eq_true_eq]
  rintro (rfl | hlevel)
  · revert h
    decide
  · unfold Level.ofCommandName? at hlevel
    split at hlevel
    · revert h
      decide
    · revert h
      decide
    · revert h
      decide
    · cases hlevel

variable {level : Level} {p : Progress} {g g' : Given} {args rest : List String}

/-- A level knows its options by their names. -/
theorem key?_of_mem
    (h : key ∈ level.keys) :
    level.key? key.name = some key := by
  revert h
  cases level <;> cases key <;> decide

/-- A level knows its options by their letters. -/
theorem keyOfLetter?_of_mem
    {letter : Char}
    (h : key ∈ level.keys)
    (hletter : key.letter? = some letter) :
    level.keyOfLetter? letter = some key := by
  cases key with
  | config | filters =>
      cases hletter
      revert h
      cases level <;> decide
  | rows | column | page =>
      cases hletter

theorem take_value
    (hsettle : p.settle = .ok g)
    (hgive : Progress.give g key value = .ok g') :
    p.take key (some value) = .ok ⟨g', none⟩ := by
  rw [Progress.take, hsettle, ok_bind]
  simp only [hgive]
  rfl

theorem take_waiting
    (hsettle : p.settle = .ok g) :
    p.take key none = .ok ⟨g, some (key, none)⟩ := by
  rw [Progress.take, hsettle, ok_bind]
  rfl

/-- A long option of the level is taken, with its value or without. -/
theorem readLevel_long
    {arg : String} {value? : Option String} {p' : Progress}
    (hcommand : isCommandName arg = false)
    (hform : Form.ofArgument arg = .long key.name value?)
    (hkey : key ∈ level.keys)
    (htake : p.take key value? = .ok p')
    (rest : List String) :
    readLevel level p (arg :: rest) = readLevel level p' rest := by
  conv_lhs => unfold readLevel
  rw [if_neg (by simp [hcommand])]
  simp only [hform, key?_of_mem hkey, htake]

theorem readLevel_short
    {arg : String} {letter : Char} {p' : Progress}
    (hcommand : isCommandName arg = false)
    (hletter : key.letter? = some letter)
    (hform : Form.ofArgument arg = .short letter [])
    (hkey : key ∈ level.keys)
    (htake : p.take key none = .ok p')
    (rest : List String) :
    readLevel level p (arg :: rest) = readLevel level p' rest := by
  conv_lhs => unfold readLevel
  rw [if_neg (by simp [hcommand])]
  simp only [hform, keyOfLetter?_of_mem hkey hletter, attachedValue, htake]

/-- An option that is waiting takes the next argument for its value, whatever that would name. -/
theorem readLevel_value
    (h : value.toList.head? ≠ some '-')
    (rest : List String) :
    readLevel level ⟨g, some (key, none)⟩ (value :: rest) =
      readLevel level ⟨g, some (key, some value)⟩ rest := by
  conv_lhs => unfold readLevel
  rw [if_neg (by simp [Progress.expectsValue])]
  simp only [ofArgument_plain h]

/-- A reader that expects no value reads the next option, in whatever arguments it is written. -/
theorem readLevel_writes
    (hwrites : Writes (key, value) args)
    (hkey : key ∈ level.keys)
    (hsettle : p.settle = .ok g)
    (hgive : Progress.give g key value = .ok g')
    (rest : List String) :
    ∃ p' : Progress, p'.expectsValue = false ∧ p'.settle = .ok g' ∧
      readLevel level p (args ++ rest) = readLevel level p' rest := by
  cases hwrites with
  | joined =>
      have hcommand : isCommandName ("--" ++ key.name ++ "=" ++ value) = false :=
        isCommandName_of_dash (by simp)
      exact ⟨⟨g', none⟩, rfl, rfl, readLevel_long hcommand (ofArgument_joined key value) hkey
        (take_value hsettle hgive) rest⟩
  | long hvalue =>
      have hcommand : isCommandName ("--" ++ key.name) = false :=
        isCommandName_of_dash (by simp)
      have hname := readLevel_long hcommand (ofArgument_long key) hkey (take_waiting hsettle)
        (value :: rest)
      exact ⟨⟨g, some (key, some value)⟩, rfl, hgive, hname.trans (readLevel_value hvalue rest)⟩
  | @short _ _ letter hletter hvalue =>
      have hcommand : isCommandName ("-" ++ letter.toString) = false :=
        isCommandName_of_dash (by simp)
      have hname := readLevel_short hcommand hletter (ofArgument_short hletter) hkey
        (take_waiting hsettle) (value :: rest)
      exact ⟨⟨g, some (key, some value)⟩, rfl, hgive, hname.trans (readLevel_value hvalue rest)⟩

/-- Options that a level has, all different and with values that they accept, are read back.  The
induction is on the options; those that were read before stay in front. -/
theorem readLevel_written
    (hwritten : Written options args)
    (hkeys : ∀ o ∈ options, o.1 ∈ level.keys)
    (hvalues : ∀ o ∈ options, o.1.Accepts o.2)
    (hnodup : ((done ++ options).map Prod.fst).Nodup)
    (hexpects : p.expectsValue = false)
    (hsettle : p.settle = .ok (.ofOptions done))
    (rest : List String) :
    ∃ p' : Progress, p'.expectsValue = false ∧ p'.settle = .ok (.ofOptions (done ++ options)) ∧
      readLevel level p (args ++ rest) = readLevel level p' rest := by
  induction hwritten generalizing done p with
  | nil =>
      exact ⟨p, hexpects, by rwa [List.append_nil], rfl⟩
  | @cons o os args args' ho hos ih =>
      obtain ⟨key, value⟩ := o
      rw [List.forall_mem_cons] at hkeys hvalues
      have hnew : key ∉ done.map Prod.fst := by
        rw [List.map_append, List.nodup_append] at hnodup
        exact fun h => hnodup.2.2 _ h _ (by simp) rfl
      obtain ⟨p₁, hexpects₁, hsettle₁, hread₁⟩ :=
        readLevel_writes ho hkeys.1 hsettle (give_ofOptions hnew hvalues.1) (args' ++ rest)
      obtain ⟨p₂, hexpects₂, hsettle₂, hread₂⟩ :=
        ih hkeys.2 hvalues.2 (by rwa [← List.append_cons]) hexpects₁ hsettle₁
      rw [← List.append_cons] at hsettle₂
      rw [List.append_assoc]
      exact ⟨p₂, hexpects₂, hsettle₂, hread₁.trans hread₂⟩

end CommandLine
end FilterQuery
