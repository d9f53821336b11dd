import FilterQuery.Proofs.CommandLine.Reading
import FilterQuery.Proofs.Json.Numeral
import Mathlib.Data.List.Perm.Basic

/-!
# Command lines that spell an invocation

An invocation is spelled by the options that its command needs and by those for the settings that
are asked for, in any order (`Spells`).  Options for settings may stand on either side of the name
of the command, and each option is written in any of its ways.

**Variables.** A setting that no option gives is taken from its variable.  Variables are looked at
on both sides of the name of the command; on the other side of an option they must not win over it.

**Results.**
* `exists_spells`: every invocation with a path that is not empty can be spelled.
* `withVariables_eq`: what valid variables add to options.
* `parse_spelled`: every invocation is read back from the command lines that spell it.
-/

namespace FilterQuery

namespace Command

def word : Command → String
  | .distinct _ _ => "distinct"
  | .search _ _ => "search"
  | .columns => "columns"

def level : Command → CommandLine.Level
  | .distinct _ _ => .distinct
  | .search _ _ => .search
  | .columns => .columns

end Command

namespace CommandLine

/-- Whether a text spells a number of 32 bits: digits behind at most one sign. -/
def SpellsWord (text : String) (n : UInt32) : Prop :=
  Decimal.IsLiteral text.toList n.toNat

/-- The options that a command needs.  The first page need not be given. -/
inductive CommandOptions : Command → List (Key × String) → Prop
  | distinct
      {column filters : String} :
      CommandOptions (.distinct column filters) [(.column, column), (.filters, filters)]
  | search
      {page : UInt32} {filters text : String}
      (htext : SpellsWord text page) :
      CommandOptions (.search page filters) [(.page, text), (.filters, filters)]
  | firstPage
      {filters : String} :
      CommandOptions (.search 0 filters) [(.filters, filters)]
  | columns : CommandOptions .columns []

/-- The options for the settings that are asked for. -/
inductive SettingOptions : Settings.Request → List (Key × String) → Prop
  | neither : SettingOptions ⟨none, none⟩ []
  | config
      {path : String}
      (hpath : path ≠ "") :
      SettingOptions ⟨some path, none⟩ [(.config, path)]
  | rows
      {rows : UInt32} {text : String}
      (htext : SpellsWord text rows) :
      SettingOptions ⟨none, some rows⟩ [(.rows, text)]
  | both
      {path text : String} {rows : UInt32}
      (hpath : path ≠ "")
      (htext : SpellsWord text rows) :
      SettingOptions ⟨some path, some rows⟩ [(.config, path), (.rows, text)]

/-- The arguments that spell a command with settings: options for settings, the name of the command,
and the rest of the options. -/
inductive Spells (command : Command) (settings : Settings.Request) : List String → Prop
  | mk
      {own shared before behind : List (Key × String)} {args args' : List String}
      (hown : CommandOptions command own)
      (hshared : SettingOptions settings shared)
      (hperm : (before ++ behind).Perm (own ++ shared))
      (hbefore : ∀ o ∈ before, o.1 ∈ [Key.config, Key.rows])
      (hargs : Written before args)
      (hargs' : Written behind args') :
      Spells command settings (args ++ command.word :: args')

/-- The shortest decimal text of a number spells it. -/
theorem spellsWord_naturalText (n : UInt32) :
    SpellsWord (Decimal.naturalText n.toNat) n := by
  have hdenotes := Decimal.denotes_value (Decimal.isDigits_digits n.toNat)
  rw [Decimal.value_digits] at hdenotes
  rw [SpellsWord, Decimal.naturalText, String.toList_ofList]
  exact .unsigned hdenotes

theorem exists_written (options : List (Key × String)) :
    ∃ args, Written options args := by
  induction options with
  | nil =>
      exact ⟨[], .nil⟩
  | cons o options ih =>
      obtain ⟨args, hargs⟩ := ih
      exact ⟨_, .cons .joined hargs⟩

/-- Every command can be spelled, with all settings whose path is not empty. -/
theorem exists_spells
    (command : Command)
    {settings : Settings.Request}
    (h : settings.config ≠ some "") :
    ∃ args, Spells command settings args := by
  obtain ⟨own, hown⟩ : ∃ own, CommandOptions command own := by
    cases command with
    | distinct column filters => exact ⟨_, .distinct⟩
    | search page filters => exact ⟨_, .search (spellsWord_naturalText page)⟩
    | columns => exact ⟨_, .columns⟩
  obtain ⟨shared, hshared⟩ : ∃ shared, SettingOptions settings shared := by
    obtain ⟨_ | path, _ | rows⟩ := settings
    · exact ⟨_, .neither⟩
    · exact ⟨_, .rows (spellsWord_naturalText rows)⟩
    · exact ⟨_, .config (by simpa using h)⟩
    · exact ⟨_, .both (by simpa using h) (spellsWord_naturalText rows)⟩
  obtain ⟨rest, hrest⟩ := exists_written (own ++ shared)
  exact ⟨_, .mk hown hshared (List.Perm.refl ([] ++ (own ++ shared))) (by simp) .nil hrest⟩

section Lookup

variable {options options' : List (Key × String)} {key : Key} {value : String}

/-- Among different options a value is looked up exactly where it stands. -/
theorem lookup_eq_some_iff_mem
    (h : (options.map Prod.fst).Nodup) :
    options.lookup key = some value ↔ (key, value) ∈ options := by
  induction options with
  | nil =>
      simp
  | cons o options ih =>
      obtain ⟨k, v⟩ := o
      rw [List.map_cons, List.nodup_cons] at h
      rw [List.mem_cons, ← ih h.2, Prod.mk.injEq, lookup_option]
      by_cases hkey : key = k
      · subst hkey
        simp [lookup_eq_none_of_not_mem h.1, eq_comm]
      · simp [hkey]

/-- Options with distinct keys may come in any order. -/
theorem lookup_eq_of_perm
    (h : (options.map Prod.fst).Nodup)
    (hperm : options.Perm options')
    (key : Key) :
    options.lookup key = options'.lookup key := by
  have h' : (options'.map Prod.fst).Nodup := (hperm.map Prod.fst).nodup_iff.1 h
  refine Option.ext fun value => ?_
  rw [lookup_eq_some_iff_mem h, lookup_eq_some_iff_mem h', hperm.mem_iff]

end Lookup

section Options

variable {own shared : List (Key × String)} {o : Key × String}
variable {command : Command} {settings : Settings.Request}

/-- What spells a number of 32 bits is read as that number. -/
theorem SpellsWord.word?
    {text : String} {n : UInt32}
    (h : SpellsWord text n) :
    CommandLine.word? text = some n :=
  word?_eq_some_iff.2 h

theorem CommandOptions.mem_keys
    (h : CommandOptions command own)
    (ho : o ∈ own) :
    o.1 ∈ command.level.keys ∧ o.1 ∉ [Key.config, Key.rows] ∧ o.1.Accepts o.2 := by
  cases h with
  | distinct =>
      simp only [List.mem_cons, List.not_mem_nil, or_false] at ho
      obtain rfl | rfl := ho <;> simp [Command.level, Level.keys, Key.Accepts]
  | search htext =>
      simp only [List.mem_cons, List.not_mem_nil, or_false] at ho
      obtain rfl | rfl := ho <;> simp [Command.level, Level.keys, Key.Accepts, htext.word?]
  | firstPage =>
      simp only [List.mem_cons, List.not_mem_nil, or_false] at ho
      obtain rfl := ho
      simp [Command.level, Level.keys, Key.Accepts]
  | columns =>
      cases ho

theorem SettingOptions.mem_keys
    (h : SettingOptions settings shared)
    (ho : o ∈ shared) :
    o.1 ∈ [Key.config, Key.rows] ∧ o.1.Accepts o.2 := by
  cases h with
  | neither =>
      cases ho
  | config hpath =>
      simp only [List.mem_cons, List.not_mem_nil, or_false] at ho
      obtain rfl := ho
      simpa [Key.Accepts] using hpath
  | rows htext =>
      simp only [List.mem_cons, List.not_mem_nil, or_false] at ho
      obtain rfl := ho
      simp [Key.Accepts, htext.word?]
  | both hpath htext =>
      simp only [List.mem_cons, List.not_mem_nil, or_false] at ho
      obtain rfl | rfl := ho
      · simpa [Key.Accepts] using hpath
      · simp [Key.Accepts, htext.word?]

/-- No option for settings is one of a command. -/
theorem SettingOptions.lookup_eq_none
    {key : Key}
    (h : SettingOptions settings shared)
    (hkey : key ∉ [Key.config, Key.rows]) :
    shared.lookup key = none := by
  refine CommandLine.lookup_eq_none fun o ho => ?_
  rintro rfl
  exact hkey (h.mem_keys ho).1

/-- No option of a command is one for settings. -/
theorem CommandOptions.lookup_eq_none
    {key : Key}
    (h : CommandOptions command own)
    (hkey : key ∈ [Key.config, Key.rows]) :
    own.lookup key = none := by
  refine CommandLine.lookup_eq_none fun o ho => ?_
  rintro rfl
  exact (h.mem_keys ho).2.1 hkey

theorem SettingOptions.lookup_config
    (h : SettingOptions settings shared) :
    shared.lookup .config = settings.config := by
  cases h <;> simp [lookup_option]

theorem SettingOptions.lookup_rows
    (h : SettingOptions settings shared) :
    (shared.lookup .rows).map CommandLine.word? = settings.rows.map some := by
  cases h with
  | neither | config =>
      simp [lookup_option]
  | rows htext | both _ htext =>
      simp [lookup_option, htext.word?]

/-- Settings are known at every level. -/
theorem mem_keys_of_shared
    {key : Key}
    (h : key ∈ [Key.config, Key.rows])
    (level : Level) :
    key ∈ level.keys := by
  simp only [List.mem_cons, List.not_mem_nil, or_false] at h
  obtain rfl | rfl := h <;> cases level <;> decide

theorem nodup_options
    (hown : CommandOptions command own)
    (hshared : SettingOptions settings shared) :
    ((own ++ shared).map Prod.fst).Nodup := by
  cases hown <;> cases hshared <;> simp

/-- A command is made of what its options have been given, whatever settings stand beside. -/
theorem commandOf_of_options
    {g : Given}
    (hown : CommandOptions command own)
    (hcolumn : g.column = own.lookup .column)
    (hpage : g.page = (own.lookup .page).bind CommandLine.word?)
    (hfilters : g.filters = own.lookup .filters) :
    commandOf command.level g = .ok command := by
  cases hown with
  | distinct | firstPage | columns =>
      simp [commandOf, Command.level, hcolumn, hpage, hfilters, lookup_option]
  | search htext =>
      simp [commandOf, Command.level, hpage, hfilters, lookup_option, htext.word?]

end Options

section Variables

variable {env : Environment} {rows : Option UInt32}

/-- A variable gives the file of settings where no option did. -/
theorem fromVariable_config
    (h : env.get? "FMAK_CONFIG" ≠ some "")
    (g : Given) :
    fromVariable env g .config =
      .ok { g with config := g.config.or (env.get? "FMAK_CONFIG") } := by
  obtain ⟨config, rows, column, page, filters⟩ := g
  cases config with
  | some path =>
      rfl
  | none =>
      cases hpath : env.get? "FMAK_CONFIG" with
      | none =>
          simp [fromVariable, Given.has, Key.variableName?, hpath]
      | some path =>
          have hne : path ≠ "" := by
            rintro rfl
            exact h hpath
          simp [fromVariable, Given.has, Key.variableName?, Given.set, hpath, hne]

/-- A variable gives the number of rows where no option did. -/
theorem fromVariable_rows
    (h : Option.Rel SpellsWord (env.get? "FMAK_ROWS_PER_PAGE") rows)
    (g : Given) :
    fromVariable env g .rows = .ok { g with rows := g.rows.or rows } := by
  obtain ⟨config, given, column, page, filters⟩ := g
  cases given with
  | some n =>
      rfl
  | none =>
      generalize htext : env.get? "FMAK_ROWS_PER_PAGE" = text at h
      cases h with
      | none =>
          simp [fromVariable, Given.has, Key.variableName?, htext]
      | some hword =>
          simp [fromVariable, Given.has, Key.variableName?, Given.set, htext, hword.word?]

/-- Valid variables give what no option has been given. -/
theorem withVariables_eq
    (hconfig : env.get? "FMAK_CONFIG" ≠ some "")
    (hrows : Option.Rel SpellsWord (env.get? "FMAK_ROWS_PER_PAGE") rows)
    (g : Given) :
    withVariables env g =
      .ok { g with config := g.config.or (env.get? "FMAK_CONFIG"), rows := g.rows.or rows } := by
  rw [withVariables, fromVariable_config hconfig, ok_bind, fromVariable_rows hrows]

end Variables

section Parse

variable {command : Command} {settings : Settings.Request} {args : List String}

/-- The name of a command ends the first level. -/
theorem readLevel_command
    {p : Progress}
    (h : p.expectsValue = false)
    (rest : List String) :
    readLevel .top p (command.word :: rest) = .ok (p, some (command.level, rest)) := by
  unfold readLevel
  cases command with
  | distinct | search | columns =>
      rw [if_pos ⟨rfl, h, rfl⟩]
      rfl

/-- The arguments on both sides of the name of a command settle on their options. -/
theorem exists_readLevel
    (h : Spells command settings args) :
    ∃ (own shared before behind : List (Key × String)) (p q : Progress) (rest : List String),
      CommandOptions command own ∧ SettingOptions settings shared ∧
      (behind ++ before).Perm (own ++ shared) ∧ (∀ o ∈ before, o.1 ∈ [Key.config, Key.rows]) ∧
      readLevel .top .start args = .ok (p, some (command.level, rest)) ∧
      p.settle = .ok (.ofOptions before) ∧
      readLevel command.level .start rest = .ok (q, none) ∧
      q.settle = .ok (.ofOptions behind) := by
  obtain @⟨own, shared, before, behind, args, rest, hown, hshared, hperm, hbefore, hargs,
    hrest⟩ := h
  have hall : ∀ o ∈ before ++ behind, o.1 ∈ command.level.keys ∧ o.1.Accepts o.2 := by
    intro o ho
    obtain ho | ho := List.mem_append.1 (hperm.mem_iff.1 ho)
    · have hkeys := hown.mem_keys ho
      exact ⟨hkeys.1, hkeys.2.2⟩
    · have hkeys := hshared.mem_keys ho
      exact ⟨mem_keys_of_shared hkeys.1 _, hkeys.2⟩
  rw [List.forall_mem_append] at hall
  have hnodup : ((before ++ behind).map Prod.fst).Nodup :=
    (hperm.map Prod.fst).nodup_iff.2 (nodup_options hown hshared)
  rw [List.map_append, List.nodup_append] at hnodup
  have hfresh : Progress.start.expectsValue = false ∧
      Progress.start.settle = .ok (.ofOptions []) := ⟨rfl, rfl⟩
  have htop : ∀ o ∈ before, o.1 ∈ Level.top.keys := fun o ho => mem_keys_of_shared (hbefore o ho) _
  have hdistinct : (([] ++ before).map Prod.fst).Nodup := hnodup.1
  have hdistinct' : (([] ++ behind).map Prod.fst).Nodup := hnodup.2.1
  obtain ⟨p, hexpects, hp, hread⟩ := readLevel_written hargs htop (fun o ho => (hall.1 o ho).2)
    hdistinct hfresh.1 hfresh.2 (command.word :: rest)
  obtain ⟨q, -, hq, hread'⟩ := readLevel_written hrest (fun o ho => (hall.2 o ho).1)
    (fun o ho => (hall.2 o ho).2) hdistinct' hfresh.1 hfresh.2 []
  refine ⟨own, shared, before, behind, p, q, rest, hown, hshared,
    List.perm_append_comm.trans hperm, hbefore, ?_, hp, ?_, hq⟩
  · rw [hread, readLevel_command hexpects]
  · rw [List.append_nil] at hread'
    rw [hread', readLevel]

/-- What was given behind and in front of the name of a command is what was spelled. -/
theorem or_lookup_eq
    {own shared before behind : List (Key × String)}
    (hown : CommandOptions command own)
    (hshared : SettingOptions settings shared)
    (hperm : (behind ++ before).Perm (own ++ shared))
    (key : Key) :
    (behind.lookup key).or (before.lookup key) = (own.lookup key).or (shared.lookup key) := by
  have hnodup : ((behind ++ before).map Prod.fst).Nodup :=
    (hperm.map Prod.fst).nodup_iff.2 (nodup_options hown hshared)
  rw [← List.lookup_append, ← List.lookup_append, lookup_eq_of_perm hnodup hperm]

/-- A command is made of the options behind its name. -/
theorem commandOf_of_behind
    {own shared before behind : List (Key × String)} {g : Given}
    (hown : CommandOptions command own)
    (hshared : SettingOptions settings shared)
    (hperm : (behind ++ before).Perm (own ++ shared))
    (hbefore : ∀ o ∈ before, o.1 ∈ [Key.config, Key.rows])
    (hcolumn : g.column = behind.lookup .column)
    (hpage : g.page = (behind.lookup .page).bind CommandLine.word?)
    (hfilters : g.filters = behind.lookup .filters) :
    commandOf command.level g = .ok command := by
  have hlookup : ∀ key ∉ [Key.config, Key.rows], behind.lookup key = own.lookup key := by
    intro key hkey
    have hnone : before.lookup key = none := by
      refine lookup_eq_none fun o ho => ?_
      rintro rfl
      exact hkey (hbefore o ho)
    simpa [hnone, hshared.lookup_eq_none hkey] using or_lookup_eq hown hshared hperm key
  rw [hlookup _ (by decide)] at hcolumn hpage hfilters
  exact commandOf_of_options hown hcolumn hpage hfilters

/-- Of two texts the first that is there is read, if it can be read at all. -/
theorem or_bind_word?
    {a b : Option String} {n : Option UInt32}
    (h : (a.or b).map CommandLine.word? = n.map some) :
    (a.bind CommandLine.word?).or (b.bind CommandLine.word?) = n := by
  cases a <;> cases b <;> cases n <;> simp_all

/-- Every invocation is read back from the command lines that spell it; settings that these leave
open are those of the variables. -/
theorem parse_spelled
    {env : Environment} {rows : Option UInt32}
    (hconfig : env.get? "FMAK_CONFIG" ≠ some "")
    (hrows : Option.Rel SpellsWord (env.get? "FMAK_ROWS_PER_PAGE") rows)
    (h : Spells command settings args) :
    parse env args =
      .ok ⟨command, ⟨settings.config.or (env.get? "FMAK_CONFIG"), settings.rows.or rows⟩⟩ := by
  obtain ⟨own, shared, before, behind, p, q, rest, hown, hshared, hperm, hbefore, hread, hp,
    hread', hq⟩ := exists_readLevel h
  have hpath : (behind.lookup .config).or (before.lookup .config) = settings.config := by
    rw [or_lookup_eq hown hshared hperm, hown.lookup_eq_none (by decide), Option.none_or,
      hshared.lookup_config]
  have hcount : ((behind.lookup .rows).bind CommandLine.word?).or
      ((before.lookup .rows).bind CommandLine.word?) = settings.rows := by
    refine or_bind_word? ?_
    rw [or_lookup_eq hown hshared hperm, hown.lookup_eq_none (by decide), Option.none_or,
      hshared.lookup_rows]
  rw [parse, hread, ok_bind]
  simp only [hread', hq, hp, ok_bind, withVariables_eq hconfig hrows]
  -- The variables come in at the outer level, behind the options of both levels.
  rw [commandOf_of_behind hown hshared hperm hbefore rfl rfl rfl, ok_bind, ← Option.or_assoc,
    ← Option.or_assoc]
  simp only [Given.ofOptions, hpath, hcount]
  rfl

/-- A path named as a command stands before the name of the command, a count with a sign and zeros
behind it, and both beat the variables. -/
theorem parse_spelled_search :
    parse ⟨[("FMAK_CONFIG", "other.json"), ("FMAK_ROWS_PER_PAGE", "9")]⟩
        ["--config", "distinct", "search", "-f", "search", "--rows-per-page=+050", "--page=7"] =
      .ok ⟨.search 7 "search", ⟨some "distinct", some 50⟩⟩ := by
  have hwords : SpellsWord "9" 9 ∧ SpellsWord "+050" 50 ∧ SpellsWord "7" 7 :=
    ⟨word?_eq_some_iff.1 (by decide +kernel), word?_eq_some_iff.1 (by decide +kernel),
      word?_eq_some_iff.1 (by decide +kernel)⟩
  have hbefore : Written [(.config, "distinct")] ["--config", "distinct"] :=
    .cons (.long (by decide)) .nil
  have hletter : Key.filters.letter? = some 'f' := rfl
  have hbehind : Written [(.filters, "search"), (.rows, "+050"), (.page, "7")]
      ["-f", "search", "--rows-per-page=+050", "--page=7"] :=
    .cons (.short hletter (by decide)) (.cons .joined (.cons .joined .nil))
  have hrows : Option.Rel SpellsWord (Environment.get?
      ⟨[("FMAK_CONFIG", "other.json"), ("FMAK_ROWS_PER_PAGE", "9")]⟩ "FMAK_ROWS_PER_PAGE")
      (some 9) := by
    have hvariable : Environment.get?
        ⟨[("FMAK_CONFIG", "other.json"), ("FMAK_ROWS_PER_PAGE", "9")]⟩ "FMAK_ROWS_PER_PAGE" =
        some "9" := by
      decide +kernel
    rw [hvariable]
    exact .some hwords.1
  exact parse_spelled (by decide +kernel) hrows
    (.mk (.search hwords.2.2) (.both (by decide) hwords.2.1) (by decide) (by simp) hbefore hbehind)

end Parse

end CommandLine
end FilterQuery
