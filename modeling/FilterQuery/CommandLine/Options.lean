import FilterQuery.Decimal.Literal
import FilterQuery.Settings.Layers

/-!
# Commands and options

What can be asked of the program, the options in which it is asked, and the values they take.

**Levels.** Options stand at the top level, before the name of a command, or at the level of the
command, behind it.  The options for settings are known at every level.
-/

namespace FilterQuery

/-- What the program is asked to do. -/
inductive Command where
  | distinct (column filters : String)
  | search (page : UInt32) (filters : String)
  | columns
deriving DecidableEq

/-- A command with what was said about settings. -/
structure Invocation where
  command : Command
  settings : Settings.Request
deriving DecidableEq

/-- Why a command line does not give an invocation. -/
inductive UsageError where
  | helpAsked
  | versionAsked
  | helpForLackOfCommand
  | missingCommand
  | unknownCommand
  | unknownOption
  | surplusValue
  | missingValue
  | badValue
  | repeatedOption
  | missingOption
deriving DecidableEq

namespace CommandLine

/-- An option that takes a value. -/
inductive Key where
  | config
  | rows
  | column
  | page
  | filters
deriving DecidableEq

/-- An option that takes none. -/
inductive Flag where
  | help
  | version
deriving DecidableEq

/-- Where options stand: before the name of a command, or behind it. -/
inductive Level where
  | top
  | distinct
  | search
  | columns
deriving DecidableEq

namespace Key

/-- The long name of an option. -/
def name : Key → String
  | .config => "config"
  | .rows => "rows-per-page"
  | .column => "column"
  | .page => "page"
  | .filters => "filters"

/-- The short name of an option. -/
def letter? : Key → Option Char
  | .config => some 'c'
  | .filters => some 'f'
  | _ => none

/-- The variable that gives the value of an option that is not there. -/
def variableName? : Key → Option String
  | .config => some "FMAK_CONFIG"
  | .rows => some "FMAK_ROWS_PER_PAGE"
  | _ => none

end Key

namespace Flag

/-- The long name of a flag. -/
def name : Flag → String
  | .help => "help"
  | .version => "version"

/-- The short name of a flag. -/
def letter : Flag → Char
  | .help => 'h'
  | .version => 'V'

/-- What a flag asks for. -/
def effect : Flag → UsageError
  | .help => .helpAsked
  | .version => .versionAsked

end Flag

namespace Level

/-- The level of the name of a command. -/
def ofCommandName? (name : String) : Option Level :=
  match name with
  | "distinct" => some .distinct
  | "search" => some .search
  | "columns" => some .columns
  | _ => none

/-- The options of a level that take a value. -/
def keys : Level → List Key
  | .top => [.config, .rows]
  | .distinct => [.column, .filters, .config, .rows]
  | .search => [.page, .filters, .config, .rows]
  | .columns => [.config, .rows]

/-- The options of a level that take none. -/
def flags : Level → List Flag
  | .top => [.help, .version]
  | _ => [.help]

/-- The option of a long name at a level. -/
def key? (level : Level) (name : String) : Option Key :=
  level.keys.find? fun k => k.name = name

/-- The option of a short name at a level. -/
def keyOfLetter? (level : Level) (letter : Char) : Option Key :=
  level.keys.find? fun k => k.letter? = some letter

/-- The flag of a long name at a level. -/
def flag? (level : Level) (name : String) : Option Flag :=
  level.flags.find? fun f => f.name = name

/-- The flag of a short name at a level. -/
def flagOfLetter? (level : Level) (letter : Char) : Option Flag :=
  level.flags.find? fun f => f.letter = letter

end Level

/-- The number of 32 bits that a text spells. -/
def word? (s : String) : Option UInt32 :=
  match Decimal.integer? s.toList with
  | some n => if 0 ≤ n ∧ n < UInt32.size then some (UInt32.ofNat n.toNat) else none
  | none => none

/-- The values that options have been given. -/
structure Given where
  config : Option String
  rows : Option UInt32
  column : Option String
  page : Option UInt32
  filters : Option String
deriving DecidableEq

namespace Given

/-- No values yet. -/
def none : Given :=
  ⟨.none, .none, .none, .none, .none⟩

/-- Whether an option has been given a value. -/
def has (g : Given) : Key → Bool
  | .config => g.config.isSome
  | .rows => g.rows.isSome
  | .column => g.column.isSome
  | .page => g.page.isSome
  | .filters => g.filters.isSome

/-- Gives an option a value.  A path must not be empty, and a number must be one of 32 bits. -/
def set (g : Given) (key : Key) (value : String) : Except UsageError Given :=
  match key with
  | .config =>
      if value = "" then .error .missingValue else .ok { g with config := some value }
  | .rows =>
      match word? value with
      | some n => .ok { g with rows := some n }
      | .none => .error .badValue
  | .column => .ok { g with column := some value }
  | .page =>
      match word? value with
      | some n => .ok { g with page := some n }
      | .none => .error .badValue
  | .filters => .ok { g with filters := some value }

end Given
end CommandLine
end FilterQuery
