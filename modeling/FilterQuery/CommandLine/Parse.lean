import FilterQuery.CommandLine.Options
import FilterQuery.Environment.Basic

/-!
# Command lines

Arguments are read from left to right, first those of the top level, then, behind the name of a
command, those of the command.

**Spelling.** A value stands in the argument of its option (`--name=value`, `-cvalue`, `-c=value`)
or is the next argument, unless that looks like an option.  Behind `--` nothing is expected.

**Waiting.** An option with its value in the next argument is waiting until another option, or the
end of its level, settles it; only then is its value checked.

**Result.** At each level an option may be given once.  What the level of the command says counts
before what the top level says, and both before the variables, which must be valid wherever the
option is not given.
-/

namespace FilterQuery
namespace CommandLine

/-- What has been read of a level: the options that are settled, and the one that is waiting, with
its value if that has come. -/
structure Progress where
  given : Given
  waiting : Option (Key × Option String)

namespace Progress

/-- Nothing read yet. -/
def start : Progress :=
  ⟨.none, none⟩

/-- Whether the next argument is the value of an option. -/
def expectsValue (p : Progress) : Bool :=
  match p.waiting with
  | some (_, none) => true
  | _ => false

/-- Gives an option its only value at a level. -/
def give (g : Given) (key : Key) (value : String) : Except UsageError Given :=
  if g.has key then .error .repeatedOption else g.set key value

/-- The options of a level once none is waiting. -/
def settle (p : Progress) : Except UsageError Given :=
  match p.waiting with
  | none => .ok p.given
  | some (_, none) => .error .missingValue
  | some (key, some value) => give p.given key value

/-- Takes an option, with its value or waiting for it. -/
def take (p : Progress) (key : Key) (value : Option String) : Except UsageError Progress := do
  let g ← p.settle
  match value with
  | some value => return ⟨← give g key value, none⟩
  | none => return ⟨g, some (key, none)⟩

/-- The end of the reading at a flag: what it asks for, unless the waiting option is wrong. -/
def stopAt (p : Progress) (flag : Flag) : UsageError :=
  match p.settle with
  | .ok _ => flag.effect
  | .error e => e

end Progress

/-- The form of an argument. -/
inductive Form where
  /-- Two dashes and nothing else. -/
  | separator
  /-- Two dashes, a name, and what stands behind the first equals sign. -/
  | long (name : String) (value : Option String)
  /-- A dash, a letter, and what stands behind it. -/
  | short (letter : Char) (rest : List Char)
  /-- Anything else. -/
  | plain

/-- The form of an argument. -/
def Form.ofArgument (arg : String) : Form :=
  match arg.toList with
  | ['-', '-'] => .separator
  | '-' :: '-' :: s =>
      let name := s.takeWhile (· ≠ '=')
      let value :=
        match s.dropWhile (· ≠ '=') with
        | _ :: v => some (String.ofList v)
        | [] => none
      .long (String.ofList name) value
  | '-' :: letter :: rest => .short letter rest
  | _ => .plain

/-- The value that stands behind the letter of an option: an equals sign before it is no part of
it. -/
def attachedValue : List Char → Option String
  | [] => none
  | '=' :: v => some (String.ofList v)
  | v => some (String.ofList v)

/-- Whether an argument names a command or asks for help on one. -/
def isCommandName (arg : String) : Bool :=
  arg = "help" || (Level.ofCommandName? arg).isSome

/-- The error of an argument that is neither an option nor the value of one. -/
def stray (level : Level) (behindSeparator : Bool) (arg : String) : UsageError :=
  if level = .top ∧ ¬ (behindSeparator ∧ isCommandName arg) then .unknownCommand
  else .unknownOption

/-- The answer to the words behind `help`: each must name a command of the one before. -/
def helpOn : List String → UsageError
  | [] => .helpAsked
  | [name] => if isCommandName name then .helpAsked else .unknownCommand
  | _ => .unknownCommand

/-- Reads the arguments of a level; at the top level, up to the name of a command. -/
def readLevel (level : Level) (p : Progress) :
    List String → Except UsageError (Progress × Option (Level × List String))
  | [] => .ok (p, none)
  | arg :: rest =>
      if level = .top ∧ p.expectsValue = false ∧ isCommandName arg then
        match Level.ofCommandName? arg with
        | some command => .ok (p, some (command, rest))
        | none => .error (helpOn rest)
      else
        match Form.ofArgument arg with
        | .separator =>
            match rest with
            | [] => .ok (p, none)
            | next :: _ => .error (stray level true next)
        | .long name value =>
            match level.key? name, level.flag? name, value with
            | some key, _, value =>
                match p.take key value with
                | .ok p => readLevel level p rest
                | .error e => .error e
            | none, some flag, none => .error (p.stopAt flag)
            | none, some _, some _ => .error .surplusValue
            | none, none, _ => .error .unknownOption
        | .short letter tail =>
            match level.keyOfLetter? letter, level.flagOfLetter? letter with
            | some key, _ =>
                match p.take key (attachedValue tail) with
                | .ok p => readLevel level p rest
                | .error e => .error e
            | none, some flag => .error (p.stopAt flag)
            | none, none => .error .unknownOption
        | .plain =>
            match p.waiting with
            | some (key, none) => readLevel level ⟨p.given, some (key, some arg)⟩ rest
            | _ => .error (stray level false arg)

/-- Gives an option the value of its variable, if it has none of its own. -/
def fromVariable (env : Environment) (g : Given) (key : Key) : Except UsageError Given :=
  if g.has key then .ok g
  else
    match key.variableName?.bind env.get? with
    | some value => g.set key value
    | none => .ok g

/-- The options of a level with those that variables add. -/
def withVariables (env : Environment) (g : Given) : Except UsageError Given := do
  let g ← fromVariable env g .config
  fromVariable env g .rows

/-- The command of a level with its options. -/
def commandOf (level : Level) (g : Given) : Except UsageError Command :=
  match level with
  | .top => .error .missingCommand
  | .distinct =>
      match g.column, g.filters with
      | some column, some filters => .ok (.distinct column filters)
      | _, _ => .error .missingOption
  | .search =>
      match g.filters with
      | some filters => .ok (.search (g.page.getD 0) filters)
      | none => .error .missingOption
  | .columns => .ok .columns

/-- The invocation that arguments and variables give. -/
def parse (env : Environment) (args : List String) : Except UsageError Invocation := do
  let (outer, command) ← readLevel .top .start args
  match command with
  | none => do
      let g ← withVariables env (← outer.settle)
      throw (if g = .none then .helpForLackOfCommand else .missingCommand)
  | some (level, rest) => do
      let (inner, _) ← readLevel level .start rest
      let own ← inner.settle
      let command ← commandOf level (← withVariables env own)
      let above ← withVariables env (← outer.settle)
      return ⟨command, ⟨own.config.or above.config, own.rows.or above.rows⟩⟩

end CommandLine
end FilterQuery
