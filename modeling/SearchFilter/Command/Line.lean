import SearchFilter.Command.Arguments

/-!
# Command lines

A command line names one command with its operand and options.  The options that every command
understands may stand before its name or after it; what stands after it counts, and a configuration
file named nowhere is taken from the environment.
-/

namespace SearchFilter.Command

inductive Task where
  /-- Parse a filter and print it. -/
  | print (filter : Text) (pretty : Bool) (indent : Option Nat) (indentChar : Option Char)
      (simplify : Bool)
  /-- Simplify a filter and print it, or the difference that makes. -/
  | simplify (filter : Text) (diff : Bool)
  /-- Evaluate a filter against the records of a file. -/
  | select (filter : Text) (records : Text) (format : ReportFormat)
      (ordering : Option OrderPolicy)
  /-- Escape a text. -/
  | escape (text : Text)
  /-- Reverse `escape`. -/
  | unescape (text : Text)
  deriving DecidableEq

structure Line where
  config : Option Text
  color : ColorMode
  verbose : Nat
  quiet : Bool
  task : Task
  deriving DecidableEq

/-- Whether diagnostics are asked for. -/
def Line.isVerbose (line : Line) : Bool :=
  0 < line.verbose && !line.quiet

/-! ### The levels -/

def policyChoices : List (Text × OrderPolicy) :=
  [("natural".toList, .natural), ("lexical".toList, .lexical)]

def helpOption : OptionSpec := ⟨"help".toList, some 'h', .halt .help⟩

/-- The options that may stand on either level. -/
def sharedOptions : List OptionSpec := [
  .taking "config".toList none (·.config.isSome) path fun s g => { g with config := some s },
  .taking "color".toList none (·.color.isSome)
    (choice [("auto".toList, .auto), ("always".toList, .always), ("never".toList, .never)])
    fun c g => { g with color := some c },
  ⟨"verbose".toList, some 'v', .count fun g => { g with verbose := min (g.verbose + 1) 255 }⟩,
  ⟨"quiet".toList, some 'q', .switch (·.quiet) fun g => { g with quiet := true }⟩,
  helpOption]

def commandNames : List Text :=
  ["parse", "simplify", "match", "escape", "unescape"].map String.toList

/-- What stands before the name of a command. -/
def outerLevel : Level where
  options := sharedOptions ++ [⟨"version".toList, some 'V', .halt .version⟩]
  commands := commandNames ++ ["help".toList]
  takesOperand := false

/-- The options of a command beside the shared ones. -/
def ownOptions (name : Text) : List OptionSpec :=
  if name = "parse".toList then [
    ⟨"pretty".toList, some 'p', .switch (·.pretty) fun g => { g with pretty := true }⟩,
    .taking "indent".toList none (·.indent.isSome) number fun n g => { g with indent := some n },
    .taking "indent-char".toList none (·.indentChar.isSome) character
      fun c g => { g with indentChar := some c },
    ⟨"simplify".toList, some 's', .switch (·.simplify) fun g => { g with simplify := true }⟩]
  else if name = "simplify".toList then [
    ⟨"diff".toList, some 'd', .switch (·.diff) fun g => { g with diff := true }⟩]
  else if name = "match".toList then [
    .taking "records".toList (some 'r') (·.records.isSome) path
      fun s g => { g with records := some s },
    .taking "format".toList (some 'F') (·.format.isSome)
      (choice [("text".toList, .text), ("json".toList, .json)])
      fun f g => { g with format := some f },
    .taking "ordering".toList none (·.ordering.isSome) (choice policyChoices)
      fun o g => { g with ordering := some o }]
  else []

/-- What stands after the name of a command. -/
def innerLevel (name : Text) : Level where
  options := ownOptions name ++ sharedOptions
  commands := []
  takesOperand := true

/-! ### Reading -/

/-- The configuration file of the environment, needed where `given` names none. -/
def environmentConfig (given : Given) (environment : Option Text) : Except Halt (Option Text) :=
  match given.config, environment with
  | none, some s => (path s).map some
  | _, _ => .ok none

/-- The task of a command from what its arguments set. -/
def Task.ofGiven (name : Text) (g : Given) : Except Halt Task :=
  match g.operand with
  | none => .error .missingArgument
  | some s =>
    if name = "parse".toList then .ok (.print s g.pretty g.indent g.indentChar g.simplify)
    else if name = "simplify".toList then .ok (.simplify s g.diff)
    else if name = "match".toList then
      match g.records with
      | none => .error .missingArgument
      | some records => .ok (.select s records (g.format.getD .text) g.ordering)
    else if name = "escape".toList then .ok (.escape s)
    else .ok (.unescape s)

/-- Why help on the named commands ends the reading. -/
def helpOn : List Text → Halt
  | [] => .help
  | [name] => if outerLevel.commands.contains name then .help else .unknownCommand
  | _ => .unknownCommand

/-- The command line that the arguments are; `environment` names the configuration file of the
environment. -/
def Line.ofArguments (environment : Option Text) (arguments : List Text) : Except Halt Line := do
  let (outer, rest) ← readArguments outerLevel {} arguments
  match rest with
  | none =>
    let outer ← outer.settle
    let config ← environmentConfig outer.given environment
    throw (if outer.given = {} ∧ config = none then .nothingGiven else .missingCommand)
  | some (name, rest) =>
    if name = "help".toList then throw (helpOn rest)
    let (inner, _) ← readArguments (innerLevel name) {} rest
    let inner := (← inner.settle).given
    let innerConfig ← environmentConfig inner environment
    let task ← Task.ofGiven name inner
    let outer := (← outer.settle).given
    let outerConfig ← environmentConfig outer environment
    return {
      config := inner.config <|> outer.config <|> innerConfig <|> outerConfig
      color := ((inner.color <|> outer.color).getD .auto)
      verbose := if inner.verbose = 0 then outer.verbose else inner.verbose
      quiet := inner.quiet || outer.quiet
      task }

end SearchFilter.Command
