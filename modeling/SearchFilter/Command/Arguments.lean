import SearchFilter.Number.Read
import SearchFilter.Value.Order

/-!
# Command-line arguments

A command line has two levels: the arguments before the name of a command and those after it.  Each
level has options of its own (`OptionSpec`), and `readArguments` goes through the arguments of one
level and collects what they set (`Given`).

An option is written `--name` or, where it has a letter, `-n`; letters may be joined in one argument.
A value follows in the next argument, after an equals sign, or directly after the letter.  Every option
but a repeatable one may be given once on each level.  An argument that does not begin with a dash,
and every argument after `--`, stands for itself.

A value given as an argument of its own is taken up only with the next argument, so that a fault in
the form of that one is found first.
-/

namespace SearchFilter.Command

/-- When output is colored. -/
inductive ColorMode where
  | auto
  | always
  | never
  deriving DecidableEq

/-- How match reports are written. -/
inductive ReportFormat where
  | text
  | json
  deriving DecidableEq

/-- Why no command is carried out. -/
inductive Halt where
  | unknownArgument
  | missingArgument
  | repeatedArgument
  | invalidValue
  | malformedValue
  | surplusValue
  | unknownCommand
  | missingCommand
  /-- Nothing at all is given. -/
  | nothingGiven
  /-- Help is asked for. -/
  | help
  /-- The version is asked for. -/
  | version
  deriving DecidableEq

/-- What the arguments of one level set. -/
structure Given where
  config : Option Text := none
  color : Option ColorMode := none
  verbose : Nat := 0
  quiet : Bool := false
  pretty : Bool := false
  indent : Option Nat := none
  indentChar : Option Char := none
  simplify : Bool := false
  diff : Bool := false
  records : Option Text := none
  format : Option ReportFormat := none
  ordering : Option OrderPolicy := none
  /-- The argument that stands for itself. -/
  operand : Option Text := none
  deriving DecidableEq

/-- What an option does. -/
inductive Effect where
  /-- Sets something that is not set yet. -/
  | switch (isSet : Given → Bool) (set : Given → Given)
  /-- Counts how often it is given. -/
  | count (set : Given → Given)
  /-- Takes a value. -/
  | value (isSet : Given → Bool) (set : Text → Given → Except Halt Given)
  /-- Halts. -/
  | halt (why : Halt)

structure OptionSpec where
  name : Text
  letter : Option Char
  effect : Effect

structure Level where
  options : List OptionSpec
  /-- The commands that may follow. -/
  commands : List Text
  /-- Whether an argument may stand for itself. -/
  takesOperand : Bool

/-! ### Values of options -/

/-- The greatest number that an option takes. -/
def maxNumber : Nat := UInt64.size - 1

/-- A natural number, with or without a plus sign. -/
def number (s : Text) : Except Halt Nat :=
  let ds := match s with
    | '+' :: r => r
    | s => s
  if !ds.isEmpty && ds.all Number.isDigit && Number.ofDigits ds ≤ maxNumber then
    .ok (Number.ofDigits ds)
  else .error .malformedValue

def character : Text → Except Halt Char
  | [c] => .ok c
  | _ => .error .malformedValue

def path (s : Text) : Except Halt Text :=
  if s.isEmpty then .error .invalidValue else .ok s

/-- One of the named values. -/
def choice {α : Type} (choices : List (Text × α)) (s : Text) : Except Halt α :=
  match choices.lookup s with
  | some a => .ok a
  | none => .error .invalidValue

/-- An option that takes a value; `read` reads it and `set` stores it. -/
def OptionSpec.taking {α : Type} (name : Text) (letter : Option Char) (isSet : Given → Bool)
    (read : Text → Except Halt α) (set : α → Given → Given) : OptionSpec :=
  ⟨name, letter, .value isSet fun s g => (read s).map (set · g)⟩

/-! ### Reading -/

/-- How far the arguments of a level have been read. -/
structure Progress where
  given : Given := {}
  /-- An option that waits to be carried out, and its value if that has come. -/
  pending : Option ((Given → Bool) × (Text → Given → Except Halt Given) × Option Text) := none
  /-- Whether all further arguments stand for themselves. -/
  trailing : Bool := false

namespace Progress

/-- Sets the value of an option that is not set yet. -/
def take (p : Progress) (isSet : Given → Bool) (set : Text → Given → Except Halt Given)
    (s : Text) : Except Halt Progress :=
  if isSet p.given then .error .repeatedArgument
  else (set s p.given).map fun given => { p with given }

/-- Carries the waiting option out. -/
def settle (p : Progress) : Except Halt Progress :=
  match p.pending with
  | none => .ok p
  | some (_, _, none) => .error .invalidValue
  | some (isSet, set, some s) => { p with pending := none }.take isSet set s

/-- Whether an option waits for its value. -/
def isWaiting (p : Progress) : Bool :=
  match p.pending with
  | some (_, _, none) => true
  | _ => false

/-- Carries out an option that comes without a value. -/
def apply (p : Progress) (effect : Effect) : Except Halt Progress := do
  let p ← p.settle
  match effect with
  | .switch isSet set =>
    if isSet p.given then throw .repeatedArgument
    return { p with given := set p.given }
  | .count set => return { p with given := set p.given }
  | .value isSet set => return { p with pending := some (isSet, set, none) }
  | .halt why => throw why

/-- Carries out an option that comes with a value. -/
def applyTo (p : Progress) (effect : Effect) (s : Text) : Except Halt Progress :=
  match effect with
  | .value isSet set => do (← p.settle).take isSet set s
  | _ => .error .surplusValue

/-- Reads an argument that stands for itself. -/
def operand (level : Level) (p : Progress) (s : Text) : Except Halt Progress :=
  if level.takesOperand && p.given.operand.isNone then do
    let p ← p.settle
    return { p with given := { p.given with operand := some s } }
  else if level.takesOperand || p.trailing && level.commands.contains s then
    .error .unknownArgument
  else .error .unknownCommand

/-- Reads an argument that names an option: the name, and the value after an equals sign. -/
def long (level : Level) (p : Progress) (s : Text) : Except Halt Progress :=
  let name := s.takeWhile (· != '=')
  match level.options.find? (·.name == name), s.dropWhile (· != '=') with
  | none, _ => .error .unknownArgument
  | some o, [] => p.apply o.effect
  | some o, _ :: value => p.applyTo o.effect value

/-- Reads the letters of options; the first one that takes a value takes the rest as its value. -/
def letters (level : Level) (p : Progress) : Text → Except Halt Progress
  | [] => .ok p
  | c :: s =>
    match level.options.find? (·.letter == some c) with
    | none => .error .unknownArgument
    | some o =>
      match o.effect, s with
      | .value .., _ :: _ => p.applyTo o.effect ((Text.dropPrefix? ['='] s).getD s)
      | effect, s => do letters level (← p.apply effect) s

/-- Reads one argument other than the name of a command. -/
def argument (level : Level) (p : Progress) (s : Text) : Except Halt Progress :=
  if p.trailing then p.operand level s
  else match s with
    | ['-', '-'] => .ok { p with trailing := true }
    | '-' :: '-' :: s => p.long level s
    | '-' :: c :: s => p.letters level (c :: s)
    | s =>
      match p.pending with
      | some (isSet, set, none) => .ok { p with pending := some (isSet, set, some s) }
      | _ => p.operand level s

end Progress

/-- Reads the arguments of a level: as far as they go, or up to the name of a command, which is
returned with the arguments after it. -/
def readArguments (level : Level) :
    Progress → List Text → Except Halt (Progress × Option (Text × List Text))
  | p, [] => .ok (p, none)
  | p, s :: rest =>
    if !p.trailing && !p.isWaiting && level.commands.contains s then .ok (p, some (s, rest))
    else match p.argument level s with
      | .error halt => .error halt
      | .ok p => readArguments level p rest

end SearchFilter.Command
