import SearchFilter.Command.Line
import SearchFilter.Config
import SearchFilter.Diff.Text
import SearchFilter.Files
import SearchFilter.Filter.Parse
import SearchFilter.Filter.Simplify
import SearchFilter.Report.Selection

/-!
# Running commands

A run takes a command line and the files around it, and answers with an exit code and what goes to
standard output and standard error (`Outcome`).  A failed run writes nothing to standard output; its
error is a chain of causes, each explained by the next.
-/

namespace SearchFilter

/-! ### Reading files -/

/-- A path in single quotes. -/
def quotedPath (path : Text) : Text :=
  '\'' :: path ++ ['\'']

/-- Why a configuration cannot be loaded. -/
inductive ConfigError where
  | unreadable (path : Text) (fault : ReadFault)
  | malformed (path : Text)

/-- What is said of a malformed configuration. -/
def ConfigError.malformedReason : Text := "the settings are malformed".toList

def ConfigError.message : ConfigError → Text
  | unreadable path fault =>
    "Failed to read config file ".toList ++ quotedPath path ++ ": ".toList ++ fault.message
  | malformed path =>
    "Failed to parse config file ".toList ++ quotedPath path ++ ": ".toList ++ malformedReason

/-- The wording of an error and of its cause. -/
def ConfigError.chain (e : ConfigError) : List Text :=
  match e with
  | unreadable _ fault => [e.message, fault.message]
  | malformed _ => [e.message, malformedReason]

/-- The configuration in a file, or the default one. -/
def Config.load (files : Files) : Option Text → Except ConfigError Config
  | none => .ok {}
  | some path =>
    match files.read path with
    | .error fault => .error (.unreadable path fault)
    | .ok s =>
      match Config.parse s with
      | none => .error (.malformed path)
      | some config => .ok config

/-- Why records cannot be loaded. -/
inductive LoadError where
  | unreadable (path : Text) (fault : ReadFault)
  | malformed (path : Text)
  | invalid (path : Text) (index : Nat) (fault : RecordFault)

/-- What is said of malformed records. -/
def LoadError.malformedReason : Text := "the text is malformed".toList

def LoadError.message : LoadError → Text
  | unreadable path fault =>
    "Failed to read records file ".toList ++ quotedPath path ++ ": ".toList ++ fault.message
  | malformed path =>
    "Failed to parse records file ".toList ++ quotedPath path ++ ": ".toList ++ malformedReason
  | invalid path index fault =>
    "Record #".toList ++ Text.ofNat index ++ " in ".toList ++ quotedPath path
      ++ " is not an attribute map: ".toList ++ fault.message

/-- The wording of an error and of its cause. -/
def LoadError.chain (e : LoadError) : List Text :=
  match e with
  | unreadable _ fault => [e.message, fault.message]
  | malformed _ => [e.message]
  | invalid _ _ fault => [e.message, fault.message]

/-- The records in a file. -/
def Entry.loadAll (files : Files) (path : Text) : Except LoadError (List Entry) :=
  match files.read path with
  | .error fault => .error (.unreadable path fault)
  | .ok s =>
    match Entry.parseAll s with
    | .ok entries => .ok entries
    | .error .malformed => .error (.malformed path)
    | .error (.invalid index fault) => .error (.invalid path index fault)

namespace Command

/-! ### Outcomes -/

/-- What a run leaves behind. -/
structure Outcome where
  exitCode : Nat
  output : Text
  errors : Text
  deriving DecidableEq

def newline (s : Text) : Text :=
  s ++ ['\n']

/-- What a run writes if it does not fail: to standard output, and to standard error. -/
structure Written where
  output : Text
  errors : Text

/-- A run fails with a chain of causes after some diagnostics. -/
abbrev Result := Except (Text × List Text) Written

/-- The outcome of a result. -/
def Result.outcome : Result → Outcome
  | .ok w => ⟨0, w.output, w.errors⟩
  | .error (diagnostics, chain) =>
    ⟨1, [], diagnostics ++ newline ("Error: ".toList ++ Json.separated ": ".toList chain)⟩

/-! ### Diagnostics -/

/-- The name of a color mode in diagnostics. -/
def ColorMode.name : ColorMode → Text
  | auto => "Auto".toList
  | always => "Always".toList
  | never => "Never".toList

/-- The name of a policy in diagnostics. -/
def policyName : OrderPolicy → Text
  | .natural => "Natural".toList
  | .lexical => "Lexical".toList

/-- The configuration as diagnostics show it. -/
def shownConfig (c : Config) : Text :=
  "FilterConfig \x7b format: FormatRules \x7b pretty: ".toList
    ++ (if c.printing.pretty then "true" else "false").toList
    ++ ", indent_width: ".toList ++ Text.ofNat c.printing.indentWidth
    ++ ", indent_char: ".toList ++ Text.quotedSingle c.printing.indentChar
    ++ " \x7d, matching: MatchRules \x7b ordering: ".toList ++ policyName c.ordering
    ++ " \x7d \x7d".toList

/-- The diagnostics of a command line and its configuration. -/
def Line.diagnostics (line : Line) (config : Config) : Text :=
  newline ("Verbosity level: ".toList ++ Text.ofNat line.verbose)
    ++ newline ("Color mode: ".toList ++ line.color.name)
    ++ newline ("Config file: ".toList ++ line.config.getD "<defaults>".toList)
    ++ if 1 < line.verbose then newline ("Config: ".toList ++ shownConfig config) else []

/-! ### Commands -/

/-- The filter of a command line, or the chain of causes why there is none. -/
def readFilter (s : Text) : Except (List Text) Filter :=
  match Filter.parse s with
  | .ok f => .ok f
  | .error e => .error [ParseError.heading ++ s, e.message]

/-- The layout for printing a filter: that of the configuration, spread over several lines if that is
asked for, with the width and the character of the options. -/
def printLayout (rules : PrintRules) (pretty : Bool) (indent : Option Nat)
    (indentChar : Option Char) : Layout :=
  let layout := rules.toLayout
  let layout := if pretty && layout.isCompact then rules.spread else layout
  ⟨indent.getD layout.width, indentChar.getD layout.fill⟩

/-- The difference that simplification makes to a filter. -/
def simplificationDiff (rules : PrintRules) (color : Bool) (f : Filter) : Text :=
  Diff.ofTexts color (f.layOut rules.spread 0) (f.simplify.layOut rules.spread 0)

/-- What is said where no record is selected. -/
def noMatch : Text := "No records match the filter".toList

/-- What a task writes, or the chain of causes why it fails. -/
def Task.run (task : Task) (files : Files) (config : Config) (color verbose quiet : Bool) :
    Except (List Text) Written :=
  match task with
  | .print filter pretty indent indentChar simplified => do
    let f ← readFilter filter
    let f := if simplified then f.simplify else f
    return ⟨newline (f.layOut (printLayout config.printing pretty indent indentChar) 0), []⟩
  | .simplify filter diff => do
    let f ← readFilter filter
    let note :=
      if verbose && f.simplify == f then newline "Filter is already simplified".toList else []
    let output :=
      if diff then simplificationDiff config.printing color f
      else newline (f.simplify.layOut config.printing.toLayout 0)
    return ⟨output, note⟩
  | .select filter path format ordering => do
    let f ← readFilter filter
    let entries ← (Entry.loadAll files path).mapError LoadError.chain
    let policy := ordering.getD config.ordering
    let notes :=
      if verbose then
        newline ("Filter: ".toList ++ f.text)
          ++ newline ("Loaded ".toList ++ Text.ofNat entries.length ++ " records from ".toList
            ++ path)
          ++ newline ("Ordering: ".toList ++ policyName policy)
      else []
    let selection := Selection.of f entries policy
    let output := match format with
      | .text => selection.text color entries
      | .json => newline selection.json
    let warning :=
      if selection.indices.isEmpty && !quiet then newline (Color.yellow.paint color noMatch) else []
    return ⟨output, notes ++ warning⟩
  | .escape s => .ok ⟨newline (SearchFilter.escape s), []⟩
  | .unescape s => .ok ⟨newline (SearchFilter.unescape s), []⟩

/-- Whether output is colored; `terminal` says whether it goes to a terminal. -/
def ColorMode.isOn (terminal : Bool) : ColorMode → Bool
  | auto => terminal
  | always => true
  | never => false

def Line.result (line : Line) (files : Files) (terminal : Bool) : Result :=
  match Config.load files line.config with
  | .error e => .error ([], "Failed to load config".toList :: e.chain)
  | .ok config =>
    let diagnostics := if line.isVerbose then line.diagnostics config else []
    match line.task.run files config (line.color.isOn terminal) line.isVerbose line.quiet with
    | .error chain => .error (diagnostics, chain)
    | .ok w => .ok { w with errors := diagnostics ++ w.errors }

def Line.run (line : Line) (files : Files) (terminal : Bool) : Outcome :=
  (line.result files terminal).outcome

/-! ### Where no command is carried out -/

/-- The name and the version of the program. -/
def versionText : Text := "ldap-filter 0.2.1".toList

/-- How the program is used. -/
def usageText : Text :=
  ("Build, check and evaluate LDAP search filters\n\n" ++
    "Usage: ldap-filter [OPTIONS] <COMMAND>\n\n" ++
    "Commands:\n" ++
    "  parse <FILTER> [-p] [--indent N] [--indent-char C] [-s]\n" ++
    "  simplify <FILTER> [-d]\n" ++
    "  match <FILTER> -r FILE [-F text|json] [--ordering natural|lexical]\n" ++
    "  escape <TEXT>\n" ++
    "  unescape <TEXT>\n\n" ++
    "Options:\n" ++
    "  --config FILE   settings in TOML\n" ++
    "  --color WHEN    auto, always or never\n" ++
    "  -v, --verbose   print diagnostics\n" ++
    "  -q, --quiet     suppress diagnostics\n" ++
    "  -h, --help      print this help\n" ++
    "  -V, --version   print the version\n").toList

/-- What is said of a command line with a fault. -/
def Halt.message : Halt → Text
  | unknownArgument => "unexpected argument".toList
  | missingArgument => "a required argument is missing".toList
  | repeatedArgument => "an argument cannot be used multiple times".toList
  | invalidValue => "a value is missing or not one of the possible values".toList
  | malformedValue => "a value is malformed".toList
  | surplusValue => "a value is given where none is expected".toList
  | unknownCommand => "unrecognized subcommand".toList
  | missingCommand => "a subcommand is required".toList
  | nothingGiven => usageText
  | help => usageText
  | version => versionText

/-- The outcome where no command is carried out. -/
def Halt.outcome : Halt → Outcome
  | help => ⟨0, usageText, []⟩
  | version => ⟨0, newline versionText, []⟩
  | nothingGiven => ⟨2, [], usageText⟩
  | halt => ⟨2, [], newline ("error: ".toList ++ halt.message)⟩

/-- The outcome of the program. -/
def runArguments (environment : Option Text) (files : Files) (terminal : Bool)
    (arguments : List Text) : Outcome :=
  match Line.ofArguments environment arguments with
  | .error halt => halt.outcome
  | .ok line => line.run files terminal

theorem runArguments_eq_run {environment : Option Text} {files : Files} {terminal : Bool}
    {arguments : List Text} {line : Line}
    (h : Line.ofArguments environment arguments = .ok line) :
    runArguments environment files terminal arguments = line.run files terminal := by
  rw [runArguments, h]

def Line.paths (line : Line) : List Text :=
  line.config.toList ++ match line.task with
    | .select _ records _ _ => [records]
    | _ => []

end Command
end SearchFilter
