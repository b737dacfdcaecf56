import SignalLint.CommandLine.Words
import SignalLint.Files.Store
import SignalLint.Settings.Load
import SignalLint.Settings.Options

/-!
# Commands

What a command line asks for. `Command.read` decides it; whatever cannot be read as a command asks
for the usage text, with an exit code that says whether it was asked for by name.
-/

namespace SignalLint

/-- The options that stand in front of a command. -/
inductive MainOption where
  | version
  | help
  deriving DecidableEq, Repr, Inhabited

/-- The options of `lint`. -/
inductive LintOption where
  | config
  | format
  | applySuggestions
  | noTypeInformation
  | typesToReplace
  | signalFunction
  | verbose
  | quiet
  | logFile
  | help
  deriving DecidableEq, Repr, Inhabited

/-- The options of `rules`. -/
inductive RulesOption where
  | json
  | help
  deriving DecidableEq, Repr, Inhabited

/-- How the options in front of a command are written. -/
def mainForms : List (OptionForm MainOption) :=
  [{ key := .version, long := "--version" }, { key := .help, long := "--help" }]

/-- How the options of `lint` are written. -/
def lintForms : List (OptionForm LintOption) :=
  [{ key := .config, long := "--config", letter := some 'c', takesValue := true },
    { key := .format, long := "--format", letter := some 'f', takesValue := true },
    { key := .applySuggestions, long := "--apply-suggestions" },
    { key := .noTypeInformation, long := "--no-type-info" },
    { key := .typesToReplace, long := "--types-to-replace", takesValue := true },
    { key := .signalFunction, long := "--signal-function", takesValue := true },
    { key := .verbose, long := "--verbose", letter := some 'v' },
    { key := .quiet, long := "--quiet", letter := some 'q' },
    { key := .logFile, long := "--log-file", takesValue := true },
    { key := .help, long := "--help" }]

/-- How the options of `rules` are written. -/
def rulesForms : List (OptionForm RulesOption) :=
  [{ key := .json, long := "--json" }, { key := .help, long := "--help" }]

/-- What `lint` is asked to do. -/
structure LintRequest where
  /-- Where to look; nowhere in particular means the working directory. -/
  paths : List FilePath := []
  config : Option FilePath := none
  format : Option String := none
  applySuggestions : Bool := false
  noTypeInformation : Bool := false
  typesToReplace : List String := []
  signalFunctions : List String := []
  verbose : Bool := false
  quiet : Bool := false
  logFile : Option FilePath := none
  deriving Repr, Inhabited

/-- What a command line asks for. -/
inductive Command where
  /-- The usage text. -/
  | usage (exitCode : Nat)
  | version
  | lint (request : LintRequest)
  | rules (asJson : Bool)
  deriving Repr, Inhabited

/-- The exit code for a command line that cannot be understood, or whose work cannot be done. -/
def refusalCode : Nat := 2

namespace LintRequest

/-- The request that words make. -/
def ofGiven (g : Given LintOption) : LintRequest where
  paths := g.operands.map FilePath.ofString
  config := (g.value? .config).map FilePath.ofString
  format := g.value? .format
  applySuggestions := g.has .applySuggestions
  noTypeInformation := g.has .noTypeInformation
  typesToReplace := g.all .typesToReplace
  signalFunctions := g.all .signalFunction
  verbose := g.has .verbose
  quiet := g.has .quiet
  logFile := (g.value? .logFile).map FilePath.ofString

/-- The options of the rule that a request sets. -/
def ruleOptions (r : LintRequest) : List (String × Value) :=
  let names (option : OptionName) (values : List String) : List (String × Value) :=
    if values.isEmpty then [] else [(option.name, .list (values.map .text))]
  names .typesToReplace r.typesToReplace ++ names .signalCreationFunctions r.signalFunctions

/-- The settings that a request overrides. -/
def overrides (r : LintRequest) : Table String Value :=
  .ofList
    ((r.format.toList.map fun f => (Setting.outputFormat.key, .text f)) ++
      (if r.noTypeInformation then [(Setting.typeInformation.key, .bool false)] else []) ++
      (if r.ruleOptions.isEmpty then [] else [(Setting.ruleOptions.key, .table r.ruleOptions)]))

/-- The request that a command line makes, whether its paths lead anywhere or not. -/
def read? (words : List String) : Option LintRequest := do
  let g ← Given.read mainForms false none words
  match g.operands with
  | "lint" :: rest => (Given.read lintForms true none rest).map ofGiven
  | _ => none

/-- The paths to lint. -/
def places (r : LintRequest) : List FilePath := if r.paths.isEmpty then [FilePath.here] else r.paths

end LintRequest

/-- Whether the text of a path can only mean a directory. -/
def namesDirectory (text : String) : Bool :=
  text.isEmpty || text.endsWith "/" || text.endsWith "/."

/-- Whether the text of a path ends with a dot for the directory that it has come to. -/
def endsWithDot (text : String) : Bool :=
  ((FilePath.splitNames text.toList).filter (!·.isEmpty)).getLast? = some ['.']

/-- Whether a text is the path of something that is there and cannot be opened. To look for nothing,
for a name below a file, or for a dot below a directory that is barred finds nothing. -/
def isBarredArgument (store : Store) (text : String) : Bool :=
  match store.find (.ofString text), store.opened (.ofString text) with
  | .ok (.directory _), .error _ => !text.isEmpty && !endsWithDot text
  | .ok _, .error _ => !namesDirectory text
  | _, _ => false

/-- Whether a text is the path of a file that is there and can be opened, for options that need
one. -/
def isFileArgument (store : Store) (text : String) : Bool :=
  !namesDirectory text && store.isFile (.ofString text) && !isBarredArgument store text

/-- Whether a text is the path of a directory that is there, for options that admit none. -/
def isDirectoryArgument (store : Store) (text : String) : Bool :=
  !text.isEmpty && store.isDirectory (.ofString text)

namespace Command

/-- Reads the words behind `lint`. -/
def readLint (store : Store) (words : List String) : Command :=
  match Given.read lintForms true none words with
  | none => usage refusalCode
  | some g =>
    let logFile := g.value? .logFile
    if g.has .help then usage 0
    else if g.operands.any (isBarredArgument store) then usage refusalCode
    else if !(g.value? .config).all (isFileArgument store) then usage refusalCode
    else if logFile.any fun f => isDirectoryArgument store f || isBarredArgument store f then
      usage refusalCode
    else lint (.ofGiven g)

/-- Reads the words behind `rules`. -/
def readRules (words : List String) : Command :=
  match Given.read rulesForms true none words with
  | none => usage refusalCode
  | some g =>
    if g.has .help then usage 0
    else if g.operands.isEmpty then rules (g.has .json)
    else usage refusalCode

/-- Reads a command line. In front of the command, the first option decides. -/
def read (store : Store) (words : List String) : Command :=
  match Given.read mainForms false none words with
  | none => usage refusalCode
  | some g =>
    match g.options with
    | (.version, _) :: _ => version
    | (.help, _) :: _ => usage 0
    | [] =>
      match g.operands with
      | "lint" :: rest => readLint store rest
      | "rules" :: rest => readRules rest
      | _ => usage refusalCode

end Command

end SignalLint
