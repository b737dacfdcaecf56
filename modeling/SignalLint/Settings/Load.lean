import SignalLint.Files.Store
import SignalLint.Settings.Environment
import SignalLint.Toml.Reader
import SignalLint.Value.Items

/-!
# Loading the settings of a run

Settings come from up to five places, each stronger than those before it: a file in the home
directory, a file in the working directory, a file that the user names, the environment, and the
caller. A key that a stronger place gives replaces the one of a weaker place as a whole. The options
of the rule are the exception: files give them in a table of their own, and they are put together
option by option, as are those of the caller.
-/

namespace SignalLint

/-- The settings gathered so far, the options of the rule apart from the rest. -/
structure GatheredSettings where
  settings : Table String Value := {}
  ruleOptions : Table String Value := {}
  deriving Repr, Inhabited

/-- The key under which a configuration file has the options of the rule. -/
def ruleTableKey : String := "rule"

/-- The pair that an item of a list makes: two characters, two items of a list or two keys. -/
def pairOf (index : Nat) (v : Value) : Except Fault (Value × Value) :=
  match v.items with
  | .error _ => .error (.notSequence index)
  | .ok [key, value] => .ok (key, value)
  | .ok parts => .error (.notPair index parts.length)

/-- The option that an item of a list makes. A key that is no text stands under its text. -/
def optionOf (index : Nat) (v : Value) : Except Fault (String × Value) := do
  let (key, value) ← pairOf index v
  if key.isHashable then return (key.plain, value) else throw (.notHashable key.typeName)

/-- The entries that a value adds to a table: those of a table, or the pairs in a list. -/
def entriesOf (v : Value) : Except Fault (List (String × Value)) :=
  match v with
  | .table entries => .ok entries
  | v => do (← v.items).zipIdx.mapM fun (item, index) => optionOf index item

namespace GatheredSettings

/-- What a configuration file adds. -/
def addFile (g : GatheredSettings) (entries : List (String × Value)) :
    Except Failure GatheredSettings :=
  let rest := g.settings.insertAll (entries.filter (·.1 ≠ ruleTableKey))
  match entries.find? (·.1 = ruleTableKey) with
  | none => .ok ⟨rest, g.ruleOptions⟩
  | some (_, .table options) => .ok ⟨rest, g.ruleOptions.insertAll options⟩
  | some (key, v) => .error (.misfit key v "expected a table")

/-- What the environment adds. -/
def addVariables (g : GatheredSettings) (entries : List (String × Value)) : GatheredSettings :=
  { g with settings := g.settings.insertAll entries }

/-- What the caller adds. -/
def addOverrides (g : GatheredSettings) (overrides : Table String Value) :
    Except Fault GatheredSettings := do
  let settings := g.settings.insertAll (overrides.erase Setting.ruleOptions.key).entries
  let options := (overrides.get? Setting.ruleOptions.key).getD .null
  if options.isTruthy then
    return ⟨settings, g.ruleOptions.insertAll (← entriesOf options)⟩
  else return ⟨settings, g.ruleOptions⟩

/-- The settings of the run. -/
def finish (g : GatheredSettings) : Except LintError LintConfig :=
  (LintConfig.ofTable (g.settings.insert Setting.ruleOptions.key
    (.table g.ruleOptions.entries))).mapError .configRejected

end GatheredSettings

/-- The keys and values of a configuration file. -/
def readConfigFile (store : Store) (path : FilePath) : Except Failure (List (String × Value)) :=
  match store.read path with
  | .error e => .error (.error (.configUnreadable path.text (e.message path)))
  | .ok content =>
    match Utf8.decode content with
    | .error e => .error (.fault (.notText e))
    | .ok text =>
      match Toml.read text with
      | .error .malformed => .error (.error (.configUnreadable path.text Toml.refusal))
      | .error (.tooManyDigits n) => .error (.fault (.tooManyDigits (some n)))
      | .ok entries => .ok entries

/-- A configuration file, and whether it must be there. -/
structure ConfigFile where
  path : FilePath
  required : Bool
  deriving DecidableEq, Repr, Inhabited

/-- The configuration files of a run, in the order in which they are looked for: that in the home
directory, that in the working directory, and the one that the user names. -/
def configFiles (store : Store) (named : Option FilePath) : List ConfigFile :=
  [⟨store.inHome ".prefer-signals.toml", false⟩, ⟨store.inWorking "prefer-signals.toml", false⟩] ++
    (named.map (⟨·, true⟩)).toList

/-- Adds a configuration file if it is there. -/
def GatheredSettings.addFileAt (store : Store) (g : GatheredSettings) (file : ConfigFile) :
    Except Failure GatheredSettings :=
  match store.probe file.path with
  | .error r => .error (.fault (.refused r file.path))
  | .ok true => do g.addFile (← readConfigFile store file.path)
  | .ok false => if file.required then .error (.error (.configMissing file.path.text)) else .ok g

/-- What follows once the files have been read: the environment, the caller, and then the
settings are made. -/
def GatheredSettings.complete (g : GatheredSettings) (environment : Environment)
    (overrides : Table String Value) : Except Failure LintConfig := do
  let given ← (readVariables environment).mapError .error
  let g ← ((g.addVariables given).addOverrides overrides).mapError .fault
  g.finish.mapError .error

/-- The settings of a run. -/
def loadConfig (store : Store) (environment : Environment) (named : Option FilePath)
    (overrides : Table String Value) : Except Failure LintConfig := do
  let g ← (configFiles store named).foldlM (GatheredSettings.addFileAt store) {}
  g.complete environment overrides

end SignalLint
