import SignalLint.Code.Table
import SignalLint.Error

/-!
# Settings of a run

The settings of a run, each a value of any type until it is used. Making settings from a table
refuses unknown keys, a size limit that is not positive, and unknown output formats; nothing else
is checked.
-/

namespace SignalLint

/-- The settings there are. -/
inductive Setting where
  | ruleOptions
  | excludePatterns
  | typeInformation
  | maxFileSize
  | followSymlinks
  | outputFormat
  deriving DecidableEq, Repr, Inhabited

namespace Setting

/-- All settings, in the order in which they are listed. -/
def all : List Setting :=
  [ruleOptions, excludePatterns, typeInformation, maxFileSize, followSymlinks, outputFormat]

/-- The key of a setting. -/
def key : Setting → String
  | ruleOptions => "rule_options"
  | excludePatterns => "exclude_patterns"
  | typeInformation => "type_information"
  | maxFileSize => "max_file_size_mb"
  | followSymlinks => "follow_symlinks"
  | outputFormat => "output_format"

/-- The setting with a key. -/
def ofKey? (text : String) : Option Setting := all.find? (·.key = text)

/-- The value of a setting that nobody gives. -/
def default : Setting → Value
  | ruleOptions => .table []
  | excludePatterns =>
    .list [.text "node_modules/*", .text "dist/*", .text "build/*", .text ".angular/*",
      .text ".git/*", .text "coverage/*", .text "*.d.ts"]
  | typeInformation => .bool true
  | maxFileSize => .float (.ofRatio false 2 1)
  | followSymlinks => .bool false
  | outputFormat => .text "rich"

end Setting

/-- The settings of a run. -/
structure LintConfig where
  /-- Options of the rule under their public names. -/
  ruleOptions : Value := Setting.ruleOptions.default
  /-- Patterns of files that a walk leaves out. -/
  excludePatterns : Value := Setting.excludePatterns.default
  /-- Whether the rule may ask for types. -/
  typeInformation : Value := Setting.typeInformation.default
  /-- The size, in units of 2 ^ 20 bytes, above which a walk leaves a file out. -/
  maxFileSize : Value := Setting.maxFileSize.default
  /-- Whether a walk goes into linked directories. -/
  followSymlinks : Value := Setting.followSymlinks.default
  outputFormat : Value := Setting.outputFormat.default
  deriving Repr, Inhabited

namespace LintConfig

/-- The value of a setting. -/
def get (c : LintConfig) : Setting → Value
  | .ruleOptions => c.ruleOptions
  | .excludePatterns => c.excludePatterns
  | .typeInformation => c.typeInformation
  | .maxFileSize => c.maxFileSize
  | .followSymlinks => c.followSymlinks
  | .outputFormat => c.outputFormat

/-- The names of the output formats. -/
def formats : List String := ["rich", "json", "github"]

/-- What is wrong with a size limit, if anything. -/
def sizeProblem? : Value → Option ConfigProblem
  | .bool b => if b then none else some .sizeNotPositive
  | .int n => if n ≤ 0 then some .sizeNotPositive else none
  | .float x => if x.isNonpositive then some .sizeNotPositive else none
  | v => some (.sizeNotComparable v.typeName)

/-- What is wrong with an output format, if anything. -/
def formatProblem? (v : Value) : Option ConfigProblem :=
  match v with
  | .text s => if formats.contains s then none else some (.unknownFormat v)
  | _ => some (.unknownFormat v)

/-- The settings of a table, with defaults for what is absent. -/
def ofTable (given : Table String Value) : Except ConfigProblem LintConfig :=
  let value (s : Setting) : Value := (given.get? s.key).getD s.default
  match given.keys.find? fun k => (Setting.ofKey? k).isNone with
  | some k => .error (.unknownKey k)
  | none =>
    let config : LintConfig := {
      ruleOptions := value .ruleOptions
      excludePatterns := value .excludePatterns
      typeInformation := value .typeInformation
      maxFileSize := value .maxFileSize
      followSymlinks := value .followSymlinks
      outputFormat := value .outputFormat }
    match sizeProblem? config.maxFileSize with
    | some p => .error p
    | none =>
      match formatProblem? config.outputFormat with
      | some p => .error p
      | none => .ok config

/-- The size limit in bytes. -/
def maxBytes (c : LintConfig) : Except Fault Int :=
  match c.maxFileSize with
  | .bool b => .ok (if b then 1048576 else 0)
  | .int n => .ok (n * 1048576)
  | .float x =>
    match x.scaleUp 20 with
    | .nan => .error .sizeIsNoNumber
    | .infinite _ => .error .infiniteSize
    | scaled =>
      match scaled.truncate with
      | some n => .ok n
      | none => .error .infiniteSize
  | v => .error (.noIntegerOf v.typeName)

/-- The settings as a table. -/
def toValue (c : LintConfig) : Value :=
  .table (Setting.all.map fun s => (s.key, c.get s))

end LintConfig

end SignalLint
