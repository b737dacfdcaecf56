import SignalLint.Decimal.Reader
import SignalLint.Settings.Config
import SignalLint.Text.LowerCase

/-!
# Settings from the environment

Every setting has an environment variable, but only flags, numbers and names can be set by one.
`readVariables` reads the variables of all settings in their order and stops at the first whose
text does not fit.
-/

namespace SignalLint

/-- The environment: variables with their texts. -/
abbrev Environment := List (String × String)

/-- How the text of a variable is read. -/
inductive VariableType where
  | flag
  | integer
  | decimal
  | text
  /-- Lists and tables cannot be written in a variable; its text is not looked at. -/
  | structured
  deriving DecidableEq, Repr, Inhabited

namespace VariableType

/-- The words that set a flag. -/
def wordsOn : List String := ["true", "1", "yes", "on"]

/-- The words that clear a flag. -/
def wordsOff : List String := ["false", "0", "no", "off"]

/-- The value of a text, if variables of this type have one. -/
def read (type : VariableType) (text : String) : Except Unreadable (Option Value) :=
  match type with
  | flag =>
    let word := lowerCase text
    if wordsOn.contains word then .ok (some (.bool true))
    else if wordsOff.contains word then .ok (some (.bool false))
    else .error (.flag text)
  | integer =>
    match NumberText.readInt text with
    | some n => .ok (some (.int n))
    | none => .error (.integer text)
  | decimal =>
    match NumberText.readBinary64 text with
    | some x => .ok (some (.float x))
    | none => .error (.decimal text)
  | VariableType.text => .ok (some (.text text))
  | structured => .ok none

end VariableType

namespace Setting

/-- How the variable of a setting is read. -/
def variableType : Setting → VariableType
  | ruleOptions | excludePatterns => .structured
  | typeInformation | followSymlinks => .flag
  | maxFileSize => .decimal
  | outputFormat => .text

/-- The name of a setting's variable. -/
def variableName : Setting → String
  | ruleOptions => "PREFER_SIGNALS_RULE_OPTIONS"
  | excludePatterns => "PREFER_SIGNALS_EXCLUDE_PATTERNS"
  | typeInformation => "PREFER_SIGNALS_TYPE_INFORMATION"
  | maxFileSize => "PREFER_SIGNALS_MAX_FILE_SIZE_MB"
  | followSymlinks => "PREFER_SIGNALS_FOLLOW_SYMLINKS"
  | outputFormat => "PREFER_SIGNALS_OUTPUT_FORMAT"

/-- The value that the environment gives a setting, if it does. -/
def fromEnvironment (environment : Environment) (s : Setting) : Except LintError (Option Value) :=
  match environment.find? (·.1 = s.variableName) with
  | none => .ok none
  | some (name, text) => (s.variableType.read text).mapError (.variableRejected name)

end Setting

/-- The settings that the environment gives, by key. -/
def readVariables (environment : Environment) : Except LintError (List (String × Value)) := do
  let found ← Setting.all.mapM fun s => do
    return (← s.fromEnvironment environment).map (s.key, ·)
  return found.filterMap id

end SignalLint
