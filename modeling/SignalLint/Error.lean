import SignalLint.Files.Problem
import SignalLint.Text.Utf8
import SignalLint.Value.Text

/-!
# Errors

Everything that can go wrong, by cause. A `LintError` is a problem that the program knows how to
tell: it has a headline and details, and it belongs to a family (`ErrorFamily`). A `Fault` is
something that goes wrong where nobody looks for it, most often a value that does not fit where it
is used; it is told as it is.
-/

namespace SignalLint

/-- The families of errors. Each but the first belongs to a wider one. -/
inductive ErrorFamily where
  | general
  | analysis
  | fileAccess
  | parsing
  | unsupportedLanguage
  | noTypeInformation
  | configuration
  | invalidPath
  | invalidSetting
  deriving DecidableEq, Repr, Inhabited

namespace ErrorFamily

/-- The next wider family. -/
def wider? : ErrorFamily → Option ErrorFamily
  | general => none
  | analysis | configuration => some general
  | fileAccess | parsing | unsupportedLanguage | noTypeInformation => some analysis
  | invalidPath | invalidSetting => some configuration

/-- All wider families, nearest first. -/
def widerAll (f : ErrorFamily) : List ErrorFamily :=
  match f.wider? with
  | none => []
  | some g => g :: g.wider?.toList

end ErrorFamily

/-- Why a configuration does not make settings. -/
inductive ConfigProblem where
  /-- A setting that does not exist. -/
  | unknownKey (key : String)
  /-- A size limit of a type that has no order. -/
  | sizeNotComparable (typeName : String)
  | sizeNotPositive
  | unknownFormat (value : Value)
  deriving Repr, Inhabited

/-- The wording for a key that a record of settings cannot take. The name `self` stands for the
record, so a key of this name would be given twice. -/
def surplusKey (record key : String) : String :=
  if key = "self" then s!"{record}.__init__() got multiple values for argument '{key}'"
  else s!"{record}.__init__() got an unexpected keyword argument '{key}'"

/-- The wording for an integer of more digits than are read or written. When one is read, it is told
how many there are. -/
def digitLimitExceeded (digits : Option Nat) : String :=
  let count := (digits.map fun n => s!": value has {n} digits").getD ""
  s!"Exceeds the limit ({Value.digitLimit} digits) for integer string conversion{count}; " ++
    "use sys.set_int_max_str_digits() to increase the limit"

/-- The wording of a configuration problem. -/
def ConfigProblem.message : ConfigProblem → String
  | unknownKey key => surplusKey "LintConfig" key
  | sizeNotComparable name => s!"'<=' not supported between instances of '{name}' and 'int'"
  | sizeNotPositive => "max_file_size_mb must be positive"
  | unknownFormat value =>
    if value.hasText then s!"output_format must be rich, json or github, got {value.shown}"
    else digitLimitExceeded none

/-- A text that is no value of the type that is wanted. -/
inductive Unreadable where
  | flag (text : String)
  | integer (text : String)
  | decimal (text : String)
  deriving DecidableEq, Repr, Inhabited

/-- The wording of an unreadable text. -/
def Unreadable.message : Unreadable → String
  | flag text => s!"expected true/false, got '{text}'"
  | integer text => s!"invalid literal for int() with base 10: {quoted text}"
  | decimal text => s!"could not convert string to float: {quoted text}"

/-- A problem with the settings, the files or the sources of a run. -/
inductive LintError where
  /-- Any problem, told by its headline and details. -/
  | general (family : ErrorFamily) (headline : String) (details : List (String × String))
  | fileAccess (path reason : String)
  | parsing (path language reason : String)
  | unsupportedLanguage (path : String) (supported : List String)
  | noTypeInformation (path rule : String)
  | invalidPath (path reason : String)
  /-- A setting whose value does not fit. -/
  | invalidSetting (key : String) (value : Value) (reason : String)
  /-- A configuration file that was asked for and is not there. -/
  | configMissing (path : String)
  /-- A configuration file that cannot be read as one. -/
  | configUnreadable (path reason : String)
  | configRejected (problem : ConfigProblem)
  /-- An environment variable whose value does not fit. -/
  | variableRejected (name : String) (reason : Unreadable)
  deriving Repr, Inhabited

namespace LintError

/-- The family of an error. -/
def family : LintError → ErrorFamily
  | general f _ _ => f
  | fileAccess .. => .fileAccess
  | parsing .. => .parsing
  | unsupportedLanguage .. => .unsupportedLanguage
  | noTypeInformation .. => .noTypeInformation
  | invalidPath .. => .invalidPath
  | invalidSetting .. => .invalidSetting
  | configMissing _ | configUnreadable .. | configRejected _ | variableRejected .. => .general

/-- What is wrong, in one sentence. -/
def headline : LintError → String
  | general _ headline _ => headline
  | fileAccess path _ => s!"Cannot access file: {path}"
  | parsing path language _ => s!"Failed to parse {language} file: {path}"
  | unsupportedLanguage path _ => s!"Unsupported source file: {path}"
  | noTypeInformation path rule =>
    s!"Rule '{rule}' requires type information, which is not available for {path}"
  | invalidPath path _ => s!"Invalid path: {path}"
  | invalidSetting key value _ => s!"Invalid configuration for {key}: {value.shown}"
  | configMissing path => s!"Config file not found: {path}"
  | configUnreadable path reason => s!"Invalid config file '{path}': {reason}"
  | configRejected problem => s!"Invalid configuration: {problem.message}"
  | variableRejected name reason => s!"Invalid {name}: {reason.message}"

/-- The particulars, each with its name. -/
def details : LintError → List (String × String)
  | general _ _ details => details
  | fileAccess path reason => [("filepath", path), ("reason", reason)]
  | parsing path language reason =>
    [("filepath", path), ("language", language), ("reason", reason)]
  | unsupportedLanguage path supported =>
    [("filepath", path), ("supported", commaList supported)]
  | noTypeInformation path rule =>
    [("filepath", path), ("rule", rule),
      ("hint", "enable type_information or set useTypeChecking to false")]
  | invalidPath path reason => [("path", path), ("reason", reason)]
  | invalidSetting key value reason =>
    [("key", key), ("value", value.plain), ("reason", reason)]
  | configMissing _ | configUnreadable .. | configRejected _ | variableRejected .. => []

/-- `name=value` -/
def pairText (pair : String × String) : String := pair.1 ++ "=" ++ pair.2

/-- The whole message: the headline, with the details in parentheses if there are any. -/
def message (e : LintError) : String :=
  match e.details with
  | [] => e.headline
  | details => s!"{e.headline} ({commaList (details.map pairText)})"

end LintError

/-- Something that goes wrong where nobody looks for it. -/
inductive Fault where
  /-- Settings that do not make a configuration. -/
  | config (problem : ConfigProblem)
  /-- An option that the rule does not have. -/
  | unknownOption (key : String)
  /-- A value of a type that has no items. -/
  | notIterable (typeName : String)
  /-- A set cannot hold a value of this type. -/
  | notHashable (typeName : String)
  /-- Options of a type that has no entries. -/
  | noEntries (typeName : String)
  /-- Two types that cannot be sorted together. -/
  | notOrdered (left right : String)
  /-- A pattern that is no text. -/
  | notPathLike (typeName : String)
  /-- An item of a list, counted from zero, that is no pair of a key and a value: it has another
  length. -/
  | notPair (index length : Nat)
  /-- An item of a list, counted from zero, that has no parts at all. -/
  | notSequence (index : Nat)
  /-- A value of a type that makes no number of bytes. -/
  | noIntegerOf (typeName : String)
  | infiniteSize
  | sizeIsNoNumber
  /-- A text that is no truth value or number. -/
  | unreadable (e : Unreadable)
  /-- Bytes that are no text. -/
  | notText (e : Utf8.IllFormed)
  | unknownFormatter (value : Value)
  /-- An integer has too many digits to be read or written. -/
  | tooManyDigits (digits : Option Nat)
  /-- It cannot be told whether a path leads to something. -/
  | refused (r : Refusal) (path : FilePath)
  deriving Repr, Inhabited

namespace Fault

/-- The wording of a fault. -/
def message : Fault → String
  | config problem => problem.message
  | unknownOption key => surplusKey "RuleOptions" key
  | notIterable name => s!"'{name}' object is not iterable"
  | notHashable name => s!"unhashable type: '{name}'"
  | noEntries name => s!"'{name}' object has no attribute 'items'"
  | notOrdered left right => s!"'<' not supported between instances of '{left}' and '{right}'"
  | notPathLike name => s!"expected str, bytes or os.PathLike object, not {name}"
  | notPair index length =>
    s!"dictionary update sequence element #{index} has length {length}; 2 is required"
  | notSequence index =>
    s!"cannot convert dictionary update sequence element #{index} to a sequence"
  | noIntegerOf name =>
    s!"int() argument must be a string, a bytes-like object or a real number, not '{name}'"
  | infiniteSize => "cannot convert float infinity to integer"
  | sizeIsNoNumber => "cannot convert float NaN to integer"
  | unreadable e => e.message
  | notText e => e.message
  | unknownFormatter value =>
    if value.hasText then s!"Unknown formatter: {value.shown}. Choose from: github, json, rich"
    else digitLimitExceeded none
  | tooManyDigits digits => digitLimitExceeded digits
  | refused r path => (FileProblem.refused r).message path

/-- The kinds of faults: a wrong value of the right type, a wrong type, a number out of range, a
missing part, bytes that are no text, or a path that is barred. -/
inductive Kind where
  | value
  | type
  | overflow
  | attribute
  | encoding
  | access
  deriving DecidableEq, Repr, Inhabited

/-- The kind of a configuration problem. -/
def ofConfig : ConfigProblem → Kind
  | .unknownKey _ | .sizeNotComparable _ => .type
  | .sizeNotPositive | .unknownFormat _ => .value

/-- The kind of a fault. -/
def kind : Fault → Kind
  | config problem => ofConfig problem
  | unknownOption _ | notIterable _ | notHashable _ | notOrdered .. | notPathLike _
  | noIntegerOf _ | notSequence _ => .type
  | noEntries _ => .attribute
  | infiniteSize => .overflow
  | sizeIsNoNumber | unreadable _ | unknownFormatter _ | notPair .. | tooManyDigits _ => .value
  | notText _ => .encoding
  | refused .. => .access

end Fault

/-- Why a run ends without a result. -/
inductive Failure where
  | error (e : LintError)
  | fault (f : Fault)
  deriving Repr, Inhabited

/-- A setting does not fit. The error tells the value, which some values cannot be. -/
def Failure.misfit (key : String) (v : Value) (reason : String) : Failure :=
  if v.hasText then error (.invalidSetting key v reason) else fault (.tooManyDigits none)

/-- The wording of a failure. -/
def Failure.message : Failure → String
  | error e => e.message
  | fault f => f.message

end SignalLint
