import SignalLint.Rule.Options
import SignalLint.Value.Items

/-!
# Options as they are given

Options come as a table of values of any type. `LooseOptions.resolve` fills in what is absent and
checks nothing but the names; `LooseOptions.toValue` writes options back with their public names,
sets as sorted lists. `LooseOptions.settle` gives the options that the rule runs with.
-/

namespace SignalLint

/-- Options that may hold any value. -/
abbrev LooseOptions := Options Value Value

/-- The options of the rule. -/
inductive OptionName where
  | typesToReplace
  | preferReadonly
  | preferInputSignal
  | preferQuerySignal
  | useTypeChecking
  | signalCreationFunctions
  deriving DecidableEq, Repr, Inhabited

namespace OptionName

/-- All options, in the order in which they are listed. -/
def all : List OptionName :=
  [typesToReplace, preferReadonly, preferInputSignal, preferQuerySignal, useTypeChecking,
    signalCreationFunctions]

/-- The public name of an option. -/
def name : OptionName → String
  | typesToReplace => "typesToReplace"
  | preferReadonly => "preferReadonly"
  | preferInputSignal => "preferInputSignal"
  | preferQuerySignal => "preferQuerySignal"
  | useTypeChecking => "useTypeChecking"
  | signalCreationFunctions => "signalCreationFunctions"

/-- The other spelling of an option, as it is admitted but not written. -/
def plainName : OptionName → String
  | typesToReplace => "types_to_replace"
  | preferReadonly => "prefer_readonly"
  | preferInputSignal => "prefer_input_signal"
  | preferQuerySignal => "prefer_query_signal"
  | useTypeChecking => "use_type_checking"
  | signalCreationFunctions => "signal_creation_functions"

/-- The option of this name, in either spelling. -/
def ofKey? (key : String) : Option OptionName :=
  all.find? fun o => o.name = key || o.plainName = key

end OptionName

namespace Value

/-- The distinct values of a list, in order of first occurrence. -/
def distinct (values : List Value) : List Value :=
  values.foldl (fun seen v => if seen.any (·.same v) then seen else seen ++ [v]) []

/-- The members of a value as a set. -/
def asSet (v : Value) : Except Fault (List Value) := do
  let members ← v.items
  match members.find? (!·.isHashable) with
  | some v => throw (.notHashable v.typeName)
  | none => return distinct members

/-- Whether one value stands before another in a sorted list. -/
def before (a b : Value) : Except Fault Bool :=
  match a.number?, b.number? with
  | some (.inl m), some (.inl n) => .ok (m < n)
  | some (.inr x), some (.inr y) => .ok (x.less y)
  | some (.inl m), some (.inr y) => .ok ((Binary64.ofInt m).less y)
  | some (.inr x), some (.inl n) => .ok (x.less (Binary64.ofInt n))
  | _, _ =>
    match a, b with
    | text s, text t => .ok (s < t)
    | _, _ => .error (.notOrdered a.typeName b.typeName)

/-- A sorted list with one more value, behind those that are not greater. -/
def insertSorted (v : Value) : List Value → Except Fault (List Value)
  | [] => .ok [v]
  | w :: rest => do
    if ← v.before w then return v :: w :: rest
    else return w :: (← insertSorted v rest)

/-- The values in ascending order. -/
def sorted (values : List Value) : Except Fault (List Value) :=
  values.foldlM (fun done v => insertSorted v done) []

end Value

namespace Options

/-- Resolved options as options that may hold anything. -/
def loosen (o : RuleOptions) : LooseOptions := o.map Value.bool Value.text

end Options

namespace LooseOptions

/-- The options of a rule that is told nothing. -/
def default : LooseOptions := Options.loosen RuleOptions.default

/-- The options with one of them set. -/
def set (o : LooseOptions) (name : OptionName) (v : Value) : Except Fault LooseOptions :=
  match name with
  | .typesToReplace => v.asSet.map fun vs => { o with typesToReplace := vs }
  | .preferReadonly => .ok { o with preferReadonly := v }
  | .preferInputSignal => .ok { o with preferInputSignal := v }
  | .preferQuerySignal => .ok { o with preferQuerySignal := v }
  | .useTypeChecking => .ok { o with useTypeChecking := v }
  | .signalCreationFunctions => v.asSet.map fun vs => { o with signalCreationFunctions := vs }

/-- Sets options in order; names that no option has are passed over. -/
def setAll (o : LooseOptions) (entries : List (String × Value)) : Except Fault LooseOptions :=
  entries.foldlM (fun o e =>
    match OptionName.ofKey? e.1 with
    | some name => o.set name e.2
    | none => .ok o) o

/-- Fills in every absent option. Values are taken as they are; a name that no option has is
refused, once every set has been read. -/
def resolve (given : Value) : Except Fault LooseOptions :=
  if !given.isTruthy then .ok default
  else
    match given with
    | .table entries => do
      let options ← default.setAll entries
      match entries.find? fun e => (OptionName.ofKey? e.1).isNone with
      | some e => throw (.unknownOption e.1)
      | none => return options
    | v => .error (.noEntries v.typeName)

/-- Options with their public names, sets as sorted lists. -/
def toValue (o : LooseOptions) : Except Fault Value := do
  let types ← Value.sorted o.typesToReplace
  let functions ← Value.sorted o.signalCreationFunctions
  return .table
    [(OptionName.typesToReplace.name, .list types),
      (OptionName.preferReadonly.name, o.preferReadonly),
      (OptionName.preferInputSignal.name, o.preferInputSignal),
      (OptionName.preferQuerySignal.name, o.preferQuerySignal),
      (OptionName.useTypeChecking.name, o.useTypeChecking),
      (OptionName.signalCreationFunctions.name, .list functions)]

/-- A member of a set as a name. One that is no text keeps its place as a name that no program can
use: its text behind a blank. -/
def nameOf : Value → String
  | .text s => s
  | v => " " ++ v.shown

/-- The options that the rule runs with: a flag is on when its value counts as set. -/
def settle (o : LooseOptions) : RuleOptions := o.map Value.isTruthy nameOf

end LooseOptions

end SignalLint
