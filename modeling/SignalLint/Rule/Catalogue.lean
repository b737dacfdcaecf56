import SignalLint.Rule.PreferSignals
import SignalLint.Settings.Options
import SignalLint.Settings.Schema

/-!
# The catalogue of rules

What is known about each rule apart from what it does: its name and description, its messages, and
the options it takes with their defaults.
-/

namespace SignalLint

/-- The particulars of a rule. -/
structure RuleSheet where
  name : String
  description : String
  schema : Schema
  messages : Messages
  /-- `problem`, `suggestion` or `layout`. -/
  ruleType : String
  /-- Whether diagnostics may carry suggestions. -/
  hasSuggestions : Bool
  /-- The options under their public names. -/
  defaults : Value
  deriving Repr, Inhabited

namespace OptionName

/-- What values an option takes. -/
def type : OptionName → PropertyType
  | typesToReplace | signalCreationFunctions => .array true
  | preferReadonly | preferInputSignal | preferQuerySignal | useTypeChecking => .boolean

end OptionName

/-- The options of the rule, and no others. -/
def ruleSchema : Schema where
  properties := OptionName.all.map fun o => (o.name, some o.type)
  closed := true

/-- The default options under their public names. -/
def ruleDefaults : Value :=
  match LooseOptions.default.toValue with
  | .ok v => v
  | .error _ => .null

/-- The rule. -/
def preferSignals : RuleSheet where
  name := ruleName
  description := "Prefer to use signals instead of `BehaviorSubject`, `@Input()`, " ++
    "`@ViewChild()` and other query decorators"
  schema := ruleSchema
  messages := ruleMessages
  ruleType := "suggestion"
  hasSuggestions := true
  defaults := ruleDefaults

/-- All rules. -/
def allRules : List RuleSheet := [preferSignals]

/-- The rule with a name. -/
def rule? (name : String) : Option RuleSheet := allRules.find? (·.name = name)

namespace PropertyType

/-- The description of a property. -/
def describe : PropertyType → List (String × Value)
  | boolean => [("type", .text "boolean")]
  | text => [("type", .text "string")]
  | array true =>
    [("type", .text "array"), ("items", .table [("type", .text "string")])]
  | array false => [("type", .text "array")]
  | anything => []

/-- The name of a type, as far as it has one. -/
def typeText : PropertyType → String
  | boolean => "boolean"
  | text => "string"
  | array _ => "array"
  | anything => ""

end PropertyType

namespace RuleSheet

/-- The default of an option. -/
def default? (r : RuleSheet) (key : String) : Option Value := r.defaults.get? key

/-- The description of a rule's options, each with its default. -/
def describeSchema (r : RuleSheet) : Value :=
  .table
    [("type", .text "object"),
      ("properties", .table (r.schema.properties.map fun (name, type) =>
        (name, .table ((type.map (·.describe)).getD [] ++
          [("default", (r.default? name).getD .null)])))),
      ("additionalProperties", .bool (!r.schema.closed))]

/-- The messages of a rule as a table. -/
def describeMessages (r : RuleSheet) : Value :=
  .table (r.messages.map fun (id, template) => (id, .text template))

end RuleSheet

end SignalLint
