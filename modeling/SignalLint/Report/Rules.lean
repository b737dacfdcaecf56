import SignalLint.Report.Screen
import SignalLint.Rule.Catalogue
import SignalLint.Value.Json

/-!
# The catalogue on paper

The list of rules, for readers as a line and two tables for each rule, for programs as JSON.
-/

namespace SignalLint

namespace RuleSheet

/-- The table of a rule's options. -/
def optionTable (r : RuleSheet) : BoxTable where
  columns := [⟨"Option", .left⟩, ⟨"Type", .left⟩, ⟨"Default", .left⟩]
  rows := r.schema.properties.map fun (name, type) =>
    [name, (type.map (·.typeText)).getD "", ((r.default? name).getD .null).json]

/-- The table of a rule's messages. -/
def messageTable (r : RuleSheet) : BoxTable where
  columns := [⟨"Message id", .left⟩, ⟨"Template", .left⟩]
  rows := r.messages.map fun (id, template) => [id, template]

/-- A rule for a terminal. -/
def screen (console : Console) (r : RuleSheet) : Printout :=
  let heading := styled "bold cyan" r.name ++ s!" ({r.ruleType}) - {r.description}"
  Printout.all
    [.ofMarkup console heading, .emptyLine, .ofTable console r.optionTable,
      .ofTable console r.messageTable]

/-- A rule as a table. -/
def toValue (r : RuleSheet) : Value :=
  .table
    [("name", .text r.name), ("type", .text r.ruleType), ("description", .text r.description),
      ("hasSuggestions", .bool r.hasSuggestions), ("messages", r.describeMessages),
      ("schema", r.describeSchema)]

end RuleSheet

/-- All rules for a terminal. -/
def rulesScreen (console : Console) : Printout :=
  Printout.all (allRules.map (RuleSheet.screen console))

/-- All rules as JSON. -/
def rulesJson : String := (Value.list (allRules.map RuleSheet.toValue)).jsonLines 0

end SignalLint
