import SignalLint.Rule.Classifier
import SignalLint.Rule.Legacy

/-!
# The rule

Four checks, each of which can be switched off:

* `new` expressions of legacy observables (`preferSignal`);
* signal fields that are not readonly, with a suggestion to insert the modifier (`preferReadonly`);
* input decorators (`preferInputSignal`);
* query decorators (`preferQuerySignal`).

`RunM.run` visits the nodes of a unit in document order and hands each to every check that wants
it.
-/

namespace SignalLint

/-- The name of the rule. -/
def ruleName : String := "prefer-signals"

/-- The messages of the rule. -/
def ruleMessages : Messages :=
  [("preferSignal", "Prefer to use `Signal` instead of \x7b\x7btype\x7d\x7d"),
    ("preferInputSignal", "Prefer to use `InputSignal` type instead of `@Input()` decorator"),
    ("preferQuerySignal",
      "Prefer to use `\x7b\x7bfunction\x7d\x7d` function instead of `\x7b\x7bdecorator\x7d\x7d` decorator"),
    ("preferReadonly", "Prefer to declare `Signal` properties as `readonly` since they are not " ++
      "supposed to be reassigned"),
    ("suggestAddReadonlyModifier", "Add `readonly` modifier")]

/-- What the suggestion inserts. -/
def readonlyModifier : String := "readonly "

/-- The fix for a field that should be readonly. -/
def readonlySuggestion (key : Expression) : Suggestion where
  messageId := "suggestAddReadonlyModifier"
  edit := ⟨key.span.startByte, readonlyModifier⟩

/-- A check: the nodes it wants, and what it does with one of them. -/
structure Check where
  selector : Selector
  visit : Node → RunM Unit

namespace Check

/-- Reports `new` expressions of the given constructors, at the constructor. -/
def construction (types : List String) : Check where
  selector := .construction
  visit
    | .expression (.construct callee _ _ _) =>
      match observableWrapper? callee types with
      | some name => discard (RunM.report callee.span "preferSignal" [("type", .text name)])
      | none => pure ()
    | _ => pure ()

/-- Reports signal fields that are not readonly, at the name of the field. -/
def mutableField (o : RuleOptions) : Check where
  selector := .mutableField
  visit
    | .field f => do
      if ← RunM.isCandidate o f then
        discard (RunM.report f.key.span "preferReadonly" [] [readonlySuggestion f.key])
    | _ => pure ()

/-- Reports input decorators. -/
def inputDecorator : Check where
  selector := .inputDecorator
  visit n :=
    if isInputDecorator n then discard (RunM.report n.span "preferInputSignal") else pure ()

/-- Reports query decorators. -/
def queryDecorator : Check where
  selector := .queryDecorator
  visit n :=
    match queryMatch? n with
    | some m =>
      discard (RunM.report n.span "preferQuerySignal"
        [("function", .text m.function), ("decorator", .text m.decorator)])
    | none => pure ()

end Check

/-- The checks that the options switch on, in the order in which a node is handed to them. -/
def RuleOptions.checks (o : RuleOptions) : List Check :=
  (if o.typesToReplace.isEmpty then [] else [.construction o.typesToReplace]) ++
    (if o.preferReadonly then [.mutableField o] else []) ++
    (if o.preferInputSignal then [.inputDecorator] else []) ++
    (if o.preferQuerySignal then [.queryDecorator] else [])

namespace RunM

/-- Hands a node to every check that wants it. -/
def visit (checks : List Check) (n : Node) : RunM Unit :=
  checks.forM fun c => if c.selector.admits n then c.visit n else pure ()

/-- Visits nodes in order. -/
def run (checks : List Check) (nodes : List Node) : RunM Unit :=
  nodes.forM (visit checks)

end RunM

/-- Runs the rule over a unit. -/
def runRule (o : RuleOptions) (unit : SourceUnit) (types : TypeSupply) :
    Except RunError Unit × RunState :=
  (RunM.run o.checks unit.nodes).exec ⟨ruleName, ruleMessages, unit, types⟩ {}

end SignalLint
