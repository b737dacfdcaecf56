import SignalLint.Rule.Selector
import SignalLint.Text.LowerCase

/-!
# Constructs that signals replace

Matchers for the three legacy constructs. Each looks at one node only.
-/

namespace SignalLint

/-- The decorators that query the view or the content, each replaced by a function. -/
def queryDecorators : List String :=
  ["ContentChild", "ContentChildren", "ViewChild", "ViewChildren"]

/-- The pattern that finds exactly the query decorators. -/
def queryPattern : NamePattern where
  written := "^(" ++ String.intercalate "|" queryDecorators ++ ")$"
  words := queryDecorators
  atStart := true
  atEnd := true

/-- Decorators that query the view or the content. -/
def Selector.queryDecorator : Selector := { kind := .decorator, calleePattern := some queryPattern }

/-- The function that replaces a query decorator: its name with a small first letter. -/
def signalFunction (decorator : String) : String := lowerFirst decorator

/-- A query decorator with the function that replaces it. -/
structure QueryMatch where
  decorator : String
  function : String
  deriving DecidableEq, Repr, Inhabited

/-- The name of the constructor that a `new` expression calls, if it is one of `types`. -/
def observableWrapper? (callee : Expression) (types : List String) : Option String :=
  match callee with
  | .identifier name _ => if types.contains name then some name else none
  | _ => none

/-- Whether a node is an input decorator. -/
def isInputDecorator (n : Node) : Bool := n.invokedName? = some "Input"

/-- A query decorator, if the node is one. -/
def queryMatch? (n : Node) : Option QueryMatch :=
  match n.invokedName? with
  | some name =>
    if queryPattern.finds name then some ⟨name, signalFunction name⟩ else none
  | none => none

end SignalLint
