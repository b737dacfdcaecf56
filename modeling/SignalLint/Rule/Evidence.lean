import SignalLint.Code.Node

/-!
# Evidence that a field holds a signal

Two kinds of evidence are read off the syntax alone: the declared type (`declaredTypeEvidence`) and
the shape of the call that initializes the field (`callShape`). The third, the resolved type of the
initializer, is in `SignalLint.Rule.TypeServices`.
-/

namespace SignalLint

/-- The types that are signals. -/
def signalTypes : List String := ["InputSignal", "ModelSignal", "Signal", "WritableSignal"]

/-- The functions that create signals. -/
def signalFunctions : List String :=
  ["computed", "contentChild", "contentChildren", "input", "model", "signal", "toSignal",
    "viewChild", "viewChildren"]

/-- The only member through which a signal function may be called, as in `input.required()`. -/
def requiredMember : String := "required"

/-- Whether a declared type is a generic reference to a signal type. A signal type without
arguments and a dotted name do not count. -/
def declaredTypeEvidence : TypeNode → Bool
  | .reference (.simple name _) arguments _ => !arguments.isEmpty && signalTypes.contains name
  | _ => false

/-- What the shape of an initializer says. -/
inductive CallShape where
  /-- A call of a function that creates signals. -/
  | signalFactory
  | inconclusive
  /-- A call through a member other than `required`, which settles the field. -/
  | unsupportedMember
  deriving DecidableEq, Repr, Inhabited

/-- The public name of a shape. -/
def CallShape.name : CallShape → String
  | signalFactory => "signal_factory"
  | inconclusive => "inconclusive"
  | unsupportedMember => "unsupported_member"

/-- The shape of a call with this callee, once a member access is taken off. -/
def plainShape (functions : List String) : Expression → CallShape
  | .identifier name _ => if functions.contains name then .signalFactory else .inconclusive
  | _ => .inconclusive

/-- The shape of a call with this callee. At most one member access is taken off; a property with a
public name other than `required` settles the field instead. -/
def calleeShape (functions : List String) : Expression → CallShape
  | .member object (.identifier property _) _ _ _ =>
    if property ≠ requiredMember then .unsupportedMember else plainShape functions object
  | .member object _ _ _ _ => plainShape functions object
  | callee => plainShape functions callee

/-- The shape of an initializer. -/
def callShape (functions : List String) : Expression → CallShape
  | .call callee _ _ _ => calleeShape functions callee
  | _ => .inconclusive

end SignalLint
