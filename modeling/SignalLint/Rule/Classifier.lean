import SignalLint.Rule.Context
import SignalLint.Rule.Options

/-!
# Deciding whether a field holds a signal

A declared type decides alone. Without one, the shape of the initializer's call is looked at, and
only when it is inconclusive, and type checking is on, the type services are asked. A field with
neither is never a candidate.
-/

namespace SignalLint

namespace RuleOptions

/-- All functions that create signals under these options. -/
def creationFunctions (o : RuleOptions) : List String :=
  signalFunctions ++ o.signalCreationFunctions

end RuleOptions

/-- How a field is decided. -/
inductive Judgement where
  /-- By the syntax alone. -/
  | settled (isSignal : Bool)
  /-- By the type of this initializer. -/
  | needsTypes (initializer : Expression)
  deriving Repr, Inhabited

/-- What the syntax says about a field. -/
def RuleOptions.judge (o : RuleOptions) (f : Field) : Judgement :=
  match f.declaredType, f.value with
  | some type, _ => .settled (declaredTypeEvidence type)
  | none, none => .settled false
  | none, some value =>
    match callShape o.creationFunctions value with
    | .signalFactory => .settled true
    | .unsupportedMember => .settled false
    | .inconclusive => if o.useTypeChecking then .needsTypes value else .settled false

namespace RunM

/-- Whether a field is a signal that should be readonly. -/
def isCandidate (o : RuleOptions) (f : Field) : RunM Bool := do
  match o.judge f with
  | .settled isSignal => return isSignal
  | .needsTypes initializer =>
    let candidate := checkerEvidence (← services) initializer
    if candidate then
      let owner := match f.className with
        | some name => if name.isEmpty then "<anonymous class>" else name
        | none => "<anonymous class>"
      log .debug .evidence (Log.about (← read).unit.path
        s!"line {f.span.startLine}: field of {owner} resolved to a signal type")
    return candidate

end RunM

end SignalLint
