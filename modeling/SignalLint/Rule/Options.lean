/-!
# Options of the rule

What the rule can be told: which constructors to report, which checks to make, whether to ask for
types, and which further functions create signals.
-/

namespace SignalLint

/-- Options with flags of one type and names of another. Resolved options have truth values and
texts; options as they were given may hold anything. -/
structure Options (Flag Name : Type) where
  /-- Constructors reported as legacy observables; none switches the check off. -/
  typesToReplace : List Name
  /-- Report signal fields that are not readonly. -/
  preferReadonly : Flag
  /-- Report input decorators. -/
  preferInputSignal : Flag
  /-- Report query decorators. -/
  preferQuerySignal : Flag
  /-- Ask for types when the syntax is inconclusive. -/
  useTypeChecking : Flag
  /-- Further functions that create signals. -/
  signalCreationFunctions : List Name
  deriving DecidableEq, Repr, Inhabited

/-- The options that the rule runs with. -/
abbrev RuleOptions := Options Bool String

namespace Options

/-- Options with every flag and every name changed. -/
def map {F N G M : Type} (flag : F → G) (name : N → M) (o : Options F N) : Options G M where
  typesToReplace := o.typesToReplace.map name
  preferReadonly := flag o.preferReadonly
  preferInputSignal := flag o.preferInputSignal
  preferQuerySignal := flag o.preferQuerySignal
  useTypeChecking := flag o.useTypeChecking
  signalCreationFunctions := o.signalCreationFunctions.map name

end Options

/-- The options of a rule that is told nothing: all checks, for the one standard constructor. -/
def RuleOptions.default : RuleOptions where
  typesToReplace := ["BehaviorSubject"]
  preferReadonly := true
  preferInputSignal := true
  preferQuerySignal := true
  useTypeChecking := true
  signalCreationFunctions := []

end SignalLint
