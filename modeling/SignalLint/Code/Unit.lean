import SignalLint.Code.Node
import SignalLint.Code.Table

/-!
# Source units

A unit is one parsed file: the nodes a rule visits, in document order, and an index of what the
file declares. Class members are keyed by the class that declares them, so that `this.f` only ever
resolves against the class the expression stands in (`DeclarationIndex.enclosingClass?`).
-/

namespace SignalLint

/-- A named binding with its declared type and its initializer. -/
structure Declaration where
  name : String
  declaredType : Option TypeNode := none
  value : Option Expression := none
  deriving Repr, Inhabited

/-- The byte range of one class; an anonymous class has no name. -/
structure ClassScope where
  name : Option String
  startByte : Nat
  endByte : Nat
  deriving DecidableEq, Repr, Inhabited

/-- Whether a byte offset lies in the class. -/
def ClassScope.Contains (scope : ClassScope) (offset : Int) : Prop :=
  scope.startByte ≤ offset ∧ offset < scope.endByte

instance (scope : ClassScope) (offset : Int) : Decidable (scope.Contains offset) :=
  inferInstanceAs (Decidable (_ ∧ _))

/-- A class member: the start of the class that declares it, and its name. -/
structure MemberKey where
  classStart : Nat
  name : String
  deriving DecidableEq, Repr, Inhabited

/-- What one file declares. -/
structure DeclarationIndex where
  /-- The declared return type of each function. -/
  functions : Table String (Option TypeNode) := .empty
  /-- The first declaration of each variable that holds no function. -/
  bindings : Table String Declaration := .empty
  /-- Every class of the file, in document order. -/
  classes : List ClassScope := []
  /-- Fields and getters. -/
  members : Table MemberKey Declaration := .empty
  /-- The declared return type of each method. -/
  methods : Table MemberKey (Option TypeNode) := .empty
  deriving Repr, Inhabited

namespace DeclarationIndex

/-- The class in which an offset stands: of all that contain it the one that starts last; of two
that start together the later one. -/
def enclosingClass? (index : DeclarationIndex) (offset : Int) : Option ClassScope :=
  index.classes.foldl (fun innermost scope =>
    match innermost with
    | none => if scope.Contains offset then some scope else none
    | some best =>
      if scope.Contains offset ∧ best.startByte ≤ scope.startByte then some scope else some best)
    none

/-- The field or getter that `this.name` means at an offset. -/
def member? (index : DeclarationIndex) (offset : Int) (name : String) : Option Declaration :=
  (index.enclosingClass? offset).bind fun scope => index.members.get? ⟨scope.startByte, name⟩

/-- The declared return type of the method that `this.name()` means at an offset. -/
def methodType? (index : DeclarationIndex) (offset : Int) (name : String) : Option TypeNode :=
  (index.enclosingClass? offset).bind fun scope =>
    (index.methods.get? ⟨scope.startByte, name⟩).join

/-- The declared return type of a function. -/
def functionType? (index : DeclarationIndex) (name : String) : Option TypeNode :=
  (index.functions.get? name).join

end DeclarationIndex

/-- One parsed file. -/
structure SourceUnit where
  path : String
  language : String := "typescript"
  source : Bytes := []
  nodes : List Node := []
  declarations : DeclarationIndex := {}
  hasErrors : Bool := false
  deriving Repr, Inhabited

end SignalLint
