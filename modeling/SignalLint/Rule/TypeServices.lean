import SignalLint.Code.Unit
import SignalLint.Rule.Evidence

/-!
# Type services

What a run knows about types. `TypeServices.ofDeclarations` resolves an expression from the
declarations of its own file: what `new X()` makes, what local functions and methods are declared
to return, and what local variables and members hold. An initializer is followed at most
`maxHops` times, which also ends every circle of declarations.
-/

namespace SignalLint

/-- How many initializers a resolution follows. -/
def maxHops : Nat := 8

/-- The name after `this.`, for a member of `this` that is not computed. -/
def thisMember? : Expression → Option String
  | .member (.this _) property false _ _ => property.name?
  | _ => none

/-- What one step of a resolution finds. -/
inductive Resolution where
  /-- The symbol, or that there is none. -/
  | done (symbol : Option String)
  /-- What the initializer resolves to. -/
  | follow (initializer : Expression)
  deriving Repr, Inhabited

namespace DeclarationIndex

/-- A declared type decides; without one the initializer is followed. -/
def resolveDeclaration : Option Declaration → Resolution
  | none => .done none
  | some d =>
    match d.declaredType, d.value with
    | some type, _ => .done type.symbol?
    | none, some value => .follow value
    | none, none => .done none

/-- One step of resolving an expression. -/
def step (index : DeclarationIndex) (e : Expression) : Resolution :=
  match e with
  | .construct (.identifier name _) _ _ _ => .done (some name)
  | .construct .. => .done none
  | .call (.identifier name _) _ _ _ => .done ((index.functionType? name).bind TypeNode.symbol?)
  | .call callee _ _ _ =>
    match thisMember? callee with
    | some name =>
      .done ((index.methodType? callee.span.startByte name).bind TypeNode.symbol?)
    | none => .done none
  | .identifier name _ => resolveDeclaration (index.bindings.get? name)
  | e =>
    match thisMember? e with
    | some name => resolveDeclaration (index.member? e.span.startByte name)
    | none => .done none

/-- The symbol of an expression, with at most `hops` initializers followed. -/
def resolve (index : DeclarationIndex) : (hops : Nat) → Expression → Option String
  | 0, e =>
    match index.step e with
    | .done symbol => symbol
    | .follow _ => none
  | hops + 1, e =>
    match index.step e with
    | .done symbol => symbol
    | .follow initializer => index.resolve hops initializer

/-- The symbol of an expression's type, if the file says. -/
def symbol? (index : DeclarationIndex) (e : Expression) : Option String := index.resolve maxHops e

end DeclarationIndex

/-- Where type information comes from. -/
inductive TypeServices where
  /-- The declarations of the file. -/
  | ofDeclarations (index : DeclarationIndex)
  /-- The same answer for every expression. -/
  | fixed (symbol : Option String)
  deriving Repr, Inhabited

namespace TypeServices

/-- The symbol of an expression's type. -/
def symbol? (services : TypeServices) (e : Expression) : Option String :=
  match services with
  | ofDeclarations index => index.symbol? e
  | fixed symbol => symbol

end TypeServices

/-- Whether an expression resolves to a signal type. -/
def checkerEvidence (services : TypeServices) (e : Expression) : Bool :=
  (services.symbol? e).any signalTypes.contains

/-- What type information a run is given. -/
inductive TypeSupply where
  /-- None. -/
  | none
  | declarations
  | fixed (symbol : Option String)
  deriving DecidableEq, Repr, Inhabited

/-- The services that a run builds for a unit. -/
def TypeSupply.services? (supply : TypeSupply) (unit : SourceUnit) : Option TypeServices :=
  match supply with
  | none => Option.none
  | declarations => some (.ofDeclarations unit.declarations)
  | fixed symbol => some (.fixed symbol)

end SignalLint
