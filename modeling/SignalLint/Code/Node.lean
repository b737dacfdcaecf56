import SignalLint.Code.Span

/-!
# Nodes that rules look at

Only the shapes a rule asks about have constructors of their own. Every other expression or type
keeps the name of its grammar node and its text.

* `Expression`: names, `this`, member accesses, calls and `new` expressions;
* `TypeNode`: named types, generic when they have arguments;
* `Decorator` and `Field`: what a class body contributes;
* `Node`: any of these, as handed to a rule, with its `NodeKind`.
-/

namespace SignalLint

/-- A type name, dotted or not: `Signal`, `core.Signal`. -/
inductive TypeName where
  | simple (name : String) (span : Span)
  | qualified (left : TypeName) (right : String) (rightSpan : Span) (span : Span)
  deriving DecidableEq, Repr, Inhabited

/-- A declared type. -/
inductive TypeNode where
  /-- A named type; generic when `arguments` is not empty. -/
  | reference (name : TypeName) (arguments : List TypeNode) (span : Span)
  /-- Any other type, with its grammar node and its text. -/
  | other (grammar : String) (text : String) (span : Span)
  deriving Repr, Inhabited

/-- An expression. -/
inductive Expression where
  | identifier (name : String) (span : Span)
  /-- A private name; the name keeps its `#`. -/
  | privateIdentifier (name : String) (span : Span)
  | this (span : Span)
  /-- `object.property`, or `object[property]` when `computed`. -/
  | member (object property : Expression) (computed optional : Bool) (span : Span)
  | call (callee : Expression) (arguments : List Expression) (typeArguments : List TypeNode)
      (span : Span)
  /-- `new callee(arguments)`. -/
  | construct (callee : Expression) (arguments : List Expression) (typeArguments : List TypeNode)
      (span : Span)
  /-- Any other expression, with its grammar node and its text. -/
  | other (grammar : String) (text : String) (span : Span)
  deriving Repr, Inhabited

/-- `@expression` -/
structure Decorator where
  expression : Expression
  span : Span
  deriving Repr, Inhabited

/-- The three ways to declare a class field. -/
inductive FieldKind where
  | plain
  /-- `abstract x: T`, which has no storage. -/
  | abstract
  /-- `accessor x = 1`, which cannot be readonly. -/
  | accessor
  deriving DecidableEq, Repr, Inhabited

/-- A class field. -/
structure Field where
  kind : FieldKind
  key : Expression
  declaredType : Option TypeNode
  value : Option Expression
  isReadonly : Bool
  isStatic : Bool
  decorators : List Decorator
  className : Option String
  span : Span
  deriving Repr, Inhabited

/-- Anything a rule can be handed. -/
inductive Node where
  | expression (e : Expression)
  | typeName (n : TypeName)
  | type (t : TypeNode)
  | decorator (d : Decorator)
  | field (f : Field)
  deriving Repr, Inhabited

namespace TypeName

def span : TypeName → Span
  | simple _ s => s
  | qualified _ _ _ s => s

/-- The last part of a type name: `Signal` of `core.Signal`. -/
def last : TypeName → String
  | simple name _ => name
  | qualified _ right _ _ => right

end TypeName

namespace TypeNode

def span : TypeNode → Span
  | reference _ _ s => s
  | other _ _ s => s

/-- The name of the symbol a declared type stands for: the last part of a named type. -/
def symbol? : TypeNode → Option String
  | reference name _ _ => some name.last
  | other .. => none

end TypeNode

namespace Expression

def span : Expression → Span
  | identifier _ s => s
  | privateIdentifier _ s => s
  | this s => s
  | member _ _ _ _ s => s
  | call _ _ _ s => s
  | construct _ _ _ s => s
  | other _ _ s => s

/-- The name of an identifier, private or not. -/
def name? : Expression → Option String
  | identifier name _ => some name
  | privateIdentifier name _ => some name
  | _ => none

end Expression

/-- The kinds of nodes, by which selectors choose. -/
inductive NodeKind where
  | identifier
  | privateIdentifier
  | thisExpression
  | memberExpression
  | callExpression
  | newExpression
  | otherExpression
  | qualifiedName
  | typeReference
  | otherType
  | decorator
  | field (kind : FieldKind)
  deriving DecidableEq, Repr, Inhabited

namespace NodeKind

/-- Every kind, in the order in which they are documented. -/
def all : List NodeKind :=
  [identifier, privateIdentifier, thisExpression, memberExpression, callExpression, newExpression,
    otherExpression, qualifiedName, typeReference, otherType, decorator, field .plain,
    field .abstract, field .accessor]

/-- The public name of a kind. -/
def name : NodeKind → String
  | identifier => "Identifier"
  | privateIdentifier => "PrivateIdentifier"
  | thisExpression => "ThisExpression"
  | memberExpression => "MemberExpression"
  | callExpression => "CallExpression"
  | newExpression => "NewExpression"
  | otherExpression => "OpaqueExpression"
  | qualifiedName => "QualifiedName"
  | typeReference => "TypeReference"
  | otherType => "OpaqueType"
  | decorator => "Decorator"
  | field .plain => "PropertyDefinition"
  | field .abstract => "TSAbstractPropertyDefinition"
  | field .accessor => "AccessorProperty"

/-- The kind with this public name. -/
def ofName? (text : String) : Option NodeKind :=
  all.find? (·.name == text)

end NodeKind

namespace Node

def span : Node → Span
  | expression e => e.span
  | typeName n => n.span
  | type t => t.span
  | decorator d => d.span
  | field f => f.span

def kind : Node → NodeKind
  | expression (.identifier ..) => .identifier
  | expression (.privateIdentifier ..) => .privateIdentifier
  | expression (.this _) => .thisExpression
  | expression (.member ..) => .memberExpression
  | expression (.call ..) => .callExpression
  | expression (.construct ..) => .newExpression
  | expression (.other ..) => .otherExpression
  | typeName (.simple ..) => .identifier
  | typeName (.qualified ..) => .qualifiedName
  | type (.reference ..) => .typeReference
  | type (.other ..) => .otherType
  | decorator _ => .decorator
  | field f => .field f.kind

/-- Whether a node is declared readonly; only fields can be. -/
def isReadonly : Node → Bool
  | field f => f.isReadonly
  | _ => false

end Node

end SignalLint
