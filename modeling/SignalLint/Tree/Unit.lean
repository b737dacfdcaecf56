import SignalLint.Code.Unit
import SignalLint.Tree.Convert

/-!
# Reading a unit off a parse tree

One walk over the tree in document order. Each visited node adds at most one `Contribution`: `new`
expressions, class fields and decorators become nodes of the unit, and functions, variables and
class members enter the declaration index, where the first declaration of a name wins
(`DeclarationIndex.add`).
-/

namespace SignalLint

/-- What one tree node adds to a unit. -/
inductive Contribution where
  /-- A `new` expression. -/
  | construct (e : Expression)
  | classScope (scope : ClassScope)
  /-- A class field, with the start of the class that declares it. -/
  | field (f : Field) (owner : Option Nat)
  | decorator (d : Decorator)
  | function (name : String) (returnType : Option TypeNode)
  | variable (name : String) (declaredType : Option TypeNode) (value : Option Expression)
  | getter (key : MemberKey) (returnType : Option TypeNode)
  | method (key : MemberKey) (returnType : Option TypeNode)
  deriving Repr, Inhabited

/-- The node that rules see, for the entries that have one. -/
def Contribution.node? : Contribution → Option Node
  | .construct e => some (.expression e)
  | .field f _ => some (.field f)
  | .decorator d => some (.decorator d)
  | _ => none

/-- Enters a declaration; what is there already stays. -/
def DeclarationIndex.add (index : DeclarationIndex) : Contribution → DeclarationIndex
  | .classScope scope => { index with classes := index.classes ++ [scope] }
  | .field f owner =>
    match owner, f.key.name? with
    | some start, some name =>
      { index with members := index.members.insertNew ⟨start, name⟩ ⟨name, f.declaredType, f.value⟩ }
    | _, _ => index
  | .function name returnType =>
    { index with functions := index.functions.insertNew name returnType }
  | .variable name declaredType value =>
    { index with bindings := index.bindings.insertNew name ⟨name, declaredType, value⟩ }
  | .getter key returnType =>
    { index with members := index.members.insertNew key ⟨key.name, returnType, none⟩ }
  | .method key returnType =>
    { index with methods := index.methods.insertNew key returnType }
  | .construct _ | .decorator _ => index

namespace Tree

/-- A decorator node; its expression is its first part. -/
def toDecorator (source : Bytes) (t : Tree) : Decorator :=
  match t.operand? with
  | some e => ⟨e.toExpression source, t.span⟩
  | none => ⟨.other "missing" "" t.span, t.span⟩

/-- The declared name of a class. -/
def className? (source : Bytes) (t : Tree) : Option String :=
  (t.child? "name").map (·.text source)

/-- The last of the words `abstract` and `accessor` among the tokens of a field decides its kind. -/
def fieldKind (t : Tree) : FieldKind :=
  t.children.foldl (fun kind c =>
    if c.kind == "abstract" then .abstract
    else if c.kind == "accessor" then .accessor
    else kind) .plain

/-- The key of a field. -/
def fieldKey (source : Bytes) (t : Tree) : Expression :=
  match (t.child? "name").or (t.child? "property") with
  | some name => name.toExpression source
  | none => .other "missing" "" t.span

/-- The declared return type of a function or method node. -/
def returnType (source : Bytes) (t : Tree) : Option TypeNode :=
  t.declaredTypeAt source "return_type"

end Tree

namespace Visit

/-- A class field, named after the nearest class above it. -/
def toField (v : Visit) (source : Bytes) : Field where
  kind := v.tree.fieldKind
  key := v.tree.fieldKey source
  declaredType := v.tree.declaredTypeAt source "type"
  value := (v.tree.child? "value").map (·.toExpression source)
  isReadonly := v.tree.children.any (·.kind == "readonly")
  isStatic := v.tree.children.any (·.kind == "static")
  decorators := (v.tree.children.filter (·.kind == "decorator")).map (·.toDecorator source)
  className := v.enclosingClass?.bind (·.className? source)
  span := v.tree.span

/-- The grammar rules of class fields. -/
def fieldKinds : List String := ["public_field_definition", "field_definition"]

/-- The grammar rules of functions with a declared name. -/
def functionKinds : List String :=
  ["function_declaration", "generator_function_declaration", "function_signature"]

/-- The grammar rules of functions that stand as a value. -/
def functionValueKinds : List String := ["arrow_function", "function_expression", "function"]

/-- A variable whose initializer is a function declares a function; a destructured variable
declares nothing. -/
def variableContribution? (v : Visit) (source : Bytes) : Option Contribution :=
  match v.tree.child? "name" with
  | none => none
  | some name =>
    if name.kind != "identifier" then none
    else
      match v.tree.child? "value" with
      | none => some (.variable (name.text source) (v.tree.declaredTypeAt source "type") none)
      | some value =>
        if functionValueKinds.contains value.kind then
          some (.function (name.text source) (value.returnType source))
        else
          some (.variable (name.text source) (v.tree.declaredTypeAt source "type")
            (some (value.toExpression source)))

/-- A method counts only right in a class body; in an object literal it is no class member. -/
def methodContribution? (v : Visit) (source : Bytes) : Option Contribution :=
  match v.tree.child? "name", v.parent?, v.enclosingClass? with
  | some name, some parent, some owner =>
    if parent.kind != "class_body" then none
    else
      let key : MemberKey := ⟨owner.span.startByte, name.text source⟩
      if v.tree.children.any (·.kind == "get") then
        some (.getter key (v.tree.returnType source))
      else some (.method key (v.tree.returnType source))
  | _, _, _ => none

/-- What a visited node adds. -/
def contribution? (v : Visit) (source : Bytes) : Option Contribution :=
  if v.tree.kind == "new_expression" then some (.construct (v.tree.toExpression source))
  else if v.tree.isClass && v.tree.named then
    some (.classScope ⟨v.tree.className? source, v.tree.span.startByte, v.tree.span.endByte⟩)
  else if fieldKinds.contains v.tree.kind then
    some (.field (v.toField source) (v.enclosingClass?.map (·.span.startByte)))
  else if v.tree.kind == "decorator" then some (.decorator (v.tree.toDecorator source))
  else if functionKinds.contains v.tree.kind then
    (v.tree.child? "name").map fun name => .function (name.text source) (v.tree.returnType source)
  else if v.tree.kind == "variable_declarator" then v.variableContribution? source
  else if v.tree.kind == "method_definition" then v.methodContribution? source
  else none

end Visit

/-- Everything a tree adds, in document order. -/
def Tree.contributions (t : Tree) (source : Bytes) : List Contribution :=
  t.walk.filterMap (·.contribution? source)

/-- The index of the declarations among entries. -/
def DeclarationIndex.ofContributions (contributions : List Contribution) : DeclarationIndex :=
  contributions.foldl DeclarationIndex.add {}

/-- The unit of a parse tree. -/
def SourceUnit.ofTree (path language : String) (source : Bytes) (tree : Tree) (hasErrors : Bool) :
    SourceUnit :=
  let found := tree.contributions source
  { path := path
    language := language
    source := source
    nodes := found.filterMap Contribution.node?
    declarations := .ofContributions found
    hasErrors := hasErrors }

end SignalLint
