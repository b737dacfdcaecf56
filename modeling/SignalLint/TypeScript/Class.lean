import SignalLint.TypeScript.Expression

/-!
# Classes

Members keep everything that rules look at: decorators, modifiers, names, declared types and
initializers. A modifier is told from a member of the same name by what follows it.
-/

namespace SignalLint

namespace TypeScript

open Parse

/-- Words that may stand in front of a member. -/
def memberModifiers : List String :=
  ["declare", "public", "private", "protected", "static", "override", "readonly", "abstract",
    "accessor", "async", "get", "set"]

/-- Modifiers that no member can be named after. -/
def unnamableModifiers : List String := ["abstract", "accessor"]

/-- A modifier: the word, with the rest of the member behind it. A word that ends its line names a
member. -/
def memberModifier : Parse Tree := do
  let t ← token
  guard (memberModifiers.any (isWord t))
  let p ← peek
  guard (startsPropertyName p || isPunct p "*")
  guard (!p.afterBreak || isPunct p "[" || isPunct p "*" || unnamableModifiers.contains t.text)
  match t.text with
  | "public" | "private" | "protected" => leaf "accessibility_modifier" t
  | "override" => leaf "override_modifier" t
  | _ => bare t

namespace Grammar

/-- `[key: string]: T` -/
def indexSignature (g : Grammar) (start : Nat) : Parse Tree := do
  let _ ← punct "["
  let _ ← tokenOf .word
  if ← punct? ":" then
    let _ ← g.type
  else
    let _ ← word "in"
    let _ ← g.type
  let _ ← punct "]"
  let _ ← many (punct "?" <|> punct "-" <|> punct "+")
  let _ ← attempt g.typed
  node "index_signature" start []

/-- A method with or without a body, whose name has been read. -/
def method (g : Grammar) (start : Nat) (modifiers : List Tree) (key : Tree) : Parse Tree := do
  let parts ← g.signature
  let inner := modifiers ++ [held "name" key] ++ parts
  if isPunct (← peek) "\x7b" then
    let body ← g.block
    node "method_definition" start (inner ++ [held "body" body])
  else if modifiers.any (·.kind == "abstract") then node "abstract_method_signature" start inner
  else node "method_signature" start inner

/-- A field, whose name has been read. -/
def field (g : Grammar) (start : Nat) (front : List Tree) (key : Tree) : Parse Tree := do
  let type ← attempt g.typed
  let value ← attempt (inside g.initializer)
  node "public_field_definition" start
    (front ++ [held "name" key] ++ (type.map (held "type")).toList ++
      (value.map (held "value")).toList)

/-- `static { … }` -/
def staticBlock (g : Grammar) : Parse Tree := do
  let t ← word "static"
  let body ← g.block
  node "class_static_block" t.start [held "body" body]

/-- A member, with what it adds to the class body: the decorators of a method stand beside the
method, those of a field belong to the field. -/
def member (g : Grammar) : Parse (List Tree) := do
  let outer ← start
  let ds ← g.decorators
  let start ← start
  let modifiers ← many memberModifier
  let star ← punct? "*"
  let fieldStart := if ds.isEmpty then start else outer
  let signature : Parse (List Tree) := do
    guard (!star)
    return ds ++ [← g.indexSignature start]
  let named : Parse (List Tree) := do
    let key ← g.propertyName
    let mark ← peek
    if isPunct mark "?" || (isPunct mark "!" && !mark.afterBreak) then goTo mark.stop
    let p ← peek
    if isPunct p "(" || isPunct p "<" then return ds ++ [← g.method start modifiers key]
    else return [← g.field fieldStart (ds ++ modifiers) key]
  signature <|> named

/-- A class body. What is no member is skipped token by token. -/
def classBody (g : Grammar) : Parse Tree := do
  let t ← punct "\x7b"
  let members ← inside <| many do
    let p ← peek
    guard (!isPunct p "\x7d" && p.kind ≠ .done)
    if isPunct p ";" || isPunct p "," then
      goTo p.stop
      return []
    else
      (do return [← g.staticBlock]) <|> g.member <|> do
        goTo p.stop
        return [← leaf "ERROR" p]
  let _ ← punct "\x7d"
  node "class_body" t.start members.flatten

/-- What a class extends, and the types it implements. -/
def heritage (g : Grammar) (classValue : Parse Tree) : Parse (List Tree) := do
  let start ← start
  let base ← attempt do
    let _ ← word "extends"
    let es ← commaList do
      let e ← g.chain classValue
      let types ← attempt g.typeArguments
      return held "value" e :: (types.map (held "type_arguments")).toList
    node "extends_clause" start es.flatten
  let implemented ← attempt do
    let t ← word "implements"
    let ts ← commaList g.type
    node "implements_clause" t.start ts
  if base.isNone && implemented.isNone then return []
  return [← node "class_heritage" start (base.toList ++ implemented.toList)]

/-- A class from its decorators on, up to its body. A class that a statement declares has a name;
as a value it need not have one. Classes are nested at most so deep. -/
def classWithin (g : Grammar) (declares : Bool) : (depth : Nat) → Parse Tree
  | 0 => fail
  | depth + 1 => do
    let start ← start
    let ds ← g.decorators
    let abstract_ ← word? "abstract"
    let _ ← word "class"
    let own ← attempt (do
      let t ← peek
      guard (isName t && t.text ≠ "implements")
      anyName "type_identifier")
    guard (!declares || own.isSome)
    let types ← attempt g.typeParameters
    let above ← g.heritage (classWithin g false depth)
    let body ← g.classBody
    let kind :=
      if !declares then "class"
      else if abstract_ then "abstract_class_declaration"
      else "class_declaration"
    node kind start (ds ++ (own.map (held "name")).toList ++
      (types.map (held "type_parameters")).toList ++ above ++ [held "body" body])

/-- A class. -/
def classOf (g : Grammar) (declares : Bool) : Parse Tree := fun env i =>
  g.classWithin declares (env.source.size + 1 - i) env i

/-- An expression without commas. -/
def anyExpression (g : Grammar) : Parse Tree := g.assignment (g.classOf false)

/-- An expression that starts with `new`. -/
def anyConstruction (g : Grammar) : Parse Tree := g.newExpression (g.classOf false)

/-- Any expression. -/
def anySequence (g : Grammar) : Parse Tree := do
  let start ← start
  match ← commaList g.anyExpression with
  | [e] => return e
  | es => node "sequence_expression" start es

end Grammar

end TypeScript

end SignalLint
