import SignalLint.TypeScript.Parse

/-!
# Parts that types, expressions and classes share

Names of properties, arguments, decorators, patterns, parameters and type arguments.
-/

namespace SignalLint

namespace TypeScript

open Parse

/-- Words that cannot name anything. -/
def reservedWords : List String :=
  ["break", "case", "catch", "class", "const", "continue", "debugger", "default", "delete", "do",
    "else", "enum", "export", "extends", "false", "finally", "for", "function", "if", "import",
    "in", "instanceof", "new", "null", "return", "super", "switch", "this", "throw", "true", "try",
    "typeof", "var", "void", "while", "with"]

/-- Whether a token can name a variable. -/
def isName (t : Token) : Bool := t.kind = .word && !reservedWords.contains t.text

/-- A name in a given role. -/
def name (kind : String) : Parse Tree := do
  let t ← token
  guard (isName t)
  leaf kind t

/-- Any word in a given role, reserved or not. -/
def anyName (kind : String) : Parse Tree := do
  leaf kind (← tokenOf .word)

/-- Whether a token can start the name of a property. -/
def startsPropertyName (t : Token) : Bool :=
  [TokenKind.word, .privateName, .string, .number].contains t.kind || isPunct t "["

/-- Words that may stand in front of a constructor parameter and make it a property. -/
def parameterModifiers : List String := ["public", "private", "protected", "override", "readonly"]

/-- A modifier of a parameter: the word, with a pattern behind it. -/
def parameterModifier : Parse Token := do
  let t ← token
  guard (parameterModifiers.any (isWord t))
  let p ← peek
  guard (p.kind = .word || isPunct p "[" || isPunct p "\x7b")
  return t

namespace Grammar

/-- `expression, expression` -/
def sequence (g : Grammar) : Parse Tree := do
  let start ← start
  match ← commaList g.expression with
  | [e] => return e
  | es => node "sequence_expression" start es

/-- `...expression` or an expression. -/
def element (g : Grammar) : Parse Tree := do
  let start ← start
  if ← punct? "..." then
    let e ← g.expression
    node "spread_element" start [e]
  else g.expression

/-- `(a, ...b)` -/
def arguments (g : Grammar) : Parse Tree := do
  let t ← punct "("
  let es ← inside (commaSeparated g.element ")")
  node "arguments" t.start es

/-- `<T, U>` -/
def typeArguments (g : Grammar) : Parse Tree := do
  let t ← punct "<"
  let ts ← commaSeparated g.type ">"
  node "type_arguments" t.start ts

/-- One type parameter, with its bound and its default. -/
def typeParameter (g : Grammar) : Parse Tree := do
  let start ← start
  let _ ← many do
    let t ← token
    guard (["const", "in", "out"].any (isWord t))
    guard ((← peek).kind = .word)
  let n ← anyName "type_identifier"
  let bound ← attempt (do let _ ← word "extends"; g.type)
  let fallback ← attempt (do let _ ← punct "="; g.type)
  node "type_parameter" start (held "name" n :: bound.toList ++ fallback.toList)

/-- `<T extends U = V>` -/
def typeParameters (g : Grammar) : Parse Tree := do
  let t ← punct "<"
  let ps ← commaSeparated g.typeParameter ">"
  node "type_parameters" t.start ps

/-- `: T` -/
def typed (g : Grammar) : Parse Tree := do
  let t ← punct ":"
  node "type_annotation" t.start [← g.type]

/-- `= value` -/
def initializer (g : Grammar) : Parse Tree := do
  let _ ← punct "="
  g.expression

/-- The name of a property: a word, a private name, a literal, or an expression in brackets. -/
def propertyName (g : Grammar) : Parse Tree := do
  let t ← token
  match t.kind with
  | .word => leaf "property_identifier" t
  | .privateName => leaf "private_property_identifier" t
  | .string => leaf "string" t
  | .number => leaf "number" t
  | _ =>
    guard (isPunct t "[")
    let e ← inside g.sequence
    let _ ← punct "]"
    node "computed_property_name" t.start [e]

/-! ### Decorators -/

/-- `a.b.c` -/
def dottedExpression : Parse Tree := do
  let start ← start
  let first ← anyName "identifier"
  extend (fun e => do
    let _ ← punct "."
    let t ← token
    let p ← match t.kind with
      | .word => leaf "property_identifier" t
      | .privateName => leaf "private_property_identifier" t
      | _ => fail
    node "member_expression" start [held "object" e, held "property" p]) first

/-- A dotted name, called or not. -/
def decoratorTarget (g : Grammar) : Parse Tree := do
  let start ← start
  let target ← dottedExpression
  let call : Parse Tree := do
    let types ← attempt g.typeArguments
    let arguments ← g.arguments
    node "call_expression" start
      (held "function" target :: (types.map (held "type_arguments")).toList ++
        [held "arguments" arguments])
  call <|> pure target

/-- `@name`, `@name(…)` or `@(name)` -/
def decorator (g : Grammar) : Parse Tree := do
  let t ← punct "@"
  let p ← peek
  if isPunct p "(" then
    goTo p.stop
    let target ← inside g.sequence
    let _ ← punct ")"
    let inner ← node "parenthesized_expression" p.start [target]
    node "decorator" t.start [inner]
  else node "decorator" t.start [← g.decoratorTarget]

/-- Decorators, as children of what they decorate. -/
def decorators (g : Grammar) : Parse (List Tree) := do
  return (← many g.decorator).map (held "decorator")

/-! ### Patterns -/

mutual

/-- What a binding binds, with patterns nested at most so deep. -/
def patternWithin (g : Grammar) : (depth : Nat) → Parse Tree
  | 0 => fail
  | depth + 1 => do
    let t ← token
    if isName t then leaf "identifier" t
    else if isPunct t "[" then
      let ps ← commaSeparated (elementPattern g depth) "]"
      node "array_pattern" t.start ps
    else if isPunct t "\x7b" then
      let ps ← commaSeparated (propertyPattern g depth) "\x7d"
      node "object_pattern" t.start ps
    else fail

/-- A pattern with a default, or the rest. -/
def elementPattern (g : Grammar) : (depth : Nat) → Parse Tree
  | 0 => fail
  | depth + 1 => do
    let start ← start
    if ← punct? "..." then
      node "rest_pattern" start [← patternWithin g depth]
    else
      let p ← patternWithin g depth
      match ← attempt (inside g.initializer) with
      | none => return p
      | some value => node "assignment_pattern" start [held "left" p, held "right" value]

/-- A property of an object pattern. -/
def propertyPattern (g : Grammar) : (depth : Nat) → Parse Tree
  | 0 => fail
  | depth + 1 => do
    let start ← start
    let t ← peek
    if isPunct t "..." then elementPattern g depth
    else
      let key ← g.propertyName
      if ← punct? ":" then
        let value ← elementPattern g depth
        node "pair_pattern" start [held "key" key, held "value" value]
      else
        guard (isName t)
        let p ← leaf "shorthand_property_identifier_pattern" t
        match ← attempt (inside g.initializer) with
        | none => return p
        | some value =>
          node "object_assignment_pattern" start [held "left" p, held "right" value]

end

/-- What a binding binds. -/
def pattern (g : Grammar) : Parse Tree := fun env i =>
  g.patternWithin (2 * (env.source.size - i) + 2) env i

/-! ### Parameters -/

/-- One parameter. -/
def parameter (g : Grammar) : Parse Tree := do
  let start ← start
  let ds ← g.decorators
  let _ ← many parameterModifier
  let rest ← punct? "..."
  let t ← peek
  let p ←
    if isWord t "this" then
      goTo t.stop
      leaf "this" t
    else g.pattern
  let optional ← punct? "?"
  let type ← attempt g.typed
  let value ← attempt (inside g.initializer)
  node (if optional then "optional_parameter" else "required_parameter") start
    (ds ++ [held (if rest then "rest" else "pattern") p] ++ (type.map (held "type")).toList ++
      (value.map (held "value")).toList)

/-- `(a: T, b = 1)` -/
def parameters (g : Grammar) : Parse Tree := do
  let t ← punct "("
  let ps ← inside (commaSeparated g.parameter ")")
  node "formal_parameters" t.start ps

/-- The declared type of a result: a type, a predicate about an argument, or an assertion. -/
def resultType (g : Grammar) : Parse Tree := do
  let colon ← punct ":"
  let t ← peek
  let predicate : Parse Tree := do
    let subject ← tokenOf .word
    let verb ← word "is"
    guard (!verb.afterBreak)
    let _ ← leaf "identifier" subject
    let type ← g.type
    let p ← node "type_predicate" subject.start [held "type" type]
    node "type_predicate_annotation" colon.start [p]
  let assertion : Parse Tree := do
    let _ ← word "asserts"
    let subject ← tokenOf .word
    guard (!subject.afterBreak && subject.text ≠ "is")
    let type ← attempt (do let _ ← word "is"; g.type)
    let a ← node "asserts" t.start type.toList
    node "asserts_annotation" colon.start [a]
  let plain : Parse Tree := do node "type_annotation" colon.start [← g.type]
  assertion <|> predicate <|> plain

/-- Type parameters, parameters and the type of the result, as children of a function. -/
def signature (g : Grammar) : Parse (List Tree) := do
  let types ← attempt g.typeParameters
  let params ← g.parameters
  let result ← attempt g.resultType
  return (types.map (held "type_parameters")).toList ++ [held "parameters" params] ++
    (result.map (held "return_type")).toList

/-! ### Blocks -/

/-- Statements up to a closing brace. What is no statement is skipped token by token. -/
def statements (g : Grammar) : Parse (List Tree) :=
  many do
    let t ← peek
    guard (!isPunct t "\x7d" && t.kind ≠ .done)
    g.statement <|> do
      goTo t.stop
      leaf "ERROR" t

/-- Statements in braces. -/
def block (g : Grammar) : Parse Tree := do
  let t ← punct "\x7b"
  let ss ← inside g.statements
  let _ ← punct "\x7d"
  node "statement_block" t.start ss

end Grammar

end TypeScript

end SignalLint
