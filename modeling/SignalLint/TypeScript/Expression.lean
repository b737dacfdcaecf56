import SignalLint.TypeScript.Type

/-!
# Expressions

Calls, member accesses and `new` expressions keep their parts. The tree of a chain of operators is
flat: which operator binds tighter changes no part that anybody asks for, only what the whole is
called.
-/

namespace SignalLint

namespace TypeScript

open Parse

/-- How tightly a binary operator binds. -/
def tightness? (operator : String) : Option Nat :=
  if operator = "??" then some 1
  else if operator = "||" then some 2
  else if operator = "&&" then some 3
  else if operator = "|" then some 4
  else if operator = "^" then some 5
  else if operator = "&" then some 6
  else if ["==", "!=", "===", "!=="].contains operator then some 7
  else if ["<", ">", "<=", ">=", "instanceof", "in", "as", "satisfies"].contains operator then some 8
  else if ["<<", ">>", ">>>"].contains operator then some 9
  else if ["+", "-"].contains operator then some 10
  else if ["*", "/", "%"].contains operator then some 11
  else if operator = "**" then some 12
  else none

/-- The operators that assign. -/
def assignmentOperators : List String :=
  ["=", "+=", "-=", "*=", "/=", "%=", "**=", "&=", "|=", "^=", "<<=", ">>=", ">>>=", "&&=", "||=",
    "??="]

/-- Words that are binary operators. -/
def operatorWords : List String := ["in", "instanceof", "as", "satisfies"]

/-- Whether a token can start an expression. -/
def startsExpression (t : Token) : Bool :=
  match t.kind with
  | .word =>
    !operatorWords.contains t.text &&
      (!reservedWords.contains t.text ||
        ["class", "delete", "false", "function", "import", "new", "null", "super", "this", "true",
          "typeof", "void"].contains t.text)
  | .punctuation =>
    ["(", "[", "\x7b", "+", "-", "~", "!", "++", "--", "<", "/", "/=", "@"].contains t.text
  | .done => false
  | _ => true

/-- Whether type arguments may end in front of a token. A token that could start an operand makes
the angle brackets comparisons instead. -/
def endsTypeArguments (t : Token) : Bool :=
  if isPunct t "(" || t.kind = .template then true
  else if ["<", ">", "+", "-"].any (isPunct t) then false
  else t.afterBreak || !startsExpression t || (t.kind = .punctuation && (tightness? t.text).isSome)

namespace Grammar

/-! ### Templates and functions -/

/-- A template, with the expressions substituted in it. -/
def template (g : Grammar) : Parse Tree := do
  let t ← tokenOf .template
  let s ← source
  let parts ← many do
    let i ← here
    let stop := s.templatePieceEnd i
    guard (s.charAt stop = '$')
    goTo (stop + 2)
    let e ← inside g.sequence
    let _ ← punct "\x7d"
    node "template_substitution" stop [e]
  let stop := s.templatePieceEnd (← here)
  goTo (min (stop + 1) s.size)
  node "template_string" t.start parts

/-- `function name(…) { … }` as a value; it may be asynchronous or a generator. -/
def functionValue (g : Grammar) : Parse Tree := do
  let start ← start
  let _ ← word? "async"
  let _ ← word "function"
  let generator ← punct? "*"
  let own ← attempt (name "identifier")
  let parts ← g.signature
  let body ← g.block
  node (if generator then "generator_function" else "function_expression") start
    ((own.map (held "name")).toList ++ parts ++ [held "body" body])

/-- What stands in front of the body of an arrow function: a single name, or a signature. -/
def arrowHead (g : Grammar) : Parse (List Tree) := do
  let single : Parse (List Tree) := do
    let p ← name "identifier"
    return [held "parameter" p]
  let parts ← single <|> g.signature
  let arrow ← punct "=>"
  guard (!arrow.afterBreak)
  return parts

/-- An arrow function. In the first branch of a conditional one with a declared result must be
followed by the colon of the conditional. -/
def arrowFunction (g : Grammar) : Parse Tree := do
  let start ← start
  let head : Parse (List Tree) :=
    (do
      let t ← word "async"
      guard (!(← peek).afterBreak && t.text = "async")
      g.arrowHead) <|> g.arrowHead
  let parts ← head
  let body ←
    if isPunct (← peek) "\x7b" then g.block else g.expression
  if (← setting).inBranch && parts.any (·.field == some "return_type") then
    guard (isPunct (← peek) ":")
  node "arrow_function" start (parts ++ [held "body" body])

/-- Whether an arrow function may come next: a name or a parenthesis or a type parameter. -/
def mayStartArrow (t : Token) : Bool := isName t || isPunct t "(" || isPunct t "<"

/-! ### Literals of objects and arrays -/

/-- Words that may stand in front of a method. -/
def methodModifiers : List String := ["async", "get", "set"]

/-- A modifier in front of a method, with the name of the method or a star behind it. -/
def methodModifier : Parse Tree := do
  let t ← token
  guard (methodModifiers.any (isWord t))
  let p ← peek
  guard (startsPropertyName p || isPunct p "*")
  bare t

/-- A property of an object. -/
def property (g : Grammar) : Parse Tree := do
  let start ← start
  if isPunct (← peek) "..." then g.element
  else
    let modifiers ← many methodModifier
    let star ← punct? "*"
    let t ← peek
    let key ← g.propertyName
    let p ← peek
    if isPunct p "(" || isPunct p "<" then
      let parts ← g.signature
      let body ← g.block
      node "method_definition" start (modifiers ++ [held "name" key] ++ parts ++ [held "body" body])
    else
      guard (modifiers.isEmpty && !star)
      if ← punct? ":" then
        let value ← inside g.expression
        node "pair" start [held "key" key, held "value" value]
      else
        guard (isName t)
        let short ← leaf "shorthand_property_identifier" t
        match ← attempt (inside g.initializer) with
        | none => return short
        | some value =>
          node "object_assignment_pattern" start [held "left" short, held "right" value]

/-- `{ a, b: 1, c() {} }` -/
def object (g : Grammar) : Parse Tree := do
  let t ← punct "\x7b"
  let ps ← inside (commaSeparated g.property "\x7d")
  node "object" t.start ps

/-- `[a, , ...b]` -/
def array (g : Grammar) : Parse Tree := do
  let t ← punct "["
  let es ← inside (commaSeparated g.element "]")
  node "array" t.start es

/-! ### Primary expressions -/

/-- `(a, b)` -/
def parenthesized (g : Grammar) : Parse Tree := do
  let t ← punct "("
  let e ← inside g.sequence
  let _ ← punct ")"
  node "parenthesized_expression" t.start [e]

/-- A regular expression, at whose slash the next token starts. -/
def regex : Parse Tree := do
  let t ← peek
  let s ← source
  let stop := s.skipWhile Source.isWordPart (s.regexEnd false (t.start + 1))
  goTo stop
  node "regex" t.start []

/-- An expression without operators and without anything behind it. `classValue` reads a class. -/
def primary (g : Grammar) (classValue : Parse Tree) : Parse Tree := do
  let t ← peek
  match t.kind with
  | .string =>
    goTo t.stop
    leaf "string" t
  | .number =>
    goTo t.stop
    leaf "number" t
  | .template => g.template
  | .privateName =>
    goTo t.stop
    leaf "private_property_identifier" t
  | .word =>
    let asWord (kind : String) : Parse Tree := do
      goTo t.stop
      leaf kind t
    if ["this", "super", "null", "true", "false", "undefined"].contains t.text then asWord t.text
    else if t.text = "function" then g.functionValue
    else if t.text = "async" then
      g.functionValue <|> asWord "identifier"
    else if t.text = "class" || t.text = "abstract" then
      classValue <|> (do guard (isName t); asWord "identifier")
    else if t.text = "new" then g.construction <|> asWord "identifier"
    else if t.text = "import" then
      goTo t.stop
      if ← punct? "." then
        let _ ← tokenOf .word
        node "meta_property" t.start []
      else leaf "import" t
    else
      guard (isName t)
      asWord "identifier"
  | .punctuation =>
    if t.text = "(" then g.parenthesized
    else if t.text = "[" then g.array
    else if t.text = "\x7b" then g.object
    else if t.text = "/" || t.text = "/=" then regex
    else if t.text = "@" then classValue
    else fail
  | .done => fail

/-! ### Accesses and calls -/

/-- The name of a property in an access. -/
def accessedName : Parse Tree := do
  let t ← token
  match t.kind with
  | .word => leaf "property_identifier" t
  | .privateName => leaf "private_property_identifier" t
  | _ => fail

/-- `[index]` behind an expression. -/
def subscript (g : Grammar) (start : Nat) (e : Tree) (chain : List Tree) : Parse Tree := do
  let _ ← punct "["
  let index ← inside g.sequence
  let _ ← punct "]"
  node "subscript_expression" start (held "object" e :: chain ++ [held "index" index])

/-- `.name` behind an expression. -/
def access (start : Nat) (e : Tree) : Parse Tree := do
  let _ ← punct "."
  let p ← accessedName
  node "member_expression" start [held "object" e, held "property" p]

/-- `!` behind an expression, on the same line. -/
def nonNull (start : Nat) (e : Tree) : Parse Tree := do
  let t ← punct "!"
  guard (!t.afterBreak)
  node "non_null_expression" start [e]

/-- Arguments or a template behind an expression. -/
def call (g : Grammar) (start : Nat) (e : Tree) (middle : List Tree) : Parse Tree := do
  let t ← peek
  let arguments ← if t.kind = .template then g.template else g.arguments
  node "call_expression" start (held "function" e :: middle ++ [held "arguments" arguments])

/-- Type arguments behind an expression, with a call or alone. -/
def instantiation (g : Grammar) (start : Nat) (e : Tree) : Parse Tree := do
  let types ← g.typeArguments
  let t ← peek
  guard (endsTypeArguments t)
  if isPunct t "(" || t.kind = .template then g.call start e [held "type_arguments" types]
  else node "instantiation_expression" start [e, held "type_arguments" types]

/-- `?.` with what follows it behind an expression. -/
def optionalAccess (g : Grammar) (start : Nat) (e : Tree) : Parse Tree := do
  let t ← punct "?."
  let mark ← leaf "optional_chain" t
  let p ← peek
  if isPunct p "(" then g.call start e [mark]
  else if isPunct p "[" then g.subscript start e [mark]
  else if isPunct p "<" then
    let types ← g.typeArguments
    g.call start e [mark, held "type_arguments" types]
  else
    let n ← accessedName
    node "member_expression" start [held "object" e, mark, held "property" n]

/-- One access or call behind an expression. -/
def suffix (g : Grammar) (start : Nat) (e : Tree) : Parse Tree := do
  let t ← peek
  if t.kind = .template then g.call start e []
  else
    guard (t.kind = .punctuation)
    match t.text with
    | "." => access start e
    | "?." => g.optionalAccess start e
    | "[" => g.subscript start e []
    | "(" => g.call start e []
    | "!" => nonNull start e
    | "<" => g.instantiation start e
    | _ => fail

/-- An expression with all accesses and calls behind it. -/
def chain (g : Grammar) (classValue : Parse Tree) : Parse Tree := do
  let start ← start
  extend (g.suffix start) (← g.primary classValue)

/-- A call of what another `new` made, in the place of a callee. -/
def madeCallee (g : Grammar) (start : Nat) (base : Tree) : Parse Tree := do
  if base.kind == "new_expression" && isPunct (← peek) "(" then g.call start base []
  else return base

/-- `new callee<T>(…)`. The callee takes accesses but no calls, unless it starts with `new`. -/
def newExpression (g : Grammar) (classValue : Parse Tree) : Parse Tree := do
  let t ← word "new"
  if ← punct? "." then
    let _ ← tokenOf .word
    node "meta_property" t.start []
  else
    let start ← start
    let base ← g.madeCallee start (← g.primary classValue)
    let callee ← extend (fun e => do
      let p ← peek
      match p.text with
      | "." => access start e
      | "[" => g.subscript start e []
      | "!" => nonNull start e
      | _ => fail) base
    let types ← attempt (do
      let types ← g.typeArguments
      guard (endsTypeArguments (← peek))
      return types)
    let arguments ← attempt g.arguments
    node "new_expression" t.start
      (held "constructor" callee :: (types.map (held "type_arguments")).toList ++
        (arguments.map (held "arguments")).toList)

/-! ### Operators -/

/-- An operator in front of an operand, with the kind of node it makes and what it holds. -/
def leadingOperator (g : Grammar) : Parse (String × List Tree) := do
  let t ← token
  match t.kind with
  | .punctuation =>
    if ["!", "~", "+", "-"].contains t.text then return ("unary_expression", [])
    else if ["++", "--"].contains t.text then return ("update_expression", [])
    else
      guard (t.text = "<")
      goTo t.start
      let types ← g.typeArguments
      return ("type_assertion", [types])
  | .word =>
    if ["typeof", "void", "delete"].contains t.text then return ("unary_expression", [])
    else
      guard (t.text = "await" && startsExpression (← peek))
      return ("await_expression", [])
  | _ => fail

/-- An operand with the operators in front of it and behind it. -/
def operand (g : Grammar) (classValue : Parse Tree) : Parse Tree := do
  let start ← start
  let leading ← many g.leadingOperator
  let place ← Parse.start
  let e ← g.chain classValue
  let t ← peek
  let e ←
    if (isPunct t "++" || isPunct t "--") && !t.afterBreak then
      goTo t.stop
      node "update_expression" place [e]
    else pure e
  match leading with
  | [] => return e
  | (kind, _) :: _ => node kind start ((leading.map (·.2)).flatten ++ [e])

/-- A binary operator, with how tightly it binds. -/
def binaryOperator : Parse (String × Nat) := do
  let t ← peek
  let s ← source
  let operator := s.operatorAt t
  guard (t.kind = .punctuation || (t.kind = .word && operatorWords.contains t.text))
  guard (operator ≠ "in" || (← setting).allowIn)
  guard (!((operator = "as" || operator = "satisfies") && t.afterBreak))
  match tightness? operator with
  | none => fail
  | some tightness =>
    goTo (t.start + operator.length)
    return (operator, tightness)

/-- The kind of node that an operator makes. -/
def operatorKind (operator : String) : String :=
  match operator with
  | "as" => "as_expression"
  | "satisfies" => "satisfies_expression"
  | _ => "binary_expression"

/-- Operands with binary operators between them. The loosest operator, and of several the last,
says what the whole is. -/
def binary (g : Grammar) (classValue : Parse Tree) : Parse Tree := do
  let start ← start
  let first ← g.operand classValue
  let rest ← many do
    let (operator, tightness) ← binaryOperator
    let right ←
      if operator = "as" || operator = "satisfies" then g.type else g.operand classValue
    return (operator, tightness, right)
  match rest with
  | [] => return first
  | r :: more =>
    let loosest := more.foldl (fun best o => if o.2.1 ≤ best.2.1 then o else best) r
    node (operatorKind loosest.1) start (first :: rest.map (·.2.2))

/-- A condition with two branches, or just the condition. -/
def conditional (g : Grammar) (classValue : Parse Tree) : Parse Tree := do
  let start ← start
  let condition ← g.binary classValue
  if ← punct? "?" then
    let yes ← g.expression.under fun env => { env with allowIn := true, inBranch := true }
    let _ ← punct ":"
    let no ← g.expression
    node "ternary_expression" start
      [held "condition" condition, held "consequence" yes, held "alternative" no]
  else return condition

/-- `yield value` -/
def yieldExpression (g : Grammar) : Parse Tree := do
  let t ← word "yield"
  let p ← peek
  if !p.afterBreak && isPunct p "*" then
    goTo p.stop
    node "yield_expression" t.start [← g.expression]
  else if !p.afterBreak && startsExpression p then node "yield_expression" t.start [← g.expression]
  else
    guard (!(["=", ".", "=>"].contains p.text))
    node "yield_expression" t.start []

/-- `using` in front of an assignment. -/
def usingWord : Parse Unit := do
  let _ ← word "using"
  let p ← peek
  guard (isName p && !operatorWords.contains p.text)

/-- An expression without commas: an arrow function, an assignment, or less. -/
def assignment (g : Grammar) (classValue : Parse Tree) : Parse Tree := do
  let start ← start
  let t ← peek
  let plain : Parse Tree := do
    let _ ← attempt usingWord
    let left ← g.conditional classValue
    let operator := (← source).operatorAt (← peek)
    if assignmentOperators.contains operator && (← peek).kind = .punctuation then
      goTo ((← peek).start + operator.length)
      let right ← g.expression
      node (if operator = "=" then "assignment_expression" else "augmented_assignment_expression")
        start [held "left" left, held "right" right]
    else return left
  if isWord t "yield" then g.yieldExpression <|> plain
  else if mayStartArrow t then g.arrowFunction <|> plain
  else plain

end Grammar

end TypeScript

end SignalLint
